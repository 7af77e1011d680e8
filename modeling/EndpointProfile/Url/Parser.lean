import EndpointProfile.Url.Host

/-! Reading absolute addresses. The text loses the blanks around it and every tab and line break
within it, and is then cut into its parts from left to right. -/
namespace EndpointProfile.Url

/-- Characters that an address loses at its ends. -/
def isEdge (c : Char) : Bool :=
  c.toNat ≤ 0x20

/-- Characters that an address loses wherever they stand. -/
def isBreak (c : Char) : Bool :=
  c = '\t' || c = '\n' || c = '\r'

/-- The text that is read. -/
def cleaned (t : Text) : Text :=
  (Text.strip isEdge t).filter fun c => !isBreak c

def isSchemeCharacter (c : Char) : Bool :=
  c.isAlphanum || c = '+' || c = '-' || c = '.'

/-- The scheme, in lower case, and what follows its colon. -/
def splitScheme? (t : Text) : Option (Text × Text) :=
  let scheme := t.takeWhile isSchemeCharacter
  match t.drop scheme.length with
  | ':' :: rest =>
    if (scheme.head?.map Char.isAlpha).getD false then some (Text.lowerAscii scheme, rest) else none
  | _ => none

/-- What ends an authority. In web addresses a backslash is a slash. -/
def endsAuthority (special : Bool) (c : Char) : Bool :=
  c = '/' || c = '?' || c = '#' || (special && c = '\\')

def isSlash (special : Bool) (c : Char) : Bool :=
  c = '/' || (special && c = '\\')

/-- Cuts at the last at sign before the end of the authority. -/
def splitLogin? (special : Bool) (t : Text) : Option (Text × Text) :=
  let head := t.takeWhile fun c => !endsAuthority special c
  if head.contains '@' then
    let size := head.length - (head.reverse.takeWhile (· ≠ '@')).length
    some (t.take (size - 1), t.drop size)
  else none

/-- Cuts where the host ends: at a colon outside brackets or at the end of the authority. -/
def splitHost (special inside : Bool) : Text → Text × Text
  | [] => ([], [])
  | c :: t =>
    if endsAuthority special c ∨ (c = ':' ∧ ¬inside) then ([], c :: t)
    else
      let (host, rest) :=
        splitHost special (if c = '[' then true else if c = ']' then false else inside) t
      (c :: host, rest)

/-- The port, unless it is not written or is the usual one. -/
def readPort (scheme digits : Text) : Except Fault (Option Nat) :=
  if digits.isEmpty then .ok none
  else
    match Text.digits? 10 digits with
    | none => .error .badPort
    | some n =>
      if 65535 < n then .error .badPort
      else .ok (if defaultPort? scheme = some n then none else some n)

def readLogin (login : Text) : Text × Text :=
  let (username, password) := (Text.cutAt? ':' login).getD (login, [])
  (Percent.encode Percent.inUserInfo username, Percent.encode Percent.inUserInfo password)

/-- The port that a colon leads to, and what follows it. -/
def splitPort (scheme t : Text) : Except Fault (Option Nat × Text) :=
  match t with
  | ':' :: rest =>
    let digits := rest.takeWhile fun c => !endsAuthority true c
    (readPort scheme digits).map fun port => (port, rest.drop digits.length)
  | _ => .ok (none, t)

/-- The authority that follows two slashes, and the rest. A host may be empty only where the scheme
is of its own kind and nothing else is written beside it. -/
def readAuthority (scheme t : Text) : Except Fault (Authority × Text) := do
  let special := isSpecialScheme scheme
  let split := splitLogin? special t
  let (login, rest) := split.getD ([], t)
  let (username, password) := readLogin login
  let (hostText, rest) := splitHost special false rest
  let alone :=
    !special && username.isEmpty && password.isEmpty && rest.head? ≠ some ':' &&
      !(split.isSome && login.isEmpty && !rest.isEmpty)
  if hostText.isEmpty && !alone then throw .emptyHost
  let host ← if special then Host.parse hostText else Host.parseFree hostText
  let (port, rest) ← splitPort scheme rest
  return (⟨username, password, host, port⟩, rest)

/-- A path segment that stays where it is. -/
def isSingleDot (s : Text) : Bool :=
  s = "." || Text.lowerAscii s = "%2e"

/-- A path segment that goes up. -/
def isDoubleDot (s : Text) : Bool :=
  let l := Text.lowerAscii s
  l = ".." || l = ".%2e" || l = "%2e." || l = "%2e%2e"

/-- A letter and a colon or a bar, as the root of a local drive. -/
def isDrive (s : Text) : Bool :=
  match s with
  | [a, b] => a.isAlpha && (b = ':' || b = '|')
  | _ => false

private def isPlainDrive (s : Text) : Bool :=
  isDrive s && s.getLast? = some ':'

/-- Adds a segment to the ones before it, given backwards. Dots move, and the last one leaves an
empty segment behind. -/
def step (file : Bool) (before : List Text) (segment : Text) (isLast : Bool) : List Text :=
  let ended (l : List Text) := if isLast then [] :: l else l
  if isDoubleDot segment then
    ended <|
      match before with
      | [] => []
      | [only] => if file && isPlainDrive only then [only] else []
      | _ :: l => l
  else if isSingleDot segment then ended before
  else
    let segment := Percent.encode Percent.inPath segment
    if file && before.isEmpty && isDrive segment then
      (segment.take 1 ++ [':']) :: before
    else segment :: before

def walk (file : Bool) : List Text → List Text → List Text
  | before, [] => before.reverse
  | before, [s] => (step file before s true).reverse
  | before, s :: rest => walk file (step file before s false) rest

/-- The segments of a path that is given without its first slash. -/
def segments (scheme t : Text) : List Text :=
  walk (scheme = "file") [] (t.splitOnP (isSlash (isSpecialScheme scheme)))

/-- Cuts off the query and the fragment, and escapes them. -/
def splitQuery (special : Bool) (t : Text) : Text × Option Text × Option Text :=
  let (beforeFragment, fragment) :=
    match Text.cutAt? '#' t with
    | some (a, f) => (a, some (Percent.encode Percent.inFragment f))
    | none => (t, none)
  let set := if special then Percent.inSpecialQuery else Percent.inQuery
  match Text.cutAt? '?' beforeFragment with
  | some (path, q) => (path, some (Percent.encode set q), fragment)
  | none => (beforeFragment, none, fragment)

/-- The segments of the path after an authority. That of a web address is never empty. -/
def segmentsAfter (scheme pathText : Text) : List Text :=
  let special := isSpecialScheme scheme
  match pathText with
  | c :: p => segments scheme (if isSlash special c then p else pathText)
  | [] => if special then [[]] else []

def withAuthority (scheme t : Text) : Except Fault Url := do
  let (authority, rest) ← readAuthority scheme t
  let (pathText, query, fragment) := splitQuery (isSpecialScheme scheme) rest
  return ⟨scheme, some authority, .segments (segmentsAfter scheme pathText), query, fragment⟩

/-- An address without slashes after its scheme, or with one. -/
def withoutAuthority (scheme t : Text) : Url :=
  let (pathText, query, fragment) := splitQuery false t
  let path :=
    match pathText with
    | '/' :: p => .segments (segments scheme p)
    | p => .free (Percent.encode (fun _ => false) p)
  ⟨scheme, none, path, query, fragment⟩

/-- The host of a local file is empty when it is this machine. -/
private def fileHost (t : Text) : Except Fault Host :=
  if t.isEmpty then .ok (.name [])
  else (Host.parse t).map fun h => if h = .name "localhost" then .name [] else h

private def dropEmpty (path : List Text) : List Text :=
  match path.dropWhile List.isEmpty with
  | [] => [[]]
  | l => l

/-- A local file. Two slashes lead to a host, unless a drive comes next. -/
def localFile (t : Text) : Except Fault Url := do
  let slashes := (t.take 2).takeWhile (isSlash true)
  let rest := t.drop slashes.length
  let head := rest.takeWhile fun c => !endsAuthority true c
  let named := slashes.length = 2 && !isDrive head
  let host ← if named then fileHost head else pure (.name [])
  let (pathText, query, fragment) := splitQuery true (if named then rest.drop head.length else rest)
  let relative :=
    match pathText with
    | c :: p => if isSlash true c then p else pathText
    | [] => []
  let path := dropEmpty (segments "file" relative)
  let host := if (path.head?.map isDrive).getD false then .name [] else host
  return ⟨"file", some ⟨[], [], host, none⟩, .segments path, query, fragment⟩

def parse (t : Text) : Except Fault Url :=
  match splitScheme? (cleaned t) with
  | none => .error .noBase
  | some (scheme, rest) =>
    if scheme = "file" then localFile rest
    else if isSpecialScheme scheme then
      withAuthority scheme (rest.dropWhile (isSlash true))
    else
      match rest with
      | '/' :: '/' :: t => withAuthority scheme t
      | _ => .ok (withoutAuthority scheme rest)

end EndpointProfile.Url
