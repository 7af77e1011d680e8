import EndpointProfile.Json.Skip

/-! Readers of JSON values. A reader is told how many containers may still be opened. -/
namespace EndpointProfile.Json

/-- Reads a value from the start of a text, blanks before it included. -/
abbrev Reader (α : Type) := Nat → Text → Read α

/-- Containers may be nested this deep. -/
def depthLimit : Nat := 127

/-- Reads a whole text as one value. -/
def read {α : Type} (reader : Reader α) (whole : Text) : Except Error α :=
  match reader depthLimit whole with
  | .error s => .error (s.error whole)
  | .ok (a, rest) =>
    match skipBlanks rest with
    | [] => .ok a
    | rest => .error (Stop.error whole (.upon .trailingText rest))

/-- The fault of a value of another kind than the expected one. What is malformed is that first. -/
def wrongType {α : Type} (expected : Text) (t : Text) : Except Stop α :=
  let wrong (found : Found) (rest : Text) : Except Stop α :=
    .error (.before (.wrongType found expected) rest)
  match t with
  | 'n' :: t => (readWord "ull" t).bind (wrong .null)
  | 't' :: t => (readWord "rue" t).bind (wrong (.bool true))
  | 'f' :: t => (readWord "alse" t).bind (wrong (.bool false))
  | '-' :: t => (readNumber true t).bind fun (n, rest) => wrong (.number n) rest
  | '"' :: t => (readString .plain t).bind fun (s, rest) => wrong (.string s) rest
  | '[' :: _ => wrong .array t
  | '\x7b' :: _ => wrong .object t
  | c :: _ =>
    if c.isDigit then (readNumber false t).bind fun (n, rest) => wrong (.number n) rest
    else .error (.upon .noValue t)
  | [] => .error (.before .endInValue [])

def stringAs (expected : Text) : Reader Text := fun _ t =>
  match skipBlanks t with
  | '"' :: t => readString .plain t
  | t => wrongType expected t

def string : Reader Text :=
  stringAs "a string"

/-- A whole number of 64 bits. -/
def word : Reader Nat := fun _ t =>
  let expected : Text := "u64"
  let accept : Number × Text → Read Nat
    | (.integer (.ofNat n), rest) => .ok (n, rest)
    | (.integer n, rest) => .error (.before (.wrongValue (.number (.integer n)) expected) rest)
    | (n, rest) => .error (.before (.wrongType (.number n) expected) rest)
  match skipBlanks t with
  | '-' :: t => (readNumber true t).bind accept
  | c :: t =>
    if c.isDigit then (readNumber false (c :: t)).bind accept else wrongType expected (c :: t)
  | [] => .error (.before .endInValue [])

/-- A value or `null`. -/
def optional {α : Type} (reader : Reader α) : Reader (Option α) := fun depth t =>
  match skipBlanks t with
  | 'n' :: t => (readWord "ull" t).map (none, ·)
  | t => (reader depth t).map fun (a, rest) => (some a, rest)

/-- A value that is read as another one and then converted. -/
def converted {α β : Type} (reader : Reader α) (convert : α → Except Text β) : Reader β :=
  fun depth t =>
    (reader depth t).bind fun (a, rest) =>
      match convert a with
      | .ok b => .ok (b, rest)
      | .error reason => .error (.unplaced (.refused reason) rest)

/-- The rest after the colon of a member. -/
def readColon (t : Text) : Except Stop Text :=
  match skipBlanks t with
  | ':' :: t => .ok t
  | [] => .error (.before .endInObject [])
  | t => .error (.upon .noColon t)

def named {α : Type} (all : List α) (name : α → Text) : Reader α := fun depth t =>
  (stringAs "variant identifier" depth t).bind fun (s, rest) =>
    match all.find? fun a => name a = s with
    | some a => .ok (a, rest)
    | none => .error (.before (.unknownVariant s (all.map name)) rest)

/-- The rest after `null`. -/
private def readUnit (t : Text) : Except Stop Text :=
  match skipBlanks t with
  | 'n' :: t => readWord "ull" t
  | t => wrongType "unit" t

/-- One of several named values, as a string or as the only key of an object with the value
`null`. -/
def choice {α : Type} (all : List α) (name : α → Text) : Reader α := fun depth t =>
  match skipBlanks t with
  | [] => .error (.before .endInValue [])
  | '"' :: _ => named all name depth t
  | '\x7b' :: inner =>
    if depth = 0 then .error (.upon .tooDeep (skipBlanks t))
    else
      (named all name depth inner).bind fun (a, rest) =>
        (readColon rest).bind fun rest =>
          (readUnit rest).bind fun rest =>
            match skipBlanks rest with
            | '\x7d' :: rest => .ok (a, rest)
            | [] => .error (.before .endInObject [])
            | rest => .error (.before .noValue rest)
  | t => .error (.upon .noValue t)

/-- Whether an array goes on, and from where. -/
def nextItem? (first : Bool) (t : Text) : Except Stop (Option Text) :=
  match skipBlanks t with
  | [] => .error (.before .endInArray [])
  | ']' :: _ => .ok none
  | c :: t =>
    if first then .ok (some (c :: t))
    else if c = ',' then
      match skipBlanks t with
      | [] => .error (.before .endInValue [])
      | ']' :: t => .error (.upon .trailingComma (']' :: t))
      | t => .ok (some t)
    else .error (.upon .noArrayEnd (c :: t))

def closeArray (t : Text) : Except Stop Text :=
  match skipBlanks t with
  | ']' :: t => .ok t
  | ',' :: t =>
    match skipBlanks t with
    | ']' :: t => .error (.upon .trailingComma (']' :: t))
    | t => .error (.upon .trailingText t)
  | [] => .error (.before .endInArray [])
  | t => .error (.upon .trailingText t)

/-- Where an array is left that holds a fault. -/
def leaveArray (t : Text) : Text :=
  match skipBlanks t with
  | ']' :: t => t
  | ',' :: t => skipBlanks t
  | t => t

/-- Whether an object goes on, and the text from the key on, without its quote. -/
def nextKey? (first : Bool) (t : Text) : Except Stop (Option Text) :=
  match skipBlanks t with
  | [] => .error (.before .endInObject [])
  | '\x7d' :: _ => .ok none
  | c :: t =>
    if first then
      if c = '"' then .ok (some t) else .error (.upon .keyNotString (c :: t))
    else if c = ',' then
      match skipBlanks t with
      | '"' :: t => .ok (some t)
      | '\x7d' :: t => .error (.upon .trailingComma ('\x7d' :: t))
      | [] => .error (.before .endInValue [])
      | t => .error (.upon .keyNotString t)
    else .error (.upon .noObjectEnd (c :: t))

def closeObject (t : Text) : Except Stop Text :=
  match skipBlanks t with
  | '\x7d' :: t => .ok t
  | ',' :: t => .error (.upon .trailingComma (',' :: t))
  | [] => .error (.before .endInObject [])
  | t => .error (.upon .trailingText t)

def leaveObject (t : Text) : Text :=
  match skipBlanks t with
  | '\x7d' :: t => t
  | t => t

/-- Reads what is inside a container and then its end. -/
def within {α : Type} (close : Text → Except Stop Text) (leave : Text → Text) (inside : Read α) :
    Read α :=
  match inside with
  | .error s => .error (s.settle leave)
  | .ok (a, rest) => (close rest).map (a, ·)

/-- The items of an array up to its end. Each takes a character of the text at least. -/
def readItems {α : Type} (item : Text → Read α) : Nat → Bool → Text → Read (List α)
  | 0, _, t => .error (.upon .noValue t)
  | fuel + 1, first, t =>
    (nextItem? first t).bind fun
      | none => .ok ([], t)
      | some t =>
        (item t).bind fun (a, rest) =>
          (readItems item fuel false rest).map fun (l, rest) => (a :: l, rest)

def list {α : Type} (reader : Reader α) : Reader (List α) := fun depth t =>
  match skipBlanks t with
  | '[' :: t =>
    if depth = 0 then .error (.upon .tooDeep ('[' :: t))
    else within closeArray leaveArray (readItems (reader (depth - 1)) (t.length + 1) true t)
  | t => wrongType "a sequence" t

def readMembers {α : Type} (value : Text → Read α) : Nat → Bool → Text → Read (List (Text × α))
  | 0, _, t => .error (.upon .noValue t)
  | fuel + 1, first, t =>
    (nextKey? first t).bind fun
      | none => .ok ([], t)
      | some t =>
        (readString .plain t).bind fun (key, rest) =>
          (readColon rest).bind fun rest =>
            (value rest).bind fun (a, rest) =>
              (readMembers value fuel false rest).map fun (l, rest) => ((key, a) :: l, rest)

/-- Puts a member where its key belongs in the order of code points, in place of one with the same
key. -/
def putMember {α : Type} (key : Text) (a : α) : List (Text × α) → List (Text × α)
  | [] => [(key, a)]
  | (k, b) :: rest =>
    if k = key then (key, a) :: rest
    else if Text.precedes key k then (key, a) :: (k, b) :: rest
    else (k, b) :: putMember key a rest

def ofMembers (members : List (Text × Value)) : Value :=
  .object (members.foldl (fun l (k, v) => putMember k v l) [])

/-- A value whose containers hold values read by `inner`, if any more may be opened. -/
def valueWith (inner : Option (Text → Read Value)) (t : Text) : Read Value :=
  match skipBlanks t with
  | [] => .error (.before .endInValue [])
  | 'n' :: t => (readWord "ull" t).map (.null, ·)
  | 't' :: t => (readWord "rue" t).map (.bool true, ·)
  | 'f' :: t => (readWord "alse" t).map (.bool false, ·)
  | '"' :: t => (readString .plain t).map fun (s, rest) => (.string s, rest)
  | '-' :: t => (readNumber true t).map fun (n, rest) => (.number n, rest)
  | '[' :: t =>
    match inner with
    | none => .error (.upon .tooDeep ('[' :: t))
    | some item =>
      (within closeArray leaveArray (readItems item (t.length + 1) true t)).map
        fun (l, rest) => (.array l, rest)
  | '\x7b' :: t =>
    match inner with
    | none => .error (.upon .tooDeep ('\x7b' :: t))
    | some item =>
      (within closeObject leaveObject (readMembers item (t.length + 1) true t)).map
        fun (l, rest) => (ofMembers l, rest)
  | c :: t =>
    if c.isDigit then (readNumber false (c :: t)).map fun (n, rest) => (.number n, rest)
    else .error (.upon .noValue (c :: t))

def value : Reader Value
  | 0 => valueWith none
  | depth + 1 => valueWith (some (value depth))

end EndpointProfile.Json
