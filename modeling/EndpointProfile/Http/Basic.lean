import EndpointProfile.Text.Blank
import EndpointProfile.Url.Percent

/-! Requests and answers. -/
namespace EndpointProfile.Http

abbrev Headers := List (Text × Text)

structure Request where
  method : Text
  /-- The path of the request target, with its escapes. -/
  path : Text
  headers : Headers
  /-- The address that the request came from. -/
  peer : Option Text

structure Response where
  status : Nat
  contentType : Option Text
  body : Text
  deriving DecidableEq, Repr

/-- The path of a request target, which may name a scheme and a host too. -/
def targetPath (target : Text) : Text :=
  let bare := target.takeWhile fun c => c ≠ '?' && c ≠ '#'
  match bare with
  | '/' :: _ => bare
  | _ =>
    let scheme := bare.takeWhile fun c => c ≠ ':' && c ≠ '/'
    match Text.dropStart? "://" (bare.drop scheme.length) with
    | some rest =>
      let path := rest.dropWhile (· ≠ '/')
      if path.isEmpty then ['/'] else path
    | none => bare

/-- The values of the headers of a name, which is given in lower case. -/
def headerValues (headers : Headers) (name : Text) : List Text :=
  (headers.filter fun (k, _) => Text.lowerAscii k = name).map Prod.snd

def header? (headers : Headers) (name : Text) : Option Text :=
  (headerValues headers name).head?

/-- A header value that is plain visible text. -/
private def visible? (value : Text) : Option Text :=
  if value.all fun c => c = '\t' || (0x20 ≤ c.toNat && c.toNat < 0x7F) then some value else none

private def beforePort : Text → Text
  | ']' :: ':' :: _ => []
  | c :: t => c :: beforePort t
  | [] => []

/-- An address without its port, and without the brackets around one with colons. -/
def bareAddress (t : Text) : Text :=
  if t.head? = some '[' then
    Text.dropEndWhile (· = ']') ((beforePort t).dropWhile (· = '['))
  else t.takeWhile (· ≠ ':')

private def unquoted (t : Text) : Text :=
  Text.strip (· = '"') t

/-- The address that forwarding headers name first for the sender. -/
private def forwardedFor? (values : List Text) : Option Text :=
  let pairs := values.flatMap fun v => (v.splitOn ';').flatMap fun part => part.splitOn ','
  pairs.findSome? fun pair =>
    (Text.cutAt? '=' (Text.trim pair)).bind fun (name, v) =>
      if Text.lowerAscii (Text.trim name) = "for" then some (bareAddress (unquoted (Text.trim v)))
      else none

/-- The address of the sender: as forwarded, or else that of the peer. -/
def senderAddress (r : Request) : Option Text :=
  let forwarded := (headerValues r.headers "forwarded").filterMap visible?
  let relayed := (header? r.headers "x-forwarded-for").bind visible?
  forwardedFor? forwarded <|>
    relayed.map (fun v => Text.trim (v.takeWhile (· ≠ ','))) <|>
    r.peer

/-- The path that routes are matched against: all escapes read but those of a percent sign, a slash
and a plus sign. -/
def routePath (path : Text) : Text :=
  Utf8.decodeLossy (Percent.decodeSome (fun b => b ≠ 0x25 && b ≠ 0x2F && b ≠ 0x2B) path)

/-- A part of a route path with its last escapes read. -/
def readParameter (t : Text) : Text :=
  Utf8.decodeLossy (Percent.decode t)

end EndpointProfile.Http
