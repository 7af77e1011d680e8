import EndpointProfile.Http.Basic

/-! Requests from pages of other origins. Only some origins may read the answers, and only with
plain requests. -/
namespace EndpointProfile.Http.Cors

inductive Fault where
  | noOrigin
  | originRefused
  | methodRefused
  | badHeaders
  | headersRefused
  deriving DecidableEq, Repr

def Fault.message : Fault → Text
  | noOrigin => "Request header \u0060Origin\u0060 is required but was not provided"
  | originRefused => "Origin is not allowed to make this request"
  | methodRefused => "Requested method is not allowed"
  | badHeaders => "Request header \u0060Access-Control-Request-Headers\u0060 has an invalid value"
  | headersRefused => "One or more request headers are not allowed"

private def isTokenCharacter (c : Char) : Bool :=
  c.isAlphanum || "!#$%&'*+-.^_\u0060|~".toList.contains c

private def isToken (t : Text) : Bool :=
  !t.isEmpty && t.all isTokenCharacter

/-- The method that a page asks for in advance, if the request asks at all. -/
def askedMethod? (r : Request) : Option Text :=
  if r.method = "OPTIONS" then
    (header? r.headers "access-control-request-method").filter isToken
  else none

/-- The origin of a request, if it may read the answer. -/
def allowedOrigin? (allowed : List Text) (r : Request) : Option Text :=
  (header? r.headers "origin").filter allowed.contains

private def headersFault? (r : Request) : Option Fault :=
  match header? r.headers "access-control-request-headers" with
  | none => none
  | some value =>
    let names := (value.splitOn ',').map fun n => Text.lowerAscii (Text.trim n)
    if !names.all isToken then some .badHeaders
    else if names.all (· = "content-type") then none
    else some .headersRefused

/-- Why a page may not send what it asks for. -/
def preflightFault? (allowed : List Text) (r : Request) (method : Text) : Option Fault :=
  if (header? r.headers "origin").isNone then some .noOrigin
  else if (allowedOrigin? allowed r).isNone then some .originRefused
  else if method ≠ "GET" then some .methodRefused
  else headersFault? r

/-- What a page may send, as headers of the answer. -/
private def grant (origin : Text) : Headers :=
  [ ("access-control-allow-origin", origin),
    ("access-control-allow-methods", "get"),
    ("access-control-allow-headers", "content-type"),
    ("access-control-max-age", "3600") ]

/-- What the rules make of a request: an answer of their own, or headers for that of the service. -/
inductive Verdict where
  | settled (response : Response) (headers : Headers)
  | passed (headers : Headers)

def verdict (allowed : List Text) (r : Request) : Verdict :=
  let origin := allowedOrigin? allowed r
  match askedMethod? r with
  | some method =>
    match preflightFault? allowed r method with
    | some f => .settled ⟨400, none, f.message⟩ []
    | none => .settled ⟨200, none, []⟩ ((origin.map grant).getD [])
  | none => .passed ((origin.map fun o => [(("access-control-allow-origin" : Text), o)]).getD [])

end EndpointProfile.Http.Cors
