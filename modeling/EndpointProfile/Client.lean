import EndpointProfile.Http.Status
import EndpointProfile.ModuleText
import EndpointProfile.Profile.Json

/-! The client of the service: how it asks, and what it accepts as an answer. -/
namespace EndpointProfile.Client

/-- Why no request can be made of an address. -/
inductive AddressFault where
  | unreadable (fault : Url.Fault)
  | otherScheme (url : Url)
  deriving DecidableEq

private def schemeText : Text := "URL scheme is not allowed"

def AddressFault.message : AddressFault → Text
  | unreadable f => "builder error: " ++ f.message
  | otherScheme u => "builder error for url (" ++ u.text ++ "): " ++ schemeText

/-- What lies beneath the fault. -/
def AddressFault.reason : AddressFault → Text
  | unreadable f => f.message
  | otherScheme _ => schemeText

/-- The address of a request, which has to be one of the web. -/
def requestAddress (text : Text) : Except AddressFault Url :=
  match Url.parse text with
  | .error f => .error (.unreadable f)
  | .ok u => if u.scheme = "http" ∨ u.scheme = "https" then .ok u else .error (.otherScheme u)

/-- The base of a service, without slashes at its end. -/
def base (text : Text) : Text :=
  Text.dropEndWhile (· = '/') text

def address (base path : Text) : Text :=
  base ++ path

def profilePath : Text := "/env"

def modulePath : Text := "/env.js"

def valuePath (k : Key) : Text :=
  "/env/" ++ k.name

/-- Why an answer is not accepted, or none came. -/
inductive Fault where
  | badAddress (fault : AddressFault)
  | badStatus (path : Text) (status : Nat) (body : Text)
  | badProfile (fault : EndpointProfile.Fault)
  | badModule (fault : EndpointProfile.Fault)
  | badReply (error : Json.Error)
  | otherKey (asked answered : Key)
  | badLiteral (fault : Literal.Fault)

/-- The message of a fault of a profile, and that of what lies beneath it. -/
private def chain (f : EndpointProfile.Fault) : Text :=
  f.message ++
    match f with
    | .badJson e => ": " ++ e.message
    | .violation v => ": " ++ v.message
    | _ => []

def Fault.message : Fault → Text
  | badAddress f => f.message ++ ": " ++ f.reason
  | badStatus path status body =>
    "GET " ++ path ++ " failed with " ++ Http.statusText status ++ ": " ++ body
  | badProfile f => "service returned an invalid profile: " ++ chain f
  | badModule f => "service returned an invalid module: " ++ chain f
  | badReply e => e.message
  | otherKey asked answered =>
    "asked for " ++ asked.name ++ " but the service answered for " ++ answered.name
  | badLiteral f => (Violation.badLiteral f).message

/-- The body of an answer that succeeded. -/
def accept (path : Text) (status : Nat) (body : Text) : Except Fault Text :=
  if Http.isSuccess status then .ok body else .error (.badStatus path status body)

def readProfile (status : Nat) (body : Text) : Except Fault Profile := do
  match Profile.ofJson (← accept profilePath status body) with
  | .ok p => return p
  | .error f => throw (.badProfile f)

def readModule (status : Nat) (body : Text) : Except Fault Profile := do
  match ModuleText.parse (← accept modulePath status body) with
  | .ok p => return p
  | .error f => throw (.badModule f)

inductive Field where
  | key
  | value
  deriving DecidableEq

abbrev Slot : Field → Type
  | .key => Key
  | .value => Text

/-- The answer to a request for one value. -/
def schema : Json.Schema Field Slot where
  title := "KeyValue"
  fields := [.key, .value]
  complete := fun f => by cases f <;> simp
  label
    | .key => "key"
    | .value => "value"
  reader
    | .key => Json.choice Key.all Key.name
    | .value => Json.string

def readValue (k : Key) (status : Nat) (body : Text) : Except Fault Literal := do
  match Json.read schema.record (← accept (valuePath k) status body) with
  | .error e => throw (.badReply e)
  | .ok get =>
    if get .key ≠ k then throw (.otherKey k (get .key))
    match Literal.parse (get .value) with
    | .ok l => return l
    | .error f => throw (.badLiteral f)

end EndpointProfile.Client
