import EndpointProfile.IpAddress
import EndpointProfile.Text.Blank

/-! The settings of the service, read from named variables. -/
namespace EndpointProfile

inductive LogFormat where
  | json
  | pretty
  deriving DecidableEq, Repr

namespace LogFormat

def name : LogFormat → Text
  | json => "json"
  | pretty => "pretty"

def ofName? (t : Text) : Option LogFormat :=
  let wanted := t.trim.lowerAscii
  if wanted = "json" then some .json
  else if wanted = "pretty" ∨ wanted = "console" then some .pretty
  else none

end LogFormat

inductive Setting where
  | host
  | port
  | environment
  | logFormat
  | probeOrigins
  | allowedOrigins
  deriving DecidableEq, Repr

def Setting.name : Setting → Text
  | host => "ENV_SERVICE_HOST"
  | port => "ENV_SERVICE_PORT"
  | environment => "MCS_ENV"
  | logFormat => "LOG_FORMAT"
  | probeOrigins => "ENV_SERVICE_PROBE_ORIGINS"
  | allowedOrigins => "CORS_ALLOWED_ORIGINS"

structure Config where
  host : IpAddress
  port : UInt16
  environment : Text
  logFormat : LogFormat
  probeOrigins : Bool
  allowedOrigins : List Text
  deriving DecidableEq

namespace Config

/-- A setting that does not fit, with the value as it is reported. -/
structure Fault where
  setting : Setting
  value : Text
  deriving DecidableEq, Repr

def Fault.message (f : Fault) : Text :=
  "Invalid value for " ++ f.setting.name ++ ": " ++ f.value

def defaults : Config where
  host := .v4 #v[0, 0, 0, 0]
  port := 8090
  environment := "test"
  logFormat := .json
  probeOrigins := false
  allowedOrigins := ["http://localhost:3000", "http://localhost:8080"]

/-- A port in decimal, with a plus sign or none. -/
def readPort? (t : Text) : Option UInt16 :=
  let digits :=
    match t with
    | '+' :: d => d
    | d => d
  if digits.isEmpty then none
  else (Text.digits? 10 digits).bind fun n => if n < 65536 then some (UInt16.ofNat n) else none

def readSwitch? (t : Text) : Option Bool :=
  let wanted := t.trim.lowerAscii
  if wanted = "1" ∨ wanted = "true" ∨ wanted = "yes" then some true
  else if wanted = "0" ∨ wanted = "false" ∨ wanted = "no" then some false
  else none

def readEnvironment? (t : Text) : Option Text :=
  if t.trim.isEmpty then none else some t.trim

/-- The pieces between commas that are not blank. -/
def readOrigins (t : Text) : List Text :=
  (t.splitOn ',').map Text.trim |>.filter fun o => !o.isEmpty

/-- The value of a setting, or its default where the variable is not there. -/
def setting {α : Type} (lookup : Text → Option Text) (s : Setting) (default : α)
    (read : Text → Option α) (shown : Text → Text) : Except Fault α :=
  match lookup s.name with
  | none => .ok default
  | some t =>
    match read t with
    | some a => .ok a
    | none => .error ⟨s, shown t⟩

/-- Reads the settings in order. The first that does not fit is reported. -/
def ofLookup (lookup : Text → Option Text) : Except Fault Config := do
  let host ← setting lookup .host defaults.host (fun t => IpAddress.ofText? t.trim) id
  let port ← setting lookup .port defaults.port (fun t => readPort? t.trim) id
  let environment ← setting lookup .environment defaults.environment readEnvironment? Text.trim
  let logFormat ← setting lookup .logFormat defaults.logFormat LogFormat.ofName? id
  let probeOrigins ← setting lookup .probeOrigins defaults.probeOrigins readSwitch? id
  let allowedOrigins := ((lookup Setting.allowedOrigins.name).map readOrigins).getD defaults.allowedOrigins
  return { host, port, environment, logFormat, probeOrigins, allowedOrigins }

end Config
end EndpointProfile
