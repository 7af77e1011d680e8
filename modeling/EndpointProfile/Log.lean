import EndpointProfile.Text.Escaped

/-! Events that are written to the log. -/
namespace EndpointProfile.Log

inductive Level where
  | info
  | warn
  | error
  deriving DecidableEq, Repr

def Level.name : Level → Text
  | info => "INFO"
  | warn => "WARN"
  | error => "ERROR"

inductive Datum where
  | text (t : Text)
  | flag (b : Bool)
  deriving DecidableEq, Repr

def Datum.shown : Datum → Text
  | text t => t
  | flag true => "true"
  | flag false => "false"

structure Event where
  level : Level
  target : Text
  message : Text
  fields : List (Text × Datum)
  deriving DecidableEq, Repr

/-- An event as a line for people. -/
def Event.line (e : Event) : Text :=
  let field : Text × Datum → Text := fun (k, v) => ", " ++ k ++ ": " ++ v.shown
  e.level.name ++ ": " ++ e.message ++ e.fields.flatMap field

/-- The request that an event is about. -/
structure Context where
  requestId : Text
  environment : Option Text
  address : Option Text

/-- A text that may be missing. -/
def shown : Option Text → Text
  | some t => "Some(" ++ t.quoted ++ ")"
  | none => "None"

/-- What is kept of a long input. -/
def shorten (t : Text) : Text :=
  if 100 < t.length then t.take 20 ++ "...[TRUNCATED]" else t

private def event (level : Level) (message : Text) (ctx : Context) (fields : List (Text × Text)) :
    Event :=
  let common : List (Text × Text) :=
    [("request_id", ctx.requestId), ("environment", shown ctx.environment),
      ("ip_address", shown ctx.address)]
  ⟨level, "mcs_common::logging", message, (common ++ fields).map fun (k, v) => (k, .text v)⟩

def success (ctx : Context) (action : Text) (details : Option Text) : Event :=
  event .info "Operation successful" ctx [("action", action), ("details", shown details)]

def failure (ctx : Context) (action error : Text) : Event :=
  event .error "Operation failed" ctx [("action", action), ("error", error)]

/-- An input that was refused. A long one is not written out. -/
def refused (ctx : Context) (field value reason : Text) : Event :=
  event .warn "Validation error" ctx
    [("field", field), ("value", shorten value), ("reason", reason)]

end EndpointProfile.Log
