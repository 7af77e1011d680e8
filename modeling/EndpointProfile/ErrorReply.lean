import EndpointProfile.Json.Record
import EndpointProfile.Profile.Error

/-! What the service answers when it cannot do what was asked. -/
namespace EndpointProfile

structure ErrorReply where
  error : Text
  code : Text
  message : Text
  details : Option Json.Value
  requestId : Option Text

namespace ErrorReply

def member {α : Type} (name : Text) (f : α → Json.Value) :
    Option α → List (Text × Json.Value)
  | some a => [(name, f a)]
  | none => []

/-- What is absent is left out. -/
def toJson (r : ErrorReply) : Json.Value :=
  .object <|
    ("error", .string r.error) :: ("error_code", .string r.code) ::
      ("message", .string r.message) ::
        (member "details" id r.details ++ member "request_id" .string r.requestId)

inductive Field where
  | error
  | code
  | message
  | details
  | requestId
  deriving DecidableEq

abbrev Slot : Field → Type
  | .error | .code | .message => Text
  | .details => Option Json.Value
  | .requestId => Option Text

def schema : Json.Schema Field Slot where
  title := "ErrorResponse"
  fields := [.error, .code, .message, .details, .requestId]
  complete := fun f => by cases f <;> simp
  label
    | .error => "error"
    | .code => "error_code"
    | .message => "message"
    | .details => "details"
    | .requestId => "request_id"
  reader
    | .error | .code | .message => Json.string
    | .details => Json.optional Json.value
    | .requestId => Json.optional Json.string
  absent
    | .error | .code | .message => none
    | .details | .requestId => some none

def reader : Json.Reader ErrorReply := fun depth t =>
  (schema.record depth t).map fun (get, rest) =>
    (⟨get .error, get .code, get .message, get .details, get .requestId⟩, rest)

end ErrorReply

inductive Refusal where
  | invalid (message : Text)
  | notFound (message : Text)
  | badRequest (message : Text)
  | internal (message : Text)
  | other (status : Nat) (code message : Text)
  deriving DecidableEq, Repr

namespace Refusal

def code : Refusal → Text
  | invalid _ => "validation_error"
  | notFound _ => "not_found"
  | badRequest _ => "bad_request"
  | internal _ => "internal_error"
  | other _ code _ => code

def message : Refusal → Text
  | invalid m | notFound m | badRequest m | other _ _ m => m
  | internal m => "Internal error: " ++ m

def status : Refusal → Nat
  | invalid _ | badRequest _ => 400
  | notFound _ => 404
  | internal _ => 500
  | other status _ _ => status

def reply (r : Refusal) (requestId : Option Text) : ErrorReply :=
  ⟨r.message, r.code, r.message, none, requestId⟩

def ofViolation (v : Violation) : Refusal :=
  .invalid v.message

/-- How the service refuses what a profile cannot give. -/
def ofFault (f : Fault) : Refusal :=
  match f with
  | .unknownKey _ => .notFound f.message
  | .unknownNetwork _ => .badRequest f.message
  | .violation v => ofViolation v
  | .noPaymentGateway _ | .noTransactionExplorer _ => .other 422 "not_configured" f.message
  | _ => .internal f.message

end Refusal
end EndpointProfile
