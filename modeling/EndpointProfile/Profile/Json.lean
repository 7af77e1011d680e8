import EndpointProfile.Json.Record
import EndpointProfile.Profile.Basic

/-! Profiles as JSON objects of raw literals. -/
namespace EndpointProfile

namespace Literal

/-- A literal is a string that holds its raw text. -/
def toJson (l : Literal) : Json.Value :=
  .string l.raw

def reader : Json.Reader Literal :=
  Json.converted Json.string fun t =>
    match parse t with
    | .ok l => .ok l
    | .error f => .error (Violation.badLiteral f).message

end Literal

namespace Profile

def schema : Json.Schema Key fun _ => Literal where
  title := "EnvProfile"
  fields := Key.all
  complete := Key.mem_all
  label := Key.name
  reader := fun _ => Literal.reader
  closed := true

def reader : Json.Reader Profile := fun depth t =>
  (schema.record depth t).map fun (get, rest) => (⟨get⟩, rest)

def toJson (p : Profile) : Json.Value :=
  .object (p.entries.map fun (k, l) => (k.name, l.toJson))

/-- Reads a profile without looking at what its values mean. -/
def ofJsonUnchecked (t : Text) : Except Json.Error Profile :=
  Json.read reader t

/-- Reads a profile whose values fit their keys. -/
def ofJson (t : Text) : Except Fault Profile :=
  match ofJsonUnchecked t with
  | .ok p => p.validated
  | .error e => .error (.badJson e)

end Profile
end EndpointProfile
