import EndpointProfile.Metrics.Exposition

/-! The names under which families are registered. A name is taken at most once. -/
namespace EndpointProfile.Metrics

inductive RegistryFault where
  | badName (name : Text)
  | taken
  deriving DecidableEq, Repr

def RegistryFault.message : RegistryFault → Text
  | badName name => "Error: '" ++ name ++ "' is not a valid metric name"
  | taken => "Duplicate metrics collector registration attempted"

abbrev Registry := List Text

def isNameStart (c : Char) : Bool :=
  c.isAlpha || c = '_' || c = ':'

def isValidName (name : Text) : Bool :=
  match name with
  | [] => false
  | c :: t => isNameStart c && t.all fun d => isNameStart d || d.isDigit

namespace Registry

/-- Registers names one after another. Those before a failing one stay. -/
def register (r : Registry) : List Text → Registry × Option RegistryFault
  | [] => (r, none)
  | name :: names =>
    if !isValidName name then (r, some (.badName name))
    else if name ∈ r then (r, some .taken)
    else register (r ++ [name]) names

def registerService (r : Registry) (space : Text) : Registry × Option RegistryFault :=
  r.register ((Traffic.families space .empty).map (·.name))

def registerUsage (r : Registry) : Registry × Option RegistryFault :=
  r.register (Usage.families .empty |>.map (·.name))

end Registry
end EndpointProfile.Metrics
