import EndpointProfile.Text.Blank

/-! The environments that a profile can be built for. -/
namespace EndpointProfile

inductive Stage where
  | development
  | test
  | production
  deriving DecidableEq, Repr

namespace Stage

def name : Stage → Text
  | development => "development"
  | test => "test"
  | production => "production"

/-- A stage goes by its name or a short form, in any ASCII case and with white space around it. -/
def ofName? (name : Text) : Option Stage :=
  let wanted := name.trim.lowerAscii
  if wanted = "development" ∨ wanted = "dev" then some .development
  else if wanted = "test" then some .test
  else if wanted = "production" ∨ wanted = "prod" then some .production
  else none

end Stage
end EndpointProfile
