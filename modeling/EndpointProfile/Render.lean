import EndpointProfile.ModuleText
import EndpointProfile.Profile.Json

/-! The three ways to write a profile down. -/
namespace EndpointProfile

inductive Format where
  | module
  | dotenv
  | json
  deriving DecidableEq, Repr

namespace Format

def all : List Format := [.module, .dotenv, .json]

def name : Format → Text
  | module => "module"
  | dotenv => "dotenv"
  | json => "json"

end Format

namespace Profile

/-- A line `KEY=value` for each key, without quotes. -/
def renderDotenv (p : Profile) : Text :=
  p.entries.flatMap fun (k, l) => k.name ++ "=" ++ l.unquoted ++ "\n"

def render (p : Profile) : Format → Text
  | .module => ModuleText.render p
  | .dotenv => p.renderDotenv
  | .json => p.toJson.pretty ++ "\n"

end Profile
end EndpointProfile
