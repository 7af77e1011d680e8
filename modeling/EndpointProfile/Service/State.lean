import EndpointProfile.Metrics.Exposition
import EndpointProfile.Profile.Basic

/-! What the service knows and counts. -/
namespace EndpointProfile.Service

structure State where
  profile : Profile
  stage : Stage
  probeOrigins : Bool
  traffic : Metrics.Traffic
  usage : Metrics.Usage

namespace State

/-- The service of an environment, before its first request. Its profile has to be valid, and to be
the one of that environment. -/
def start (environment : Text) (probeOrigins : Bool) : Except Fault State :=
  match Stage.ofName? environment with
  | none => .error (.unknownStage environment)
  | some stage => do
    let profile ← Profile.forStage stage
    let profile ← profile.validated
    let declared ← profile.stage
    if declared ≠ stage then throw (.badValue .environment (.otherStage stage))
    return ⟨profile, stage, probeOrigins, .empty, .empty⟩

/-- The prefix of the names of what is counted of requests. -/
def space : Text := "env_service"

def metricsText (s : State) : Text :=
  Metrics.expose (Metrics.Traffic.families space s.traffic ++ s.usage.families)

end State
end EndpointProfile.Service
