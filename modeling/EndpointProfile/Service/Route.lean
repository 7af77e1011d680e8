import EndpointProfile.Http.Basic

/-! The routes of the service. -/
namespace EndpointProfile.Service

inductive Route where
  | health
  | liveness
  | readiness
  | metrics
  | profile
  | module
  | key (name : Text)
  | network (name : Text)
  deriving DecidableEq, Repr

namespace Route

/-- The shape of the paths that lead to a route. -/
def pattern : Route → Text
  | health => "/health"
  | liveness => "/liveness"
  | readiness => "/readiness"
  | metrics => "/metrics"
  | profile => "/env"
  | module => "/env.js"
  | key _ => "/env/\x7bkey\x7d"
  | network _ => "/networks/\x7bnetwork\x7d"

/-- One segment of a path after its start. -/
def segment? (start path : Text) : Option Text :=
  (Text.dropStart? start path).filter fun s => !s.isEmpty && !s.contains '/'

/-- The route of a path whose escapes are read, with its parameter. -/
def ofPath? (path : Text) : Option Route :=
  match [health, liveness, readiness, metrics, profile, module].find? fun r => r.pattern = path with
  | some r => some r
  | none =>
    ((segment? "/env/" path).map fun s => key (Http.readParameter s)) <|>
      ((segment? "/networks/" path).map fun s => network (Http.readParameter s))

end Route
end EndpointProfile.Service
