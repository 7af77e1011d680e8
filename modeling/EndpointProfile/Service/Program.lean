import EndpointProfile.Config
import EndpointProfile.Http.Cors
import EndpointProfile.Service.Metered

/-! The service as a program: its start from the settings, and its answers with all their
headers. -/
namespace EndpointProfile.Service

structure Running where
  config : Config
  state : State

inductive StartFault where
  | badConfig (fault : Config.Fault)
  | badProfile (fault : Fault)

def StartFault.message : StartFault → Text
  | badConfig f => f.message
  | badProfile f => f.message

private def event (message : Text) (fields : List (Text × Log.Datum)) : Log.Event :=
  ⟨.info, "env_service", message, fields⟩

/-- The events before the profile is loaded. -/
def startEvents (c : Config) : List Log.Event :=
  [ ⟨.info, "mcs_common::logging", "Logging initialized", [("service", .text serviceName)]⟩,
    event ("Starting Env Service on " ++ c.host.text ++ ":" ++ Text.ofNat c.port.toNat)
      [("environment", .text c.environment), ("probe_origins", .flag c.probeOrigins)] ]

def loadedEvent (s : State) : Log.Event :=
  event "Profile loaded and validated" [("variant", .text s.stage.name)]

/-- Starts the service with the settings that some variables hold, and says what was logged. -/
def start (lookup : Text → Option Text) : Except StartFault Running × List Log.Event :=
  match Config.ofLookup lookup with
  | .error f => (.error (.badConfig f), [])
  | .ok c =>
    match State.start c.environment c.probeOrigins with
    | .error f => (.error (.badProfile f), startEvents c)
    | .ok s => (.ok ⟨c, s⟩, startEvents c ++ [loadedEvent s])

/-- An answer with all its headers. -/
structure Reply where
  status : Nat
  headers : Http.Headers
  body : Text
  deriving DecidableEq, Repr

def commonHeaders : Http.Headers :=
  [ ("x-frame-options", "DENY"),
    ("x-content-type-options", "nosniff"),
    ("content-security-policy", "default-src 'self'") ]

/-- Serves a request within the rules for other origins. -/
def Running.serve (w : Running) (m : Moment) (r : Http.Request) (seconds : Float) :
    Reply × Running × List Log.Event :=
  let verdict := Http.Cors.verdict w.config.allowedOrigins r
  let inner (s : State) : Answer :=
    match verdict with
    | .settled response _ => ⟨response, s, []⟩
    | .passed _ => dispatch s m r
  let headers :=
    match verdict with
    | .settled _ headers | .passed headers => headers
  let a := metered inner w.state r seconds
  let typed : Http.Headers := (a.response.contentType.map fun t => [("content-type".toList, t)]).getD []
  (⟨a.response.status, typed ++ headers ++ commonHeaders, a.response.body⟩,
    { w with state := a.state }, a.events)

/-- A request, the moment at which it is served, and the seconds that this takes. -/
structure Visit where
  moment : Moment
  request : Http.Request
  seconds : Float

/-- The service after some visits, one after the other. -/
def Running.serveAll (w : Running) (visits : List Visit) : Running :=
  visits.foldl (fun w x => (w.serve x.moment x.request x.seconds).2.1) w

end EndpointProfile.Service
