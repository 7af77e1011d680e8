import EndpointProfile.ErrorReply
import EndpointProfile.Log
import EndpointProfile.Probe
import EndpointProfile.Profile.Explorer
import EndpointProfile.Render
import EndpointProfile.Service.Route
import EndpointProfile.Service.State

/-! What each route answers. -/
namespace EndpointProfile.Service

/-- What an answer depends on beside the state: how long the service has run, the identifier of the
request, and what comes of requests to other origins. -/
structure Moment where
  uptime : Int
  requestId : Text
  ask : Url → Probe.Outcome

/-- An answer, the state after it, and what was logged. -/
structure Answer where
  response : Http.Response
  state : State
  events : List Log.Event

def serviceName : Text := "env-service"

def serviceVersion : Text := "0.1.0"

def json (status : Nat) (v : Json.Value) : Http.Response :=
  ⟨status, some "application/json", v.compact⟩

def refusal (r : Refusal) : Http.Response :=
  json r.status (r.reply none).toJson

def livenessBody : Json.Value :=
  .object [("alive", .bool true)]

/-- Whether the service may be asked for its profile. -/
def readinessBody (ready : Bool) : Json.Value :=
  .object [("ready", .bool ready), ("profile_loaded", .bool ready)]

def report (s : State) (m : Moment) : Report :=
  let fresh := Report.fresh serviceName serviceVersion s.stage.name m.uptime
  if s.probeOrigins then (Probe.checkAll m.ask s.profile.serviceOrigins).foldl Report.add fresh
  else fresh

/-- What the log says of the request that an event belongs to. -/
def context (s : State) (m : Moment) (r : Http.Request) : Log.Context :=
  ⟨m.requestId, some s.stage.name, Http.senderAddress r⟩

/-- A key with its value, with and without quotes. -/
def valueBody (k : Key) (l : Literal) : Json.Value :=
  .object [("key", .string k.name), ("value", l.toJson), ("unquoted", .string l.unquoted)]

def networkBody (p : Profile) (n : Network) (gateway : Option Text) : Json.Value :=
  .object [
    ("network", .string n.name),
    ("explorer", .string (p.explorerBase n)),
    ("payment_gateway",
      match gateway with
      | some t => .string t
      | none => .null)]

def answerKey (s : State) (m : Moment) (r : Http.Request) (name : Text) : Answer :=
  match Key.ofName? name with
  | some k =>
    ⟨json 200 (valueBody k (s.profile.get k)),
      { s with usage := s.usage.recordLookup k.name true }, []⟩
  | none =>
    let fault := Fault.unknownKey name
    ⟨refusal (.ofFault fault), { s with usage := s.usage.recordLookup name false },
      [Log.refused (context s m r) "key" name fault.message]⟩

/-- The body of the answer to a request for a network that there is not. -/
def unknownNetworkReply (name requestId : Text) : ErrorReply :=
  { (Refusal.ofFault (.unknownNetwork name)).reply (some requestId) with
    details := some (.object [("supported", .array (Network.all.map fun n => .string n.name))]) }

def answerNetwork (s : State) (m : Moment) (r : Http.Request) (name : Text) : Answer :=
  let ctx := context s m r
  match Network.ofName? name with
  | none =>
    let fault := Fault.unknownNetwork name
    ⟨json (Refusal.ofFault fault).status (unknownNetworkReply name m.requestId).toJson,
      { s with traffic := s.traffic.recordError "unknown_network" "get_network" },
      [Log.refused ctx "network" name fault.message]⟩
  | some n =>
    let found (gateway : Option Text) : Answer :=
      ⟨json 200 (networkBody s.profile n gateway), s,
        [Log.success ctx "get_network" (some n.name)]⟩
    match s.profile.paymentGateway n with
    | .ok t => found (some t)
    | .error (.noPaymentGateway _) => found none
    | .error fault =>
      ⟨refusal (.ofFault fault), s, [Log.failure ctx "get_network" fault.message]⟩

def answer (s : State) (m : Moment) (r : Http.Request) : Route → Answer
  | .health => ⟨json 200 (report s m).toJson, s, []⟩
  | .liveness => ⟨json 200 livenessBody, s, []⟩
  | .readiness =>
    let ready := s.profile.fault?.isNone
    ⟨json (if ready then 200 else 503) (readinessBody ready), s, []⟩
  | .metrics => ⟨⟨200, some "text/plain; version=0.0.4", s.metricsText⟩, s, []⟩
  | .profile =>
    ⟨json 200 s.profile.toJson, { s with usage := s.usage.recordRender Format.json.name }, []⟩
  | .module =>
    ⟨⟨200, some "application/javascript; charset=utf-8", ModuleText.render s.profile⟩,
      { s with usage := s.usage.recordRender Format.module.name }, []⟩
  | .key name => answerKey s m r name
  | .network name => answerNetwork s m r name

/-- The route that the path of a request leads to, whatever its method. -/
def route? (r : Http.Request) : Option Route :=
  Route.ofPath? (Http.routePath r.path)

/-- Answers a request by its route. Only one method is served. -/
def dispatch (s : State) (m : Moment) (r : Http.Request) : Answer :=
  match route? r with
  | some route => if r.method = "GET" then answer s m r route else nothing
  | none => nothing
where
  nothing : Answer := ⟨⟨404, none, []⟩, s, []⟩

end EndpointProfile.Service
