import EndpointProfile.Service.Answer

/-! Requests in progress. Each is counted when it starts, and recorded when it ends. -/
namespace EndpointProfile.Service

/-- The label of a request whose path leads to no route, or that fails before its answer. -/
def unmatched : Text := "unmatched"

/-- The pattern that fits a path, or the label for those that none fits. -/
def label (path : Text) : Text :=
  ((Route.ofPath? path).map Route.pattern).getD unmatched

-- A run of the service counts `/env%2Ejs` under `/env.js`: the pattern is that of the path as the
-- router matched it, with its escapes read.
def endpoint (r : Http.Request) : Text :=
  label (Http.routePath r.path)

/-- What happens to requests, one thing at a time. A request ends with an answer or with an error,
or is dropped before that because nobody waits for it any more. -/
inductive Step where
  | started (method : Text)
  | answered (method endpoint : Text) (status : Nat) (seconds : Float)
  | failed (method : Text) (seconds : Float)
  | dropped (method : Text)

/-- How a step changes what is counted. A dropped request is never looked at again. -/
def Step.run (t : Metrics.Traffic) : Step → Metrics.Traffic
  | started method => t.shift method 1
  | answered method endpoint status seconds =>
    (t.shift method (-1)).record method endpoint status seconds
  | failed method seconds => (t.shift method (-1)).record method unmatched 500 seconds
  | dropped _ => t

/-- Serves a request from its start to its end. `inner` gives the answer. -/
def metered (inner : State → Answer) (s : State) (r : Http.Request) (seconds : Float) : Answer :=
  let a := inner { s with traffic := Step.run s.traffic (.started r.method) }
  let ended := Step.answered r.method (endpoint r) a.response.status seconds
  { a with state := { a.state with traffic := ended.run a.state.traffic } }

def serve (m : Moment) (s : State) (r : Http.Request) (seconds : Float) : Answer :=
  metered (fun s => dispatch s m r) s r seconds

end EndpointProfile.Service
