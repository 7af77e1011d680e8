import EndpointProfile.Proofs.Service.Labels

/-! Requests that are served at once. Each of them starts, is handled and ends, and between any two
of these something may happen to another one. To serve one after another is a case of this. -/
namespace EndpointProfile.Service

/-- How a request ends. An answer brings along the path that its pattern is looked up by, whether
that is the path as it was sent or as it was matched. A request is dropped when nobody waits for its
answer any more. -/
inductive Ending where
  | answered (path : Text) (status : Nat) (seconds : Float)
  | failed (seconds : Float)
  | dropped

def Ending.step (r : Http.Request) : Ending → Step
  | answered path status seconds => .answered r.method (label path) status seconds
  | failed seconds => .failed r.method seconds
  | dropped => .dropped r.method

inductive Event where
  | started (r : Http.Request)
  | handled (r : Http.Request) (m : Moment)
  | ended (r : Http.Request) (ending : Ending)

def State.count (s : State) (step : Step) : State :=
  { s with traffic := step.run s.traffic }

/-- What an event makes of the service, where some origins are allowed. -/
def Event.run (allowed : List Text) (s : State) : Event → State
  | started r => s.count (.started r.method)
  | handled r m => (ruled allowed m r s).state
  | ended r ending => s.count (ending.step r)

def State.after (allowed : List Text) (s : State) (events : List Event) : State :=
  events.foldl (Event.run allowed) s

/-- Events in which requests are handled or end only after they started, and end at most once, and
the requests that are in flight after them. Any of these may be the next to be handled or to end. -/
inductive Interleaved : List Event → List Http.Request → Prop
  | none : Interleaved [] []
  | started {events : List Event} {flying : List Http.Request} (r : Http.Request) :
      Interleaved events flying → Interleaved (events ++ [.started r]) (r :: flying)
  | handled {events : List Event} {flying : List Http.Request} {r : Http.Request} (m : Moment) :
      r ∈ flying → Interleaved events flying → Interleaved (events ++ [.handled r m]) flying
  | ended {events : List Event} {before after : List Http.Request} {r : Http.Request}
      (ending : Ending) : Interleaved events (before ++ r :: after) →
      Interleaved (events ++ [.ended r ending]) (before ++ after)

theorem Interleaved.append {events later : List Event} {flying : List Http.Request}
    (h : Interleaved events []) (h' : Interleaved later flying) :
    Interleaved (events ++ later) flying := by
  induction h' with
  | none => simpa using h
  | started r _ ih => simpa using ih.started r
  | handled m mem _ ih => simpa using ih.handled m mem
  | ended ending _ ih => simpa using ih.ended ending

section
variable {allowed : List Text} {s : State}

theorem State.after_append (events later : List Event) :
    s.after allowed (events ++ later) = (s.after allowed events).after allowed later :=
  List.foldl_append

theorem State.after_concat (events : List Event) (e : Event) :
    s.after allowed (events ++ [e]) = e.run allowed (s.after allowed events) :=
  State.after_append events [e]

/-- A handler counts nothing of requests but their errors. -/
theorem dispatch_traffic (s : State) (m : Moment) (r : Http.Request) :
    ∃ errors, (dispatch s m r).state.traffic = { s.traffic with errors } := by
  unfold dispatch
  split
  · next route _ =>
      split
      · cases route with
        | key name =>
            refine ⟨s.traffic.errors, ?_⟩
            simp only [answer, answerKey]
            split <;> rfl
        | network name =>
            rw [answer]
            cases known : Network.ofName? name with
            | none =>
                rw [answerNetwork, known]
                exact ⟨_, rfl⟩
            | some n =>
                rw [answerNetwork_of_known known]
                exact ⟨s.traffic.errors, rfl⟩
        | _ => exact ⟨s.traffic.errors, rfl⟩
      · exact ⟨s.traffic.errors, rfl⟩
  · exact ⟨s.traffic.errors, rfl⟩

theorem handled_traffic (allowed : List Text) (s : State) (r : Http.Request) (m : Moment) :
    ∃ errors, ((Event.handled r m).run allowed s).traffic = { s.traffic with errors } := by
  simp only [Event.run, ruled]
  split
  · exact ⟨s.traffic.errors, rfl⟩
  · exact dispatch_traffic s m r

end

/-- What happens when requests are served one after another. -/
def Running.events (w : Running) : List Visit → List Event
  | [] => []
  | x :: visits =>
    let status := (ruled w.config.allowedOrigins x.moment x.request
      (w.state.count (.started x.request.method))).response.status
    [.started x.request, .handled x.request x.moment,
        .ended x.request (.answered (Http.routePath x.request.path) status x.seconds)] ++
      (w.serve x.moment x.request x.seconds).2.1.events visits

theorem interleaved_events (w : Running) (visits : List Visit) :
    Interleaved (w.events visits) [] := by
  induction visits generalizing w with
  | nil => exact .none
  | cons x visits ih =>
      have started : Interleaved [.started x.request] ([] ++ x.request :: []) :=
        .started x.request .none
      have handled := started.handled x.moment List.mem_cons_self
      have ended (ending : Ending) : Interleaved _ ([] ++ []) := .ended ending handled
      exact (ended _).append (ih _)

theorem state_serveAll (w : Running) (visits : List Visit) :
    (w.serveAll visits).state = w.state.after w.config.allowedOrigins (w.events visits) := by
  induction visits generalizing w with
  | nil => rfl
  | cons x visits ih =>
      rw [Running.events, State.after_append]
      exact ih (w.serve x.moment x.request x.seconds).2.1

end EndpointProfile.Service
