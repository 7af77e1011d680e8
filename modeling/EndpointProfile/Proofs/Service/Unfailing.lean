import EndpointProfile.Proofs.Service.Counters

/-! A service that has started does not fail, whatever it is asked. The only requests that it refuses
are those for keys and networks that there are not, and the profile that it has is the one of its
environment. -/
namespace EndpointProfile.Service

/-- The status of the answers to requests for a route. -/
def Route.status : Route → Nat
  | key name => if (Key.ofName? name).isSome then 200 else 404
  | network name => if (Network.ofName? name).isSome then 200 else 400
  | _ => 200

theorem Route.status_mem (route : Route) : route.status ∈ [200, 400, 404] := by
  cases route with
  | key name =>
      rw [status]
      split <;> decide
  | network name =>
      rw [status]
      split <;> decide
  | _ => decide

/-- The faults that a request can be refused for. -/
inductive Unknown : Fault → Prop
  | key (name : Text) : Unknown (.unknownKey name)
  | network (name : Text) : Unknown (.unknownNetwork name)

/-- An answer that has the status of its route. Where that is no success the answer is a refusal of a
name that is not known, and nothing that is logged is an error. -/
structure Answer.Unfailing (route : Route) (a : Answer) : Prop where
  status : a.response.status = route.status
  refused : route.status ≠ 200 → ∃ fault id details, Unknown fault ∧
    a.response = json (Refusal.ofFault fault).status
      { (Refusal.ofFault fault).reply id with details }.toJson
  logged : ∀ e ∈ a.events, e.level ≠ .error

section
variable {s : State} {route : Route}

theorem answerKey_unfailing (s : State) (m : Moment) (r : Http.Request) (name : Text) :
    (answerKey s m r name).Unfailing (.key name) := by
  cases named : Key.ofName? name with
  | some k =>
      have status : (Route.key name).status = 200 := by simp [Route.status, named]
      refine ⟨?_, fun refused => absurd status refused, ?_⟩
      · rw [status, answerKey, named]
        rfl
      · rw [answerKey, named]
        rintro e ⟨⟩
  | none =>
      have status : (Route.key name).status = 404 := by simp [Route.status, named]
      refine ⟨?_, fun _ => ⟨.unknownKey name, none, none, .key name, ?_⟩, ?_⟩
      · rw [status, answerKey, named]
        rfl
      · rw [answerKey, named]
        rfl
      · rw [answerKey, named]
        intro e logged
        obtain rfl := List.mem_singleton.mp logged
        rintro ⟨⟩

/-- The branch for other faults than a missing gateway is never taken. -/
theorem answerNetwork_unfailing (s : State) (m : Moment) (r : Http.Request) (name : Text) :
    (answerNetwork s m r name).Unfailing (.network name) := by
  cases named : Network.ofName? name with
  | some n =>
      have status : (Route.network name).status = 200 := by simp [Route.status, named]
      rw [answerNetwork_of_known named]
      refine ⟨status.symm, fun refused => absurd status refused, ?_⟩
      intro e logged
      obtain rfl := List.mem_singleton.mp logged
      rintro ⟨⟩
  | none =>
      have status : (Route.network name).status = 400 := by simp [Route.status, named]
      rw [answerNetwork, named]
      refine ⟨status.symm, fun _ => ⟨.unknownNetwork name, some m.requestId, _, .network name, rfl⟩, ?_⟩
      intro e logged
      obtain rfl := List.mem_singleton.mp logged
      rintro ⟨⟩

theorem answer_unfailing (valid : s.profile.fault? = none) (m : Moment) (r : Http.Request)
    (route : Route) : (answer s m r route).Unfailing route := by
  have quiet : ∀ e ∈ ([] : List Log.Event), e.level ≠ .error := fun _ logged => nomatch logged
  cases route with
  | readiness =>
      refine ⟨?_, fun refused => absurd rfl refused, quiet⟩
      rw [answer, valid]
      rfl
  | key name => exact answerKey_unfailing s m r name
  | network name => exact answerNetwork_unfailing s m r name
  | _ => exact ⟨rfl, fun refused => absurd rfl refused, quiet⟩

theorem profile_answer (s : State) (m : Moment) (r : Http.Request) (route : Route) :
    (answer s m r route).state.profile = s.profile := by
  obtain ⟨traffic, usage, kept⟩ := answer_keeps s m r route
  rw [kept]

theorem profile_dispatch (s : State) (m : Moment) (r : Http.Request) :
    (dispatch s m r).state.profile = s.profile := by
  unfold dispatch
  split
  · next route _ =>
      split
      · exact profile_answer s m r route
      · rfl
  · rfl

theorem profile_serve (w : Running) (m : Moment) (r : Http.Request) (seconds : Float) :
    (w.serve m r seconds).2.1.state.profile = w.state.profile := by
  rw [state_serve]
  simp only [metered, ruled]
  split
  · rfl
  · exact profile_dispatch _ m r

theorem profile_serveAll (w : Running) (visits : List Visit) :
    (w.serveAll visits).state.profile = w.state.profile := by
  induction visits generalizing w with
  | nil => rfl
  | cons x visits ih => exact (ih _).trans (profile_serve w x.moment x.request x.seconds)

/-- The rules for other origins only settle what pages ask in advance. -/
theorem ruled_of_get {r : Http.Request} (get : r.method = "GET") (known : route? r = some route)
    (allowed : List Text) (m : Moment) (s : State) : ruled allowed m r s = answer s m r route := by
  have asks : Http.Cors.askedMethod? r = none := by
    rw [Http.Cors.askedMethod?, get]
    exact if_neg (by decide)
  simp only [ruled, Http.Cors.verdict, asks, dispatch, known, get, if_true]

theorem status_serve {w : Running} (valid : w.state.profile.fault? = none) {r : Http.Request}
    (get : r.method = "GET") (known : route? r = some route) (m : Moment) (seconds : Float) :
    (w.serve m r seconds).1.status = route.status := by
  have answered : (w.serve m r seconds).1.status =
      (metered (ruled w.config.allowedOrigins m r) w.state r seconds).response.status := rfl
  let begun : State := { w.state with traffic := Step.run w.state.traffic (.started r.method) }
  have unfailing := answer_unfailing (s := begun) valid m r route
  rw [answered, metered, ruled_of_get get known]
  exact unfailing.status

end

/-- A profile is never of another environment than the one it is for, so that a service which does
not start was asked for an environment that there is not or that has no profile. -/
theorem State.start_eq_error {environment : Text} {probe : Bool} {f : Fault}
    (failed : State.start environment probe = .error f) :
    f = .unknownStage environment ∨ ∃ stage, f = .unavailable stage := by
  cases named : Stage.ofName? environment with
  | none =>
      rw [start, named] at failed
      cases failed
      exact .inl rfl
  | some stage =>
      cases stage with
      | test =>
          rw [start_eq_ok.mpr ⟨named, rfl⟩] at failed
          cases failed
      | development | production =>
          rw [start, named] at failed
          cases failed
          exact .inr ⟨_, rfl⟩

/-- A service starts only in the test environment, and its profile is valid and of that environment.
No service is refused its start because of a profile of another environment. After any calls of
handlers each further call has an answer that is no failure, and so has each request to a route after
any requests. A network has a payment gateway or is known to have none. -/
theorem requests_never_fail :
    (∀ route : Route, route.status ∈ [200, 400, 404]) ∧
    (∀ environment probe stage,
      State.start environment probe ≠ .error (.badValue .environment (.otherStage stage))) ∧
    ∀ environment probe s, State.start environment probe = .ok s →
      environment.trim.lowerAscii = "test".toList ∧ s.profile.fault? = none ∧
      s.profile.stage = .ok s.stage ∧
      (∀ n f, s.profile.paymentGateway n = .error f → f = .noPaymentGateway n) ∧
      (∀ (calls : List Call) (c : Call),
        (answer (s.handleAll calls) c.moment c.request c.route).Unfailing c.route) ∧
      ∀ (config : Config) (visits : List Visit) (x : Visit) (route : Route),
        x.request.method = "GET" → route? x.request = some route →
        let now := Running.serveAll ⟨config, s⟩ visits
        (now.serve x.moment x.request x.seconds).1.status = route.status := by
  refine ⟨Route.status_mem, ?_, ?_⟩
  · intro environment probe stage failed
    rcases State.start_eq_error failed with same | ⟨_, same⟩ <;> cases same
  · intro environment probe s started
    obtain ⟨named, fresh⟩ := State.start_eq_ok.mp started
    have valid : s.profile.fault? = none := by
      rw [fresh]
      exact Profile.valid_test
    have declared : s.profile.stage = .ok s.stage := by
      rw [fresh]
      rfl
    refine ⟨Stage.ofName?_eq_test.mp named, valid, declared, ?_, fun calls c => ?_, ?_⟩
    · intro n f missing
      exact (Profile.paymentGateway_eq_error.mp missing).2
    · obtain ⟨traffic, usage, kept⟩ := handleAll_keeps s calls
      have still : (s.handleAll calls).profile.fault? = none := by
        rw [kept]
        exact valid
      exact answer_unfailing still c.moment c.request c.route
    · intro config visits x route get known now
      have still : now.state.profile.fault? = none := by
        rw [profile_serveAll]
        exact valid
      exact status_serve still get known x.moment x.seconds

/-- A service that is asked for a key in lower case, for the network that has no gateway, and for one
that there is not. -/
theorem requests_never_fail_on_unknown_names :
    let s : State := ⟨.test, .test, true, .empty, .empty⟩
    let ask (path : Text) : Visit := ⟨⟨0, [], fun _ => .failed []⟩, ⟨"GET", path, [], none⟩, 0⟩
    let status (x : Visit) : Nat :=
      ((Running.serveAll ⟨.defaults, s⟩ [ask "/env/x", ask "/networks/y", ask "/z"]).serve
        x.moment x.request x.seconds).1.status
    State.start " TEST " true = .ok s ∧ status (ask "/env/base_api") = 404 ∧
      status (ask "/networks/calibration") = 200 ∧ status (ask "/networks/%FF") = 400 ∧
      status (ask "/readiness") = 200 := by
  intro s ask status
  have started : State.start " TEST " true = .ok s := State.start_eq_ok.mpr ⟨by decide, rfl⟩
  obtain ⟨-, -, -, -, -, served⟩ := requests_never_fail.2.2 _ _ _ started
  have answers (path : Text) (route : Route) (known : route? (ask path).request = some route) :
      status (ask path) = route.status := served .defaults _ (ask path) route rfl known
  refine ⟨started, ?_, ?_, ?_, ?_⟩
  · exact (answers "/env/base_api" (.key "base_api") (by decide)).trans (by decide)
  · exact (answers "/networks/calibration" (.network "calibration") (by decide)).trans (by decide)
  · exact (answers "/networks/%FF" (.network ['\uFFFD']) (by decide +kernel)).trans (by decide)
  · exact (answers "/readiness" .readiness (by decide)).trans (by decide)

end EndpointProfile.Service
