import EndpointProfile.Proofs.Metrics.Tally
import EndpointProfile.Proofs.Service.Interleaving

/-! What the gauge of requests in progress says while requests are served at once: it counts those
in flight, but also all that were dropped before. It is right as long as none was dropped. -/
namespace EndpointProfile.Service

def inFlight (method : Text) (flying : List Http.Request) : Nat :=
  flying.countP fun r => r.method = method

def Event.drops (method : Text) : Event → Bool
  | ended r .dropped => r.method = method
  | _ => false

def dropped (method : Text) (events : List Event) : Nat :=
  events.countP (Event.drops method)

theorem dropped_concat (method : Text) (events : List Event) (e : Event) :
    dropped method (events ++ [e]) = dropped method events + if e.drops method then 1 else 0 := by
  rw [dropped, List.countP_append, List.countP_singleton]
  rfl

theorem inFlight_cons (method : Text) (r : Http.Request) (flying : List Http.Request) :
    inFlight method (r :: flying) =
      inFlight method flying + if r.method = method then 1 else 0 := by
  rw [inFlight, List.countP_cons]
  simp only [decide_eq_true_eq, inFlight]

theorem inFlight_middle (method : Text) (before after : List Http.Request) (r : Http.Request) :
    inFlight method (before ++ r :: after) =
      inFlight method (before ++ after) + if r.method = method then 1 else 0 := by
  rw [← inFlight_cons]
  exact List.perm_middle.countP_eq _

theorem ofNat_succ_add_neg_one (n : Nat) : Int64.ofNat (n + 1) + -1 = Int64.ofNat n := by
  have one : Int64.ofNat 1 + -1 = 0 := by decide
  rw [Int64.ofNat_add, Int64.add_assoc, one, Int64.add_zero]

theorem ofNat_add_eq_iff (n d : Nat) : Int64.ofNat (n + d) = Int64.ofNat n ↔ 2 ^ 64 ∣ d := by
  rw [← Int64.toBitVec_inj]
  simp only [Int64.toBitVec_ofNat', ← BitVec.toNat_inj, BitVec.toNat_ofNat]
  omega

variable {allowed : List Text} {s : State} {events : List Event} {flying : List Http.Request}

theorem inProgress_started (method : Text) (r : Http.Request) :
    ((Event.started r).run allowed s).traffic.inProgress.value 0 method =
      s.traffic.inProgress.value 0 method + if r.method = method then 1 else 0 := by
  rw [Event.run, State.count, Step.run, Metrics.Traffic.value_shift]
  by_cases same : r.method = method
  · simp [same]
  · simp [same, Ne.symm same]

/-- A request that is not dropped is taken off, whatever its end. -/
theorem inProgress_ended (method : Text) (r : Http.Request) (ending : Ending) :
    ((Event.ended r ending).run allowed s).traffic.inProgress.value 0 method =
      s.traffic.inProgress.value 0 method +
        if r.method = method ∧ (Event.ended r ending).drops method = false then -1 else 0 := by
  have off : (s.traffic.shift r.method (-1)).inProgress.value 0 method =
      s.traffic.inProgress.value 0 method + if r.method = method then -1 else 0 := by
    rw [Metrics.Traffic.value_shift]
    by_cases same : r.method = method
    · simp [same]
    · simp [same, Ne.symm same]
  cases ending with
  | answered path status seconds =>
      change (s.traffic.shift r.method (-1)).inProgress.value 0 method = _
      simpa [Event.drops] using off
  | failed seconds =>
      change (s.traffic.shift r.method (-1)).inProgress.value 0 method = _
      simpa [Event.drops] using off
  | dropped => simp +contextual [Event.drops, Event.run, State.count, Ending.step, Step.run]

theorem method_of_drops {method : Text} {r : Http.Request} {ending : Ending}
    (h : (Event.ended r ending).drops method = true) : r.method = method := by
  cases ending with
  | dropped => exact of_decide_eq_true h
  | _ => cases h

theorem inProgress_eq (fresh : s.traffic = .empty) (h : Interleaved events flying) (method : Text) :
    (s.after allowed events).traffic.inProgress.value 0 method =
      Int64.ofNat (inFlight method flying + dropped method events) := by
  induction h with
  | none =>
      rw [State.after, List.foldl_nil, fresh]
      rfl
  | @started events flying r _ ih =>
      rw [State.after_concat, inProgress_started, ih, dropped_concat, inFlight_cons]
      by_cases same : r.method = method
      · simp [same, Event.drops, Int64.ofNat_add, Int64.add_assoc, Int64.add_comm 1]
      · simp [same, Event.drops]
  | @handled events flying r m _ _ ih =>
      obtain ⟨errors, traffic⟩ := handled_traffic allowed (s.after allowed events) r m
      rw [State.after_concat, traffic, dropped_concat]
      exact ih
  | @ended events before after r ending _ ih =>
      rw [State.after_concat, inProgress_ended, ih, dropped_concat, inFlight_middle]
      cases lost : (Event.ended r ending).drops method with
      | true =>
          simp only [method_of_drops lost, if_true, Bool.true_eq_false, and_false, if_false,
            Int64.add_zero]
          congr 1
          omega
      | false =>
          by_cases same : r.method = method
          · simp only [same, and_self, if_true, Bool.false_eq_true, if_false, Nat.add_zero]
            rw [Nat.add_right_comm, ofNat_succ_add_neg_one]
          · simp [same]

theorem dropped_events (method : Text) (w : Running) (visits : List Visit) :
    dropped method (w.events visits) = 0 := by
  induction visits generalizing w with
  | nil => rfl
  | cons x visits ih =>
      rw [Running.events, dropped, List.countP_append]
      exact (Nat.zero_add _).trans (ih _)

/-- A service that is asked for one thing after another has nothing in progress in between. -/
theorem inProgress_serveAll {w : Running} (fresh : w.state.traffic = .empty) (visits : List Visit)
    (method : Text) : (w.serveAll visits).state.traffic.inProgress.value 0 method = 0 := by
  rw [state_serveAll, inProgress_eq fresh (interleaved_events w visits), dropped_events]
  rfl

/-- The gauge counts the requests in flight together with those that were dropped before, so that it
is right exactly as long as none was dropped, the overflow of its 64 bits apart. -/
theorem inProgress_eq_inFlight_iff (allowed : List Text) (fresh : s.traffic = .empty)
    (h : Interleaved events flying) (method : Text) :
    let gauge := (s.after allowed events).traffic.inProgress.value 0 method
    gauge = Int64.ofNat (inFlight method flying + dropped method events) ∧
      (gauge = Int64.ofNat (inFlight method flying) ↔ 2 ^ 64 ∣ dropped method events) := by
  intro gauge
  have counted : gauge = Int64.ofNat (inFlight method flying + dropped method events) :=
    inProgress_eq fresh h method
  exact ⟨counted, by rw [counted, ofNat_add_eq_iff]⟩

/-- Of two requests that are in flight, the one that started first is dropped. -/
theorem inProgress_of_dropped_health :
    let s : State := ⟨.test, .test, false, .empty, .empty⟩
    let health : Http.Request := ⟨"GET", "/health", [], none⟩
    let scrape : Http.Request := ⟨"GET", "/metrics", [], none⟩
    let events : List Event := [.started health, .started scrape, .ended health .dropped]
    s.traffic = .empty ∧ Interleaved events [scrape] ∧
      (s.after [] events).traffic.inProgress.value 0 "GET" = 2 := by
  intro s health scrape events
  have started : Interleaved [.started health, .started scrape] ([scrape] ++ health :: []) :=
    .started scrape (.started health .none)
  have run : Interleaved events [scrape] := .ended .dropped started
  exact ⟨rfl, run, (inProgress_eq_inFlight_iff [] rfl run "GET").1⟩

/-- A request that was dropped is counted for ever, also when nothing is in flight any more. -/
theorem inProgress_ne_inFlight :
    ¬ ∀ (allowed : List Text) (s : State) (events : List Event) (flying : List Http.Request),
      s.traffic = .empty → Interleaved events flying → ∀ method,
        (s.after allowed events).traffic.inProgress.value 0 method =
          Int64.ofNat (inFlight method flying) := by
  intro right
  let s : State := ⟨.test, .test, false, .empty, .empty⟩
  let health : Http.Request := ⟨"GET", "/health", [], none⟩
  have started : Interleaved [.started health] ([] ++ health :: []) := .started health .none
  have run : Interleaved [.started health, .ended health .dropped] [] := .ended .dropped started
  have left : (s.after [] [.started health, .ended health .dropped]).traffic.inProgress.value 0
      health.method = 1 := by decide
  have none : Int64.ofNat (inFlight health.method []) = 0 := rfl
  have wrong := right [] s _ _ rfl run health.method
  rw [left, none] at wrong
  exact absurd wrong (by decide)

end EndpointProfile.Service
