import EndpointProfile.Proofs.Metrics.Tally
import EndpointProfile.Proofs.Service.Interleaving

/-! What is recorded of requests that are served at once. Each of them is recorded when it ends with
an answer or an error, once, and under both families alike. Until then nothing is recorded of it. -/
namespace EndpointProfile.Service

/-- What is recorded of a request when it ends. An answered one has the label of its path, a failed
one that of no pattern, and of a dropped one there is no record. -/
inductive Event.Records : Event → Metrics.RequestLabels → Prop
  | answered {r : Http.Request} {path endpoint : Text} (status : Nat) (seconds : Float) :
      Labelled path endpoint →
      Records (.ended r (.answered path status seconds)) ⟨r.method, endpoint, status⟩
  | failed {r : Http.Request} (seconds : Float) :
      Records (.ended r (.failed seconds)) ⟨r.method, "unmatched", 500⟩

def Event.record? : Event → Option Metrics.RequestLabels
  | ended r (.answered path status _) => some ⟨r.method, label path, status⟩
  | ended r (.failed _) => some ⟨r.method, unmatched, 500⟩
  | _ => none

theorem record?_eq_some {e : Event} {l : Metrics.RequestLabels} :
    e.record? = some l ↔ e.Records l := by
  constructor
  · intro h
    cases e with
    | started r | handled r m => cases h
    | ended r ending =>
        cases ending with
        | answered path status seconds =>
            cases h
            exact .answered status seconds (labelled_iff.mpr rfl)
        | failed seconds =>
            cases h
            exact .failed seconds
        | dropped => cases h
  · intro h
    cases h with
    | answered status seconds labelled => rw [Event.record?, labelled_iff.mp labelled]
    | failed seconds => rfl

instance (e : Event) (l : Metrics.RequestLabels) : Decidable (e.Records l) :=
  decidable_of_iff (e.record? = some l) record?_eq_some

section
variable (r : Http.Request)

@[simp] theorem record?_started : (Event.started r).record? = none := rfl

@[simp] theorem record?_handled (m : Moment) : (Event.handled r m).record? = none := rfl

@[simp] theorem record?_answered (path : Text) (status : Nat) (seconds : Float) :
    (Event.ended r (.answered path status seconds)).record? =
      some ⟨r.method, label path, status⟩ := rfl

@[simp] theorem record?_failed (seconds : Float) :
    (Event.ended r (.failed seconds)).record? = some ⟨r.method, unmatched, 500⟩ := rfl

@[simp] theorem record?_dropped : (Event.ended r .dropped).record? = none := rfl

end

/-- Whether a request is completed: with an answer or with an error, and not when it is dropped. -/
def Event.completes : Event → Bool
  | ended _ (.answered ..) | ended _ (.failed _) => true
  | _ => false

theorem isSome_record? (e : Event) : e.record?.isSome = e.completes := by
  cases e with
  | started r | handled r m => rfl
  | ended r ending => cases ending <;> rfl

theorem existsUnique_records {e : Event} (completes : e.completes = true) :
    ∃! l, e.Records l := by
  rw [← isSome_record?, Option.isSome_iff_exists] at completes
  obtain ⟨l, found⟩ := completes
  refine ⟨l, record?_eq_some.mp found, ?_⟩
  intro other records
  rw [← record?_eq_some, found] at records
  exact (Option.some.inj records).symm

def completed (events : List Event) : List Metrics.RequestLabels :=
  events.filterMap Event.record?

theorem completed_cons (e : Event) (events : List Event) :
    completed (e :: events) = e.record?.toList ++ completed events := by
  rw [completed, List.filterMap_cons]
  cases e.record? <;> rfl

theorem completed_concat (events : List Event) (e : Event) :
    completed (events ++ [e]) = completed events ++ e.record?.toList := by
  rw [completed, List.filterMap_append]
  exact congrArg _ ((completed_cons e []).trans (List.append_nil _))

/-- These are the records of the completed requests, in the order in which they ended. -/
theorem forall₂_records {events : List Event} {records : List Metrics.RequestLabels} :
    List.Forall₂ Event.Records (events.filter Event.completes) records ↔
      completed events = records := by
  induction events generalizing records with
  | nil =>
      rw [List.filter_nil, List.forall₂_nil_left_iff]
      exact eq_comm
  | cons e events ih =>
      rw [completed_cons]
      cases found : e.record? with
      | none =>
          have skipped : e.completes = false := by rw [← isSome_record?, found]; rfl
          rw [List.filter_cons_of_neg (by simp [skipped]), ih]
          rfl
      | some l =>
          have completes : e.completes = true := by rw [← isSome_record?, found]; rfl
          rw [List.filter_cons_of_pos completes, List.forall₂_cons_left_iff]
          constructor
          · intro split
            obtain ⟨m, records, first, later, rfl⟩ := split
            rw [← record?_eq_some, found] at first
            rw [Option.some.inj first, ih.mp later]
            rfl
          · intro same
            exact ⟨l, completed events, record?_eq_some.mp found, ih.mpr rfl, same.symm⟩

theorem length_completed (events : List Event) :
    (completed events).length = events.countP Event.completes := by
  rw [List.countP_eq_length_filter]
  exact (forall₂_records.mpr rfl).length_eq.symm

def started (events : List Event) : Nat :=
  events.countP fun e => e matches .started _

/-- How many requests were dropped, whatever their method. -/
def lost (events : List Event) : Nat :=
  events.countP fun e => e matches .ended _ .dropped

theorem started_eq_sum {events : List Event} {flying : List Http.Request}
    (h : Interleaved events flying) :
    started events = (completed events).length + flying.length + lost events := by
  simp only [started, lost]
  induction h with
  | none => rfl
  | started r _ ih =>
      simp [completed_concat, ih]
      omega
  | handled m _ _ ih => simpa [completed_concat] using ih
  | ended ending _ ih => cases ending <;> simp [completed_concat, ih] <;> omega

def routeOf (l : Metrics.RequestLabels) : Metrics.RouteLabels :=
  ⟨l.method, l.endpoint⟩

/-- Both families hold the records of some requests, and nothing else. -/
structure State.Recorded (s : State) (records : List Metrics.RequestLabels) : Prop where
  requests : s.traffic.requests.Tallies records
  durations : s.traffic.durationCounts.Tallies (records.map routeOf)

theorem State.recorded_of_fresh {s : State} (fresh : s.traffic = .empty) : s.Recorded [] := by
  constructor
  · rw [fresh]
    exact Metrics.Series.tallies_nil
  · rw [fresh]
    exact Metrics.Series.tallies_nil

section
variable {allowed : List Text} {s : State} {records : List Metrics.RequestLabels}

theorem State.Recorded.record (h : s.Recorded records) (method endpoint : Text) (status : Nat)
    (seconds : Float) :
    State.Recorded { s with traffic := s.traffic.record method endpoint status seconds }
      (records ++ [⟨method, endpoint, status⟩]) where
  requests := h.requests.count _
  durations := by
    rw [Metrics.Traffic.durationCounts_record, List.map_append]
    exact h.durations.count _

/-- An event adds its own record, if it has one. -/
theorem State.Recorded.run (h : s.Recorded records) (e : Event) :
    (e.run allowed s).Recorded (records ++ e.record?.toList) := by
  cases e with
  | started r =>
      rw [record?_started, Option.toList_none, List.append_nil]
      exact ⟨h.requests, h.durations⟩
  | handled r m =>
      obtain ⟨errors, traffic⟩ := handled_traffic allowed s r m
      rw [record?_handled, Option.toList_none, List.append_nil]
      constructor
      · rw [traffic]
        exact h.requests
      · rw [traffic]
        exact h.durations
  | ended r ending =>
      let off : State := { s with traffic := s.traffic.shift r.method (-1) }
      have kept : off.Recorded records := ⟨h.requests, h.durations⟩
      cases ending with
      | answered path status seconds => exact kept.record r.method (label path) status seconds
      | failed seconds => exact kept.record r.method unmatched 500 seconds
      | dropped =>
          rw [record?_dropped, Option.toList_none, List.append_nil]
          exact h

theorem State.Recorded.after (h : s.Recorded records) (events : List Event) :
    (s.after allowed events).Recorded (records ++ completed events) := by
  induction events generalizing s records with
  | nil =>
      rw [completed, List.filterMap_nil, List.append_nil]
      exact h
  | cons e events ih =>
      rw [completed_cons, ← List.append_assoc]
      exact ih (h.run e)

theorem State.Recorded.count_durations (h : s.Recorded records) (method endpoint : Text) :
    (s.traffic.durations.value .empty ⟨method, endpoint⟩).count =
      s.traffic.requests.total fun l => l.method = method ∧ l.endpoint = endpoint := by
  rw [← Metrics.Traffic.value_durationCounts, h.durations.value, h.requests.total_eq,
    List.count_eq_countP, List.countP_map]
  refine List.countP_congr fun l _ => ?_
  simp [routeOf]

/-- Ending adds one to the series of the request's own record, and to no other. -/
theorem State.Recorded.value_run (h : s.Recorded records) (e : Event)
    (l : Metrics.RequestLabels) : (e.run allowed s).traffic.requests.value 0 l =
      s.traffic.requests.value 0 l + if e.Records l then 1 else 0 := by
  rw [(h.run e).requests.value, h.requests.value, List.count_append]
  simp only [← record?_eq_some]
  cases e.record? with
  | none => simp
  | some other => simp [List.count_singleton]

/-- A visit is counted under the method of its request and what the path of it is counted under. -/
structure Visit.CountedAs (x : Visit) (l : Metrics.RequestLabels) : Prop where
  method : l.method = x.request.method
  endpoint : Labelled (Http.routePath x.request.path) l.endpoint

theorem countedAs_completed (w : Running) (visits : List Visit) :
    List.Forall₂ Visit.CountedAs visits (completed (w.events visits)) := by
  induction visits generalizing w with
  | nil => exact .nil
  | cons x visits ih =>
      simp only [Running.events, completed_cons, List.cons_append, List.nil_append, record?_started,
        record?_handled, record?_answered, Option.toList_none, Option.toList_some]
      exact .cons ⟨rfl, labelled_iff.mpr rfl⟩ (ih _)

/-- A service that is asked for one thing after another has counted them all. -/
theorem requests_serveAll {w : Running} (fresh : w.state.traffic = .empty) (visits : List Visit) :
    ∃ records, List.Forall₂ Visit.CountedAs visits records ∧
      (w.serveAll visits).state.traffic.requests.Tallies records := by
  have recorded : (w.serveAll visits).state.Recorded (completed (w.events visits)) := by
    rw [state_serveAll]
    exact (State.recorded_of_fresh fresh).after _
  exact ⟨_, countedAs_completed w visits, recorded.requests⟩

theorem dispatch_metrics (s : State) (m : Moment) {r : Http.Request}
    (path : route? r = some .metrics) (method : r.method = "GET") :
    dispatch s m r = ⟨⟨200, some "text/plain; version=0.0.4", s.metricsText⟩, s, []⟩ := by
  rw [dispatch, path]
  exact if_pos method

end
end EndpointProfile.Service
