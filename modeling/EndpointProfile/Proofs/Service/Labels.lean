import Mathlib.Algebra.Order.BigOperators.Group.List
import Mathlib.Algebra.Order.Group.Nat
import EndpointProfile.Proofs.Checks
import EndpointProfile.Proofs.Metrics.Vocabulary
import EndpointProfile.Proofs.Profile.Provenance
import EndpointProfile.Proofs.Service.Patterns
import EndpointProfile.Service.Program

/-! The labels that the service counts under. Methods apart they are all of a fixed finite set,
whatever the service is asked. Methods are counted under the name that the request gives them, so
that no finite set holds them all. -/
namespace EndpointProfile.Service

def endpoints : List Text :=
  unmatched :: ([.health, .liveness, .readiness, .metrics, .profile, .module, .key [],
    .network []] : List Route).map Route.pattern

def statuses : List Nat := [200, 400, 404, 500, 503]

/-- What requests of some methods are counted under. -/
def vocabulary (methods : List Text) : Metrics.Vocabulary where
  requests := methods.flatMap fun m => endpoints.flatMap fun e => statuses.map fun n => ⟨m, e, n⟩
  routes := methods.flatMap fun m => endpoints.map fun e => ⟨m, e⟩
  methods := methods
  errors := [⟨"unknown_network", "get_network"⟩]
  lookups := ⟨"unknown", "not_found"⟩ :: Key.all.map fun k => ⟨k.name, "found"⟩
  formats := [Format.json.name, Format.module.name]

theorem label_mem_endpoints (path : Text) : label path ∈ endpoints := by
  unfold label
  cases Route.ofPath? path with
  | none => exact List.mem_cons_self
  | some route => exact List.mem_cons_of_mem _ (pattern_mem_patterns route)

/-- A step whose labels are those of requests of some methods. -/
def Step.Known (methods : List Text) : Step → Prop
  | started method | failed method _ | dropped method => method ∈ methods
  | answered method endpoint status _ =>
    method ∈ methods ∧ endpoint ∈ endpoints ∧ status ∈ statuses

variable {methods : List Text}

theorem mem_requests {method endpoint : Text} {status : Nat} (spoken : method ∈ methods)
    (place : endpoint ∈ endpoints) (code : status ∈ statuses) :
    (⟨method, endpoint, status⟩ : Metrics.RequestLabels) ∈ (vocabulary methods).requests :=
  List.mem_flatMap.mpr ⟨method, spoken,
    List.mem_flatMap.mpr ⟨endpoint, place, List.mem_map_of_mem code⟩⟩

theorem mem_routes {method endpoint : Text} (spoken : method ∈ methods)
    (place : endpoint ∈ endpoints) :
    (⟨method, endpoint⟩ : Metrics.RouteLabels) ∈ (vocabulary methods).routes :=
  List.mem_flatMap.mpr ⟨method, spoken, List.mem_map_of_mem place⟩

theorem Step.run_within {t : Metrics.Traffic} (h : t.Within (vocabulary methods)) {step : Step}
    (known : step.Known methods) : (step.run t).Within (vocabulary methods) := by
  cases step with
  | started method => exact h.shift known 1
  | answered method endpoint status seconds =>
      obtain ⟨spoken, place, code⟩ := known
      exact (h.shift spoken (-1)).record (mem_requests spoken place code)
        (mem_routes spoken place) seconds
  | failed method seconds =>
      have place : unmatched ∈ endpoints := List.mem_cons_self
      have code : 500 ∈ statuses := by decide
      exact (h.shift known (-1)).record (mem_requests known place code)
        (mem_routes known place) seconds
  | dropped method => exact h

/-- The labels of all series of the service are in a vocabulary. -/
structure State.Within (v : Metrics.Vocabulary) (s : State) : Prop where
  traffic : s.traffic.Within v
  usage : s.usage.Within v

variable {s : State}

/-- An answer that keeps the labels of the service within what requests of some methods are counted
under, and has a known status. -/
structure Answer.Within (methods : List Text) (a : Answer) : Prop where
  state : a.state.Within (vocabulary methods)
  status : a.response.status ∈ statuses

theorem answerKey_within (h : s.Within (vocabulary methods)) (m : Moment) (r : Http.Request)
    (name : Text) : (answerKey s m r name).Within methods := by
  unfold answerKey
  cases Key.ofName? name with
  | none =>
      have usage := h.usage.recordMissing List.mem_cons_self name
      exact ⟨{ h with usage }, (by decide : 404 ∈ statuses)⟩
  | some k =>
      have known : (⟨k.name, "found"⟩ : Metrics.LookupLabels) ∈ (vocabulary methods).lookups :=
        List.mem_cons_of_mem _ (List.mem_map_of_mem (Key.mem_all k))
      exact ⟨{ h with usage := h.usage.recordFound known }, (by decide : 200 ∈ statuses)⟩

theorem answerNetwork_of_known {name : Text} {n : Network} (known : Network.ofName? name = some n)
    (s : State) (m : Moment) (r : Http.Request) : answerNetwork s m r name =
      ⟨json 200 (networkBody s.profile n (s.profile.paymentGateway n).toOption), s,
        [Log.success (context s m r) "get_network" (some n.name)]⟩ := by
  rw [answerNetwork, known]
  cases gateway : s.profile.paymentGateway n with
  | ok t => simp only [gateway, Except.toOption]
  | error f =>
      obtain ⟨-, rfl⟩ := Profile.paymentGateway_eq_error.mp gateway
      simp only [gateway, Except.toOption]

theorem answerNetwork_within (h : s.Within (vocabulary methods)) (m : Moment) (r : Http.Request)
    (name : Text) : (answerNetwork s m r name).Within methods := by
  cases known : Network.ofName? name with
  | none =>
      rw [answerNetwork, known]
      have traffic := h.traffic.recordError List.mem_cons_self
      exact ⟨{ h with traffic }, (by decide : 400 ∈ statuses)⟩
  | some n =>
      rw [answerNetwork_of_known known]
      exact ⟨h, (by decide : 200 ∈ statuses)⟩

theorem answer_within (h : s.Within (vocabulary methods)) (m : Moment) (r : Http.Request)
    (route : Route) : (answer s m r route).Within methods := by
  have ok : 200 ∈ statuses := by decide
  cases route with
  | health | liveness | metrics => exact ⟨h, ok⟩
  | readiness =>
      refine ⟨h, ?_⟩
      simp only [answer, json]
      split
      · exact ok
      · exact (by decide : 503 ∈ statuses)
  | profile =>
      have known : Format.json.name ∈ (vocabulary methods).formats := List.mem_cons_self
      exact ⟨{ h with usage := h.usage.recordRender known }, ok⟩
  | module =>
      have known : Format.module.name ∈ (vocabulary methods).formats :=
        List.mem_cons_of_mem _ List.mem_cons_self
      exact ⟨{ h with usage := h.usage.recordRender known }, ok⟩
  | key name => exact answerKey_within h m r name
  | network name => exact answerNetwork_within h m r name

theorem dispatch_within (h : s.Within (vocabulary methods)) (m : Moment) (r : Http.Request) :
    (dispatch s m r).Within methods := by
  have nothing : (dispatch.nothing s).Within methods := ⟨h, (by decide : 404 ∈ statuses)⟩
  unfold dispatch
  split
  · next route _ =>
      split
      · exact answer_within h m r route
      · exact nothing
  · exact nothing

theorem metered_within (h : s.Within (vocabulary methods)) {r : Http.Request}
    (spoken : r.method ∈ methods) {inner : State → Answer}
    (keeps : ∀ s : State, s.Within (vocabulary methods) → (inner s).Within methods)
    (seconds : Float) : (metered inner s r seconds).Within methods := by
  have begun : (Step.started r.method).Known methods := spoken
  obtain ⟨state, status⟩ := keeps { s with traffic := Step.run s.traffic (.started r.method) }
    { h with traffic := Step.run_within h.traffic begun }
  have ended : (Step.answered r.method (endpoint r) _ seconds).Known methods :=
    ⟨spoken, label_mem_endpoints _, status⟩
  exact ⟨{ state with traffic := Step.run_within state.traffic ended }, status⟩

theorem status_of_settled {allowed : List Text} {r : Http.Request} {response : Http.Response}
    {headers : Http.Headers} (h : Http.Cors.verdict allowed r = .settled response headers) :
    response.status ∈ statuses := by
  unfold Http.Cors.verdict at h
  simp only at h
  split at h
  · split at h
    · cases h; exact (by decide : 400 ∈ statuses)
    · cases h; exact (by decide : 200 ∈ statuses)
  · cases h

/-- The answer to a request within the rules for other origins, before it is counted. -/
def ruled (allowed : List Text) (m : Moment) (r : Http.Request) (s : State) : Answer :=
  match Http.Cors.verdict allowed r with
  | .settled response _ => ⟨response, s, []⟩
  | .passed _ => dispatch s m r

theorem state_serve (w : Running) (m : Moment) (r : Http.Request) (seconds : Float) :
    (w.serve m r seconds).2.1.state =
      (metered (ruled w.config.allowedOrigins m r) w.state r seconds).state := rfl

theorem ruled_within (h : s.Within (vocabulary methods)) (allowed : List Text) (m : Moment)
    (r : Http.Request) : (ruled allowed m r s).Within methods := by
  unfold ruled
  split
  · next response _ settled => exact ⟨h, status_of_settled settled⟩
  · exact dispatch_within h m r

theorem serve_within {w : Running} (h : w.state.Within (vocabulary methods)) {r : Http.Request}
    (spoken : r.method ∈ methods) (m : Moment) (seconds : Float) :
    (w.serve m r seconds).2.1.state.Within (vocabulary methods) := by
  rw [state_serve]
  exact (metered_within h spoken (fun _ kept => ruled_within kept _ m r) seconds).state

theorem serveAll_within {w : Running} (h : w.state.Within (vocabulary methods))
    {visits : List Visit} (spoken : ∀ x ∈ visits, x.request.method ∈ methods) :
    (w.serveAll visits).state.Within (vocabulary methods) := by
  induction visits generalizing w with
  | nil => exact h
  | cons x visits ih =>
      rw [List.forall_mem_cons] at spoken
      exact ih (serve_within h spoken.1 x.moment x.seconds) spoken.2

/-- A service starts in the test environment only, with the built-in profile and nothing counted. -/
theorem State.start_eq_ok {environment : Text} {probe : Bool} {s : State} :
    State.start environment probe = .ok s ↔
      Stage.ofName? environment = some .test ∧ s = ⟨.test, .test, probe, .empty, .empty⟩ := by
  have declared : Profile.test.stage = .ok .test := rfl
  unfold State.start
  split
  · next absent => simp [absent]
  · next stage named =>
      rw [named]
      constructor
      · intro started
        obtain ⟨p, given, rest⟩ := bind_eq_ok.mp started
        obtain ⟨rfl, rfl⟩ := Profile.forStage_eq_ok.mp given
        obtain ⟨q, checked, rest⟩ := bind_eq_ok.mp rest
        obtain ⟨-, rfl⟩ := Profile.validated_eq_ok.mp checked
        obtain ⟨own, same, rest⟩ := bind_eq_ok.mp rest
        cases declared.symm.trans same
        cases rest
        exact ⟨rfl, rfl⟩
      · rintro ⟨⟨⟩, rfl⟩
        have checked : Profile.test.validated = .ok .test :=
          Profile.validated_eq_ok.mpr ⟨Profile.valid_test, rfl⟩
        exact bind_eq_ok.mpr ⟨.test, rfl,
          bind_eq_ok.mpr ⟨.test, checked, bind_eq_ok.mpr ⟨.test, declared, rfl⟩⟩⟩

theorem start_eq_ok {lookup : Text → Option Text} {w : Running} {events : List Log.Event} :
    start lookup = (.ok w, events) ↔
      Config.ofLookup lookup = .ok w.config ∧
        State.start w.config.environment w.config.probeOrigins = .ok w.state ∧
          events = startEvents w.config ++ [loadedEvent w.state] := by
  constructor
  · intro h
    unfold start at h
    split at h
    · cases h
    · next read =>
        split at h
        · cases h
        · next started =>
            cases h
            exact ⟨read, started, rfl⟩
  · rintro ⟨read, started, rfl⟩
    simp only [start, read, started]

/-- From its start on, all that the service counts is under labels that are made up of the methods
of its requests and of finitely many other texts, which do not depend on the requests. -/
theorem labels_within_vocabulary (methods : List Text) {lookup : Text → Option Text} {w : Running}
    {events : List Log.Event} (started : start lookup = (.ok w, events)) {visits : List Visit}
    (spoken : ∀ x ∈ visits, x.request.method ∈ methods) :
    (w.serveAll visits).state.Within (vocabulary methods) := by
  obtain ⟨-, state, -⟩ := start_eq_ok.mp started
  obtain ⟨-, fresh⟩ := State.start_eq_ok.mp state
  refine serveAll_within ?_ spoken
  rw [fresh]
  exact ⟨Metrics.Traffic.within_empty, Metrics.Usage.within_empty⟩

/-- A service without settings of its own, asked under a method that it has no answers for. -/
theorem labels_of_custom_request :
    let w : Running := ⟨.defaults, .test, .test, false, .empty, .empty⟩
    let x : Visit := ⟨⟨0, [], fun _ => .failed []⟩, ⟨"CUSTOM", "/env", [], none⟩, 0⟩
    start (fun _ => none) = (.ok w, startEvents w.config ++ [loadedEvent w.state]) ∧
      (w.serveAll [x]).state.Within (vocabulary ["CUSTOM"]) := by
  intro w x
  have fresh : State.start w.config.environment w.config.probeOrigins = .ok w.state :=
    State.start_eq_ok.mpr ⟨rfl, rfl⟩
  have started : start (fun _ => none) = (.ok w, startEvents w.config ++ [loadedEvent w.state]) :=
    start_eq_ok.mpr ⟨rfl, fresh, rfl⟩
  have spoken : ∀ y ∈ [x], y.request.method ∈ ["CUSTOM".toList] := by simp [x]
  exact ⟨started, labels_within_vocabulary _ started spoken⟩

theorem method_mem_labels (w : Running) (m : Moment) (r : Http.Request) (seconds : Float) :
    r.method ∈ (w.serve m r seconds).2.1.state.traffic.inProgress.labels := by
  rw [state_serve]
  exact (Metrics.Series.mem_labels_update _ 0 r.method r.method _).mpr (.inl rfl)

/-- A text of capital letters that is longer than each of some texts. -/
theorem exists_capitals_notMem (known : List Text) :
    ∃ t : Text, t ≠ [] ∧ (∀ c ∈ t, c.isUpper) ∧ t ∉ known := by
  let n := (known.map List.length).sum + 1
  refine ⟨List.replicate n 'A', by simp [n], ?_, ?_⟩
  · intro c hc
    rw [List.eq_of_mem_replicate hc]
    rfl
  · intro mem
    have short := List.le_sum_of_mem (List.mem_map_of_mem (f := List.length) mem)
    rw [List.length_replicate] at short
    omega

/-- No service has a finite set that holds the labels of all its series, not even where all methods
are words of capital letters. -/
theorem no_vocabulary_holds_all_labels :
    ¬ ∃ (w : Running) (v : Metrics.Vocabulary), ∀ visits : List Visit,
      (∀ x ∈ visits, x.request.method ≠ [] ∧ ∀ c ∈ x.request.method, c.isUpper) →
        (w.serveAll visits).state.Within v := by
  rintro ⟨w, v, holds⟩
  obtain ⟨method, nonempty, capitals, new⟩ := exists_capitals_notMem v.methods
  let x : Visit := ⟨⟨0, [], fun _ => .failed []⟩, ⟨method, "/", [], none⟩, 0⟩
  have words : ∀ y ∈ [x], y.request.method ≠ [] ∧ ∀ c ∈ y.request.method, c.isUpper := by
    intro y visited
    obtain rfl := List.mem_singleton.mp visited
    exact ⟨nonempty, capitals⟩
  have counted : method ∈ (w.serveAll [x]).state.traffic.inProgress.labels :=
    method_mem_labels w x.moment x.request x.seconds
  exact new ((holds [x] words).traffic.inProgress counted)

end EndpointProfile.Service
