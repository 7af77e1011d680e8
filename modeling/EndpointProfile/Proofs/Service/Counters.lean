import EndpointProfile.Proofs.Metrics.Tally
import EndpointProfile.Proofs.Service.Labels

/-! What is counted of the answers to calls of handlers: lookups of keys, renders of the profile and
names of no network. Each counter says how many calls of its kind there were, in whatever order. -/
namespace EndpointProfile.Service

structure Call where
  moment : Moment
  request : Http.Request
  route : Route

/-- The service after some calls, one after the other. -/
def State.handleAll (s : State) (calls : List Call) : State :=
  calls.foldl (fun s c => (answer s c.moment c.request c.route).state) s

namespace Route

/-- What a lookup is counted under. All names that are no keys go together. -/
def lookup? : Route → Option Metrics.LookupLabels
  | key name => some (((Key.ofName? name).map fun k => ⟨k.name, "found"⟩).getD
      ⟨"unknown", "not_found"⟩)
  | _ => none

def render? : Route → Option Text
  | profile => some Format.json.name
  | module => some Format.module.name
  | _ => none

/-- Whether the name that is looked up is the name of no key. -/
def isUnknownKey : Route → Bool
  | key name => Key.all.all fun k => name ≠ k.name
  | _ => false

def isUnknownNetwork : Route → Bool
  | network name => Network.ofName? name = none
  | _ => false

/-- What a name of no network is counted under. -/
def error? (r : Route) : Option Metrics.ErrorLabels :=
  if r.isUnknownNetwork then some ⟨"unknown_network", "get_network"⟩ else none

theorem lookup?_eq_found {r : Route} {k : Key} :
    r.lookup? = some ⟨k.name, "found"⟩ ↔ r = .key k.name := by
  cases r with
  | key name =>
      rw [lookup?, Option.some_inj, key.injEq]
      cases h : Key.ofName? name with
      | none =>
          have other : name ≠ k.name := fun same => by simp [same, Key.ofName?_name] at h
          simp [other]
      | some j => simp [Key.ofName?_eq_some.mp h]
  | _ => simp [lookup?]

theorem lookup?_eq_unknown {r : Route} :
    r.lookup? = some ⟨"unknown", "not_found"⟩ ↔ r.isUnknownKey = true := by
  cases r with
  | key name =>
      have absent : (key name).isUnknownKey = true ↔ Key.ofName? name = none := by
        rw [isUnknownKey, List.all_eq_true, Key.ofName?_eq_none, List.mem_map]
        constructor
        · rintro new ⟨k, known, rfl⟩
          exact of_decide_eq_true (new k known) rfl
        · exact fun new k known => decide_eq_true fun same => new ⟨k, known, same.symm⟩
      rw [lookup?, Option.some_inj, absent]
      cases h : Key.ofName? name with
      | none => simp
      | some j => simp
  | _ => simp [lookup?, isUnknownKey]

theorem render?_eq_json {r : Route} : r.render? = some "json".toList ↔ r = .profile := by
  cases r with
  | profile => exact iff_of_true rfl rfl
  | module => exact iff_of_false (by decide) nofun
  | _ => exact iff_of_false nofun nofun

theorem render?_eq_module {r : Route} : r.render? = some "module".toList ↔ r = .module := by
  cases r with
  | profile => exact iff_of_false (by decide) nofun
  | module => exact iff_of_true rfl rfl
  | _ => exact iff_of_false nofun nofun

theorem error?_of_unknown {r : Route} (h : r.isUnknownNetwork = true) :
    r.error? = some ⟨"unknown_network", "get_network"⟩ := by
  rw [error?, if_pos h]

theorem error?_of_known {r : Route} (h : r.isUnknownNetwork = false) : r.error? = none := by
  rw [error?, h]
  rfl

theorem error?_eq_some {r : Route} :
    r.error? = some ⟨"unknown_network", "get_network"⟩ ↔ r.isUnknownNetwork = true := by
  refine ⟨fun h => ?_, error?_of_unknown⟩
  by_contra known
  rw [error?_of_known (Bool.eq_false_iff.mpr known)] at h
  cases h

theorem lookup?_mem {r : Route} {l : Metrics.LookupLabels} (h : r.lookup? = some l) :
    l ∈ ⟨"unknown", "not_found"⟩ :: Key.all.map fun k => ⟨k.name, "found"⟩ := by
  cases r with
  | key name =>
      rw [lookup?, Option.some_inj] at h
      subst h
      cases Key.ofName? name with
      | none => exact List.mem_cons_self
      | some k => exact List.mem_cons_of_mem _ (List.mem_map_of_mem (Key.mem_all k))
  | _ => cases h

theorem render?_mem {r : Route} {format : Text} (h : r.render? = some format) :
    format ∈ ["json".toList, "module".toList] := by
  cases r with
  | profile | module =>
      rw [render?, Option.some_inj] at h
      subst h
      decide
  | _ => cases h

theorem error?_mem {r : Route} {l : Metrics.ErrorLabels} (h : r.error? = some l) :
    l ∈ [⟨"unknown_network", "get_network"⟩] := by
  cases known : r.isUnknownNetwork with
  | true =>
      rw [error?_of_unknown known, Option.some_inj] at h
      subst h
      exact List.mem_cons_self
  | false =>
      rw [error?_of_known known] at h
      cases h

end Route

/-- The counters hold what the calls of some handlers are counted under, and nothing else. -/
structure State.Handled (s : State) (routes : List Route) : Prop where
  lookups : s.usage.lookups.Tallies (routes.filterMap Route.lookup?)
  renders : s.usage.renders.Tallies (routes.filterMap Route.render?)
  errors : s.traffic.errors.Tallies (routes.filterMap Route.error?)

/-- Each counter says how often something was asked for, and there are no others. -/
structure State.Counts (s : State) (routes : List Route) : Prop where
  found : ∀ k : Key, s.usage.lookups.value 0 ⟨k.name, "found"⟩ = routes.count (.key k.name)
  unknown : s.usage.lookups.value 0 ⟨"unknown", "not_found"⟩ = routes.countP Route.isUnknownKey
  profiles : s.usage.renders.value 0 "json" = routes.count .profile
  modules : s.usage.renders.value 0 "module" = routes.count .module
  networks : s.traffic.errors.value 0 ⟨"unknown_network", "get_network"⟩ =
    routes.countP Route.isUnknownNetwork
  lookups : s.usage.lookups.labels ⊆
    ⟨"unknown", "not_found"⟩ :: Key.all.map fun k => ⟨k.name, "found"⟩
  renders : s.usage.renders.labels ⊆ ["json".toList, "module".toList]
  errors : s.traffic.errors.labels ⊆ [⟨"unknown_network", "get_network"⟩]

section
variable {s : State} {routes : List Route}

theorem State.Handled.counts (h : s.Handled routes) : s.Counts routes where
  found k := by
    rw [List.count_eq_countP]
    exact h.lookups.value_filterMap fun r => by rw [beq_iff_eq, Route.lookup?_eq_found]
  unknown := h.lookups.value_filterMap fun _ => Route.lookup?_eq_unknown
  profiles := by
    rw [List.count_eq_countP]
    exact h.renders.value_filterMap fun r => by rw [beq_iff_eq, Route.render?_eq_json]
  modules := by
    rw [List.count_eq_countP]
    exact h.renders.value_filterMap fun r => by rw [beq_iff_eq, Route.render?_eq_module]
  networks := h.errors.value_filterMap fun _ => Route.error?_eq_some
  lookups := h.lookups.labels_subset fun _ _ => Route.lookup?_mem
  renders := h.renders.labels_subset fun _ _ => Route.render?_mem
  errors := h.errors.labels_subset fun _ _ => Route.error?_mem

/-- A call adds what it is counted under to each family, if there is such a thing. -/
theorem State.Handled.answer (h : s.Handled routes) (m : Moment) (r : Http.Request)
    (route : Route) : (answer s m r route).state.Handled (routes ++ [route]) := by
  have kept : route.lookup? = none → route.render? = none → route.error? = none →
      s.Handled (routes ++ [route]) := fun noLookup noRender noError =>
    ⟨h.lookups.skip noLookup, h.renders.skip noRender, h.errors.skip noError⟩
  cases route with
  | health | liveness | readiness | metrics => exact kept rfl rfl rfl
  | profile | module => exact ⟨h.lookups.skip rfl, h.renders.record rfl, h.errors.skip rfl⟩
  | key name =>
      rw [Service.answer, answerKey]
      cases named : Key.ofName? name with
      | some k =>
          have found : (Route.key name).lookup? = some ⟨k.name, "found"⟩ :=
            Route.lookup?_eq_found.mpr (congrArg _ (Key.ofName?_eq_some.mp named))
          exact ⟨h.lookups.record found, h.renders.skip rfl, h.errors.skip rfl⟩
      | none =>
          have unknown : (Route.key name).lookup? = some ⟨"unknown", "not_found"⟩ := by
            rw [Route.lookup?, named]
            rfl
          exact ⟨h.lookups.record unknown, h.renders.skip rfl, h.errors.skip rfl⟩
  | network name =>
      rw [Service.answer]
      cases named : Network.ofName? name with
      | some n =>
          rw [answerNetwork_of_known named]
          have known : (Route.network name).error? = none :=
            Route.error?_of_known (decide_eq_false (by simp [named]))
          exact kept rfl rfl known
      | none =>
          rw [answerNetwork, named]
          have unknown : (Route.network name).error? = some ⟨"unknown_network", "get_network"⟩ :=
            Route.error?_of_unknown (decide_eq_true named)
          exact ⟨h.lookups.skip rfl, h.renders.skip rfl, h.errors.record unknown⟩

theorem State.Handled.handleAll (h : s.Handled routes) (calls : List Call) :
    (s.handleAll calls).Handled (routes ++ calls.map Call.route) := by
  induction calls generalizing s routes with
  | nil =>
      rw [List.map_nil, List.append_nil]
      exact h
  | cons c calls ih =>
      rw [List.map_cons, List.append_cons]
      exact ih (h.answer c.moment c.request c.route)

theorem answer_keeps (s : State) (m : Moment) (r : Http.Request) (route : Route) :
    ∃ traffic usage, (answer s m r route).state = { s with traffic, usage } := by
  cases route with
  | key name =>
      rw [answer, answerKey]
      split <;> exact ⟨_, _, rfl⟩
  | network name =>
      rw [answer]
      cases known : Network.ofName? name with
      | none =>
          rw [answerNetwork, known]
          exact ⟨_, _, rfl⟩
      | some n =>
          rw [answerNetwork_of_known known]
          exact ⟨_, _, rfl⟩
  | _ => exact ⟨_, _, rfl⟩

theorem handleAll_keeps (s : State) (calls : List Call) :
    ∃ traffic usage, s.handleAll calls = { s with traffic, usage } := by
  induction calls generalizing s with
  | nil => exact ⟨s.traffic, s.usage, rfl⟩
  | cons c calls ih =>
      obtain ⟨traffic, usage, one⟩ := answer_keeps s c.moment c.request c.route
      obtain ⟨traffic', usage', all⟩ := ih (answer s c.moment c.request c.route).state
      exact ⟨traffic', usage', all.trans (by rw [one])⟩

theorem State.Handled.perm {s' : State} {routes' : List Route} (h : s.Handled routes)
    (h' : s'.Handled routes') (same : routes.Perm routes') :
    s.usage.lookups.Perm s'.usage.lookups ∧ s.usage.renders.Perm s'.usage.renders ∧
      s.traffic.errors.Perm s'.traffic.errors :=
  ⟨h.lookups.perm h'.lookups (same.filterMap _), h.renders.perm h'.renders (same.filterMap _),
    h.errors.perm h'.errors (same.filterMap _)⟩

end

/-- From its start on, a service has counted just the calls of its handlers, each under what it asks
for. It still holds the profile that it started with, and the order of the calls does not matter. -/
theorem counters_of_calls {environment : Text} {probe : Bool} {s : State}
    (started : State.start environment probe = .ok s) (calls : List Call) :
    let now := s.handleAll calls
    now.Counts (calls.map Call.route) ∧ now.profile = s.profile ∧ now.stage = s.stage ∧
      ∀ calls' : List Call, calls.Perm calls' →
        let other := s.handleAll calls'
        now.usage.lookups.Perm other.usage.lookups ∧ now.usage.renders.Perm other.usage.renders ∧
          now.traffic.errors.Perm other.traffic.errors := by
  intro now
  obtain ⟨-, fresh⟩ := State.start_eq_ok.mp started
  have handled : s.Handled [] := by
    rw [fresh]
    exact ⟨Metrics.Series.tallies_nil, Metrics.Series.tallies_nil, Metrics.Series.tallies_nil⟩
  have counted (calls : List Call) : (s.handleAll calls).Handled (calls.map Call.route) :=
    handled.handleAll calls
  obtain ⟨traffic, usage, kept⟩ := handleAll_keeps s calls
  refine ⟨(counted calls).counts, ?_, ?_, fun calls' same => ?_⟩
  · rw [show now = _ from kept]
  · rw [show now = _ from kept]
  · exact (counted calls).perm (counted calls') (same.map Call.route)

/-- A key in lower case is counted as unknown, and one that is asked for twice is counted twice. -/
theorem counters_of_mixed_calls :
    let s : State := ⟨.test, .test, false, .empty, .empty⟩
    let call (route : Route) : Call := ⟨⟨0, [], fun _ => .failed []⟩, ⟨"GET", "/", [], none⟩, route⟩
    let calls := [call (.key "BASE_API"), call (.key "base_api"), call (.network "eth"),
      call .profile, call (.network " Polygon "), call (.key "BASE_API"), call .module]
    let now := s.handleAll calls
    State.start "test" false = .ok s ∧
      now.usage.lookups.value 0 ⟨"BASE_API", "found"⟩ = 2 ∧
      now.usage.lookups.value 0 ⟨"unknown", "not_found"⟩ = 1 ∧
      now.usage.renders.value 0 "json" = 1 ∧ now.usage.renders.value 0 "module" = 1 ∧
      now.traffic.errors.value 0 ⟨"unknown_network", "get_network"⟩ = 1 ∧
      now.usage.lookups.Perm (s.handleAll calls.reverse).usage.lookups := by
  intro s call calls now
  have started : State.start "test" false = .ok s := State.start_eq_ok.mpr ⟨rfl, rfl⟩
  obtain ⟨counts, -, -, order⟩ := counters_of_calls started calls
  refine ⟨started, ?_, ?_, ?_, ?_, ?_, (order _ calls.reverse_perm.symm).1⟩
  · exact (counts.found .api).trans (by decide)
  · exact counts.unknown.trans (by decide)
  · exact counts.profiles.trans (by decide)
  · exact counts.modules.trans (by decide)
  · exact counts.networks.trans (by decide)

end EndpointProfile.Service
