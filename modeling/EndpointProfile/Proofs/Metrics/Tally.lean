import Mathlib.Algebra.BigOperators.Group.List.Lemmas
import Mathlib.Algebra.GroupWithZero.Nat
import Mathlib.Algebra.Order.Group.Nat
import EndpointProfile.Metrics.Basic

/-! Counters that say how often each label was recorded, and nothing else. Their sum over some
labels is how often these were recorded, and the order of the records does not matter. -/
namespace EndpointProfile.Metrics

namespace Series

variable {L α β : Type} [DecidableEq L]

theorem nodup_labels_update {s : Series L α} (distinct : s.labels.Nodup) (start : α) (l : L)
    (f : α → α) : (s.update start l f).labels.Nodup := by
  induction s with
  | nil => simp [update, labels]
  | cons x rest ih =>
      obtain ⟨m, a⟩ := x
      obtain ⟨new, old⟩ := List.nodup_cons.mp distinct
      by_cases h : m = l
      · simpa [update, labels, h] using distinct
      · have missing : m ∉ (update rest start l f).labels := by
          rw [mem_labels_update]
          exact not_or.mpr ⟨h, new⟩
        rw [update, if_neg h]
        exact List.nodup_cons.mpr ⟨missing, ih old⟩

theorem mem_iff {s : Series L α} (distinct : s.labels.Nodup) (start : α) {l : L} {a : α} :
    (l, a) ∈ s ↔ l ∈ s.labels ∧ s.value start l = a := by
  induction s with
  | nil => simp [labels]
  | cons x rest ih =>
      obtain ⟨m, b⟩ := x
      obtain ⟨new, old⟩ := List.nodup_cons.mp distinct
      by_cases h : m = l
      · subst h
        have other : (m, a) ∉ rest := fun again => new (List.mem_map.mpr ⟨_, again, rfl⟩)
        simp [value, labels, other, eq_comm]
      · have ih := ih old
        simp only [labels] at ih
        simp [value, labels, h, Ne.symm h, ih]

def mapValues (f : α → β) (s : Series L α) : Series L β :=
  s.map fun x => (x.1, f x.2)

theorem value_mapValues (f : α → β) (s : Series L α) (start : α) (l : L) :
    (s.mapValues f).value (f start) l = f (s.value start l) := by
  induction s with
  | nil => rfl
  | cons x rest ih =>
      obtain ⟨m, a⟩ := x
      by_cases h : m = l
      · simp [mapValues, value, h]
      · simpa [mapValues, value, h] using ih

theorem mapValues_update {f : α → β} {g : α → α} {g' : β → β} (same : ∀ a, f (g a) = g' (f a))
    (s : Series L α) (start : α) (l : L) :
    (s.update start l g).mapValues f = (s.mapValues f).update (f start) l g' := by
  induction s with
  | nil => simp [mapValues, update, same]
  | cons x rest ih =>
      obtain ⟨m, a⟩ := x
      by_cases h : m = l
      · simp [mapValues, update, h, same]
      · simpa [mapValues, update, h] using ih

/-- The sum of the counters whose labels are of a kind. -/
def total (p : L → Bool) (s : Series L Nat) : Nat :=
  ((s.filter fun x => p x.1).map Prod.snd).sum

/-- There is one counter for each label of a list, and it says how often the label is in it. -/
structure Tallies (s : Series L Nat) (recorded : List L) : Prop where
  distinct : s.labels.Nodup
  mem_labels : ∀ l, l ∈ s.labels ↔ l ∈ recorded
  value : ∀ l, s.value 0 l = recorded.count l

theorem tallies_nil : Tallies ([] : Series L Nat) [] :=
  ⟨List.nodup_nil, fun _ => Iff.rfl, fun _ => rfl⟩

variable {s s' : Series L Nat} {recorded recorded' : List L}

theorem Tallies.count (h : s.Tallies recorded) (l : L) :
    (s.update 0 l (· + 1)).Tallies (recorded ++ [l]) where
  distinct := nodup_labels_update h.distinct 0 l _
  mem_labels m := by
    rw [mem_labels_update, h.mem_labels, List.mem_append, List.mem_singleton, or_comm]
  value m := by
    rw [value_update, h.value, h.value, List.count_append]
    by_cases same : m = l
    · simp [same]
    · simp [same, Ne.symm same]

theorem Tallies.mem_iff (h : s.Tallies recorded) {l : L} {n : Nat} :
    (l, n) ∈ s ↔ l ∈ recorded ∧ recorded.count l = n := by
  rw [Series.mem_iff h.distinct 0, h.mem_labels, h.value]

theorem Tallies.skip {γ : Type} {f : γ → Option L} {xs : List γ} {x : γ}
    (h : s.Tallies (xs.filterMap f)) (hx : f x = none) :
    s.Tallies ((xs ++ [x]).filterMap f) := by
  rwa [List.filterMap_append, List.filterMap_cons_none hx, List.filterMap_nil, List.append_nil]

theorem Tallies.record {γ : Type} {f : γ → Option L} {xs : List γ} {x : γ} {l : L}
    (h : s.Tallies (xs.filterMap f)) (hx : f x = some l) :
    (s.update 0 l (· + 1)).Tallies ((xs ++ [x]).filterMap f) := by
  rw [List.filterMap_append, List.filterMap_cons_some hx, List.filterMap_nil]
  exact h.count l

/-- Where some of many things are recorded, a counter says how many of them have its label. -/
theorem Tallies.value_filterMap {γ : Type} {f : γ → Option L} {xs : List γ}
    (h : s.Tallies (xs.filterMap f)) {l : L} {p : γ → Bool}
    (same : ∀ x, f x = some l ↔ p x = true) : s.value 0 l = xs.countP p := by
  rw [h.value, List.count_filterMap]
  refine List.countP_congr fun x _ => ?_
  rw [beq_iff_eq, same]

theorem Tallies.labels_subset {γ : Type} {f : γ → Option L} {xs : List γ}
    (h : s.Tallies (xs.filterMap f)) {known : List L} (all : ∀ x l, f x = some l → l ∈ known) :
    s.labels ⊆ known := by
  intro l hl
  obtain ⟨x, -, hx⟩ := List.mem_filterMap.mp ((h.mem_labels l).mp hl)
  exact all x l hx

theorem Tallies.total_eq (h : s.Tallies recorded) (p : L → Bool) :
    s.total p = recorded.countP p := by
  have once : s.labels.Perm recorded.dedup :=
    (List.perm_ext_iff_of_nodup h.distinct recorded.nodup_dedup).mpr fun l => by
      rw [h.mem_labels, List.mem_dedup]
  have values : (s.filter fun x => p x.1).map Prod.snd =
      (s.labels.filter p).map fun l => recorded.count l := by
    rw [Series.labels, List.filter_map, List.map_map]
    refine List.map_congr_left fun x hx => ?_
    exact (h.mem_iff.mp (List.mem_of_mem_filter hx)).2.symm
  calc s.total p = ((s.labels.filter p).map fun l => recorded.count l).sum := by rw [total, values]
    _ = ((recorded.dedup.filter p).map fun l => recorded.count l).sum :=
        ((once.filter p).map _).sum_eq
    _ = recorded.countP p := List.sum_map_count_dedup_filter_eq_countP p recorded

theorem Tallies.perm (h : s.Tallies recorded) (h' : s'.Tallies recorded')
    (same : recorded.Perm recorded') : s.Perm s' := by
  have distinct : s.Nodup := List.Nodup.of_map _ h.distinct
  have distinct' : s'.Nodup := List.Nodup.of_map _ h'.distinct
  refine (List.perm_ext_iff_of_nodup distinct distinct').mpr fun x => ?_
  rw [h.mem_iff, h'.mem_iff, same.mem_iff, same.count_eq]

end Series

namespace Traffic

theorem value_shift (t : Traffic) (method other : Text) (change : Int64) :
    (t.shift method change).inProgress.value 0 other =
      if other = method then t.inProgress.value 0 method + change
      else t.inProgress.value 0 other :=
  Series.value_update t.inProgress 0 method other _

/-- How many durations were observed on each route. -/
def durationCounts (t : Traffic) : Series RouteLabels Nat :=
  t.durations.mapValues Histogram.count

theorem value_durationCounts (t : Traffic) (l : RouteLabels) :
    t.durationCounts.value 0 l = (t.durations.value .empty l).count :=
  Series.value_mapValues Histogram.count t.durations .empty l

theorem durationCounts_record (t : Traffic) (method endpoint : Text) (status : Nat)
    (seconds : Float) : (t.record method endpoint status seconds).durationCounts =
      t.durationCounts.update 0 ⟨method, endpoint⟩ (· + 1) :=
  Series.mapValues_update (f := Histogram.count) (g := (·.observe seconds)) (fun _ => rfl)
    t.durations .empty ⟨method, endpoint⟩

end Traffic
end EndpointProfile.Metrics
