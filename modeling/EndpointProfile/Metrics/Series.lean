import EndpointProfile.Text.Basic

/-! Labelled series of measurements. A series is there once something was recorded under its
label. -/
namespace EndpointProfile.Metrics

abbrev Series (L α : Type) := List (L × α)

namespace Series

variable {L α : Type} [DecidableEq L]

/-- The value under a label, or the value that a new series starts with. -/
def value (s : Series L α) (start : α) (l : L) : α :=
  match s with
  | [] => start
  | (m, a) :: rest => if m = l then a else value rest start l

/-- Changes the value under a label; a series that was not there comes last. -/
def update (s : Series L α) (start : α) (l : L) (f : α → α) : Series L α :=
  match s with
  | [] => [(l, f start)]
  | (m, a) :: rest => if m = l then (m, f a) :: rest else (m, a) :: update rest start l f

def labels (s : Series L α) : List L :=
  s.map Prod.fst

theorem value_update (s : Series L α) (start : α) (l m : L) (f : α → α) :
    (s.update start l f).value start m =
      if m = l then f (s.value start l) else s.value start m := by
  induction s with
  | nil => simp [update, value, eq_comm]
  | cons x rest ih =>
    obtain ⟨k, a⟩ := x
    by_cases hk : k = l
    · subst hk
      by_cases hm : m = k
      · simp [update, value, hm]
      · simp [update, value, hm, Ne.symm hm]
    · by_cases hm : k = m
      · subst hm
        simp [update, value, hk]
      · simp [update, value, hk, hm, ih]

theorem mem_labels_update (s : Series L α) (start : α) (l m : L) (f : α → α) :
    m ∈ (s.update start l f).labels ↔ m = l ∨ m ∈ s.labels := by
  induction s with
  | nil => simp [update, labels]
  | cons x rest ih =>
    obtain ⟨k, a⟩ := x
    simp only [labels] at ih
    by_cases hk : k = l
    · subst hk; simp [update, labels]
    · simp [update, labels, hk, ih, or_left_comm]

end Series
end EndpointProfile.Metrics
