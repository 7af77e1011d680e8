import EndpointProfile.Proofs.Json.Objects

/-! Both layouts of an object write its members in order, with commas between them. -/
namespace EndpointProfile.Json
open Text (Only)

/-- A member with some blanks before it. -/
def row (lead : Text) (m : Member) : Text :=
  lead ++ quote m.1 ++ ':' :: m.2

theorem named_row {lead : Text} (blank : Only isBlank lead) (m : Member) : Named m (row lead m) := by
  obtain ⟨name, value⟩ := m
  have named : Named (name, value) _ := .intro blank (spells_escaped name) (Text.only_nil isBlank)
  simpa [row, quote] using named

theorem members_rows {lead ending : Text} (blank : Only isBlank lead) (ends : Only isBlank ending)
    (ms : List Member) :
    Members false ms ((ms.flatMap fun m => ',' :: row lead m) ++ ending) := by
  induction ms with
  | nil => exact .nil ends
  | cons m ms ih =>
      rw [List.flatMap_cons, List.cons_append, List.cons_append, List.append_assoc]
      exact .next (Text.only_nil isBlank) (named_row blank m) ih

theorem compactMembers_eq (k : Text) (v : Value) (ms : List (Text × Value)) :
    compactMembers ((k, v) :: ms) = row [] (k, v.compact) ++
      (ms.map fun m => (m.1, m.2.compact)).flatMap fun m => ',' :: row [] m := by
  induction ms generalizing k v with
  | nil => simp [compactMembers, row]
  | cons m ms ih =>
      rw [compactMembers, ih]
      · simp [row]
      · simp

theorem prettyMembers_eq (depth : Nat) (k : Text) (v : Value) (ms : List (Text × Value)) :
    prettyMembers depth ((k, v) :: ms) = row (indent depth) (k, ' ' :: v.prettyAt depth) ++
      (ms.map fun m => (m.1, ' ' :: m.2.prettyAt depth)).flatMap
        fun m => ',' :: row ('\n' :: indent depth) m := by
  induction ms generalizing k v with
  | nil => simp [prettyMembers, row]
  | cons m ms ih =>
      rw [prettyMembers, ih]
      · simp [row]
      · simp

theorem members_compact (ms : List (Text × Value)) :
    Members true (ms.map fun m => (m.1, m.2.compact)) (compactMembers ms) := by
  cases ms with
  | nil => exact .nil (Text.only_nil isBlank)
  | cons m ms =>
      rw [compactMembers_eq]
      refine .first (named_row (Text.only_nil isBlank) _) ?_
      simpa using members_rows (Text.only_nil isBlank) (Text.only_nil isBlank) (ms.map _)

theorem only_indent (depth : Nat) : Only isBlank (indent depth) := by
  intro c hc
  rw [List.eq_of_mem_replicate hc]
  rfl

/-- The lines of an object, from the line break after its brace to the indent of its end. -/
theorem members_pretty (depth : Nat) {ms : List (Text × Value)} (some : ms ≠ []) :
    Members true (ms.map fun m => (m.1, ' ' :: m.2.prettyAt (depth + 1)))
      ('\n' :: (prettyMembers (depth + 1) ms ++ '\n' :: indent depth)) := by
  cases ms with
  | nil => exact absurd rfl some
  | cons m ms =>
      obtain ⟨k, v⟩ := m
      have line (d : Nat) : Only isBlank ('\n' :: indent d) :=
        Text.only_cons.mpr ⟨rfl, only_indent d⟩
      have members := Members.first (named_row (line (depth + 1)) (k, ' ' :: v.prettyAt (depth + 1)))
        (members_rows (line (depth + 1)) (line depth)
          (ms.map fun m => (m.1, ' ' :: m.2.prettyAt (depth + 1))))
      rw [prettyMembers_eq]
      simpa [row] using members

end EndpointProfile.Json
