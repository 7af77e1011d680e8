import EndpointProfile.Proofs.Text.Cuts

/-! Texts in pieces, with a separator between each two. -/
namespace EndpointProfile.Text

variable {sep : Char}

theorem not_mem_piece {t piece : Text} (is : piece ∈ t.splitOn sep) : sep ∉ piece := by
  induction t generalizing piece with
  | nil =>
      rw [List.splitOn_nil, List.mem_singleton] at is
      simp [is]
  | cons c t ih =>
      obtain ⟨first, rest, split⟩ := List.exists_cons_of_ne_nil (List.splitOn_ne_nil sep t)
      rw [split] at ih
      obtain ⟨here, later⟩ := List.forall_mem_cons.mp fun _ => ih
      rw [List.splitOn_cons_eq_if_modifyHead, split] at is
      split at is
      · rcases List.mem_cons.mp is with rfl | inside
        · exact List.not_mem_nil
        · exact ih inside
      · next other =>
          rcases List.mem_cons.mp is with rfl | inside
          · exact List.not_mem_cons_of_ne_of_not_mem (Ne.symm (by simpa using other)) here
          · exact later _ inside

theorem splitOn_eq_iff {t : Text} {pieces : List Text} : t.splitOn sep = pieces ↔
    pieces ≠ [] ∧ (∀ piece ∈ pieces, sep ∉ piece) ∧ join [sep] pieces = t := by
  constructor
  · rintro rfl
    exact ⟨List.splitOn_ne_nil sep t, fun _ is => not_mem_piece is, List.intercalate_splitOn sep⟩
  · rintro ⟨some, free, rfl⟩
    exact List.splitOn_intercalate sep free some

theorem mem_join {c : Char} {pieces : List Text} (inside : c ∈ join [sep] pieces) :
    c = sep ∨ ∃ piece ∈ pieces, c ∈ piece := by
  induction pieces with
  | nil => exact absurd inside List.not_mem_nil
  | cons piece pieces ih =>
      rcases eq_or_ne pieces [] with rfl | more
      · rw [join, List.intercalate_singleton] at inside
        exact .inr ⟨piece, List.mem_singleton_self _, inside⟩
      · rw [join, List.intercalate_cons_of_ne_nil more, List.mem_append, List.mem_append,
          List.mem_singleton] at inside
        rcases inside with (here | between) | later
        · exact .inr ⟨piece, List.mem_cons_self, here⟩
        · exact .inl between
        · apply (ih later).imp_right
          rintro ⟨other, listed, here⟩
          exact ⟨other, List.mem_cons_of_mem _ listed, here⟩

section
variable {α : Type} {write : α → Text} {l : List α}

/-- What is written without the separator falls apart where it was joined. -/
theorem splitOn_join_map (free : ∀ a, sep ∉ write a) (nonempty : l ≠ []) :
    (join [sep] (l.map write)).splitOn sep = l.map write := by
  refine splitOn_eq_iff.mpr ⟨by simpa, ?_, rfl⟩
  exact List.forall_mem_map.mpr fun a _ => free a

theorem mem_join_map {c : Char} (inside : c ∈ join [sep] (l.map write)) :
    c = sep ∨ ∃ a, c ∈ write a := by
  apply (mem_join inside).imp_right
  rintro ⟨piece, is, here⟩
  obtain ⟨a, -, rfl⟩ := List.mem_map.mp is
  exact ⟨a, here⟩

theorem mapM_map_inverse {read : Text → Option α} (inverse : ∀ a, read (write a) = some a)
    (l : List α) : (l.map write).mapM read = some l := by
  have same : read ∘ write = fun a => pure a := funext inverse
  rw [List.mapM_map, same, List.mapM_pure, List.map_id']
  rfl

end

theorem splitOn_prepend {a : Text} (free : sep ∉ a) (t : Text) :
    ∃ first rest, t.splitOn sep = first :: rest ∧ (a ++ t).splitOn sep = (a ++ first) :: rest := by
  obtain ⟨first, rest, split⟩ := List.exists_cons_of_ne_nil (List.splitOn_ne_nil sep t)
  refine ⟨first, rest, split, ?_⟩
  induction a with
  | nil => exact split
  | cons c a ih =>
      obtain ⟨other, later⟩ := not_or.mp (mt List.mem_cons.mpr free)
      have different : ¬ (c == sep) = true := fun same => other (beq_iff_eq.mp same).symm
      rw [List.cons_append, List.splitOn_cons_eq_if_modifyHead, if_neg different, ih later]
      rfl

theorem splitOn_append {z : Text} (free : sep ∉ z) (t : Text) : ∃ before last,
    t.splitOn sep = before ++ [last] ∧ (t ++ z).splitOn sep = before ++ [last ++ z] := by
  induction t with
  | nil => exact ⟨[], [], List.splitOn_nil sep, List.splitOn_eq_singleton free⟩
  | cons c t ih =>
      obtain ⟨before, last, split, longer⟩ := ih
      rw [List.cons_append, List.splitOn_cons_eq_if_modifyHead, List.splitOn_cons_eq_if_modifyHead,
        split, longer]
      split
      · exact ⟨[] :: before, last, rfl, rfl⟩
      · cases before with
        | nil => exact ⟨[], c :: last, rfl, rfl⟩
        | cons first before => exact ⟨(c :: first) :: before, last, rfl, rfl⟩

theorem map_trim_splitOn {a z : Text} (solid : isBlank sep = false) (ha : Only isBlank a)
    (hz : Only isBlank z) (t : Text) :
    ((a ++ t ++ z).splitOn sep).map trim = (t.splitOn sep).map trim := by
  have free {s : Text} (blank : Only isBlank s) : sep ∉ s := fun inside => by
    rw [blank sep inside] at solid
    cases solid
  obtain ⟨first, rest, split, longer⟩ := splitOn_prepend (free ha) t
  obtain ⟨before, last, split', longer'⟩ := splitOn_append (free hz) (a ++ t)
  have front : ((a ++ t).splitOn sep).map trim = (t.splitOn sep).map trim := by
    have same : trim (a ++ first ++ []) = trim first := strip_surrounded ha (only_nil _) first
    rw [longer, split, List.map_cons, List.map_cons, ← same, List.append_nil]
  have same : trim ([] ++ last ++ z) = trim last := strip_surrounded (only_nil _) hz last
  rw [← front, longer', split', List.map_append, List.map_append, List.map_singleton,
    List.map_singleton, ← same, List.nil_append]

theorem splitOn_ended {lines : List Text} (free : ∀ line ∈ lines, sep ∉ line) :
    (lines.flatMap (· ++ [sep])).splitOn sep = lines ++ [[]] := by
  induction lines with
  | nil => exact List.splitOn_nil sep
  | cons line lines ih =>
      obtain ⟨here, later⟩ := List.forall_mem_cons.mp free
      rw [List.flatMap_cons, List.append_assoc, List.singleton_append,
        List.splitOn_append_cons_self_of_not_mem here, ih later, List.cons_append]

end EndpointProfile.Text
