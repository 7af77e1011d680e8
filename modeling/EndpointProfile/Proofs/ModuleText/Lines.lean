import EndpointProfile.ModuleText
import EndpointProfile.Proofs.Text.Cuts

/-! The lines of a module that count, without their numbers. -/
namespace EndpointProfile.ModuleText

/-- Whether a trimmed line counts: it is not blank and no comment. -/
def Counts (line : Text) : Prop := line ≠ [] ∧ ¬ ['/', '/'] <+: line

instance : DecidablePred Counts := fun line =>
  inferInstanceAs (Decidable (line ≠ [] ∧ ¬ ['/', '/'] <+: line))

/-- What stands between line feeds, trimmed, as far as it counts. -/
def countedLines (t : Text) : List Text :=
  ((t.splitOn '\n').map Text.trim).filter Counts

theorem isComment_eq_true {line : Text} : isComment line = true ↔ ['/', '/'] <+: line := by
  rw [isComment, Option.isSome_iff_exists]
  exact ⟨fun ⟨rest, h⟩ => ⟨rest, (Text.dropStart?_eq_some.mp h).symm⟩,
    fun ⟨rest, h⟩ => ⟨rest, Text.dropStart?_eq_some.mpr h.symm⟩⟩

theorem not_counts_iff {line : Text} :
    ¬ Counts line ↔ (line.isEmpty || isComment line) = true := by
  rw [Counts, Bool.or_eq_true, List.isEmpty_iff, isComment_eq_true]
  tauto

/-- The carriage return of a line ending is blank, so trimming takes it away in any case. -/
theorem trim_dropReturn (line : Text) : Text.trim (Text.dropReturn line) = Text.trim line := by
  unfold Text.dropReturn
  cases h : Text.dropEnd? ['\r'] line with
  | none => rfl
  | some rest =>
      obtain rfl := Text.dropEnd?_eq_some.mp h
      exact (Text.strip_surrounded (a := []) (by simp) (by simp; decide) rest).symm

theorem trim_nil : Text.trim [] = [] := rfl

/-- An empty last piece is no line that counts. -/
theorem countedLines_eq (t : Text) : countedLines t = (t.lines.map Text.trim).filter Counts := by
  obtain ⟨before, last, pieces⟩ : ∃ before last, t.splitOn '\n' = before ++ [last] :=
    ⟨_, _, (List.dropLast_append_getLast (List.splitOn_ne_nil '\n' t)).symm⟩
  have returns : (before.map Text.dropReturn).map Text.trim = before.map Text.trim := by
    simp only [List.map_map, Function.comp_def, trim_dropReturn]
  simp only [countedLines, Text.lines, pieces, List.dropLast_concat, List.getLast?_concat,
    Option.getD_some, List.map_append, List.filter_append, returns]
  congr 1
  cases last with
  | nil => simp [trim_nil, Counts]
  | cons c last => rfl

theorem significant_text (t : Text) : (significant t).map Line.text = countedLines t := by
  rw [countedLines_eq, significant]
  generalize t.lines = lines, 1 = n
  induction lines generalizing n with
  | nil => rfl
  | cons line lines ih =>
      rw [List.zipIdx_cons, List.filterMap_cons, List.map_cons, List.filter_cons]
      by_cases h : Counts (Text.trim line)
      · have kept : ((Text.trim line).isEmpty || isComment (Text.trim line)) = false :=
          Bool.eq_false_iff.mpr fun skipped => not_counts_iff.mpr skipped h
        simp only [kept, h, Bool.false_eq_true, decide_true, if_true, if_false, List.map_cons, ih]
      · simp only [not_counts_iff.mp h, h, decide_false, Bool.false_eq_true, if_true, if_false, ih]

theorem bare_of_mem_countedLines {t line : Text} (h : line ∈ countedLines t) :
    Text.Bare isBlank line := by
  obtain ⟨piece, -, rfl⟩ := List.mem_map.mp (List.mem_filter.mp h).1
  exact Text.bare_trim piece

end EndpointProfile.ModuleText
