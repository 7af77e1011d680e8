import EndpointProfile.Proofs.ModuleText.Layout

/-! Lines by their numbers, and the lines of a text that goes on after the end of a line. -/
namespace EndpointProfile

theorem Text.lines_append {t : Text} (ended : ['\n'] <:+ t) (s : Text) :
    (t ++ s).lines = t.lines ++ s.lines := by
  obtain ⟨start, rfl⟩ := ended
  have feed : ('\n' == '\n') = true := rfl
  have left : (start ++ ['\n']).splitOn '\n' = start.splitOn '\n' ++ [[]] :=
    List.splitOnP_append_cons start [] feed
  have whole : (start ++ '\n' :: s).splitOn '\n' = start.splitOn '\n' ++ s.splitOn '\n' :=
    List.splitOnP_append_cons start s feed
  have right := List.splitOn_ne_nil '\n' s
  rw [List.append_assoc, List.singleton_append, lines, lines, left, whole,
    List.getLast?_append_of_ne_nil _ right, List.dropLast_append_of_ne_nil right]
  simp [lines]

namespace ModuleText

/-- Whether the line of a number, from 1 on, is of some kind, the blanks around it apart. -/
def LineIs (t : Text) (n : Nat) (kind : Text → Prop) : Prop :=
  ∃ line, (line, n) ∈ t.lines.zipIdx 1 ∧ kind (Text.trim line)

section
variable {t : Text} {n : Nat} {kind : Text → Prop}

theorem LineIs.bounds (h : LineIs t n kind) : 1 ≤ n ∧ n ≤ t.lines.length := by
  obtain ⟨line, numbered, -⟩ := h
  obtain ⟨first, last, -⟩ := List.mem_zipIdx numbered
  omega

theorem LineIs.mono {other : Text → Prop} (h : LineIs t n kind)
    (sub : ∀ line, kind line → other line) : LineIs t n other := by
  obtain ⟨line, numbered, here⟩ := h
  exact ⟨line, numbered, sub _ here⟩

theorem mem_significant {line : Line} :
    line ∈ significant t ↔ LineIs t line.number (· = line.text) ∧ Counts line.text := by
  obtain ⟨n, text⟩ := line
  rw [significant, List.mem_filterMap]
  constructor
  · rintro ⟨⟨piece, m⟩, numbered, shown⟩
    by_cases skipped : ((Text.trim piece).isEmpty || isComment (Text.trim piece)) = true
    · simp only [skipped, if_true] at shown
      cases shown
    · simp only [skipped] at shown
      cases shown
      exact ⟨⟨piece, numbered, rfl⟩, not_not.mp fun silent => skipped (not_counts_iff.mp silent)⟩
  · rintro ⟨⟨piece, numbered, trimmed⟩, counts⟩
    obtain rfl : Text.trim piece = text := trimmed
    refine ⟨(piece, n), numbered, ?_⟩
    have kept : ((Text.trim piece).isEmpty || isComment (Text.trim piece)) = false :=
      Bool.eq_false_iff.mpr fun skipped => not_counts_iff.mpr skipped counts
    simp only [kept]
    rfl

theorem counts_of_mem {line : Line} (h : line ∈ significant t) : Counts line.text :=
  (mem_significant.mp h).2

theorem lineIs_of_mem {line : Line} (h : line ∈ significant t) (here : kind line.text) :
    LineIs t line.number kind := by
  apply (mem_significant.mp h).1.mono
  intro text same
  rw [same]
  exact here

theorem lineIs_iff (counts : ∀ line, kind line → Counts line) :
    LineIs t n kind ↔ ∃ line ∈ significant t, line.number = n ∧ kind line.text := by
  constructor
  · rintro ⟨piece, numbered, here⟩
    exact ⟨⟨n, Text.trim piece⟩, mem_significant.mpr ⟨⟨piece, numbered, rfl⟩, counts _ here⟩, rfl, here⟩
  · rintro ⟨line, counted, rfl, here⟩
    exact lineIs_of_mem counted here

theorem number_bounds {line : Line} (h : line ∈ significant t) :
    1 ≤ line.number ∧ line.number ≤ t.lines.length :=
  (mem_significant.mp h).1.bounds

theorem numbers_apart {before after : List Line} (split : significant t = before ++ after)
    {a b : Line} (ha : a ∈ before) (hb : b ∈ after) : a.number < b.number := by
  have increase := numbers_increase t
  rw [split, List.map_append, List.pairwise_append] at increase
  exact increase.2.2 _ (List.mem_map_of_mem ha) _ (List.mem_map_of_mem hb)

/-- Around a line that counts, the smaller numbers are those of the lines before it, and the larger
ones those of the lines after it. -/
theorem mem_around {before after : List Line} {line : Line}
    (split : significant t = before ++ line :: after) {other : Line} (h : other ∈ significant t) :
    (other.number < line.number ↔ other ∈ before) ∧ (line.number < other.number ↔ other ∈ after) := by
  have later {a : Line} (ha : a ∈ before) : a.number < line.number :=
    numbers_apart split ha List.mem_cons_self
  have sooner {b : Line} (hb : b ∈ after) : line.number < b.number := by
    have again : significant t = (before ++ [line]) ++ after := by rw [split, List.append_cons]
    exact numbers_apart again (by simp) hb
  rw [split, List.mem_append, List.mem_cons] at h
  rcases h with inside | rfl | inside
  · have less := later inside
    refine ⟨iff_of_true less inside, iff_of_false (Nat.lt_asymm less) fun after => ?_⟩
    exact Nat.lt_asymm less (sooner after)
  · refine ⟨iff_of_false (Nat.lt_irrefl _) fun before => ?_, iff_of_false (Nat.lt_irrefl _) fun after => ?_⟩
    · exact Nat.lt_irrefl _ (later before)
    · exact Nat.lt_irrefl _ (sooner after)
  · have less := sooner inside
    refine ⟨iff_of_false (Nat.lt_asymm less) fun before => ?_, iff_of_true less inside⟩
    exact Nat.lt_asymm less (later before)

/-- Between two neighbours of the lines that count there are only blank lines and comments. -/
theorem not_lineIs_between {before after : List Line} {a b : Line}
    (split : significant t = before ++ a :: b :: after) {i : Nat} (above : a.number < i)
    (below : i < b.number) : ¬ LineIs t i Counts := by
  intro counts
  obtain ⟨line, counted, rfl, -⟩ := (lineIs_iff fun _ h => h).mp counts
  have again : significant t = (before ++ [a]) ++ b :: after := by rw [split, List.append_cons]
  have inside : line ∈ before ++ [a] := (mem_around again counted).1.mp below
  rcases List.mem_append.mp inside with earlier | same
  · exact Nat.lt_asymm above (numbers_apart split earlier List.mem_cons_self)
  · rw [List.mem_singleton.mp same] at above
    exact Nat.lt_irrefl _ above

end

/-- A line with so many other lines before the first one of its text. -/
def Line.down (n : Nat) (line : Line) : Line :=
  ⟨n + line.number, line.text⟩

theorem significant_append {t : Text} (ended : ['\n'] <:+ t) (s : Text) :
    significant (t ++ s) = significant t ++ (significant s).map (Line.down t.lines.length) := by
  have shifted : s.lines.zipIdx (1 + t.lines.length) =
      (s.lines.zipIdx 1).map fun numbered => (numbered.1, t.lines.length + numbered.2) := by
    rw [List.zipIdx_eq_map_add, List.zipIdx_eq_map_add (i := 1), List.map_map]
    refine List.map_congr_left fun numbered _ => ?_
    simp only [Function.comp_apply, Prod.mk.injEq, true_and]
    omega
  simp only [significant, Text.lines_append ended, List.zipIdx_append, List.filterMap_append, shifted,
    List.filterMap_map, List.map_filterMap]
  congr 1
  refine List.filterMap_congr fun numbered _ => ?_
  by_cases skipped : ((Text.trim numbered.1).isEmpty || isComment (Text.trim numbered.1)) = true
  · simp only [Function.comp_apply, skipped, if_true, Option.map_none]
  · simp only [Function.comp_apply, skipped]
    rfl

end ModuleText
end EndpointProfile
