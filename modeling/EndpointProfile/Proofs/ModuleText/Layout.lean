import EndpointProfile.Proofs.ModuleText.RoundTrip
import EndpointProfile.Proofs.Profile.Assembly

/-! What is read of a module depends on the lines that count only. Blank lines, comments, the blanks
around a line and the kind of its ending move the numbers of lines in faults, and nothing else. -/
namespace EndpointProfile

/-- The number of the line that a fault names. -/
def Fault.line? : Fault → Option Nat
  | .malformed n _ => some n
  | .duplicateKey _ n => some n
  | _ => none

/-- What is only found at the end of a text. -/
def Malformation.AtEnd (what : Malformation) : Prop :=
  what = .missingOpening ∨ what = .missingClosing

namespace ModuleText

/-- Two faults that differ in the numbers of lines at most. `places` pairs the numbers that stand
for each other, and `ends` those of the ends of both texts. -/
inductive Moved (places : List (Nat × Nat)) (ends : Nat × Nat) : Fault → Fault → Prop
  | placeless {f : Fault} : f.line? = none → Moved places ends f f
  | malformed {n m : Nat} {what : Malformation} : ¬ what.AtEnd → (n, m) ∈ places →
      Moved places ends (.malformed n what) (.malformed m what)
  | repeated {n m : Nat} {k : Key} : (n, m) ∈ places →
      Moved places ends (.duplicateKey k n) (.duplicateKey k m)
  | atEnd {what : Malformation} : what.AtEnd →
      Moved places ends (.malformed ends.1 what) (.malformed ends.2 what)

/-- The same result, or two faults that are related. -/
inductive Alike {α : Type} (related : Fault → Fault → Prop) :
    Except Fault α → Except Fault α → Prop
  | ok (a : α) : Alike related (.ok a) (.ok a)
  | error {f g : Fault} : related f g → Alike related (.error f) (.error g)

/-- The numbers of the lines that count in two texts: the first of one with the first of the other,
and so on. -/
def places (s t : Text) : List (Nat × Nat) :=
  ((significant s).map Line.number).zip ((significant t).map Line.number)

/-- The number under which the end of a text is reported. -/
def endOf (t : Text) : Nat :=
  max 1 t.lines.length

/-- A text on a line of each of two texts. -/
abbrev Row := (Nat × Nat) × Text

def Row.left (r : Row) : Line := ⟨r.1.1, r.2⟩

def Row.right (r : Row) : Line := ⟨r.1.2, r.2⟩

/-- Lines of the same texts are the rows of these texts. -/
theorem exists_rows {lines others : List Line} (same : lines.map Line.text = others.map Line.text) :
    ∃ rows : List Row, lines = rows.map Row.left ∧ others = rows.map Row.right ∧
      rows.map Prod.fst = (lines.map Line.number).zip (others.map Line.number) := by
  induction lines generalizing others with
  | nil =>
      obtain rfl := List.map_eq_nil_iff.mp same.symm
      exact ⟨[], rfl, rfl, rfl⟩
  | cons line lines ih =>
      obtain ⟨other, others, rfl, text, tail⟩ := List.map_eq_cons_iff.mp same.symm
      obtain ⟨rows, rfl, rfl, numbers⟩ := ih tail.symm
      refine ⟨((line.number, other.number), line.text) :: rows, rfl, ?_, by simp [numbers]⟩
      rw [← text]
      rfl

section
variable {places : List (Nat × Nat)} {ends : Nat × Nat}

theorem entry_alike {r : Row} (placed : r.1 ∈ places) :
    Alike (Moved places ends) (entry r.left) (entry r.right) := by
  have here {what : Malformation} (inside : ¬ what.AtEnd) : Alike (Moved places ends)
      (.error (.malformed r.1.1 what) : Except Fault Entry) (.error (.malformed r.1.2 what)) :=
    .error (.malformed inside placed)
  simp only [entry, Row.left, Row.right]
  cases Text.cutAt? ':' r.2 with
  | none => exact here (by simp [Malformation.AtEnd])
  | some cut =>
      obtain ⟨name, rest⟩ := cut
      simp only
      cases Key.ofName? (Text.trim name) with
      | none => exact .error (.placeless rfl)
      | some key =>
          simp only
          cases singleQuoted? (cutComma (Text.trim rest)).1 with
          | none => exact here (by simp [Malformation.AtEnd])
          | some body =>
              simp only
              cases unescape? body with
              | none => exact here (by simp [Malformation.AtEnd])
              | some raw =>
                  simp only
                  cases Literal.parse raw with
                  | ok value => exact .ok _
                  | error f => exact .error (.placeless rfl)

theorem readEnd_alike {rows : List Row} (placed : ∀ r ∈ rows, r.1 ∈ places)
    (entries : List (Key × Literal)) :
    Alike (Moved places ends) (readEnd entries (rows.map Row.left))
      (readEnd entries (rows.map Row.right)) := by
  cases rows with
  | nil => exact .ok _
  | cons r rows => exact .error (.malformed (by simp [Malformation.AtEnd]) (placed r List.mem_cons_self))

/-- Both runs keep the same entries, and the line without a comma is at the same place in both. -/
theorem readEntries_alike {rows : List Row} (placed : ∀ r ∈ rows, r.1 ∈ places)
    (entries : List (Key × Literal)) (bare : Option (Nat × Nat)) (tied : ∀ b ∈ bare, b ∈ places) :
    Alike (Moved places ends)
      (readEntries ends.1 entries (bare.map Prod.fst) (rows.map Row.left))
      (readEntries ends.2 entries (bare.map Prod.snd) (rows.map Row.right)) := by
  induction rows generalizing entries bare with
  | nil => exact .error (.atEnd (.inr rfl))
  | cons r rows ih =>
      obtain ⟨here, later⟩ := List.forall_mem_cons.mp placed
      rw [List.map_cons, List.map_cons]
      unfold readEntries
      by_cases closes : isClosing r.left.text = true
      · rw [if_pos closes, if_pos (show isClosing r.right.text = true from closes)]
        exact readEnd_alike later entries
      rw [if_neg closes, if_neg (show ¬ isClosing r.right.text = true from closes)]
      cases bare with
      | some b => exact .error (.malformed (by simp [Malformation.AtEnd]) (tied b rfl))
      | none =>
          have alike : Alike (Moved places ends) _ _ := entry_alike here
          generalize entry r.left = read, entry r.right = reread at alike
          cases alike with
          | error moved => exact .error moved
          | ok e =>
              simp only [Option.map_none]
              by_cases seen : (entries.lookup e.key).isSome = true
              · rw [if_pos seen, if_pos seen]
                exact .error (.repeated here)
              rw [if_neg seen, if_neg seen]
              cases e.comma with
              | true => exact ih later _ none (by simp)
              | false => exact ih later _ (some r.1) (by simpa using here)

theorem readLines_alike {rows : List Row} (placed : ∀ r ∈ rows, r.1 ∈ places) :
    Alike (Moved places ends) (readLines ends.1 (rows.map Row.left))
      (readLines ends.2 (rows.map Row.right)) := by
  induction rows with
  | nil => exact .error (.atEnd (.inl rfl))
  | cons r rows ih =>
      obtain ⟨here, later⟩ := List.forall_mem_cons.mp placed
      rw [List.map_cons, List.map_cons]
      unfold readLines
      by_cases directive : isDirective r.left.text = true
      · rw [if_pos directive, if_pos (show isDirective r.right.text = true from directive)]
        exact ih later
      rw [if_neg directive, if_neg (show ¬ isDirective r.right.text = true from directive)]
      by_cases opens : isOpening r.left.text = true
      · rw [if_pos opens, if_pos (show isOpening r.right.text = true from opens)]
        exact readEntries_alike later [] none (by simp)
      · rw [if_neg opens, if_neg (show ¬ isOpening r.right.text = true from opens)]
        exact .error (.malformed (by simp [Malformation.AtEnd]) here)

end

theorem scan_alike {s t : Text} (same : countedLines s = countedLines t) :
    Alike (Moved (places s t) (endOf s, endOf t)) (scan s) (scan t) := by
  rw [← significant_text, ← significant_text] at same
  obtain ⟨rows, left, right, numbers⟩ := exists_rows same
  have placed : ∀ r ∈ rows, r.1 ∈ places s t := by
    intro r hr
    rw [places, ← numbers]
    exact List.mem_map_of_mem hr
  rw [scan, scan, left, right]
  exact readLines_alike placed

/-- The entries of a module that was scanned are distinct, so no fault after that names a line. -/
theorem line?_of_scan {t : Text} {entries : List (Key × Literal)} (scanned : scan t = .ok entries)
    {f : Fault} (h : parse t = .error f) : f.line? = none := by
  rw [parse, scanned] at h
  simp only at h
  split at h
  · next g unmade =>
      obtain ⟨k, rfl⟩ := Profile.ofEntries_eq_error (scan_eq_ok.mp scanned).2 unmade
      cases h
      rfl
  · next p _ =>
      unfold Profile.validated at h
      split at h
      · next g invalid =>
          obtain ⟨k, v, rfl, -⟩ := exists_badValue_of_fault invalid
          cases h
          rfl
      · cases h

theorem parse_alike {s t : Text} (same : countedLines s = countedLines t) :
    Alike (Moved (places s t) (endOf s, endOf t)) (parse s) (parse t) := by
  have alike := scan_alike same
  cases scanned : scan s with
  | error f =>
      rw [scanned] at alike
      rw [parse, parse, scanned]
      generalize scan t = again at alike
      cases alike with
      | error moved => exact .error moved
  | ok entries =>
      have rescanned : scan t = .ok entries := by
        rw [scanned] at alike
        generalize scan t = again at alike
        cases alike with
        | ok => rfl
      have parsed : parse t = parse s := by rw [parse, parse, scanned, rescanned]
      rw [parsed]
      cases result : parse s with
      | ok p => exact .ok p
      | error f => exact .error (.placeless (line?_of_scan scanned result))

theorem significant_eq (t : Text) : significant t =
    ((t.lines.map Text.trim).zipIdx 1).filterMap fun (s, n) =>
      if s.isEmpty || isComment s then none else some ⟨n, s⟩ := by
  rw [significant, List.zipIdx_map, List.filterMap_map]
  rfl

theorem numbers_sublist (t : Text) :
    ((significant t).map Line.number).Sublist (List.range' 1 t.lines.length) := by
  rw [← List.zipIdx_map_snd 1 t.lines, significant]
  induction t.lines.zipIdx 1 with
  | nil => exact .slnil
  | cons numbered rest ih =>
      rw [List.filterMap_cons, List.map_cons]
      by_cases skipped : ((Text.trim numbered.1).isEmpty || isComment (Text.trim numbered.1)) = true
      · simp only [skipped, if_true]
        exact ih.cons _
      · simp only [skipped]
        exact ih.cons_cons _

theorem numbers_increase (t : Text) : ((significant t).map Line.number).Pairwise (· < ·) :=
  (List.pairwise_lt_range' 1).sublist (numbers_sublist t)

/-- A carriage return before every line feed. -/
def returned (t : Text) : Text :=
  t.flatMap fun c => if c = '\n' then ['\r', '\n'] else [c]

theorem splitOn_returned (t : Text) : ∃ before last, t.splitOn '\n' = before ++ [last] ∧
    (returned t).splitOn '\n' = before.map (· ++ ['\r']) ++ [last] := by
  induction t with
  | nil => exact ⟨[], [], rfl, rfl⟩
  | cons c t ih =>
      obtain ⟨before, last, pieces, again⟩ := ih
      by_cases feed : c = '\n'
      · subst feed
        refine ⟨[] :: before, last, ?_, ?_⟩
        · rw [List.splitOn_cons_eq_if_modifyHead, if_pos (beq_self_eq_true _), pieces,
            List.cons_append]
        · have start : returned ('\n' :: t) = ['\r'] ++ '\n' :: returned t := rfl
          rw [start, List.splitOn_append_cons_self_of_not_mem (by decide), again]
          rfl
      · have start : returned (c :: t) = c :: returned t := by simp [returned, feed]
        have other : ¬ (c == '\n') = true := by simpa using feed
        rw [start, List.splitOn_cons_eq_if_modifyHead, if_neg other,
          List.splitOn_cons_eq_if_modifyHead, if_neg other, pieces, again]
        cases before with
        | nil => exact ⟨[], c :: last, rfl, rfl⟩
        | cons b before => exact ⟨(c :: b) :: before, last, rfl, rfl⟩

/-- The return belongs to the ending of its line, and any other one before it is trimmed off. -/
theorem trimmed_lines_returned (t : Text) :
    (returned t).lines.map Text.trim = t.lines.map Text.trim := by
  obtain ⟨before, last, pieces, again⟩ := splitOn_returned t
  have blank (line : Text) : Text.trim (line ++ ['\r']) = Text.trim line :=
    Text.strip_surrounded (a := []) (by simp) (by simp; decide) line
  simp only [Text.lines, pieces, again, List.dropLast_concat, List.getLast?_concat, List.map_append,
    List.map_map, Function.comp_def, trim_dropReturn, blank]

/-- Two texts with the same lines that count are the same profile, or have the same fault, in which
the line of one text is replaced by the line at its place in the other, and the end of one by the
end of the other. The numbers of lines that count increase, so a number has one place. Carriage
returns before the line feeds change nothing at all. -/
theorem parse_layout :
    (∀ s t : Text, countedLines s = countedLines t →
      Alike (Moved (places s t) (endOf s, endOf t)) (parse s) (parse t)) ∧
      (∀ t : Text, ((significant t).map Line.number).Pairwise (· < ·)) ∧
      ∀ t : Text, parse (returned t) = parse t := by
  refine ⟨fun s t => parse_alike, numbers_increase, fun t => ?_⟩
  have trimmed := trimmed_lines_returned t
  have lines : (returned t).lines.length = t.lines.length := by
    simpa using congrArg List.length trimmed
  rw [parse, parse, scan, scan, significant_eq, significant_eq t, trimmed, lines]

/-- A line without its comma is found again further down. -/
theorem parse_layout_missing_comma :
    let s : Text := "module.exports = \x7b\nNODE_ENV: '\"test\"'\nBASE_API: ''"
    let t : Text := "// env\n\nmodule.exports = \x7b\r\n\t\n  NODE_ENV: '\"test\"'\n//\n BASE_API: ''\n"
    countedLines s = countedLines t ∧ places s t = [(1, 3), (2, 5), (3, 7)] ∧
      parse s = .error (.malformed 2 .missingComma) ∧
      parse t = .error (.malformed 5 .missingComma) := by
  intro s t
  have same : countedLines s = countedLines t := by decide +kernel
  have placed : places s t = [(1, 3), (2, 5), (3, 7)] := by decide +kernel
  have first : parse s = .error (.malformed 2 .missingComma) := by rfl
  have alike := parse_layout.1 s t same
  rw [first, placed] at alike
  generalize parse t = second at alike
  refine ⟨same, placed, first, ?_⟩
  cases alike with
  | error moved =>
      cases moved with
      | placeless none => cases none
      | malformed _ pair =>
          obtain rfl : _ = 5 := by simpa using pair
          rfl

end ModuleText
end EndpointProfile
