import EndpointProfile.Proofs.ModuleText.Blame
import EndpointProfile.Proofs.Profile.Provenance

/-! What becomes of a module when text is appended to it. Lines are read in their order, and only the
end of the text is noticed where it comes, so all other faults of the lines are final. -/
namespace EndpointProfile

/-- A fault that is only found at the end of a text. -/
def Fault.AtEnd (f : Fault) : Prop := ∃ n what, f = .malformed n what ∧ what.AtEnd

namespace ModuleText

/-- What a reader of lines gives, and what it gives if other lines come after these. -/
inductive Continued (rest : List Line) :
    Except Fault (List (Key × Literal)) → Except Fault (List (Key × Literal)) → Prop
  | read (entries : List (Key × Literal)) :
      Continued rest (.ok entries) (readEnd entries.reverse rest)
  | final {f : Fault} : ¬ f.AtEnd → Continued rest (.error f) (.error f)
  | openEnded {f : Fault} (result : Except Fault (List (Key × Literal))) : f.AtEnd →
      Continued rest (.error f) result

theorem not_atEnd_of_malformed {n : Nat} {what : Malformation} (h : ¬ what.AtEnd) :
    ¬ (Fault.malformed n what).AtEnd := by
  rintro ⟨m, again, same, ending⟩
  cases same
  exact h ending

theorem OfEntry.not_atEnd {n : Nat} {f : Fault} (h : OfEntry n f) : ¬ f.AtEnd := by
  rintro ⟨m, what, rfl, rfl | rfl⟩
  · exact absurd h.mem (by decide)
  · exact absurd h.mem (by decide)

section
variable {rest : List Line} {last last' : Nat}

theorem readEnd_continued (entries : List (Key × Literal)) (lines : List Line) :
    Continued rest (readEnd entries lines) (readEnd entries (lines ++ rest)) := by
  cases lines with
  | nil =>
      have read : Continued rest (.ok entries.reverse) (readEnd entries.reverse.reverse rest) :=
        .read entries.reverse
      rwa [List.reverse_reverse] at read
  | cons line lines => exact .final (not_atEnd_of_malformed (by simp [Malformation.AtEnd]))

theorem readEntries_continued (entries : List (Key × Literal)) (bare : Option Nat)
    (lines : List Line) :
    Continued rest (readEntries last entries bare lines)
      (readEntries last' entries bare (lines ++ rest)) := by
  induction lines generalizing entries bare with
  | nil => exact .openEnded _ ⟨last, .missingClosing, rfl, .inr rfl⟩
  | cons line lines ih =>
      rw [List.cons_append]
      unfold readEntries
      by_cases closes : isClosing line.text = true
      · rw [if_pos closes, if_pos closes]
        exact readEnd_continued entries lines
      rw [if_neg closes, if_neg closes]
      cases bare with
      | some n => exact .final (not_atEnd_of_malformed (by simp [Malformation.AtEnd]))
      | none =>
          cases read : entry line with
          | error f => exact .final (ofEntry_of_error read).not_atEnd
          | ok e =>
              simp only
              by_cases seen : (entries.lookup e.key).isSome = true
              · rw [if_pos seen, if_pos seen]
                apply Continued.final
                rintro ⟨_, _, same, -⟩
                cases same
              · rw [if_neg seen, if_neg seen]
                exact ih _ _

theorem readLines_continued (lines : List Line) :
    Continued rest (readLines last lines) (readLines last' (lines ++ rest)) := by
  induction lines with
  | nil => exact .openEnded _ ⟨last, .missingOpening, rfl, .inl rfl⟩
  | cons line lines ih =>
      rw [List.cons_append]
      unfold readLines
      by_cases directive : isDirective line.text = true
      · rw [if_pos directive, if_pos directive]
        exact ih
      rw [if_neg directive, if_neg directive]
      by_cases opens : isOpening line.text = true
      · rw [if_pos opens, if_pos opens]
        exact readEntries_continued [] none lines
      · rw [if_neg opens, if_neg opens]
        exact .final (not_atEnd_of_malformed (by simp [Malformation.AtEnd]))

end

section
variable {t : Text} (ended : ['\n'] <:+ t) (s : Text)
include ended

theorem scan_continued :
    Continued ((significant s).map (Line.down t.lines.length)) (scan t) (scan (t ++ s)) := by
  rw [scan, scan, significant_append ended]
  exact readLines_continued (significant t)

theorem scan_append_of_error {f : Fault} (scanned : scan t = .error f) (early : ¬ f.AtEnd) :
    scan (t ++ s) = .error f := by
  have continued := scan_continued ended s
  rw [scanned] at continued
  generalize scan (t ++ s) = again at continued
  cases continued with
  | final => rfl
  | openEnded _ late => exact absurd late early

theorem scan_append_of_ok {entries : List (Key × Literal)} (scanned : scan t = .ok entries) :
    scan (t ++ s) =
      readEnd entries.reverse ((significant s).map (Line.down t.lines.length)) := by
  have continued := scan_continued ended s
  rw [scanned] at continued
  generalize scan (t ++ s) = again at continued ⊢
  cases continued with
  | read => rfl

end

theorem significant_eq_nil {s : Text} (h : ∀ n, ¬ LineIs s n Counts) : significant s = [] := by
  apply List.eq_nil_iff_forall_not_mem.mpr
  intro line counted
  exact h line.number (lineIs_of_mem counted (counts_of_mem counted))

theorem significant_eq_cons {s : Text} {n : Nat} (here : LineIs s n Counts)
    (first : ∀ m < n, ¬ LineIs s m Counts) :
    ∃ line rest, significant s = line :: rest ∧ line.number = n := by
  obtain ⟨line, counted, rfl, -⟩ := (lineIs_iff fun _ h => h).mp here
  obtain ⟨before, rest, split⟩ := List.append_of_mem counted
  cases before with
  | nil => exact ⟨line, rest, split, rfl⟩
  | cons earlier before =>
      have shown : earlier ∈ significant s := by rw [split]; exact List.mem_cons_self
      have less := (mem_around split shown).1.mpr List.mem_cons_self
      exact absurd (lineIs_of_mem shown (counts_of_mem shown)) (first earlier.number less)

theorem scan_of_parse_ok {t : Text} {p : Profile} (h : parse t = .ok p) :
    ∃ entries, scan t = .ok entries := by
  cases scanned : scan t with
  | ok entries => exact ⟨entries, rfl⟩
  | error f =>
      rw [parse, scanned] at h
      cases h

section
variable {t : Text} (ended : ['\n'] <:+ t) {s : Text} {p : Profile}
include ended

theorem parse_append_of_silent (h : parse t = .ok p) (silent : ∀ n, ¬ LineIs s n Counts) :
    parse (t ++ s) = .ok p := by
  obtain ⟨entries, scanned⟩ := scan_of_parse_ok h
  have rescanned : scan (t ++ s) = .ok entries := by
    rw [scan_append_of_ok ended s scanned, significant_eq_nil silent, List.map_nil, readEnd,
      List.reverse_reverse]
  rw [← h, parse, parse, scanned, rescanned]

theorem parse_append_of_counts (h : parse t = .ok p) {n : Nat} (here : LineIs s n Counts)
    (first : ∀ m < n, ¬ LineIs s m Counts) :
    parse (t ++ s) = .error (.malformed (t.lines.length + n) .afterClosing) := by
  obtain ⟨entries, scanned⟩ := scan_of_parse_ok h
  obtain ⟨line, rest, shown, rfl⟩ := significant_eq_cons here first
  have rescanned := scan_append_of_ok ended s scanned
  rw [shown, List.map_cons, readEnd] at rescanned
  rw [parse, rescanned]
  rfl

end

/-- The faults of a text are those of its lines, the first key that is left out, and the first value
that does not fit. -/
theorem parse_eq_error {t : Text} {f : Fault} (h : parse t = .error f) :
    scan t = .error f ∨ (∃ k, f = .missingKey k) ∨ ∃ entries p, scan t = .ok entries ∧
      Profile.ofEntries entries = .ok p ∧ p.validated = .error f := by
  unfold parse at h
  split at h
  · next scanned =>
      cases h
      exact .inl scanned
  next entries scanned =>
  split at h
  · next unmade =>
      cases h
      exact .inr (.inl (Profile.ofEntries_eq_error (scan_eq_ok.mp scanned).2 unmade))
  · next p made => exact .inr (.inr ⟨entries, p, scanned, made, h⟩)

/-- After the end of a line, whatever is appended changes nothing about a fault that was found in the
lines before, other than one of the end of the text. A module stays what it is as long as blank lines
and comments are appended to it, and any other line is refused under its number in the whole text. -/
theorem parse_append {t : Text} (ended : ['\n'] <:+ t) (s : Text) :
    (∀ f, parse t = .error f → scan t = .error f ∨ (∃ k, f = .missingKey k) ∨
        ∃ entries p, scan t = .ok entries ∧ Profile.ofEntries entries = .ok p ∧
          p.validated = .error f) ∧
      (∀ f, scan t = .error f → ¬ f.AtEnd → parse t = .error f ∧ parse (t ++ s) = .error f) ∧
      ∀ p, parse t = .ok p → (t ++ s).lines = t.lines ++ s.lines ∧
        ((∀ n, ¬ LineIs s n Counts) → parse (t ++ s) = .ok p) ∧
        ∀ n, LineIs s n Counts → (∀ m < n, ¬ LineIs s m Counts) →
          parse (t ++ s) = .error (.malformed (t.lines.length + n) .afterClosing) := by
  refine ⟨fun f => parse_eq_error, fun f scanned early => ?_, fun p h => ?_⟩
  · have rescanned := scan_append_of_error ended s scanned early
    exact ⟨by rw [parse, scanned], by rw [parse, rescanned]⟩
  · refine ⟨Text.lines_append ended s, parse_append_of_silent ended h, fun n here first => ?_⟩
    exact parse_append_of_counts ended h here first

/-- A statement after a comment, appended to a text that has a fault and to a module. -/
theorem parse_append_statement :
    let t : Text := "module.exports = \x7b\n  BASE_API: x\n"
    let comment : Text := "\n// end\r\n"
    let statement : Text := "\n// end\nexit()"
    (['\n'] <:+ t ∧ scan t = .error (.malformed 2 .notQuoted) ∧
        parse (t ++ statement) = .error (.malformed 2 .notQuoted)) ∧
      ['\n'] <:+ render .test ∧ parse (render .test) = .ok .test ∧
        parse (render .test ++ comment) = .ok .test ∧ LineIs statement 3 Counts ∧
        parse (render .test ++ statement) =
          .error (.malformed ((render .test).lines.length + 3) .afterClosing) := by
  intro t comment statement
  have ended : ['\n'] <:+ t := ⟨"module.exports = \x7b\n  BASE_API: x".toList, rfl⟩
  have scanned : scan t = .error (.malformed 2 .notQuoted) := rfl
  have early : ¬ (Fault.malformed 2 .notQuoted).AtEnd :=
    not_atEnd_of_malformed (by simp [Malformation.AtEnd])
  have closed : ['\n'] <:+ render .test := List.suffix_append _ _
  have parsed := parse_render_valid Profile.valid_test
  have silent : ∀ n, ¬ LineIs comment n Counts := by
    intro n counts
    obtain ⟨line, counted, -⟩ := (lineIs_iff fun _ h => h).mp counts
    exact absurd counted List.not_mem_nil
  have here : LineIs statement 3 Counts := ⟨"exit()", by decide, by decide⟩
  have first : ∀ m < 3, ¬ LineIs statement m Counts := by
    intro m less counts
    obtain ⟨line, counted, rfl, -⟩ := (lineIs_iff fun _ h => h).mp counts
    obtain rfl : line = ⟨3, "exit()"⟩ := List.mem_singleton.mp counted
    exact absurd less (by decide)
  obtain ⟨-, whole, -⟩ := (parse_append closed comment).2.2 .test parsed
  exact ⟨⟨ended, scanned, ((parse_append ended statement).2.1 _ scanned early).2⟩, closed, parsed,
    whole silent, here, ((parse_append closed statement).2.2 .test parsed).2.2 3 here first⟩

end ModuleText
end EndpointProfile
