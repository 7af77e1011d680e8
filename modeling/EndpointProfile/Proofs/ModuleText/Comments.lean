import EndpointProfile.CommandLine.Run
import EndpointProfile.Proofs.ModuleText.RoundTrip
import EndpointProfile.Proofs.ModuleText.Script
import EndpointProfile.Proofs.Profile.Provenance

/-! What runs of a module that was read. A comment of a script ends at any of four terminators, but
a line ends at a line feed only. What comes after another terminator in a comment line is therefore
skipped here and yet runs. -/
namespace EndpointProfile.ModuleText
open Text (Only compact)

/-- The comment lines of a text, trimmed. -/
def comments (t : Text) : List Text :=
  ((t.splitOn '\n').map Text.trim).filter isComment

/-- What stands after a terminator of a comment line and is neither blank nor a comment again. -/
def hidden (line : Text) : List Text :=
  ((line.splitOnP isTerminator).tail.map Text.trim).filter Counts

theorem kept_semicolons (n : Nat) : Kept (List.replicate n ';') :=
  kept_of_plain fun c hc => by
    rw [List.eq_of_mem_replicate hc]
    rfl

/-- Where a text without line breaks can be read from between quotes, the quotes end there. -/
theorem uncommented_standsFor {body raw : Text} (h : StandsFor body raw)
    (lf : '\n' ∉ raw) (cr : '\r' ∉ raw) (rest : Text) :
    uncommented (.quoted '\'') (body ++ '\'' :: rest) = body ++ '\'' :: uncommented .code rest := by
  induction h with
  | nil => rfl
  | @plain c body raw quote backslash _ ih =>
      rw [List.mem_cons, not_or] at lf cr
      have inside : ¬ (c = '\'' ∨ c = '\n' ∨ c = '\r') :=
        not_or.mpr ⟨quote, not_or.mpr ⟨Ne.symm lf.1, Ne.symm cr.1⟩⟩
      rw [List.cons_append, uncommented_quoted backslash, if_neg inside, ih lf.2 cr.2,
        List.cons_append]
  | pair _ _ ih =>
      rw [List.mem_cons, not_or] at lf cr
      rw [List.cons_append, List.cons_append, uncommented, ih lf.2 cr.2]
      rfl

theorem kept_of_standsFor {body raw : Text} (h : StandsFor body raw) (lf : '\n' ∉ raw)
    (cr : '\r' ∉ raw) : Kept ('\'' :: (body ++ ['\''])) := fun rest => by
  have quote : uncommented .code ('\'' :: (body ++ '\'' :: rest)) =
      '\'' :: uncommented (.quoted '\'') (body ++ '\'' :: rest) := rfl
  simpa [quote] using uncommented_standsFor h lf cr rest

theorem kept_of_isStrict {line : Text} (h : IsStrict line) : Kept line := by
  cases h with
  | single n =>
      have words : Kept "'use strict'".toList := fun _ => rfl
      exact words.append (kept_semicolons n)
  | double n =>
      have words : Kept "\"use strict\"".toList := fun _ => rfl
      exact words.append (kept_semicolons n)

theorem kept_of_opens {line : Text} (h : Opens line) : Kept line := by
  refine kept_of_plain fun c hc => ?_
  by_cases blank : isBlank c = true
  · exact plain_of_blank blank
  · have letter : c ∈ "module.exports=\x7b".toList :=
      h ▸ List.mem_filter.mpr ⟨hc, by simpa using blank⟩
    have plain : "module.exports=\x7b".toList.all isPlain = true := rfl
    exact List.all_eq_true.mp plain c letter

theorem kept_of_closes {line : Text} (h : Closes line) : Kept line := by
  obtain ⟨n, rfl⟩ := h
  have brace : Kept ['\x7d'] := fun _ => rfl
  exact brace.append (kept_semicolons n)

theorem kept_of_maps {k : Key} {l : Literal} {comma : Bool} {line : Text}
    (h : Maps k l comma line) : Kept line := by
  cases h with
  | @intro gap space body raw ending blankGap blankSpace stands parsed ends =>
      obtain rfl := Literal.parse_eq_ok.mp parsed
      obtain ⟨lf, cr⟩ := Literal.no_break_of_flawless l.flawless
      have name : k.name.all isPlain = true := by cases k <;> rfl
      have colon : Kept [':'] := fun _ => rfl
      have value : Kept ('\'' :: (body ++ ['\''])) :=
        kept_of_standsFor stands (by simp [Literal.raw, lf]) (by simp [Literal.raw, cr])
      have last : Kept ending := by
        cases ends with
        | bare => exact .nil
        | comma blank => exact (kept_of_blank blank).append fun _ => rfl
      have whole := ((kept_of_plain (List.all_eq_true.mp name)).append (kept_of_blank blankGap)).append
        (colon.append ((kept_of_blank blankSpace).append (value.append last)))
      simpa using whole

theorem kept_of_mapLines {pairs : List (Key × Literal)} {lines : List Text}
    (h : MapLines pairs lines) : ∀ line ∈ lines, Kept line := fun line hl => by
  obtain ⟨k, l, comma, maps⟩ := h.maps line hl
  exact kept_of_maps maps

/-- No line of a module that was read has a comment in it, and none leaves a quote open. -/
theorem kept_of_holds {pairs : List (Key × Literal)} {lines : List Text}
    (h : Holds pairs lines) : ∀ line ∈ lines, Kept line := by
  induction h with
  | opened opens maps closes =>
      refine List.forall_mem_cons.mpr ⟨kept_of_opens opens, List.forall_mem_append.mpr ⟨?_, ?_⟩⟩
      · exact kept_of_mapLines maps
      · exact List.forall_mem_singleton.mpr (kept_of_closes closes)
  | strict strict _ ih => exact List.forall_mem_cons.mpr ⟨kept_of_isStrict strict, ih⟩

theorem hidden_eq_nil_iff {line : Text} (comment : isComment line = true) :
    hidden line = [] ↔ compact (uncommented .code line) = [] := by
  obtain ⟨body, rfl⟩ := isComment_eq_true.mp comment
  have slash : isTerminator '/' = false := by decide
  obtain ⟨first, rest, parts, more⟩ := splitOnP_cons slash ('/' :: body)
  calc hidden ('/' :: '/' :: body) = []
      ↔ Mute (('/' :: '/' :: body).splitOnP isTerminator).tail := by
        rw [hidden, List.filter_eq_nil_iff, List.forall_mem_map]
        simp only [decide_eq_true_iff, Mute]
    _ ↔ Mute (('/' :: body).splitOnP isTerminator).tail := by
        rw [more, parts, List.tail_cons, List.tail_cons]
    _ ↔ compact (uncommented .comment ('/' :: body)) = [] :=
        (compact_uncommented_eq_nil ('/' :: body)).2.symm
    _ ↔ compact (uncommented .code ('/' :: '/' :: body)) = [] := by rw [uncommented_slashes]

/-- Of each line of a module that was read just what counts is left, if no comment line hides
anything. -/
theorem leaves_of_parse {t : Text} {p : Profile} (h : parse t = .ok p)
    (shown : ∀ line ∈ comments t, hidden line = []) : ∀ piece ∈ t.splitOn '\n',
      Leaves piece (if Counts (Text.trim piece) then compact (Text.trim piece) else []) := by
  obtain ⟨pairs, holds, -⟩ := (parse_eq_ok_iff t p).mp h
  have kept := kept_of_holds holds
  intro piece hp
  have mem : Text.trim piece ∈ (t.splitOn '\n').map Text.trim := List.mem_map_of_mem hp
  by_cases counts : Counts (Text.trim piece)
  · rw [if_pos counts]
    exact leaves_of_kept (kept _ (List.mem_filter.mpr ⟨mem, decide_eq_true counts⟩))
  · rw [if_neg counts]
    refine leaves_nothing ?_
    rcases Bool.or_eq_true_iff.mp (not_counts_iff.mp counts) with empty | comment
    · rw [List.isEmpty_iff.mp empty]
      rfl
    · have listed : Text.trim piece ∈ comments t := List.mem_filter.mpr ⟨mem, comment⟩
      exact (hidden_eq_nil_iff comment).mp (shown _ listed)

/-- Only the lines that count decide whether a text is read, and as what. -/
theorem parse_congr {t t' : Text} (same : countedLines t = countedLines t') (p : Profile) :
    parse t = .ok p ↔ parse t' = .ok p := by
  rw [parse_eq_ok_iff, parse_eq_ok_iff, same]

/-- A text with a comment line in place of a line feed. -/
def withComment (before body after : Text) : Text :=
  before ++ '\n' :: ('/' :: '/' :: body ++ '\n' :: after)

section
variable {body : Text}

theorem splitOn_withComment (before after : Text) (line : '\n' ∉ body) :
    (withComment before body after).splitOn '\n' =
      before.splitOn '\n' ++ ('/' :: '/' :: body) :: after.splitOn '\n' := by
  have single : '\n' ∉ '/' :: '/' :: body := by simp [line]
  rw [withComment, List.splitOn_append_cons_self,
    List.splitOn_append_cons_self_of_not_mem single]

theorem countedLines_withComment (before after : Text) (line : '\n' ∉ body) :
    countedLines (withComment before body after) = countedLines (before ++ '\n' :: after) := by
  rw [countedLines, countedLines, splitOn_withComment before after line,
    List.splitOn_append_cons_self]
  simp [not_counts_slashes]

theorem mem_comments (before after : Text) (line : '\n' ∉ body) :
    Text.trim ('/' :: '/' :: body) ∈ comments (withComment before body after) := by
  rw [comments, splitOn_withComment before after line]
  exact List.mem_filter.mpr ⟨by simp, isComment_eq_true.mpr (slashes_prefix_trim body)⟩

end

/-- Of a module that was read just the lines that count are left, if no comment line hides anything.
A comment line hides nothing exactly if nothing is left of it. But any comment line may be put in
any place: the module is read as before, and what is left of the comment stands in that place. -/
theorem uncommented_of_parse {t : Text} {p : Profile} (h : parse t = .ok p) :
    ((∀ line ∈ comments t, hidden line = []) →
      compact (uncommented .code t) = compact (countedLines t).flatten) ∧
    (∀ line ∈ comments t, hidden line = [] ↔ compact (uncommented .code line) = []) ∧
    ∀ before body after : Text, t = before ++ '\n' :: after → '\n' ∉ body →
      parse (withComment before body after) = .ok p ∧
        ((∀ line ∈ comments t, hidden line = []) → ∀ left, Leaves ('/' :: '/' :: body) left →
          compact (uncommented .code (withComment before body after)) =
            compact (countedLines before).flatten ++
              (left ++ compact (countedLines after).flatten)) := by
  refine ⟨fun shown => ?_, ?_, ?_⟩
  · exact (leaves_countedLines (leaves_of_parse h shown)).eq
  · exact fun line hl => hidden_eq_nil_iff (List.mem_filter.mp hl).2
  · rintro before body after rfl line
    refine ⟨(parse_congr (countedLines_withComment before after line) p).mpr h, ?_⟩
    intro shown left comment
    have lines := leaves_of_parse h shown
    rw [List.splitOn_append_cons_self, List.forall_mem_append] at lines
    exact ((leaves_countedLines lines.1).append (comment.append (leaves_countedLines lines.2))).eq

/-- The module of a profile without the line feed at its end. -/
def unended (p : Profile) : Text :=
  useStrict ++ "\n" ++ opening ++ "\n" ++
    Text.join ",\n" (p.entries.map fun (k, l) => entryText k l) ++ "\n" ++ closing

theorem render_eq_unended (p : Profile) : render p = unended p ++ '\n' :: [] := rfl

/-- The test module is read with a comment after it that ends at a carriage return, and what comes
after this is left. -/
theorem uncommented_of_test_module :
    let note : Text := " end\rmodule.exports.extra = 1"
    parse (render .test) = .ok .test ∧
      parse (withComment (unended .test) note []) = .ok .test ∧
      compact (uncommented .code (withComment (unended .test) note [])) =
        compact (countedLines (unended .test)).flatten ++ "module.exports.extra=1".toList := by
  intro note
  have read := parse_render_valid Profile.valid_test
  have none : comments (render .test) = [] := by decide +kernel
  have left : Leaves ('/' :: '/' :: note) "module.exports.extra=1".toList := fun _ _ => rfl
  obtain ⟨-, -, comment⟩ := uncommented_of_parse read
  obtain ⟨again, run⟩ := comment _ note [] (render_eq_unended .test) (by decide)
  have whole := run (by simp [none]) _ left
  have nothing : compact (countedLines []).flatten = [] := by decide
  rw [nothing, List.append_nil] at whole
  exact ⟨read, again, whole⟩

theorem exists_comment {p : Profile} (valid : p.fault? = none) {body : Text} (line : '\n' ∉ body) :
    ∃ t, parse t = .ok p ∧ Text.trim ('/' :: '/' :: body) ∈ comments t := by
  have read := parse_render_valid valid
  rw [render_eq_unended] at read
  exact ⟨withComment (unended p) body [],
    (parse_congr (countedLines_withComment _ [] line) p).mpr read, mem_comments _ [] line⟩

theorem code_of_parse {text : Text} (h : parse text = .ok .test) :
    (CommandLine.run (fun _ => .ok text) none ["--check", "env.js"]).code = 0 := by
  have same : check text .test = .ok [] := by
    rw [check, h]
    exact congrArg Except.ok (Profile.differences_eq_nil.mpr rfl)
  have performed : CommandLine.run (fun _ => .ok text) none ["--check", "env.js"] =
      CommandLine.check (fun _ => .ok text) "env.js" "test" .test := rfl
  rw [performed, CommandLine.check]
  simp only [same]

/-- A statement after a carriage return is hidden in a comment, also where the command checks the
module and finds no difference. -/
theorem comments_hide_code :
    (¬ ∀ (t : Text) (p : Profile), parse t = .ok p → ∀ line ∈ comments t, hidden line = []) ∧
    ¬ ∀ text : Text, (CommandLine.run (fun _ => .ok text) none ["--check", "env.js"]).code = 0 →
      ∀ line ∈ comments text, hidden line = [] := by
  let note : Text := " end\rmodule.exports.extra = 1"
  have single : '\n' ∉ note := by decide
  have code : hidden (Text.trim ('/' :: '/' :: note)) ≠ [] := by decide
  obtain ⟨t, read, mem⟩ := exists_comment Profile.valid_test single
  constructor
  · exact fun shown => code (shown t .test read _ mem)
  · exact fun shown => code (shown t (code_of_parse read) _ mem)

end EndpointProfile.ModuleText
