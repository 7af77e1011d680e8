import EndpointProfile.Proofs.ModuleText.Lines

/-! What is left of a script without its comments, and how it depends on the lines of the script. -/
namespace EndpointProfile.ModuleText
open Text (Only compact compact_append compact_cons_of_blank compact_of_blank trim_cons_of_blank)

/-- The characters that end a line of a script, and with it a comment. -/
def isTerminator (c : Char) : Bool :=
  c = '\n' || c = '\r' || c = '\u2028' || c = '\u2029'

/-- What a character of a script is part of. -/
inductive Place where
  | code
  | comment
  | quoted (quote : Char)

/-- What is left of a script without its comments. No comment starts between quotes, where a
backslash hides the character after it and a line break ends the text in any case. -/
def uncommented : Place → Text → Text
  | _, [] => []
  | .code, '/' :: '/' :: t => uncommented .comment t
  | .code, c :: t => c :: uncommented (if c = '\'' ∨ c = '"' then .quoted c else .code) t
  | .comment, c :: t => if isTerminator c then c :: uncommented .code t else uncommented .comment t
  | .quoted q, '\\' :: c :: t => '\\' :: c :: uncommented (.quoted q) t
  | .quoted q, c :: t =>
    c :: uncommented (if c = q ∨ c = '\n' ∨ c = '\r' then .code else .quoted q) t

/-- Characters that neither start a comment nor stand at the ends of quoted text. -/
def isPlain (c : Char) : Bool :=
  c ≠ '/' && c ≠ '\'' && c ≠ '"'

section
variable {c : Char} {t : Text}

theorem uncommented_code (h : ¬ ['/', '/'] <+: c :: t) : uncommented .code (c :: t) =
    c :: uncommented (if c = '\'' ∨ c = '"' then .quoted c else .code) t := by
  refine uncommented.eq_3 c t fun rest slash again => h ?_
  rw [slash, again]
  exact ⟨rest, rfl⟩

theorem uncommented_plain (plain : isPlain c = true) (t : Text) :
    uncommented .code (c :: t) = c :: uncommented .code t := by
  simp only [isPlain, Bool.and_eq_true, decide_eq_true_iff] at plain
  obtain ⟨⟨slash, single⟩, double⟩ := plain
  have code : ¬ ['/', '/'] <+: c :: t := fun h => slash (List.cons_prefix_cons.mp h).1.symm
  rw [uncommented_code code, if_neg (not_or.mpr ⟨single, double⟩)]

theorem uncommented_terminator (h : isTerminator c = true) (t : Text) :
    uncommented .comment (c :: t) = c :: uncommented .code t := by
  rw [uncommented, if_pos h]

theorem uncommented_comment (h : isTerminator c = false) (t : Text) :
    uncommented .comment (c :: t) = uncommented .comment t := by
  rw [uncommented, h]
  rfl

theorem uncommented_quoted {q : Char} (backslash : c ≠ '\\') (t : Text) :
    uncommented (.quoted q) (c :: t) =
      c :: uncommented (if c = q ∨ c = '\n' ∨ c = '\r' then .code else .quoted q) t :=
  uncommented.eq_6 q c t fun _ _ same _ => backslash same

end

/-- Code that is left as it is, whatever comes after it, and is followed by code. -/
def Kept (code : Text) : Prop :=
  ∀ rest, uncommented .code (code ++ rest) = code ++ uncommented .code rest

theorem Kept.nil : Kept [] := fun _ => rfl

theorem Kept.append {s t : Text} (hs : Kept s) (ht : Kept t) : Kept (s ++ t) := fun rest => by
  rw [List.append_assoc, hs, ht, List.append_assoc]

theorem kept_of_plain {t : Text} (h : Only isPlain t) : Kept t := by
  induction t with
  | nil => exact .nil
  | cons c t ih =>
      obtain ⟨plain, later⟩ := Text.only_cons.mp h
      intro rest
      rw [List.cons_append, uncommented_plain plain, ih later, List.cons_append]

theorem plain_of_blank {c : Char} (blank : isBlank c = true) : isPlain c = true := by
  simp only [isPlain, Bool.and_eq_true, decide_eq_true_iff]
  refine ⟨⟨?_, ?_⟩, ?_⟩
  all_goals
    rintro rfl
    exact absurd blank (by decide)

theorem kept_of_blank {space : Text} (blank : Only isBlank space) : Kept space :=
  kept_of_plain fun c hc => plain_of_blank (blank c hc)

theorem isBlank_of_isTerminator {c : Char} (h : isTerminator c = true) : isBlank c = true := by
  simp only [isTerminator, Bool.or_eq_true, decide_eq_true_iff] at h
  rcases h with ((rfl | rfl) | rfl) | rfl <;> decide

theorem uncommented_of_blank {c : Char} (h : isBlank c = true) (t : Text) :
    uncommented .code (c :: t) = c :: uncommented .code t :=
  kept_of_blank (Text.only_cons.mpr ⟨h, Text.only_nil _⟩) t

/-- Where the characters of a script go on: a comment starts, there is a blank, or something is
left of them. -/
theorem code_cases (c : Char) (t : Text) :
    (∃ body, c :: t = '/' :: '/' :: body) ∨ isBlank c = true ∨
      isBlank c = false ∧ ¬ ['/', '/'] <+: c :: t := by
  by_cases comment : ['/', '/'] <+: c :: t
  · obtain ⟨body, same⟩ := comment
    exact .inl ⟨body, same.symm⟩
  · cases blank : isBlank c with
    | true => exact .inr (.inl rfl)
    | false => exact .inr (.inr ⟨rfl, comment⟩)

theorem compact_uncommented_ne_nil {c : Char} {t : Text} (dark : isBlank c = false)
    (code : ¬ ['/', '/'] <+: c :: t) : compact (uncommented .code (c :: t)) ≠ [] := by
  rw [uncommented_code code]
  simp [compact, dark]

theorem uncommented_slashes (t : Text) :
    uncommented .code ('/' :: '/' :: t) = uncommented .comment ('/' :: t) := by
  rw [uncommented_comment (by decide), uncommented]

theorem counts_trim {c : Char} {t : Text} (dark : isBlank c = false)
    (code : ¬ ['/', '/'] <+: c :: t) : Counts (Text.trim (c :: t)) := by
  have never {u : Text} (blank : Only isBlank (c :: u)) : False := by
    rw [(Text.only_cons.mp blank).1] at dark
    cases dark
  obtain ⟨a, z, ha, hz, same, -⟩ := Text.trim_eq_iff.mp (rfl : Text.trim (c :: t) = _)
  cases a with
  | cons d a =>
      obtain ⟨rfl, -⟩ := List.cons.inj same
      exact (never ha).elim
  | nil =>
      refine ⟨fun empty => ?_, fun comment => code (comment.trans ⟨z, same.symm⟩)⟩
      rw [empty, List.append_nil, List.nil_append] at same
      subst same
      exact never hz

theorem slashes_prefix_trim (t : Text) : ['/', '/'] <+: Text.trim ('/' :: '/' :: t) :=
  ⟨Text.trimEnd t, (Text.trim_append (s := ['/', '/']) (by decide) (by simp) t).symm⟩

theorem not_counts_slashes (t : Text) : ¬ Counts (Text.trim ('/' :: '/' :: t)) :=
  fun counts => counts.2 (slashes_prefix_trim t)

theorem splitOnP_cons {c : Char} (inside : isTerminator c = false) (t : Text) :
    ∃ part rest, t.splitOnP isTerminator = part :: rest ∧
      (c :: t).splitOnP isTerminator = (c :: part) :: rest := by
  obtain ⟨part, rest, split⟩ := List.exists_cons_of_ne_nil (List.splitOnP_ne_nil isTerminator t)
  refine ⟨part, rest, split, ?_⟩
  rw [List.splitOnP_cons_eq_if_modifyHead, inside, if_neg Bool.false_ne_true, split,
    List.modifyHead_cons]

theorem prefix_of_splitOnP {t first : Text} {rest : List Text}
    (h : t.splitOnP isTerminator = first :: rest) : first <+: t := by
  induction t generalizing first rest with
  | nil =>
      rw [List.splitOnP_nil] at h
      obtain ⟨rfl, -⟩ := List.cons.inj h
      exact List.prefix_refl []
  | cons c t ih =>
      cases ends : isTerminator c with
      | true =>
          rw [List.splitOnP_cons_eq_if_modifyHead, if_pos ends] at h
          obtain ⟨rfl, -⟩ := List.cons.inj h
          exact List.nil_prefix
      | false =>
          obtain ⟨part, _, split, more⟩ := splitOnP_cons ends t
          obtain ⟨rfl, -⟩ := List.cons.inj (h.symm.trans more)
          exact List.cons_prefix_cons.mpr ⟨rfl, ih split⟩

/-- Whether parts of a text are all blank or comments. -/
def Mute (parts : List Text) : Prop := ∀ part ∈ parts, ¬ Counts (Text.trim part)

theorem mute_cons {part : Text} {parts : List Text} :
    Mute (part :: parts) ↔ ¬ Counts (Text.trim part) ∧ Mute parts := List.forall_mem_cons

/-- Nothing is left of a script exactly if all that stands between its terminators is blank or a
comment. Where it starts inside of a comment, this goes for all but the end of this comment. -/
theorem compact_uncommented_eq_nil (t : Text) :
    (compact (uncommented .code t) = [] ↔ Mute (t.splitOnP isTerminator)) ∧
      (compact (uncommented .comment t) = [] ↔ Mute (t.splitOnP isTerminator).tail) := by
  induction t with
  | nil =>
      rw [List.splitOnP_nil, mute_cons]
      have empty : Mute [] := List.forall_mem_nil _
      exact ⟨iff_of_true rfl ⟨by decide, empty⟩, iff_of_true rfl empty⟩
  | cons c t ih =>
      obtain ⟨code, comment⟩ := ih
      cases ends : isTerminator c with
      | true =>
          have blank := isBlank_of_isTerminator ends
          have empty : ¬ Counts (Text.trim []) := by decide
          have more : Mute ([] :: t.splitOnP isTerminator) ↔ Mute (t.splitOnP isTerminator) :=
            mute_cons.trans (and_iff_right empty)
          rw [List.splitOnP_cons_eq_if_modifyHead, if_pos ends, uncommented_of_blank blank,
            uncommented_terminator ends, compact_cons_of_blank blank, code, more]
          exact ⟨Iff.rfl, Iff.rfl⟩
      | false =>
          obtain ⟨first, rest, parts, more⟩ := splitOnP_cons ends t
          rw [parts] at code comment
          rw [more, uncommented_comment ends]
          refine ⟨?_, comment⟩
          rw [mute_cons]
          rcases code_cases c t with ⟨body, same⟩ | blank | ⟨dark, none⟩
          · obtain ⟨rfl, rfl⟩ := List.cons.inj same
            -- both slashes are in the first part, so that this part is a comment
            obtain ⟨part, _, -, again⟩ := splitOnP_cons ends body
            obtain ⟨rfl, -⟩ := List.cons.inj (parts.symm.trans again)
            rw [uncommented_slashes, comment, and_iff_right (not_counts_slashes part)]
            rfl
          · rw [uncommented_of_blank blank, compact_cons_of_blank blank, trim_cons_of_blank blank,
              code, mute_cons]
          · have shown : Counts (Text.trim (c :: first)) := counts_trim dark fun comment =>
              none (comment.trans (List.cons_prefix_cons.mpr ⟨rfl, prefix_of_splitOnP parts⟩))
            exact iff_of_false (compact_uncommented_ne_nil dark none) fun mute => mute.1 shown

/-- A text of which the same is left after code and inside of a comment. -/
def Neutral (t : Text) : Prop :=
  compact (uncommented .comment t) = compact (uncommented .code t)

theorem neutral_nil : Neutral [] := rfl

theorem Neutral.cons {c : Char} {t : Text} (h : Neutral t) (blank : isBlank c = true) :
    Neutral (c :: t) := by
  rw [Neutral, uncommented_of_blank blank, compact_cons_of_blank blank]
  cases ends : isTerminator c with
  | true => rw [uncommented_terminator ends, compact_cons_of_blank blank]
  | false =>
      rw [uncommented_comment ends]
      exact h

theorem Neutral.append {space t : Text} (h : Neutral t) (blank : Only isBlank space) :
    Neutral (space ++ t) := by
  induction space with
  | nil => exact h
  | cons c space ih =>
      obtain ⟨first, later⟩ := Text.only_cons.mp blank
      exact (ih later).cons first

theorem neutral_feed (t : Text) : Neutral ('\n' :: t) := rfl

/-- Text of which nothing is left may stand before any text that is neutral. -/
theorem compact_uncommented_append {u : Text} (neutral : Neutral u) (t : Text) :
    (compact (uncommented .code t) = [] →
      compact (uncommented .code (t ++ u)) = compact (uncommented .code u)) ∧
    (compact (uncommented .comment t) = [] →
      compact (uncommented .comment (t ++ u)) = compact (uncommented .code u)) := by
  induction t with
  | nil => exact ⟨fun _ => rfl, fun _ => neutral⟩
  | cons c t ih =>
      obtain ⟨afterCode, afterComment⟩ := ih
      rw [List.cons_append]
      constructor
      · intro nothing
        rcases code_cases c t with ⟨body, same⟩ | blank | ⟨dark, none⟩
        · obtain ⟨rfl, rfl⟩ := List.cons.inj same
          rw [uncommented_slashes] at nothing
          rw [List.cons_append, uncommented_slashes]
          exact afterComment nothing
        · rw [uncommented_of_blank blank, compact_cons_of_blank blank] at nothing ⊢
          exact afterCode nothing
        · exact absurd nothing (compact_uncommented_ne_nil dark none)
      · cases ends : isTerminator c with
        | true =>
            have blank := isBlank_of_isTerminator ends
            rw [uncommented_terminator ends, uncommented_terminator ends,
              compact_cons_of_blank blank, compact_cons_of_blank blank]
            exact afterCode
        | false =>
            rw [uncommented_comment ends, uncommented_comment ends]
            exact afterComment

/-- What is left of a line or of some lines, whatever comes after their end. -/
def Leaves (t left : Text) : Prop :=
  ∀ rest, Neutral rest →
    compact (uncommented .code (t ++ rest)) = left ++ compact (uncommented .code rest)

theorem Leaves.eq {t left : Text} (h : Leaves t left) : compact (uncommented .code t) = left := by
  have nothing : compact (uncommented .code []) = [] := rfl
  simpa [nothing] using h [] neutral_nil

theorem Leaves.append {s t left right : Text} (hs : Leaves s left) (ht : Leaves t right) :
    Leaves (s ++ '\n' :: t) (left ++ right) := fun rest neutral => by
  have feed : isBlank '\n' = true := by decide
  rw [List.append_assoc, List.cons_append, hs _ (neutral_feed _), uncommented_of_blank feed,
    compact_cons_of_blank feed, ht rest neutral, List.append_assoc]

theorem leaves_of_kept {piece : Text} (h : Kept (Text.trim piece)) :
    Leaves piece (compact (Text.trim piece)) := fun rest _ => by
  obtain ⟨a, z, ha, hz, same, -⟩ := Text.trim_eq_iff.mp (rfl : Text.trim piece = _)
  have kept : Kept piece := by
    rw [same]
    exact ((kept_of_blank ha).append h).append (kept_of_blank hz)
  have shown : compact piece = compact (Text.trim piece) := by
    conv_lhs => rw [same]
    rw [compact_append, compact_append, compact_of_blank ha, compact_of_blank hz, List.nil_append,
      List.append_nil]
  rw [kept, compact_append, shown]

theorem leaves_nothing {piece : Text} (h : compact (uncommented .code (Text.trim piece)) = []) :
    Leaves piece [] := fun rest neutral => by
  obtain ⟨a, z, ha, hz, same, -⟩ := Text.trim_eq_iff.mp (rfl : Text.trim piece = _)
  rw [same, List.append_assoc, List.append_assoc, kept_of_blank ha, compact_append,
    compact_of_blank ha, (compact_uncommented_append (neutral.append hz) _).1 h,
    kept_of_blank hz, compact_append, compact_of_blank hz]
  rfl

theorem leaves_intercalate {pieces : List Text} {left : Text → Text}
    (leaves : ∀ piece ∈ pieces, Leaves piece (left piece)) :
    Leaves (['\n'].intercalate pieces) (pieces.flatMap left) := by
  induction pieces with
  | nil => exact fun _ _ => rfl
  | cons piece pieces ih =>
      obtain ⟨here, later⟩ := List.forall_mem_cons.mp leaves
      cases pieces with
      | nil => simpa [List.intercalate] using here
      | cons next pieces =>
          have split : ['\n'].intercalate (piece :: next :: pieces) =
              piece ++ '\n' :: ['\n'].intercalate (next :: pieces) := by simp [List.intercalate]
          rw [split, List.flatMap_cons]
          exact here.append (ih later)

theorem flatMap_compact_eq (t : Text) :
    ((t.splitOn '\n').flatMap fun piece =>
      if Counts (Text.trim piece) then compact (Text.trim piece) else []) =
        compact (countedLines t).flatten := by
  rw [countedLines]
  induction t.splitOn '\n' with
  | nil => rfl
  | cons piece pieces ih =>
      rw [List.flatMap_cons, List.map_cons, List.filter_cons, ih]
      by_cases counts : Counts (Text.trim piece)
      · simp [counts, compact_append]
      · simp [counts]

/-- What is left of lines that are kept or of which nothing is left. -/
theorem leaves_countedLines {t : Text}
    (leaves : ∀ piece ∈ t.splitOn '\n',
      Leaves piece (if Counts (Text.trim piece) then compact (Text.trim piece) else [])) :
    Leaves t (compact (countedLines t).flatten) := by
  have lines := leaves_intercalate leaves
  rw [List.intercalate_splitOn, flatMap_compact_eq] at lines
  exact lines

end EndpointProfile.ModuleText
