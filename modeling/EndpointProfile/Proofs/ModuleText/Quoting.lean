import EndpointProfile.Proofs.ModuleText.Escape
import Mathlib.Algebra.Ring.Parity
import Mathlib.Data.List.DropRight

/-! Where single quotes end, and what stands between them. A quoted text ends at its first
apostrophe after an even number of backslashes, and an escaped text has no such apostrophe. The
texts that can be read are the sequences of certain items. What is read of them and escaped again
has the same items, but for the double quotes that had a backslash before them. -/
namespace EndpointProfile.ModuleText

/-- Whether the character after a text is hidden, if `hidden` says so of its first one. A backslash
hides the next character unless it is hidden itself. -/
def hides (hidden : Bool) (t : Text) : Bool :=
  t.foldl (fun hidden c => !hidden && c = '\\') hidden

/-- The length of the run of backslashes at the end of a text. -/
def trailingBackslashes (t : Text) : Nat :=
  (t.rtakeWhile (· = '\\')).length

/-- The backslashes of a run hide each other two by two. -/
theorem hides_iff_odd (t : Text) : hides false t = true ↔ Odd (trailingBackslashes t) := by
  induction t using List.reverseRecOn with
  | nil => simp [hides, trailingBackslashes]
  | append_singleton t c ih =>
      have step : hides false (t ++ [c]) = (!hides false t && c = '\\') := by simp [hides]
      rw [step]
      by_cases backslash : c = '\\'
      · have longer : trailingBackslashes (t ++ [c]) = trailingBackslashes t + 1 := by
          simp [trailingBackslashes, backslash]
        rw [longer, Nat.odd_add_one, ← ih]
        simp [backslash]
      · have ended : trailingBackslashes (t ++ [c]) = 0 := by
          simp [trailingBackslashes, backslash]
        simp [ended, backslash]

/-- Each apostrophe of a text is hidden. -/
def Covered (hidden : Bool) (t : Text) : Prop :=
  ∀ before after, t = before ++ '\'' :: after → hides hidden before = true

theorem covered_nil (hidden : Bool) : Covered hidden [] := by simp [Covered]

theorem covered_cons {hidden : Bool} {c : Char} {t : Text} : Covered hidden (c :: t) ↔
    (c = '\'' → hidden = true) ∧ Covered (!hidden && c = '\\') t := by
  constructor
  · intro covered
    refine ⟨?_, ?_⟩
    · rintro rfl
      exact covered [] t rfl
    · rintro before after rfl
      exact covered (c :: before) after rfl
  · rintro ⟨first, later⟩ before after same
    cases before with
    | nil => exact first (List.cons.inj same).1
    | cons d before =>
        obtain ⟨rfl, rfl⟩ := List.cons.inj same
        exact later before after rfl

/-- Cuts a text at its first apostrophe that is not hidden, which belongs to neither part. -/
def cutApostrophe? (hidden : Bool) : Text → Option (Text × Text)
  | [] => none
  | c :: t =>
    if c = '\'' ∧ hidden = false then some ([], t)
    else (cutApostrophe? (!hidden && c = '\\') t).map fun (a, rest) => (c :: a, rest)

theorem cutApostrophe?_covered {hidden : Bool} {a : Text} (free : hides hidden a = false)
    (covered : Covered hidden a) (rest : Text) :
    cutApostrophe? hidden (a ++ '\'' :: rest) = some (a, rest) := by
  induction a generalizing hidden with
  | nil => exact if_pos ⟨rfl, free⟩
  | cons c a ih =>
      obtain ⟨first, later⟩ := covered_cons.mp covered
      have goes : ¬ (c = '\'' ∧ hidden = false) := by
        rintro ⟨apostrophe, shown⟩
        exact Bool.false_ne_true (shown.symm.trans (first apostrophe))
      rw [List.cons_append, cutApostrophe?, if_neg goes, ih free later, Option.map_some]

/-- A quoted text is cut at the one place up to which its apostrophes are hidden and where the next
one is not. -/
theorem cutApostrophe?_eq_some {hidden : Bool} {t a rest : Text} :
    cutApostrophe? hidden t = some (a, rest) ↔
      t = a ++ '\'' :: rest ∧ hides hidden a = false ∧ Covered hidden a := by
  constructor
  · intro cut
    induction t generalizing hidden a with
    | nil => cases cut
    | cons c t ih =>
        rw [cutApostrophe?] at cut
        split at cut
        · next ends =>
            obtain ⟨rfl, shown⟩ := ends
            cases cut
            exact ⟨rfl, shown, covered_nil hidden⟩
        · next goes =>
            obtain ⟨⟨b, rest'⟩, later, same⟩ := Option.map_eq_some_iff.mp cut
            cases same
            obtain ⟨rfl, free, covered⟩ := ih later
            exact ⟨rfl, free, covered_cons.mpr ⟨by simpa using goes, covered⟩⟩
  · rintro ⟨rfl, free, covered⟩
    exact cutApostrophe?_covered free covered rest

theorem hides_of_standsFor {body raw : Text} (h : StandsFor body raw) :
    hides false body = false := by
  induction h with
  | nil => rfl
  | plain quote backslash _ ih => simpa [hides, backslash] using ih
  | pair _ _ ih => simpa [hides] using ih

theorem covered_of_standsFor {body raw : Text} (h : StandsFor body raw) : Covered false body := by
  induction h with
  | nil => exact covered_nil false
  | plain quote backslash _ ih => simpa [covered_cons, quote, backslash] using ih
  | pair _ _ ih => simpa [covered_cons] using ih

/-- What a text between single quotes is a sequence of. -/
inductive Item
  | plain (c : Char) (quote : c ≠ '\'') (backslash : c ≠ '\\')
  | backslash
  | apostrophe
  | doubleQuote

namespace Item

/-- An item as it is written, by itself or after a backslash. -/
def spelling : Item → Text
  | plain c _ _ => [c]
  | backslash => ['\\', '\\']
  | apostrophe => ['\\', '\'']
  | doubleQuote => ['\\', '"']

/-- The character that an item stands for. -/
def char : Item → Char
  | plain c _ _ => c
  | backslash => '\\'
  | apostrophe => '\''
  | doubleQuote => '"'

/-- Takes the backslash off a double quote. -/
def bare : Item → Item
  | doubleQuote => plain '"' (by decide) (by decide)
  | i => i

theorem escape_char (i : Item) : escape [i.char] = i.bare.spelling := by
  cases i with
  | plain c quote backslash => simp [char, bare, spelling, escape, quote, backslash]
  | backslash => rfl
  | apostrophe => rfl
  | doubleQuote => rfl

end Item

/-- A sequence of items as it is written. -/
def spell (items : List Item) : Text :=
  items.flatMap Item.spelling

theorem standsFor_spell (items : List Item) : StandsFor (spell items) (items.map Item.char) := by
  induction items with
  | nil => exact .nil
  | cons i items ih =>
      cases i with
      | plain c quote backslash => exact .plain quote backslash ih
      | backslash => exact .pair (.inl rfl) ih
      | apostrophe => exact .pair (.inr (.inl rfl)) ih
      | doubleQuote => exact .pair (.inr (.inr rfl)) ih

theorem eq_spell_of_standsFor {body raw : Text} (h : StandsFor body raw) :
    ∃ items, body = spell items := by
  induction h with
  | nil => exact ⟨[], rfl⟩
  | plain quote backslash _ ih =>
      obtain ⟨items, rfl⟩ := ih
      exact ⟨.plain _ quote backslash :: items, rfl⟩
  | pair allowed _ ih =>
      obtain ⟨items, rfl⟩ := ih
      obtain rfl | rfl | rfl := allowed
      · exact ⟨.backslash :: items, rfl⟩
      · exact ⟨.apostrophe :: items, rfl⟩
      · exact ⟨.doubleQuote :: items, rfl⟩

theorem escape_chars (items : List Item) :
    escape (items.map Item.char) = spell (items.map Item.bare) := by
  induction items with
  | nil => rfl
  | cons i items ih =>
      calc escape (i.char :: items.map Item.char)
          = escape [i.char] ++ escape (items.map Item.char) := by
            simp [escape]
        _ = i.bare.spelling ++ spell (items.map Item.bare) := by rw [i.escape_char, ih]
        _ = spell (i.bare :: items.map Item.bare) := rfl

theorem escape_injective {s t : Text} (same : escape s = escape t) : s = t := by
  have read := unescape?_escape s
  rw [same, unescape?_escape t] at read
  exact (Option.some.inj read).symm

/-- Escaping is undone. Each apostrophe of an escaped text comes after an odd number of backslashes,
so that quotes around the text end right after it. The texts that can be read are the sequences of
items, and escaping what is read of one gives the same items without the backslashes before double
quotes. -/
theorem unescape?_inverts_escape :
    (∀ raw, unescape? (escape raw) = some raw ∧
      (∀ before after, escape raw = before ++ '\'' :: after → Odd (trailingBackslashes before)) ∧
      ∀ rest, cutApostrophe? false (escape raw ++ '\'' :: rest) = some (escape raw, rest)) ∧
    (∀ body, (∃ raw, unescape? body = some raw) ↔ ∃ items, body = spell items) ∧
    ∀ items raw, unescape? (spell items) = some raw ↔ escape raw = spell (items.map Item.bare) := by
  refine ⟨fun raw => ?_, fun body => ?_, fun items raw => ?_⟩
  · have stands := escape_standsFor raw
    have covered := covered_of_standsFor stands
    refine ⟨unescape?_escape raw, fun before after same => ?_, fun rest => ?_⟩
    · exact (hides_iff_odd before).mp (covered before after same)
    · exact cutApostrophe?_eq_some.mpr ⟨rfl, hides_of_standsFor stands, covered⟩
  · constructor
    · rintro ⟨raw, read⟩
      exact eq_spell_of_standsFor (unescape?_eq_some.mp read)
    · rintro ⟨items, rfl⟩
      exact ⟨items.map Item.char, unescape?_eq_some.mpr (standsFor_spell items)⟩
  · rw [unescape?_eq_some.mpr (standsFor_spell items), Option.some.injEq, ← escape_chars]
    constructor
    · rintro rfl
      rfl
    · intro same
      exact (escape_injective same).symm

/-- A double quote, a backslash and an apostrophe, each after a backslash: only the double quote is
written in another way again. -/
theorem unescape?_inverts_escape_pairs :
    let items : List Item := [.doubleQuote, .backslash, .apostrophe]
    let raw : Text := "\"\\'"
    let before : Text := "\"\\\\\\"
    escape raw = before ++ '\'' :: [] ∧ Odd (trailingBackslashes before) ∧
      escape raw = spell (items.map Item.bare) ∧ unescape? (spell items) = some raw := by
  intro items raw before
  obtain ⟨escaped, -, read⟩ := unescape?_inverts_escape
  have text : escape raw = before ++ '\'' :: [] := rfl
  have same : escape raw = spell (items.map Item.bare) := rfl
  exact ⟨text, (escaped raw).2.1 before [] text, same, (read items raw).mpr same⟩

end EndpointProfile.ModuleText
