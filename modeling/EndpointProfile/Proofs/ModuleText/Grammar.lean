import EndpointProfile.Proofs.Literal
import EndpointProfile.Proofs.ModuleText.Escape
import EndpointProfile.Proofs.ModuleText.Lines
import EndpointProfile.Proofs.Profile.Entries

/-! The grammar of modules, and that exactly the modules of this grammar are read. -/
namespace EndpointProfile.ModuleText
open Text (Only Bare)

/-- The statement that turns strict mode on, in quotes of either kind. -/
inductive IsStrict : Text → Prop
  | single (n : Nat) : IsStrict ("'use strict'".toList ++ List.replicate n ';')
  | double (n : Nat) : IsStrict ("\"use strict\"".toList ++ List.replicate n ';')

/-- The opening line, which may be blank in any place. -/
def Opens (line : Text) : Prop :=
  line.filter (fun c => !isBlank c) = "module.exports=\x7b".toList

def Closes (line : Text) : Prop := ∃ n, line = '\x7d' :: List.replicate n ';'

/-- What may follow the value of an entry. -/
inductive Ending : Bool → Text → Prop
  | bare : Ending false []
  | comma {space : Text} : Only isBlank space → Ending true (space ++ [','])

/-- A line that maps a key to a literal, with a comma at its end or without one. -/
inductive Maps (k : Key) (l : Literal) (comma : Bool) : Text → Prop
  | intro {gap space body raw ending : Text} : Only isBlank gap → Only isBlank space →
      StandsFor body raw → Literal.parse raw = .ok l → Ending comma ending →
      Maps k l comma (k.name ++ gap ++ ':' :: (space ++ '\'' :: (body ++ '\'' :: ending)))

/-- Lines that map keys to literals. Each has a comma, but the last one needs none. -/
inductive MapLines : List (Key × Literal) → List Text → Prop
  | nil : MapLines [] []
  | last {k : Key} {l : Literal} {line : Text} : Maps k l false line → MapLines [(k, l)] [line]
  | cons {k : Key} {l : Literal} {line : Text} {pairs : List (Key × Literal)} {lines : List Text} :
      Maps k l true line → MapLines pairs lines → MapLines ((k, l) :: pairs) (line :: lines)

/-- The lines of a module with some pairs in it. -/
inductive Holds (pairs : List (Key × Literal)) : List Text → Prop
  | opened {opening closing : Text} {lines : List Text} : Opens opening →
      MapLines pairs lines → Closes closing → Holds pairs (opening :: (lines ++ [closing]))
  | strict {line : Text} {lines : List Text} : IsStrict line → Holds pairs lines →
      Holds pairs (line :: lines)

theorem dropSemicolons_eq_iff {t s : Text} (last : ∀ c ∈ s.getLast?, c ≠ ';') :
    dropSemicolons t = s ↔ ∃ n, t = s ++ List.replicate n ';' := by
  rw [dropSemicolons, Text.dropEndWhile_eq_iff]
  constructor
  · rintro ⟨z, hz, rfl, -⟩
    have semicolons : z = List.replicate z.length ';' :=
      List.eq_replicate_of_mem fun c hc => by simpa using hz c hc
    exact ⟨z.length, by rw [← semicolons]⟩
  · rintro ⟨n, rfl⟩
    refine ⟨List.replicate n ';', ?_, rfl, fun c hc => by simpa using last c hc⟩
    intro c hc
    simp [List.eq_of_mem_replicate hc]

theorem isDirective_iff {line : Text} : isDirective line = true ↔ IsStrict line := by
  have single := dropSemicolons_eq_iff (t := line) (s := "'use strict'".toList) (by simp)
  have double := dropSemicolons_eq_iff (t := line) (s := "\"use strict\"".toList) (by simp)
  rw [isDirective, Bool.or_eq_true, decide_eq_true_iff, decide_eq_true_iff]
  constructor
  · rintro (h | h)
    · obtain ⟨n, rfl⟩ := single.mp h
      exact .single n
    · obtain ⟨n, rfl⟩ := double.mp h
      exact .double n
  · rintro (n | n)
    · exact .inl (single.mpr ⟨n, rfl⟩)
    · exact .inr (double.mpr ⟨n, rfl⟩)

theorem isOpening_iff {line : Text} : isOpening line = true ↔ Opens line := by
  have written : Text.compact opening = "module.exports=\x7b".toList := by decide
  rw [isOpening, decide_eq_true_iff, written]
  rfl

theorem isClosing_iff {line : Text} : isClosing line = true ↔ Closes line := by
  rw [isClosing, decide_eq_true_iff]
  exact dropSemicolons_eq_iff (s := ['\x7d']) (by simp)

theorem singleQuoted?_eq_some {t body : Text} :
    singleQuoted? t = some body ↔ t = '\'' :: (body ++ ['\'']) := by
  simp only [singleQuoted?, Option.bind_eq_some_iff, Text.dropStart?_eq_some, Text.dropEnd?_eq_some]
  constructor
  · rintro ⟨rest, rfl, rfl⟩
    rfl
  · rintro rfl
    exact ⟨_, rfl, rfl⟩

theorem ending_of_cutComma (t : Text) :
    ∃ ending, Ending (cutComma t).2 ending ∧ t = (cutComma t).1 ++ ending := by
  unfold cutComma
  split
  · next rest cut =>
      obtain ⟨space, blank, same, -⟩ := Text.dropEndWhile_eq_iff.mp (rfl : Text.trimEnd rest = _)
      refine ⟨space ++ [','], .comma blank, ?_⟩
      rw [Text.dropEnd?_eq_some.mp cut, ← List.append_assoc, ← same]
  · exact ⟨[], .bare, by simp⟩

theorem cutComma_of_ending {value ending : Text} {comma : Bool} (h : Ending comma ending)
    (last : value.getLast? = some '\'') : cutComma (value ++ ending) = (value, comma) := by
  cases h with
  | bare =>
      have none : Text.dropEnd? [','] (value ++ []) = none := by
        rw [Text.dropEnd?_eq_none]
        rintro ⟨rest, same⟩
        rw [List.append_nil] at same
        simp [← same] at last
      rw [cutComma, none, List.append_nil]
  | @comma space blank =>
      have some : Text.dropEnd? [','] (value ++ (space ++ [','])) = some (value ++ space) := by
        rw [Text.dropEnd?_eq_some, List.append_assoc]
      have trimmed : Text.trimEnd (value ++ space) = value := by
        refine Text.dropEndWhile_eq_iff.mpr ⟨space, blank, rfl, fun c hc => ?_⟩
        obtain rfl : '\'' = c := by simpa [last] using hc
        decide
      rw [cutComma, some]
      simp only [trimmed]

theorem bare_name (k : Key) : Bare isBlank k.name := by cases k <;> decide

theorem colon_not_mem_name (k : Key) : ':' ∉ k.name := by cases k <;> decide

theorem bare_value {body ending : Text} {comma : Bool} (h : Ending comma ending) :
    Bare isBlank ('\'' :: (body ++ '\'' :: ending)) := by
  constructor
  · intro c hc
    obtain rfl : '\'' = c := by simpa using hc
    decide
  · intro c hc
    cases h with
    | bare =>
        obtain rfl : '\'' = c := by simpa [List.getLast?_cons] using hc
        decide
    | comma _ =>
        obtain rfl : ',' = c := by simpa [List.getLast?_cons] using hc
        decide

theorem entry_of_maps {line : Line} {k : Key} {l : Literal} {comma : Bool}
    (h : Maps k l comma line.text) : entry line = .ok ⟨k, l, comma⟩ := by
  obtain ⟨n, text⟩ := line
  cases h with
  | @intro gap space body raw ending blankGap blankSpace stands parsed ends =>
      change entry ⟨n, k.name ++ gap ++ ':' :: (space ++ '\'' :: (body ++ '\'' :: ending))⟩ = _
      have noColon : ':' ∉ k.name ++ gap := by
        rw [List.mem_append, not_or]
        refine ⟨colon_not_mem_name k, fun inside => ?_⟩
        exact absurd (blankGap ':' inside) (by decide)
      have cut : Text.cutAt? ':' _ = some (k.name ++ gap, space ++ '\'' :: (body ++ '\'' :: ending)) :=
        Text.cutAt?_eq_some.mpr ⟨rfl, noColon⟩
      have name : Text.trim (k.name ++ gap) = k.name :=
        Text.trim_eq_iff.mpr ⟨[], gap, by simp, blankGap, by simp, bare_name k⟩
      have value : Text.trim (space ++ '\'' :: (body ++ '\'' :: ending)) =
          '\'' :: (body ++ ['\'']) ++ ending :=
        Text.trim_eq_iff.mpr ⟨space, [], blankSpace, by simp, by simp, by simpa using bare_value ends⟩
      have cutValue : cutComma ('\'' :: (body ++ ['\'']) ++ ending) = ('\'' :: (body ++ ['\'']), comma) :=
        cutComma_of_ending ends (by simp [List.getLast?_cons])
      simp only [entry, cut, name, value, cutValue, Key.ofName?_name, singleQuoted?_eq_some.mpr rfl,
        unescape?_eq_some.mpr stands, parsed]

theorem maps_of_entry {line : Line} (bare : Bare isBlank line.text) {e : Entry}
    (h : entry line = .ok e) : Maps e.key e.value e.comma line.text := by
  unfold entry at h
  split at h
  · cases h
  next name rest cut =>
  split at h
  · cases h
  next key found =>
  simp only at h
  split at h
  · cases h
  next body quoted =>
  split at h
  · cases h
  next raw read =>
  split at h
  · next value parsed =>
    injection h with h
    subst h
    obtain ⟨text, -⟩ := Text.cutAt?_eq_some.mp cut
    obtain ⟨a, gap, ha, blankGap, nameText, -⟩ := Text.trim_eq_iff.mp (Key.ofName?_eq_some.mp found)
    obtain ⟨space, z, blankSpace, hz, restText, -⟩ := Text.trim_eq_iff.mp (rfl : Text.trim rest = _)
    obtain ⟨ending, ends, valueText⟩ := ending_of_cutComma (Text.trim rest)
    rw [singleQuoted?_eq_some.mp quoted] at valueText
    rw [valueText] at restText
    rw [text, nameText, restText] at bare
    -- the line is trimmed, so the outer blanks that its two halves could lose are not there
    obtain rfl : a = [] := by
      rw [List.append_assoc, List.append_assoc] at bare
      exact bare.eq_nil_of_start ha
    obtain rfl : z = [] := by
      rw [← List.cons_append, ← List.append_assoc] at bare
      exact bare.eq_nil_of_ending hz
    have whole : line.text = key.name ++ gap ++ ':' :: (space ++ '\'' :: (body ++ '\'' :: ending)) := by
      rw [text, nameText, restText]
      simp
    rw [whole]
    exact .intro blankGap blankSpace (unescape?_eq_some.mp read) parsed ends
  · cases h

theorem head?_name (k : Key) : ∃ c ∈ k.name.head?, c.isUpper = true := by
  cases k <;> exact ⟨_, rfl, by decide⟩

section
variable {k : Key} {l : Literal} {comma : Bool} {line : Text}

theorem bare_of_maps (h : Maps k l comma line) : Bare isBlank line := by
  cases h with
  | @intro gap space body raw ending _ _ _ _ ends =>
      have name : k.name ≠ [] := by cases k <;> decide
      have value : Bare isBlank ('\'' :: (body ++ '\'' :: ending)) := bare_value ends
      have bare := (bare_name k).around value (gap ++ ':' :: space) name (by simp)
      simpa using bare

/-- No other line of a module starts with a capital letter. -/
theorem head?_of_maps (h : Maps k l comma line) : ∃ c ∈ line.head?, c.isUpper = true := by
  obtain ⟨c, hc, upper⟩ := head?_name k
  refine ⟨c, ?_, upper⟩
  cases h with
  | intro => simp [List.head?_append, Option.mem_def.mp hc]

theorem counts_of_maps (h : Maps k l comma line) : Counts line := by
  obtain ⟨c, first, upper⟩ := head?_of_maps h
  constructor
  · rintro rfl
    cases first
  · rintro ⟨rest, rfl⟩
    obtain rfl : '/' = c := by simpa using first
    revert upper
    decide

theorem not_closes_of_maps (h : Maps k l comma line) : ¬ Closes line := by
  rintro ⟨n, same⟩
  obtain ⟨c, first, upper⟩ := head?_of_maps h
  obtain rfl : '\x7d' = c := by simpa [same] using first
  revert upper
  decide

end

theorem not_isStrict_of_opens {line : Text} (h : Opens line) : ¬ IsStrict line := by
  have letters (c : Char) (hc : c ∈ line) (dark : (!isBlank c) = true) :
      c ∈ "module.exports=\x7b".toList := h ▸ List.mem_filter.mpr ⟨hc, dark⟩
  rintro (n | n)
  · exact absurd (letters '\'' (by simp) (by decide)) (by decide)
  · exact absurd (letters '"' (by simp) (by decide)) (by decide)

end EndpointProfile.ModuleText
