import Mathlib.Data.List.Perm.Basic
import EndpointProfile.Proofs.ModuleText.RoundTrip
import EndpointProfile.Proofs.Profile.Assembly

/-! The entry lines of a module may come in any order. Lines are read in the order of the text, but
the profile is made up, and its values are checked, in the order of the record. -/
namespace EndpointProfile.ModuleText
open Profile (Distinct MadeOf)

/-- An entry line without the comma at its end and the blanks before it. -/
def withoutComma (line : Text) : Text :=
  (cutComma line).1

/-- The same entry lines in any order, with a comma after each but the last. -/
structure Turned (lines others : List Text) : Prop where
  same : (others.map withoutComma).Perm (lines.map withoutComma)
  separated : ∀ line ∈ others.dropLast, [','] <:+ line

/-- The entry lines of one text in any order in the other one, and all else that counts as it was. -/
inductive Rearranged (s t : Text) : Prop
  | intro {front lines others : List Text} {opening closing : Text} :
      (∀ line ∈ front, IsStrict line) → Opens opening →
      countedLines s = front ++ opening :: (lines ++ [closing]) →
      countedLines t = front ++ opening :: (others ++ [closing]) →
      Turned lines others → Rearranged s t

section
variable {k : Key} {l : Literal} {comma : Bool} {line ending : Text}

theorem Maps.ended (h : Maps k l false line) (ends : Ending comma ending) :
    Maps k l comma (line ++ ending) := by
  cases h with
  | intro blankGap blankSpace stands parsed plain =>
      cases plain
      have maps := Maps.intro (k := k) blankGap blankSpace stands parsed ends
      simpa using maps

theorem Maps.withoutComma (h : Maps k l comma line) : Maps k l false (withoutComma line) := by
  cases h with
  | @intro gap space body raw ending blankGap blankSpace stands parsed ends =>
      have plain := Maps.intro (k := k) blankGap blankSpace stands parsed .bare
      have last : (k.name ++ gap ++ ':' :: (space ++ '\'' :: (body ++ ['\'']))).getLast? =
          some '\'' := by
        simp [List.getLast?_append, List.getLast?_cons]
      have cut := cutComma_of_ending ends last
      have whole : k.name ++ gap ++ ':' :: (space ++ '\'' :: (body ++ '\'' :: ending)) =
          k.name ++ gap ++ ':' :: (space ++ '\'' :: (body ++ ['\''])) ++ ending := by
        simp
      rw [whole, ModuleText.withoutComma, cut]
      exact plain

theorem maps_of_withoutComma (h : Maps k l false (withoutComma line)) :
    Maps k l (cutComma line).2 line := by
  obtain ⟨ending, ends, whole⟩ := ending_of_cutComma line
  have maps := h.ended ends
  rwa [withoutComma, ← whole] at maps

theorem cutComma_of_suffix (h : [','] <:+ line) : (cutComma line).2 = true := by
  obtain ⟨rest, rfl⟩ := h
  rw [cutComma, Text.dropEnd?_eq_some.mpr rfl]

end

/-- A pair and an entry line for it, whatever follows its value. -/
def Lists (kl : Key × Literal) (line : Text) : Prop :=
  Maps kl.1 kl.2 false line

theorem MapLines.lists {pairs : List (Key × Literal)} {lines : List Text}
    (h : MapLines pairs lines) : List.Forall₂ Lists pairs (lines.map withoutComma) := by
  induction h with
  | nil => exact .nil
  | last maps => exact .cons maps.withoutComma .nil
  | cons maps _ ih => exact .cons maps.withoutComma ih

theorem mapLines_of_lists {pairs : List (Key × Literal)} {lines : List Text}
    (lists : List.Forall₂ Lists pairs (lines.map withoutComma))
    (separated : ∀ line ∈ lines.dropLast, [','] <:+ line) : MapLines pairs lines := by
  induction lines generalizing pairs with
  | nil =>
      cases lists
      exact .nil
  | cons line lines ih =>
      cases lists with
      | @cons kl _ pairs _ here later =>
          obtain ⟨k, l⟩ := kl
          have maps : Maps k l (cutComma line).2 line := maps_of_withoutComma here
          cases lines with
          | nil =>
              cases later
              cases comma : (cutComma line).2 with
              | true => exact .cons (comma ▸ maps) .nil
              | false => exact .last (comma ▸ maps)
          | cons next lines =>
              obtain ⟨first, others⟩ := List.forall_mem_cons.mp separated
              rw [cutComma_of_suffix first] at maps
              exact .cons maps (ih later others)

/-- Turned lines map the same pairs in another order. -/
theorem MapLines.turned {pairs : List (Key × Literal)} {lines others : List Text}
    (h : MapLines pairs lines) (turned : Turned lines others) :
    ∃ again : List (Key × Literal), again.Perm pairs ∧ MapLines again others := by
  have lists : List.Forall₂ (flip Lists) (lines.map withoutComma) pairs := h.lists.flip
  obtain ⟨again, listed, perm⟩ := List.perm_comp_forall₂ turned.same lists
  exact ⟨again, perm, mapLines_of_lists listed.flip turned.separated⟩

/-- The lines of a module come apart in one way only. -/
theorem holds_iff {pairs : List (Key × Literal)} {front lines : List Text} {opening closing : Text}
    (strict : ∀ line ∈ front, IsStrict line) (opens : Opens opening) :
    Holds pairs (front ++ opening :: (lines ++ [closing])) ↔ MapLines pairs lines ∧ Closes closing := by
  induction front with
  | nil =>
      constructor
      · intro holds
        generalize same : [] ++ opening :: (lines ++ [closing]) = whole at holds
        cases holds with
        | opened _ maps closes =>
            obtain ⟨rfl, rest⟩ := List.cons.inj same
            obtain ⟨rfl, last⟩ := List.append_inj' rest rfl
            obtain ⟨rfl, -⟩ := List.cons.inj last
            exact ⟨maps, closes⟩
        | strict directive _ =>
            obtain ⟨rfl, -⟩ := List.cons.inj same
            exact absurd directive (not_isStrict_of_opens opens)
      · rintro ⟨maps, closes⟩
        exact .opened opens maps closes
  | cons line front ih =>
      obtain ⟨here, later⟩ := List.forall_mem_cons.mp strict
      rw [← ih later]
      constructor
      · intro holds
        generalize same : line :: front ++ opening :: (lines ++ [closing]) = whole at holds
        cases holds with
        | opened opens =>
            obtain ⟨rfl, -⟩ := List.cons.inj same
            exact absurd here (not_isStrict_of_opens opens)
        | strict _ holds =>
            obtain ⟨-, rfl⟩ := List.cons.inj same
            exact holds
      · intro holds
        exact .strict here holds

theorem scan_rearranged {s t : Text} {entries : List (Key × Literal)} (h : Rearranged s t)
    (scanned : scan s = .ok entries) :
    ∃ again : List (Key × Literal), again.Perm entries ∧ scan t = .ok again := by
  obtain ⟨holds, distinct⟩ := scan_eq_ok.mp scanned
  cases h with
  | intro strict opens before after turned =>
      rw [before, holds_iff strict opens] at holds
      obtain ⟨again, perm, maps⟩ := holds.1.turned turned
      refine ⟨again, perm, scan_eq_ok.mpr ⟨?_, ?_⟩⟩
      · rw [after, holds_iff strict opens]
        exact ⟨maps, holds.2⟩
      · exact (perm.map Prod.fst).nodup_iff.mpr distinct

/-- A module whose entry lines are put in another order is the same profile or has the same fault.
The keys that are left out come first, and then the values that do not fit, both in the order of
the record. -/
theorem parse_rearranged {s t : Text} {entries : List (Key × Literal)}
    (scanned : scan s = .ok entries) (h : Rearranged s t) :
    parse t = parse s ∧ MadeOf entries (parse s) := by
  obtain ⟨-, distinct⟩ := scan_eq_ok.mp scanned
  obtain ⟨again, perm, rescanned⟩ := scan_rearranged h scanned
  constructor
  · rw [parse, parse, scanned, rescanned]
    simp only [Profile.ofEntries_perm distinct perm.symm]
  · rw [parse, scanned]
    exact Profile.madeOf_validated distinct

/-- Two entries change places around a comment. Both of their values are unfit, but a key that is left
out comes first. -/
theorem parse_rearranged_around_comment :
    let s : Text := "module.exports = \x7b\n  BASE_ECO_API: '\"x\"',\n  // stage\n  NODE_ENV: '\"y\"'\n\x7d"
    let t : Text := "module.exports = \x7b\n  NODE_ENV: '\"y\"' ,\n  // stage\n  BASE_ECO_API: '\"x\"'\n\x7d"
    let entries : List (Key × Literal) := [(.ecoApi, ⟨['x'], rfl⟩), (.environment, ⟨['y'], rfl⟩)]
    scan s = .ok entries ∧ Rearranged s t ∧ parse t = parse s ∧ MadeOf entries (parse s) ∧
      parse t = .error (.missingKey .api) := by
  intro s t entries
  have scanned : scan s = .ok entries := rfl
  have turned : Turned ["BASE_ECO_API: '\"x\"',", "NODE_ENV: '\"y\"'"]
      ["NODE_ENV: '\"y\"' ,", "BASE_ECO_API: '\"x\"'"] := by
    constructor
    · decide +kernel
    · exact List.forall_mem_singleton.mpr ⟨"NODE_ENV: '\"y\"' ".toList, rfl⟩
  have rearranged : Rearranged s t := by
    refine @Rearranged.intro s t [] _ _ opening closing ?_ ?_ ?_ ?_ turned
    · exact fun _ inside => nomatch inside
    · exact isOpening_iff.mp (by decide)
    · decide +kernel
    · decide +kernel
  have distinct : Distinct entries := by decide
  have unmade : Profile.ofEntries entries = .error (.missingKey .api) :=
    Profile.ofEntries_of_missing distinct rfl
  have lacking : parse s = .error (.missingKey .api) := by simp only [parse, scanned, unmade]
  obtain ⟨same, made⟩ := parse_rearranged scanned rearranged
  exact ⟨scanned, rearranged, same, made, same.trans lacking⟩

end EndpointProfile.ModuleText
