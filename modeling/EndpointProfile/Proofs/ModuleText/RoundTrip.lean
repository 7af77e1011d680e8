import EndpointProfile.Proofs.ModuleText.Scan

/-! What is written as a module is read back, whatever the values of the profile are. -/
namespace EndpointProfile.ModuleText
open Text (Only Bare)
open Profile (Distinct)

/-- Lines with a comma after each but the last. -/
def commas : List Text → List Text
  | [] => []
  | [line] => [line]
  | line :: next :: lines => (line ++ [',']) :: commas (next :: lines)

/-- An entry line without the blanks before it. -/
def pairText (k : Key) (l : Literal) : Text :=
  k.name ++ ':' :: (' ' :: '\'' :: (escape l.raw ++ ['\'']))

theorem entryText_eq (k : Key) (l : Literal) : entryText k l = [' ', ' '] ++ pairText k l := by
  simp [entryText, pairText]

theorem maps_pairText {k : Key} {l : Literal} {comma : Bool} {ending : Text}
    (h : Ending comma ending) : Maps k l comma (pairText k l ++ ending) := by
  have space : Only isBlank [' '] := by simp; decide
  have maps := Maps.intro (k := k) (Text.only_nil isBlank) space (escape_standsFor l.raw)
    (Literal.parse_raw l) h
  simpa [pairText] using maps

theorem mapLines_commas (pairs : List (Key × Literal)) :
    MapLines pairs (commas (pairs.map fun kl => pairText kl.1 kl.2)) := by
  induction pairs with
  | nil => exact .nil
  | cons kl pairs ih =>
      cases pairs with
      | nil => exact .last (by simpa using maps_pairText .bare)
      | cons next pairs => exact .cons (maps_pairText (.comma (Text.only_nil _))) ih

theorem MapLines.maps {pairs : List (Key × Literal)} {lines : List Text} (h : MapLines pairs lines) :
    ∀ line ∈ lines, ∃ k l comma, Maps k l comma line := by
  induction h with
  | nil => simp
  | last h => exact List.forall_mem_singleton.mpr ⟨_, _, _, h⟩
  | cons h _ ih => exact List.forall_mem_cons.mpr ⟨⟨_, _, _, h⟩, ih⟩

theorem commas_append_left (start : Text) (lines : List Text) :
    commas (lines.map (start ++ ·)) = (commas lines).map (start ++ ·) := by
  induction lines with
  | nil => rfl
  | cons line lines ih =>
      cases lines with
      | nil => rfl
      | cons next lines =>
          rw [List.map_cons] at ih
          simp [commas, ih]

theorem newline_not_mem_entryText (k : Key) (l : Literal) : '\n' ∉ entryText k l := by
  have name : '\n' ∉ k.name := by cases k <;> decide
  have value : '\n' ∉ escape l.raw := by
    intro inside
    rcases mem_escape inside with h | h
    · exact absurd h (by decide)
    · exact Literal.newline_not_mem_raw l h
  simp [entryText, name, value]

theorem splitOn_join {lines : List Text} (some : lines ≠ []) (free : ∀ line ∈ lines, '\n' ∉ line)
    (rest : Text) : (Text.join [',', '\n'] lines ++ '\n' :: rest).splitOn '\n' =
      commas lines ++ rest.splitOn '\n' := by
  induction lines with
  | nil => exact absurd rfl some
  | cons line lines ih =>
      obtain ⟨here, later⟩ := List.forall_mem_cons.mp free
      cases lines with
      | nil => simp [Text.join, commas, List.splitOn_append_cons_self_of_not_mem here]
      | cons next lines =>
          have ended : '\n' ∉ line ++ [','] := by simp [here]
          have joined : Text.join [',', '\n'] (line :: next :: lines) ++ '\n' :: rest =
              (line ++ [',']) ++ '\n' :: (Text.join [',', '\n'] (next :: lines) ++ '\n' :: rest) := by
            simp [Text.join]
          rw [joined, List.splitOn_append_cons_self_of_not_mem ended, ih (by simp) later]
          rfl

theorem splitOn_render (p : Profile) : (render p).splitOn '\n' =
    useStrict :: opening ::
      (commas (p.entries.map fun kl => entryText kl.1 kl.2) ++ [closing, []]) := by
  have some : p.entries.map (fun kl => entryText kl.1 kl.2) ≠ [] := by simp [Profile.entries, Key.all]
  have free : ∀ line ∈ p.entries.map (fun kl => entryText kl.1 kl.2), '\n' ∉ line := by
    intro line hl
    obtain ⟨kl, -, rfl⟩ := List.mem_map.mp hl
    exact newline_not_mem_entryText kl.1 kl.2
  have head : '\n' ∉ useStrict := by decide
  have second : '\n' ∉ opening := by decide
  have written : render p = useStrict ++ '\n' :: (opening ++ '\n' ::
      (Text.join [',', '\n'] (p.entries.map fun kl => entryText kl.1 kl.2) ++
        '\n' :: (closing ++ ['\n']))) := by
    simp [render]
  rw [written, List.splitOn_append_cons_self_of_not_mem head,
    List.splitOn_append_cons_self_of_not_mem second, splitOn_join some free]
  rfl

theorem countedLines_render (p : Profile) :
    countedLines (render p) =
      useStrict :: opening :: (commas (p.entries.map fun kl => pairText kl.1 kl.2) ++ [closing]) := by
  have maps := (mapLines_commas p.entries).maps
  have indented : commas (p.entries.map fun kl => entryText kl.1 kl.2) =
      (commas (p.entries.map fun kl => pairText kl.1 kl.2)).map ([' ', ' '] ++ ·) := by
    simp only [← commas_append_left, List.map_map, Function.comp_def, entryText_eq]
  generalize commas (p.entries.map fun kl => pairText kl.1 kl.2) = lines at maps indented
  have trimmed : (lines.map ([' ', ' '] ++ ·)).map Text.trim = lines := by
    have still : ∀ line ∈ lines, Text.trim ([' ', ' '] ++ line) = line := by
      intro line hl
      obtain ⟨k, l, comma, h⟩ := maps line hl
      exact Text.trim_eq_iff.mpr ⟨[' ', ' '], [], by simp; decide, by simp, by simp, bare_of_maps h⟩
    rw [List.map_map, Function.comp_def, List.map_congr_left still, List.map_id']
  have counted : lines.filter Counts = lines := by
    refine List.filter_eq_self.mpr fun line hl => ?_
    obtain ⟨k, l, comma, h⟩ := maps line hl
    exact decide_eq_true (counts_of_maps h)
  have first : Text.trim useStrict = useStrict ∧ Counts useStrict := by decide
  have second : Text.trim opening = opening ∧ Counts opening := by decide
  have ends : Text.trim closing = closing ∧ Counts closing := by decide
  have blank : ¬ Counts [] := by decide
  rw [countedLines, splitOn_render, indented]
  simp only [List.map_cons, List.map_append, trimmed, List.map_nil, trim_nil, List.filter_cons,
    List.filter_append, counted, first, second, ends, blank, decide_true, decide_false, if_true,
    List.filter_nil, Bool.false_eq_true, if_false]

theorem scan_render (p : Profile) : scan (render p) = .ok p.entries := by
  refine scan_eq_ok.mpr ⟨?_, by rw [Distinct, Profile.keys_entries]; exact Key.nodup_all⟩
  rw [countedLines_render]
  exact .strict (.single 0) (.opened (by unfold Opens; decide) (mapLines_commas _) ⟨0, rfl⟩)

theorem parse_render_eq (p : Profile) : parse (render p) = p.validated := by
  simp only [parse, scan_render, Profile.ofEntries_entries]

theorem parse_render_valid {p : Profile} (valid : p.fault? = none) : parse (render p) = .ok p := by
  rw [parse_render_eq]
  exact Profile.validated_eq_ok.mpr ⟨valid, rfl⟩

theorem exists_badValue_of_fault {p : Profile} {f : Fault} (h : p.fault? = some f) :
    ∃ k v, f = .badValue k v ∧ Profile.valueFault? k (p.get k).unquoted = some v := by
  obtain ⟨k, -, found⟩ := List.exists_of_findSome?_eq_some h
  obtain ⟨v, wrong, rfl⟩ := Option.map_eq_some_iff.mp found
  exact ⟨k, v, rfl, wrong⟩

/-- The module of a profile is read back as this profile. Where a value does not fit its key, that
is the only fault. -/
theorem parse_render (p : Profile) :
    match p.fault? with
    | none => parse (render p) = .ok p
    | some f => parse (render p) = .error f ∧
        ∃ k v, f = .badValue k v ∧ Profile.valueFault? k (p.get k).unquoted = some v := by
  rw [parse_render_eq]
  split
  · next valid => simp [Profile.validated, valid]
  · next f invalid => simp [Profile.validated, invalid, exists_badValue_of_fault invalid]

end EndpointProfile.ModuleText
