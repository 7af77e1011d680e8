import EndpointProfile.Proofs.ModuleText.Grammar

/-! A module is read line by line. Each reader is tied to its part of the grammar, from the end of
the text to its start, and the last statement says which texts are modules of which profiles. -/
namespace EndpointProfile.ModuleText
open Text (Only Bare)
open Profile (Distinct)

theorem readEnd_eq_ok {entries out : List (Key × Literal)} {lines : List Line} :
    readEnd entries lines = .ok out ↔ lines = [] ∧ out = entries.reverse := by
  cases lines with
  | nil => simp [readEnd, eq_comm]
  | cons line lines => simp [readEnd]

theorem readEntries_closing {last : Nat} {before : List (Key × Literal)} {bare : Option Nat}
    {line : Line} (closes : Closes line.text) (lines : List Line) :
    readEntries last before bare (line :: lines) = readEnd before lines := by
  unfold readEntries
  rw [if_pos (isClosing_iff.mpr closes)]

theorem readEntries_entry {last : Nat} {before : List (Key × Literal)} {k : Key} {l : Literal}
    {comma : Bool} {line : Line} (maps : Maps k l comma line.text)
    (new : k ∉ before.map Prod.fst) (lines : List Line) :
    readEntries last before none (line :: lines) =
      readEntries last ((k, l) :: before) (if comma then none else some line.number) lines := by
  have inside : ¬ isClosing line.text = true :=
    fun closed => not_closes_of_maps maps (isClosing_iff.mp closed)
  have unseen : ¬ (before.lookup k).isSome = true := fun seen => new (Profile.isSome_lookup.mp seen)
  conv_lhs => unfold readEntries
  simp only [if_neg inside, entry_of_maps maps, if_neg unseen]

/-- The pairs that lines map, read after other ones whose keys they do not repeat. -/
theorem readEntries_of_mapLines {last : Nat} {before pairs : List (Key × Literal)}
    {lines : List Line} {texts : List Text} {closing : Text} (maps : MapLines pairs texts)
    (closes : Closes closing) (same : lines.map Line.text = texts ++ [closing])
    (distinct : Distinct pairs) (fresh : ∀ k ∈ pairs.map Prod.fst, k ∉ before.map Prod.fst) :
    readEntries last before none lines = .ok (before.reverse ++ pairs) := by
  -- the pairs read so far grow from step to step, so they are free in the induction
  induction maps generalizing before lines with
  | nil =>
      obtain ⟨line, rfl, rfl⟩ := List.map_eq_singleton_iff.mp same
      rw [readEntries_closing closes]
      simp [readEnd]
  | @last k l text h =>
      obtain ⟨line, rest, rfl, rfl, tail⟩ := List.map_eq_cons_iff.mp same
      obtain ⟨line', rfl, rfl⟩ := List.map_eq_singleton_iff.mp tail
      rw [readEntries_entry h (fresh k (by simp)), readEntries_closing closes]
      simp [readEnd]
  | @cons k l text pairs texts h _ ih =>
      obtain ⟨line, lines, rfl, rfl, tail⟩ := List.map_eq_cons_iff.mp same
      rw [Distinct, List.map_cons, List.nodup_cons] at distinct
      have later : ∀ j ∈ pairs.map Prod.fst, j ∉ ((k, l) :: before).map Prod.fst := by
        intro j hj seen
        rcases List.mem_cons.mp seen with rfl | seen
        · exact distinct.1 hj
        · exact fresh j (List.mem_cons_of_mem _ hj) seen
      rw [readEntries_entry h (fresh k (by simp)), if_pos rfl, ih tail distinct.2 later]
      simp

/-- What is read up to the closing line is mapped by the lines before it. After a line without a
comma only the closing line can come. -/
theorem mapLines_of_readEntries {last : Nat} {before out : List (Key × Literal)}
    {bare : Option Nat} {lines : List Line} (trimmed : ∀ line ∈ lines, Bare isBlank line.text)
    (h : readEntries last before bare lines = .ok out) :
    ∃ pairs texts closing, lines.map Line.text = texts ++ [closing] ∧ MapLines pairs texts ∧
      Closes closing ∧ out = before.reverse ++ pairs ∧ (bare.isSome → pairs = []) ∧
      Distinct pairs ∧ ∀ k ∈ pairs.map Prod.fst, k ∉ before.map Prod.fst := by
  induction lines generalizing before bare with
  | nil => simp [readEntries] at h
  | cons line lines ih =>
      unfold readEntries at h
      split at h
      · next closed =>
          obtain ⟨rfl, rfl⟩ := readEnd_eq_ok.mp h
          exact ⟨[], [], line.text, rfl, .nil, isClosing_iff.mp closed, by simp, fun _ => rfl,
            by simp [Distinct], by simp⟩
      · cases bare with
        | some n => cases h
        | none =>
            simp only at h
            split at h
            · cases h
            next e read =>
            split at h
            · cases h
            next new =>
            have maps := maps_of_entry (trimmed line List.mem_cons_self) read
            obtain ⟨pairs, texts, closing, same, rest, closes, rfl, alone, distinct, fresh⟩ :=
              ih (fun l hl => trimmed l (List.mem_cons_of_mem _ hl)) h
            have other : e.key ∉ pairs.map Prod.fst := fun again => fresh e.key again (by simp)
            refine ⟨(e.key, e.value) :: pairs, line.text :: texts, closing, by simp [same], ?_, closes,
              by simp, by simp, List.nodup_cons.mpr ⟨other, distinct⟩, ?_⟩
            · cases comma : e.comma with
              | true => exact .cons (comma ▸ maps) rest
              | false =>
                  -- the line has no comma, so no pair can have come after it
                  obtain rfl := alone (by simp [comma])
                  cases rest
                  exact .last (comma ▸ maps)
            · intro k hk
              rcases List.mem_cons.mp hk with rfl | later
              · exact fun seen => new (Profile.isSome_lookup.mpr seen)
              · exact fun seen => fresh k later (List.mem_cons_of_mem _ seen)

theorem readLines_of_holds {last : Nat} {pairs : List (Key × Literal)} {lines : List Line}
    {texts : List Text} (holds : Holds pairs texts) (same : lines.map Line.text = texts)
    (distinct : Distinct pairs) : readLines last lines = .ok pairs := by
  induction holds generalizing lines with
  | opened opens maps closes =>
      obtain ⟨line, lines, rfl, rfl, tail⟩ := List.map_eq_cons_iff.mp same
      have quiet : isDirective line.text = false :=
        Bool.eq_false_iff.mpr fun d => not_isStrict_of_opens opens (isDirective_iff.mp d)
      rw [readLines, if_neg (by simp [quiet]), if_pos (isOpening_iff.mpr opens)]
      have nothing : ∀ k ∈ pairs.map Prod.fst, k ∉ ([] : List (Key × Literal)).map Prod.fst := by simp
      simpa using readEntries_of_mapLines maps closes tail distinct nothing
  | strict strict _ ih =>
      obtain ⟨line, lines, rfl, rfl, tail⟩ := List.map_eq_cons_iff.mp same
      rw [readLines, if_pos (isDirective_iff.mpr strict)]
      exact ih tail

theorem holds_of_readLines {last : Nat} {pairs : List (Key × Literal)} {lines : List Line}
    (trimmed : ∀ line ∈ lines, Bare isBlank line.text) (h : readLines last lines = .ok pairs) :
    Holds pairs (lines.map Line.text) ∧ Distinct pairs := by
  induction lines with
  | nil => simp [readLines] at h
  | cons line lines ih =>
      have later : ∀ l ∈ lines, Bare isBlank l.text :=
        fun l hl => trimmed l (List.mem_cons_of_mem _ hl)
      rw [readLines] at h
      split at h
      · next directive =>
          obtain ⟨holds, distinct⟩ := ih later h
          exact ⟨.strict (isDirective_iff.mp directive) holds, distinct⟩
      · split at h
        · next opening =>
            obtain ⟨_, texts, closing, same, maps, closes, rfl, -, distinct, -⟩ :=
              mapLines_of_readEntries later h
            rw [List.map_cons, same]
            exact ⟨.opened (isOpening_iff.mp opening) maps closes, distinct⟩
        · cases h

/-- The texts that can be scanned are those whose lines hold pairs of which no two share a key. -/
theorem scan_eq_ok {t : Text} {pairs : List (Key × Literal)} :
    scan t = .ok pairs ↔ Holds pairs (countedLines t) ∧ Distinct pairs := by
  constructor
  · intro h
    rw [← significant_text]
    refine holds_of_readLines (fun line hl => ?_) h
    exact bare_of_mem_countedLines (significant_text t ▸ List.mem_map_of_mem hl)
  · rintro ⟨holds, distinct⟩
    exact readLines_of_holds holds (significant_text t) distinct

/-- A text is a module of a profile exactly if the lines that count in it, trimmed, are directives,
the opening line, nine lines that map the nine keys in any order to their values in the profile, and
the closing line, and the values fit their keys. -/
theorem parse_eq_ok_iff (t : Text) (p : Profile) :
    parse t = .ok p ↔
      ∃ pairs : List (Key × Literal), Holds pairs (countedLines t) ∧ pairs.length = 9 ∧
        (pairs.map Prod.fst).Perm Key.all ∧ (∀ kl ∈ pairs, p.get kl.1 = kl.2) ∧ p.fault? = none := by
  constructor
  · intro h
    unfold parse at h
    split at h
    · cases h
    next pairs scanned =>
    split at h
    · cases h
    next q made =>
    obtain ⟨valid, rfl⟩ := Profile.validated_eq_ok.mp h
    obtain ⟨keys, values⟩ := Profile.ofEntries_eq_ok.mp made
    refine ⟨pairs, (scan_eq_ok.mp scanned).1, ?_, keys, values, valid⟩
    rw [← List.length_map Prod.fst, keys.length_eq]
    rfl
  · rintro ⟨pairs, holds, -, keys, values, valid⟩
    have distinct : Distinct pairs := keys.nodup_iff.mpr Key.nodup_all
    rw [parse, scan_eq_ok.mpr ⟨holds, distinct⟩]
    simp only [Profile.ofEntries_of_perm keys values]
    exact Profile.validated_eq_ok.mpr ⟨valid, rfl⟩

end EndpointProfile.ModuleText
