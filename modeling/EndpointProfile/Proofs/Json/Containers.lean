import EndpointProfile.Proofs.Checks
import EndpointProfile.Proofs.Json.Objects

/-! The grammar of objects and arrays, and that it leaves one reading of an object of strings. -/
namespace EndpointProfile.Json
open Text (Only)

/-- How a value in a container is written, with the blanks before it: a string is spelled between
quotes, and any other value is what it is read as. -/
inductive Written : Value → Text → Prop
  | string {gap body t : Text} : Only isBlank gap → Spells body t →
      Written (.string t) (gap ++ '"' :: (body ++ ['"']))
  | other {v : Value} {text : Text} : (∀ t, v ≠ .string t) →
      value (depthLimit - 1) text = .ok (v, []) → Written v text

theorem written_quote (t : Text) : Written (.string t) (quote t) :=
  .string (Text.only_nil _) (spells_escaped t)

theorem skipBlanks_eq_cons {t u : Text} {c : Char} :
    skipBlanks t = c :: u ↔ isBlank c = false ∧ ∃ gap, Only isBlank gap ∧ t = gap ++ c :: u := by
  rw [skipBlanks, Text.dropWhile_eq_iff]
  simp only [List.head?_cons, Option.mem_some_iff, forall_eq']
  constructor
  · rintro ⟨gap, blank, same, dark⟩
    exact ⟨dark, gap, blank, same⟩
  · rintro ⟨dark, gap, blank, same⟩
    exact ⟨gap, blank, same, dark⟩

theorem wrongType_ne_ok {α : Type} (expected t : Text) (a : α) : wrongType expected t ≠ .ok a := by
  unfold wrongType
  simp only [ne_eq]
  split
  all_goals first
    | split <;> simp [bind_eq_ok]
    | simp [bind_eq_ok]

/-- A string is read from just the texts that spell it. -/
theorem stringAs_eq_ok {expected : Text} {depth : Nat} {t s rest : Text} :
    stringAs expected depth t = .ok (s, rest) ↔
      ∃ text, Written (.string s) text ∧ t = text ++ rest := by
  constructor
  · intro h
    unfold stringAs at h
    split at h
    · next u starts =>
        obtain ⟨-, gap, blank, rfl⟩ := skipBlanks_eq_cons.mp starts
        obtain ⟨body, spells, rfl⟩ := readString_eq_ok.mp h
        exact ⟨_, .string blank spells, by simp⟩
    · exact absurd h (wrongType_ne_ok _ _ _)
  · rintro ⟨text, written, rfl⟩
    cases written with
    | @string gap body _ blank spells =>
        have starts : skipBlanks (gap ++ '"' :: (body ++ ['"']) ++ rest) =
            '"' :: (body ++ '"' :: rest) :=
          skipBlanks_eq_cons.mpr ⟨by decide, gap, blank, by simp⟩
        simp only [stringAs, starts, readString_of_spells spells]
    | other never => exact absurd rfl (never s)

theorem value_quote {depth : Nat} {t u : Text} (starts : skipBlanks t = '"' :: u) :
    value depth t = (readString .plain u).map fun (s, rest) => (.string s, rest) := by
  cases depth <;> simp only [value, valueWith, starts]

theorem value_blank {depth : Nat} {t : Text} (nothing : skipBlanks t = []) :
    value depth t = .error (.before .endInValue []) := by
  cases depth <;> simp only [value, valueWith, nothing]

/-- Where a string is written, nothing else can be, and it ends where the string ends. -/
theorem Written.eq_string {v : Value} {s one other rest left : Text} (h : Written v one)
    (string : Written (.string s) other) (same : one ++ rest = other ++ left) :
    v = .string s ∧ rest = left := by
  have read : stringAs [] 0 (one ++ rest) = .ok (s, left) := stringAs_eq_ok.mpr ⟨other, string, same⟩
  cases h with
  | @string gap body t blank spells =>
      have whole : stringAs [] 0 _ = .ok (t, rest) :=
        stringAs_eq_ok.mpr ⟨_, .string blank spells, rfl⟩
      rw [whole] at read
      cases read
      exact ⟨rfl, rfl⟩
  | other never value =>
      cases starts : skipBlanks one with
      | nil =>
          rw [value_blank starts] at value
          cases value
      | cons c u =>
          -- the first character is the quote of the string
          obtain ⟨dark, gap, blank, rfl⟩ := skipBlanks_eq_cons.mp starts
          have first : skipBlanks (gap ++ c :: u ++ rest) = c :: (u ++ rest) :=
            skipBlanks_eq_cons.mpr ⟨dark, gap, blank, by simp⟩
          cases string with
          | other never => exact absurd rfl (never s)
          | @string lead body _ before _ =>
              have quote : skipBlanks (lead ++ '"' :: (body ++ ['"']) ++ left) =
                  '"' :: (body ++ ['"'] ++ left) :=
                skipBlanks_eq_cons.mpr ⟨by decide, lead, before, by simp⟩
              rw [← same, first] at quote
              obtain ⟨rfl, -⟩ := List.cons.inj quote
              rw [value_quote starts] at value
              cases read : readString .plain u with
              | error stop => simp [read, Except.map] at value
              | ok r =>
                  simp only [read, Except.map, Except.ok.injEq, Prod.mk.injEq] at value
                  exact absurd value.1.symm (never r.1)

theorem Written.pad {gap one t : Text} (h : Written (.string t) one) (blank : Only isBlank gap) :
    Written (.string t) (gap ++ one) := by
  cases h with
  | string before spells =>
      rw [← List.append_assoc]
      exact .string (Text.only_append.mpr ⟨blank, before⟩) spells
  | other never => exact absurd rfl (never t)

theorem nextKey?_eq_none {first : Bool} {t : Text} (h : nextKey? first t = .ok none) :
    ∃ blank rest, Only isBlank blank ∧ t = blank ++ '\x7d' :: rest := by
  unfold nextKey? at h
  split at h
  · cases h
  · next rest ends =>
      obtain ⟨-, blank, only, rfl⟩ := skipBlanks_eq_cons.mp ends
      exact ⟨blank, rest, only, rfl⟩
  · split at h
    · split at h <;> cases h
    · split at h
      · split at h <;> cases h
      · cases h

theorem nextKey?_eq_some {first : Bool} {t key : Text} (h : nextKey? first t = .ok (some key)) :
    ∃ before, Only isBlank before ∧
      (first = true ∧ t = before ++ '"' :: key ∨
        first = false ∧ ∃ blank, Only isBlank blank ∧ t = blank ++ ',' :: (before ++ '"' :: key)) := by
  unfold nextKey? at h
  split at h
  · cases h
  · cases h
  · next c u _ starts =>
      obtain ⟨-, blank, only, rfl⟩ := skipBlanks_eq_cons.mp starts
      split at h
      · next alone =>
          split at h
          · next quote =>
              cases h
              exact ⟨blank, only, .inl ⟨alone, by rw [quote]⟩⟩
          · cases h
      · next more =>
          split at h
          · next comma =>
              split at h
              · next key' quote =>
                  cases h
                  obtain ⟨-, before, only', rfl⟩ := skipBlanks_eq_cons.mp quote
                  exact ⟨before, only', .inr ⟨by simpa using more, blank, only, by rw [comma]⟩⟩
              all_goals cases h
          · cases h

theorem readColon_eq_ok {t rest : Text} :
    readColon t = .ok rest ↔ ∃ between, Only isBlank between ∧ t = between ++ ':' :: rest := by
  constructor
  · intro h
    unfold readColon at h
    split at h
    · next u colon =>
        cases h
        exact (skipBlanks_eq_cons.mp colon).2
    all_goals cases h
  · rintro ⟨between, blank, rfl⟩
    exact readColon_colon blank rest

theorem closeObject_eq_ok {t rest : Text} :
    closeObject t = .ok rest ↔ skipBlanks t = '\x7d' :: rest := by
  refine ⟨fun h => ?_, closeObject_brace⟩
  unfold closeObject at h
  split at h
  · next u brace =>
      cases h
      exact brace
  all_goals cases h

theorem closeArray_eq_ok {t rest : Text} : closeArray t = .ok rest ↔ skipBlanks t = ']' :: rest := by
  constructor
  · intro h
    unfold closeArray at h
    split at h
    · next u bracket =>
        cases h
        exact bracket
    · split at h <;> cases h
    all_goals cases h
  · intro h
    simp only [closeArray, h]

theorem within_eq_ok {α : Type} {close : Text → Except Stop Text} {leave : Text → Text}
    {inside : Read α} {a : α} {rest : Text} :
    within close leave inside = .ok (a, rest) ↔ ∃ left, inside = .ok (a, left) ∧ close left = .ok rest := by
  constructor
  · intro h
    unfold within at h
    split at h
    · cases h
    · next b left =>
        cases closed : close left with
        | error stop => simp [closed, Except.map] at h
        | ok tail =>
            simp only [closed, Except.map, Except.ok.injEq, Prod.mk.injEq] at h
            obtain ⟨rfl, rfl⟩ := h
            exact ⟨left, rfl, closed⟩
  · rintro ⟨left, rfl, closed⟩
    simp only [within, closed, Except.map]

/-- What has been read of a member up to its value stands before any value and the members after it. -/
theorem members_of_read {first : Bool} {t key afterName start name : Text}
    (found : nextKey? first t = .ok (some key)) (read : readString .plain key = .ok (name, afterName))
    (colon : readColon afterName = .ok start) :
    ∃ lead, t = lead ++ start ∧ ∀ value ms rest, Members false ms rest →
      Members first ((name, value) :: ms) (lead ++ (value ++ rest)) := by
  obtain ⟨before, hb, place⟩ := nextKey?_eq_some found
  obtain ⟨body, spells, rfl⟩ := readString_eq_ok.mp read
  obtain ⟨between, hm, rfl⟩ := readColon_eq_ok.mp colon
  have named (value : Text) : Named (name, value) _ := .intro hb spells hm
  rcases place with ⟨rfl, rfl⟩ | ⟨rfl, blank, only, rfl⟩
  · refine ⟨before ++ '"' :: (body ++ '"' :: (between ++ [':'])), by simp, fun value ms rest later => ?_⟩
    simpa using Members.first (named value) later
  · refine ⟨blank ++ ',' :: (before ++ '"' :: (body ++ '"' :: (between ++ [':']))), by simp,
      fun value ms rest later => ?_⟩
    simpa using Members.next only (named value) later

/-- How the members of an object are decoded: the names are what they spell. -/
abbrev Decoded (ms : List (Text × Value)) (raw : List Member) : Prop :=
  List.Forall₂ (fun m one => m.1 = one.1 ∧ Written m.2 one.2) ms raw

theorem members_unique {first : Bool} {ms others : List (Text × Value)} {raw raw' : List Member}
    {text text' tail tail' : Text} (h : Members first raw text) (decoded : Decoded ms raw)
    (h' : Members first raw' text') (decoded' : Decoded others raw')
    (strings : ∀ m ∈ others, ∃ s, m.2 = .string s)
    (same : text ++ '\x7d' :: tail = text' ++ '\x7d' :: tail') : ms = others := by
  induction decoded' generalizing first ms raw text text' with
  | nil =>
      cases h' with
      | nil blank =>
          have ends := nextKey?_end blank first tail'
          cases decoded with
          | nil => rfl
          | cons =>
              obtain ⟨_, _, _, -, -, -, key⟩ := h.head
              rw [← same, key] at ends
              cases ends
  | @cons other one' others raw' hone' _ ih =>
      obtain ⟨body', between', rest', spells', blank', later', key'⟩ := h'.head
      have found' := key' ('\x7d' :: tail')
      rw [← same] at found'
      cases decoded with
      | nil =>
          cases h with
          | nil blank =>
              rw [nextKey?_end blank first tail] at found'
              cases found'
      | @cons m one ms raw hone decoded =>
          obtain ⟨body, between, rest, spells, blank, later, key⟩ := h.head
          rw [key, Except.ok.injEq, Option.some.injEq] at found'
          have name := readString_of_spells spells
            (between ++ ':' :: (one.2 ++ (rest ++ '\x7d' :: tail)))
          rw [found', readString_of_spells spells', Except.ok.injEq, Prod.mk.injEq] at name
          obtain ⟨names, after⟩ := name
          have colon := readColon_colon blank (one.2 ++ (rest ++ '\x7d' :: tail))
          rw [← after, readColon_colon blank', Except.ok.injEq] at colon
          rw [List.forall_mem_cons] at strings
          obtain ⟨⟨s, string⟩, strings⟩ := strings
          obtain ⟨values, rests⟩ := hone.2.eq_string (string ▸ hone'.2) colon.symm
          have firsts : m = other :=
            Prod.ext (hone.1.trans (names.symm.trans hone'.1.symm)) (values.trans string.symm)
          rw [firsts, ih later decoded later' strings rests]

/-- The inside of an array, with commas between its items. `first` says that none came before. -/
inductive Items : Bool → List Text → Text → Prop
  | nil {first : Bool} {blank : Text} : Only isBlank blank → Items first [] blank
  | first {one rest : Text} {items : List Text} :
      Items false items rest → Items true (one :: items) (one ++ rest)
  | next {blank one rest : Text} {items : List Text} : Only isBlank blank →
      Items false items rest → Items false (one :: items) (blank ++ ',' :: (one ++ rest))

theorem nextItem?_eq_some {first : Bool} {t item : Text} (h : nextItem? first t = .ok (some item)) :
    ∃ gap, Only isBlank gap ∧ (first = true ∧ t = gap ++ item ∨
      first = false ∧ ∃ blank, Only isBlank blank ∧ t = blank ++ ',' :: (gap ++ item)) := by
  unfold nextItem? at h
  split at h
  · cases h
  · cases h
  · next c u _ starts =>
      obtain ⟨-, blank, only, rfl⟩ := skipBlanks_eq_cons.mp starts
      split at h
      · next alone =>
          cases h
          exact ⟨blank, only, .inl ⟨alone, rfl⟩⟩
      · next more =>
          split at h
          · next comma =>
              split at h
              · cases h
              · cases h
              · cases h
                obtain ⟨gap, only', same, -⟩ :=
                  Text.dropWhile_eq_iff.mp (rfl : _ = skipBlanks u)
                exact ⟨gap, only', .inr ⟨by simpa using more, blank, only, by rw [comma, ← same]⟩⟩
          · cases h

theorem items_of_read {first : Bool} {t item : Text} (found : nextItem? first t = .ok (some item)) :
    ∃ gap lead, t = lead ++ (gap ++ item) ∧ Only isBlank gap ∧ ∀ one raw rest,
      Items false raw rest → Items first (one :: raw) (lead ++ (one ++ rest)) := by
  obtain ⟨gap, only, ⟨rfl, rfl⟩ | ⟨rfl, blank, only', rfl⟩⟩ := nextItem?_eq_some found
  · exact ⟨gap, [], rfl, only, fun _ _ _ later => .first later⟩
  · refine ⟨gap, blank ++ [','], by simp, only, fun one raw rest later => ?_⟩
    simpa using Items.next only' later

theorem Items.only {first : Bool} {text : Text} (h : Items first [] text) : Only isBlank text := by
  cases h with
  | nil blank => exact blank

theorem Items.next_of_dark {first : Bool} {gap u text : Text} {c : Char} {raw : List Text}
    (h : Items first ((gap ++ c :: u) :: raw) text) (blank : Only isBlank gap)
    (dark : isBlank c = false) (inside : c ≠ ']') :
    ∃ rest, Items false raw rest ∧
      ∀ tail, nextItem? first (text ++ tail) = .ok (some (c :: u ++ (rest ++ tail))) := by
  cases h with
  | @first _ rest _ later =>
      refine ⟨rest, later, fun tail => ?_⟩
      simp [nextItem?, skipBlanks_append blank, skipBlanks_cons dark]
  | @next before _ rest _ only later =>
      refine ⟨rest, later, fun tail => ?_⟩
      simp [nextItem?, skipBlanks_append only, skipBlanks_append blank, skipBlanks_cons dark, inside,
        skipBlanks_cons (by decide : isBlank ',' = false)]

/-- From the start of an item that is a string this string is found, then the items after it. -/
theorem Items.head {first : Bool} {one t text : Text} {raw : List Text}
    (h : Items first (one :: raw) text) (string : Written (.string t) one) :
    ∃ start rest, Written (.string t) start ∧ Items false raw rest ∧
      ∀ tail, nextItem? first (text ++ tail) = .ok (some (start ++ (rest ++ tail))) := by
  cases string with
  | other never => exact absurd rfl (never t)
  | @string gap body _ blank spells =>
      obtain ⟨rest, later, next⟩ := h.next_of_dark blank rfl (by decide)
      exact ⟨'"' :: (body ++ ['"']), rest, .string (Text.only_nil _) spells, later, next⟩

/-- An object of these members, with blanks around it. -/
inductive ObjectText (ms : List (Text × Value)) : Text → Prop
  | intro {gap inside tail : Text} {raw : List Member} : Only isBlank gap → Members true raw inside →
      Decoded ms raw → Only isBlank tail →
      ObjectText ms (gap ++ '\x7b' :: (inside ++ '\x7d' :: tail))

/-- An array of these items, with blanks around it. -/
inductive ArrayText (items : List Value) : Text → Prop
  | intro {gap inside tail : Text} {raw : List Text} : Only isBlank gap → Items true raw inside →
      List.Forall₂ Written items raw → Only isBlank tail →
      ArrayText items (gap ++ '[' :: (inside ++ ']' :: tail))

theorem ObjectText.starts {ms : List (Text × Value)} {t : Text} (h : ObjectText ms t) :
    ∃ inside tail raw, skipBlanks t = '\x7b' :: (inside ++ '\x7d' :: tail) ∧
      Members true raw inside ∧ Decoded ms raw := by
  obtain ⟨blank, members, decoded, -⟩ := h
  exact ⟨_, _, _, skipBlanks_eq_cons.mpr ⟨by decide, _, blank, rfl⟩, members, decoded⟩

theorem ArrayText.starts {items : List Value} {t : Text} (h : ArrayText items t) :
    ∃ u, skipBlanks t = '[' :: u := by
  obtain ⟨blank, -, -, -⟩ := h
  exact ⟨_, skipBlanks_eq_cons.mpr ⟨by decide, _, blank, rfl⟩⟩

theorem ObjectText.unique {ms others : List (Text × Value)} {t : Text} (h : ObjectText ms t)
    (h' : ObjectText others t) (strings : ∀ m ∈ others, ∃ s, m.2 = .string s) : ms = others := by
  obtain ⟨inside, tail, raw, start, members, decoded⟩ := h.starts
  obtain ⟨inside', tail', raw', start', members', decoded'⟩ := h'.starts
  rw [start, List.cons.injEq] at start'
  exact members_unique members decoded members' decoded' strings start'.2

theorem ObjectText.not_array {ms : List (Text × Value)} {items : List Value} {t : Text}
    (h : ObjectText ms t) : ¬ ArrayText items t := by
  intro array
  obtain ⟨_, _, _, brace, -, -⟩ := h.starts
  obtain ⟨_, bracket⟩ := array.starts
  rw [brace] at bracket
  cases bracket

end EndpointProfile.Json
