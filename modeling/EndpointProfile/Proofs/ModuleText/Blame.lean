import Mathlib.Data.List.Pairwise
import EndpointProfile.Proofs.ModuleText.Numbers

/-! Where the reading of a module stops, and that the lines that a fault names are to blame. Lines
are read one by one, so a fault comes from the line that is read, from this line and the one after
it, or from this line and the entries before it. -/
namespace EndpointProfile.ModuleText
open Text (Bare)

/-- A line that maps a key to a literal, with a comma at its end or without one. -/
def MapsKey (k : Key) (line : Text) : Prop := ∃ l comma, Maps k l comma line

section
variable {k : Key} {line : Text}

theorem MapsKey.counts (h : MapsKey k line) : Counts line := by
  obtain ⟨l, comma, maps⟩ := h
  exact counts_of_maps maps

theorem counts_of_closes (h : Closes line) : Counts line := by
  obtain ⟨n, rfl⟩ := h
  exact ⟨by simp, by simp⟩

theorem not_closes_of_isStrict (h : IsStrict line) : ¬ Closes line := by
  rintro ⟨n, rfl⟩
  cases h

theorem not_closes_of_opens (h : Opens line) : ¬ Closes line := by
  rintro ⟨n, rfl⟩
  have first := congrArg List.head? h
  rw [List.filter_cons, if_pos (by decide)] at first
  cases first

theorem not_mapsKey_of_isStrict (h : IsStrict line) : ¬ MapsKey k line := by
  rintro ⟨l, comma, maps⟩
  obtain ⟨c, first, upper⟩ := head?_of_maps maps
  cases h with
  | single n =>
      obtain rfl : '\'' = c := by simpa using first
      exact absurd upper (by decide)
  | double n =>
      obtain rfl : '"' = c := by simpa using first
      exact absurd upper (by decide)

theorem not_mapsKey_of_opens (h : Opens line) : ¬ MapsKey k line := by
  rintro ⟨l, comma, maps⟩
  obtain ⟨c, first, upper⟩ := head?_of_maps maps
  have dark : isBlank c = false := (bare_of_maps maps).start c first
  have inside : c ∈ line.filter fun c => !isBlank c :=
    List.mem_filter.mpr ⟨List.mem_of_mem_head? first, by simp [dark]⟩
  rw [h] at inside
  have letters : ∀ c ∈ "module.exports=\x7b".toList, c.isUpper = false := by simp
  rw [letters c inside] at upper
  cases upper

end

/-- What a line that should be an entry is refused for. -/
inductive OfEntry (n : Nat) : Fault → Prop
  | placeless {f : Fault} : f.line? = none → OfEntry n f
  | malformed {what : Malformation} : what ∈ [.noEntry, .notQuoted, .badEscape] →
      OfEntry n (.malformed n what)

theorem OfEntry.mem {n m : Nat} {what : Malformation} (h : OfEntry n (.malformed m what)) :
    what ∈ [.noEntry, .notQuoted, .badEscape] := by
  cases h with
  | placeless nowhere => cases nowhere
  | malformed listed => exact listed

theorem ofEntry_of_error {line : Line} {f : Fault} (h : entry line = .error f) :
    OfEntry line.number f := by
  unfold entry at h
  split at h
  · cases h
    exact .malformed (by decide)
  split at h
  · cases h
    exact .placeless rfl
  simp only at h
  split at h
  · cases h
    exact .malformed (by decide)
  split at h
  · cases h
    exact .malformed (by decide)
  split at h
  · cases h
  · cases h
    exact .placeless rfl

/-- Lines of a module before its closing line, of which no two map the same key. -/
structure Inner (lines : List Line) : Prop where
  unclosed : ∀ line ∈ lines, ¬ Closes line.text
  apart : lines.Pairwise fun a b => ∀ k, MapsKey k a.text → ¬ MapsKey k b.text

theorem Inner.eq {lines : List Line} (inner : Inner lines) {k : Key} {a b : Line} (ha : a ∈ lines)
    (hb : b ∈ lines) (left : MapsKey k a.text) (right : MapsKey k b.text) : a = b := by
  have symmetric : Std.Symm fun a b : Line => ∀ k, MapsKey k a.text → ¬ MapsKey k b.text :=
    ⟨fun _ _ h k first second => h k second first⟩
  by_contra other
  exact inner.apart.forall ha hb other k left right

theorem Inner.concat {read : List Line} {line : Line} (inner : Inner read)
    (unclosed : ¬ Closes line.text)
    (new : ∀ earlier ∈ read, ∀ k, MapsKey k earlier.text → ¬ MapsKey k line.text) :
    Inner (read ++ [line]) := by
  constructor
  · rw [List.forall_mem_append, List.forall_mem_singleton]
    exact ⟨inner.unclosed, unclosed⟩
  · refine List.pairwise_append.mpr ⟨inner.apart, List.pairwise_singleton _ _, ?_⟩
    intro earlier seen
    rw [List.forall_mem_singleton]
    exact new earlier seen

/-- What was found in the lines that were read. -/
structure Found (entries : List (Key × Literal)) (read : List Line) : Prop where
  keys : ∀ k, k ∈ entries.map Prod.fst ↔ ∃ line ∈ read, MapsKey k line.text
  inner : Inner read

section
variable {entries : List (Key × Literal)} {read : List Line} {line : Line}

theorem Found.skip (found : Found entries read) (unclosed : ¬ Closes line.text)
    (silent : ∀ k, ¬ MapsKey k line.text) : Found entries (read ++ [line]) := by
  refine ⟨fun k => ?_, found.inner.concat unclosed fun _ _ k _ => silent k⟩
  simp [found.keys k, or_and_right, exists_or, silent k]

theorem Found.entry (found : Found entries read) {k : Key} {l : Literal} {comma : Bool}
    (maps : Maps k l comma line.text) (new : k ∉ entries.map Prod.fst) :
    Found ((k, l) :: entries) (read ++ [line]) := by
  have only {j : Key} : MapsKey j line.text ↔ j = k := by
    constructor
    · rintro ⟨m, sep, again⟩
      have same := (entry_of_maps again).symm.trans (entry_of_maps maps)
      cases same
      rfl
    · rintro rfl
      exact ⟨l, comma, maps⟩
  refine ⟨fun j => ?_, found.inner.concat (not_closes_of_maps maps) ?_⟩
  · simp [found.keys j, or_and_right, exists_or, only, or_comm]
  · intro earlier seen j before again
    obtain rfl := only.mp again
    exact new ((found.keys j).mpr ⟨earlier, seen, before⟩)

end

/-- Where reading stops after some lines, and why. The end of the text has the number `last`. -/
inductive Stops (last : Nat) (read : List Line) : List Line → Fault → Prop
  | unopened : Stops last read [] (.malformed last .missingOpening)
  | unclosed : Stops last read [] (.malformed last .missingClosing)
  | outside {line : Line} {rest : List Line} :
      Stops last read (line :: rest) (.malformed line.number .noOpening)
  | refused {line : Line} {rest : List Line} {f : Fault} : OfEntry line.number f →
      Stops last read (line :: rest) f
  | repeated {line : Line} {rest : List Line} {k : Key} : MapsKey k line.text →
      (∃ earlier ∈ read, MapsKey k earlier.text) →
      Stops last read (line :: rest) (.duplicateKey k line.number)
  | unseparated {line next : Line} {rest : List Line} {k : Key} {l : Literal} :
      Maps k l false line.text → ¬ Closes next.text →
      Stops last read (line :: next :: rest) (.malformed line.number .missingComma)
  | followed {closing line : Line} {rest : List Line} : Closes closing.text →
      Stops last read (closing :: line :: rest) (.malformed line.number .afterClosing)

/-- Reading stops after some more lines. -/
def StopsIn (last : Nat) (read lines : List Line) (f : Fault) : Prop :=
  ∃ more rest, lines = more ++ rest ∧ Inner (read ++ more) ∧ Stops last (read ++ more) rest f

section
variable {last : Nat} {read lines : List Line} {line : Line} {f : Fault}

theorem Stops.here (stops : Stops last read lines f) (inner : Inner read) :
    StopsIn last read lines f :=
  ⟨[], lines, rfl, by simpa using inner, by simpa using stops⟩

theorem StopsIn.later (h : StopsIn last (read ++ [line]) lines f) :
    StopsIn last read (line :: lines) f := by
  obtain ⟨more, rest, rfl, inner, stops⟩ := h
  refine ⟨line :: more, rest, rfl, ?_, ?_⟩
  · rwa [List.append_cons]
  · rwa [List.append_cons]

/-- A line without a comma is only missed at the next line that counts, which is read before anything
else can be wrong with it. -/
theorem stopsIn_of_readEntries {entries : List (Key × Literal)} {bare : Option Nat}
    (trimmed : ∀ line ∈ lines, Bare isBlank line.text) (found : Found entries read)
    (h : readEntries last entries bare lines = .error f) :
    (∃ n next rest, bare = some n ∧ lines = next :: rest ∧ ¬ Closes next.text ∧
        f = .malformed n .missingComma) ∨
      StopsIn last read lines f := by
  induction lines generalizing entries bare read with
  | nil =>
      cases h
      exact .inr (Stops.unclosed.here found.inner)
  | cons line lines ih =>
      obtain ⟨here, later⟩ := List.forall_mem_cons.mp trimmed
      unfold readEntries at h
      split at h
      · next closes =>
          cases lines with
          | nil => cases h
          | cons next rest =>
              cases h
              exact .inr ((Stops.followed (isClosing_iff.mp closes)).here found.inner)
      next inside =>
      cases bare with
      | some n =>
          cases h
          exact .inl ⟨n, line, lines, rfl, rfl, fun closes => inside (isClosing_iff.mpr closes), rfl⟩
      | none =>
          right
          simp only at h
          split at h
          · next g wrong =>
              cases h
              exact (Stops.refused (ofEntry_of_error wrong)).here found.inner
          next e read_ok =>
          have maps := maps_of_entry here read_ok
          split at h
          · next again =>
              cases h
              have seen := (found.keys e.key).mp (Profile.isSome_lookup.mp again)
              exact (Stops.repeated ⟨e.value, e.comma, maps⟩ seen).here found.inner
          next new =>
          have more := found.entry maps fun seen => new (Profile.isSome_lookup.mpr seen)
          rcases ih later more h with ⟨n, next, rest, missed, rfl, goes_on, rfl⟩ | stops
          · cases comma : e.comma with
            | true => simp [comma] at missed
            | false =>
                obtain rfl : line.number = n := by simpa [comma] using missed
                rw [comma] at maps
                exact (Stops.unseparated maps goes_on).here found.inner
          · exact stops.later

theorem stopsIn_of_readLines (trimmed : ∀ line ∈ lines, Bare isBlank line.text)
    (found : Found [] read) (h : readLines last lines = .error f) : StopsIn last read lines f := by
  induction lines generalizing read with
  | nil =>
      cases h
      exact Stops.unopened.here found.inner
  | cons line lines ih =>
      obtain ⟨-, later⟩ := List.forall_mem_cons.mp trimmed
      unfold readLines at h
      split at h
      · next directive =>
          have strict := isDirective_iff.mp directive
          have more := found.skip (not_closes_of_isStrict strict) fun _ => not_mapsKey_of_isStrict strict
          exact (ih later more h).later
      split at h
      · next opening =>
          have opens := isOpening_iff.mp opening
          have more := found.skip (not_closes_of_opens opens) fun _ => not_mapsKey_of_opens opens
          rcases stopsIn_of_readEntries later more h with ⟨n, _, _, missed, -⟩ | stops
          · cases missed
          · exact stops.later
      · cases h
        exact Stops.outside.here found.inner

end

theorem stops_of_scan {t : Text} {f : Fault} (h : scan t = .error f) :
    ∃ read rest, significant t = read ++ rest ∧ Inner read ∧ Stops (endOf t) read rest f := by
  have trimmed : ∀ line ∈ significant t, Bare isBlank line.text := fun line hl =>
    bare_of_mem_countedLines (significant_text t ▸ List.mem_map_of_mem hl)
  have nothing : Found [] [] := ⟨fun k => by simp, List.forall_mem_nil _, List.Pairwise.nil⟩
  exact stopsIn_of_readLines trimmed nothing h

theorem scan_of_parse {t : Text} {f : Fault} {n : Nat} (h : parse t = .error f)
    (named : f.line? = some n) : scan t = .error f := by
  cases scanned : scan t with
  | ok entries =>
      rw [line?_of_scan scanned h] at named
      cases named
  | error g =>
      rw [parse, scanned] at h
      cases h
      rfl

section
variable {t : Text} {k : Key} {n : Nat}

theorem line_bounds {f : Fault} (h : parse t = .error f) (named : f.line? = some n) :
    1 ≤ n ∧ n ≤ max 1 t.lines.length := by
  obtain ⟨read, rest, split, -, stops⟩ := stops_of_scan (scan_of_parse h named)
  have ending : 1 ≤ endOf t ∧ endOf t ≤ max 1 t.lines.length := ⟨Nat.le_max_left _ _, Nat.le_refl _⟩
  have inside {line : Line} (hl : line ∈ rest) :
      1 ≤ line.number ∧ line.number ≤ max 1 t.lines.length := by
    obtain ⟨first, last⟩ := number_bounds (split ▸ List.mem_append_right read hl)
    exact ⟨first, last.trans (Nat.le_max_right _ _)⟩
  cases stops with
  | unopened | unclosed =>
      cases named
      exact ending
  | outside | repeated | unseparated =>
      cases named
      exact inside List.mem_cons_self
  | followed =>
      cases named
      exact inside (List.mem_cons_of_mem _ List.mem_cons_self)
  | refused wrong =>
      cases wrong with
      | placeless nowhere =>
          rw [nowhere] at named
          cases named
      | malformed =>
          cases named
          exact inside List.mem_cons_self

/-- A repeated key is the first one that is repeated, and it is repeated for the first time. -/
theorem repeated_of_parse (h : parse t = .error (.duplicateKey k n)) :
    LineIs t n (MapsKey k) ∧ (∃! m, m < n ∧ LineIs t m (MapsKey k)) ∧
      ∀ j a b, a < n → b < n → LineIs t a (MapsKey j) → LineIs t b (MapsKey j) → a = b := by
  obtain ⟨read, rest, split, inner, stops⟩ := stops_of_scan (scan_of_parse h rfl)
  cases stops with
  | refused wrong =>
      cases wrong with
      | placeless nowhere => cases nowhere
  | @repeated line rest _ again before =>
      obtain ⟨earlier, seen, maps⟩ := before
      have here : line ∈ significant t := split ▸ List.mem_append_right read List.mem_cons_self
      have there : earlier ∈ significant t := split ▸ List.mem_append_left _ seen
      have alone {j : Key} {a b : Nat} (less : a < line.number) (less' : b < line.number)
          (ha : LineIs t a (MapsKey j)) (hb : LineIs t b (MapsKey j)) : a = b := by
        obtain ⟨la, ca, rfl, ma⟩ := (lineIs_iff fun _ => MapsKey.counts).mp ha
        obtain ⟨lb, cb, rfl, mb⟩ := (lineIs_iff fun _ => MapsKey.counts).mp hb
        have ra := (mem_around split ca).1.mp less
        have rb := (mem_around split cb).1.mp less'
        rw [inner.eq ra rb ma mb]
      have sooner : earlier.number < line.number := (mem_around split there).1.mpr seen
      have mapped : LineIs t earlier.number (MapsKey k) := lineIs_of_mem there maps
      refine ⟨lineIs_of_mem here again, ⟨earlier.number, ⟨sooner, mapped⟩, ?_⟩, ?_⟩
      · rintro m ⟨less, other⟩
        exact alone less sooner other mapped
      · intro j a b
        exact alone

theorem unseparated_of_parse (h : parse t = .error (.malformed n .missingComma)) :
    LineIs t n (fun line => ∃ k l, Maps k l false line) ∧
      ∃ m, n < m ∧ LineIs t m (fun line => Counts line ∧ ¬ Closes line) ∧
        ∀ i, n < i → i < m → ¬ LineIs t i Counts := by
  obtain ⟨read, rest, split, -, stops⟩ := stops_of_scan (scan_of_parse h rfl)
  cases stops with
  | refused wrong => exact absurd wrong.mem (by decide)
  | @unseparated line next rest k l maps goes_on =>
      have here : line ∈ significant t := split ▸ List.mem_append_right read List.mem_cons_self
      have there : next ∈ significant t := split ▸ List.mem_append_right read (by simp)
      refine ⟨lineIs_of_mem here ⟨k, l, maps⟩, next.number, ?_, ?_, ?_⟩
      · exact (mem_around split there).2.mpr List.mem_cons_self
      · exact lineIs_of_mem there ⟨counts_of_mem there, goes_on⟩
      · intro i
        exact not_lineIs_between split

theorem followed_of_parse (h : parse t = .error (.malformed n .afterClosing)) :
    LineIs t n Counts ∧
      ∃ m < n, LineIs t m Closes ∧ (∀ i < m, ¬ LineIs t i Closes) ∧
        ∀ i, m < i → i < n → ¬ LineIs t i Counts := by
  obtain ⟨read, rest, split, inner, stops⟩ := stops_of_scan (scan_of_parse h rfl)
  cases stops with
  | refused wrong => exact absurd wrong.mem (by decide)
  | @followed closing line rest closes =>
      have here : closing ∈ significant t := split ▸ List.mem_append_right read List.mem_cons_self
      have there : line ∈ significant t := split ▸ List.mem_append_right read (by simp)
      refine ⟨lineIs_of_mem there (counts_of_mem there), closing.number, ?_,
        lineIs_of_mem here closes, ?_, ?_⟩
      · exact (mem_around split there).2.mpr List.mem_cons_self
      · intro i less earlier
        obtain ⟨other, counted, rfl, again⟩ := (lineIs_iff fun _ => counts_of_closes).mp earlier
        exact inner.unclosed other ((mem_around split counted).1.mp less) again
      · intro i
        exact not_lineIs_between split

end

/-- The lines that faults name are lines of the text, and to blame. A repeated key is named with the
line of its second entry, and no key is repeated before that, so that what is made up of entries
never repeats one. A comma is missing on an entry line that another line follows, blank lines and
comments apart, that does not close the module. What comes after the closing line is named with the
first line that counts there. -/
theorem parse_blames (t : Text) :
    (∀ f n, parse t = .error f → f.line? = some n → 1 ≤ n ∧ n ≤ max 1 t.lines.length) ∧
      (∀ k n, parse t = .error (.duplicateKey k n) →
        LineIs t n (MapsKey k) ∧ (∃! m, m < n ∧ LineIs t m (MapsKey k)) ∧
          ∀ j a b, a < n → b < n → LineIs t a (MapsKey j) → LineIs t b (MapsKey j) → a = b) ∧
      (∀ entries k n, scan t = .ok entries →
        Profile.ofEntries entries ≠ .error (.duplicateKey k n)) ∧
      (∀ n, parse t = .error (.malformed n .missingComma) →
        LineIs t n (fun line => ∃ k l, Maps k l false line) ∧
          ∃ m, n < m ∧ LineIs t m (fun line => Counts line ∧ ¬ Closes line) ∧
            ∀ i, n < i → i < m → ¬ LineIs t i Counts) ∧
      ∀ n, parse t = .error (.malformed n .afterClosing) →
        LineIs t n Counts ∧
          ∃ m < n, LineIs t m Closes ∧ (∀ i < m, ¬ LineIs t i Closes) ∧
            ∀ i, m < i → i < n → ¬ LineIs t i Counts := by
  refine ⟨fun f n => line_bounds, fun k n => repeated_of_parse, ?_, fun n => unseparated_of_parse,
    fun n => followed_of_parse⟩
  intro entries k n scanned unmade
  obtain ⟨j, lacking⟩ := Profile.ofEntries_eq_error (scan_eq_ok.mp scanned).2 unmade
  cases lacking

/-- The faults of a key that comes again after a comment, of an entry without its comma before a
comment, and of what follows the closing line and a comment. -/
theorem parse_blames_across_comments :
    let t : Text := "module.exports = \x7b\n  BASE_API: '\"x\"',\n\n  // again\n  BASE_API: '\"y\"'\n\x7d\n"
    let u : Text := "module.exports = \x7b\n  BASE_API: '\"x\"'\n  // and\n  NODE_ENV: ''\n\x7d\n"
    let v : Text := "module.exports = \x7b\n\x7d\n// end\nexit()"
    (parse t = .error (.duplicateKey .api 5) ∧ 5 ≤ max 1 t.lines.length ∧
        LineIs t 5 (MapsKey .api) ∧ ∃! m, m < 5 ∧ LineIs t m (MapsKey .api)) ∧
      (parse u = .error (.malformed 2 .missingComma) ∧
        LineIs u 2 (fun line => ∃ k l, Maps k l false line) ∧
        ∃ m, 2 < m ∧ LineIs u m (fun line => Counts line ∧ ¬ Closes line) ∧
          ∀ i, 2 < i → i < m → ¬ LineIs u i Counts) ∧
      parse v = .error (.malformed 4 .afterClosing) ∧ LineIs v 4 Counts ∧
        ∃ m < 4, LineIs v m Closes ∧ (∀ i < m, ¬ LineIs v i Closes) ∧
          ∀ i, m < i → i < 4 → ¬ LineIs v i Counts := by
  intro t u v
  have again : parse t = .error (.duplicateKey .api 5) := rfl
  have bare : parse u = .error (.malformed 2 .missingComma) := rfl
  have more : parse v = .error (.malformed 4 .afterClosing) := rfl
  obtain ⟨entry, once, -⟩ := (parse_blames t).2.1 .api 5 again
  exact ⟨⟨again, ((parse_blames t).1 _ 5 again rfl).2, entry, once⟩,
    ⟨bare, (parse_blames u).2.2.2.1 2 bare⟩, more, (parse_blames v).2.2.2.2 4 more⟩

end EndpointProfile.ModuleText
