import Mathlib.Data.List.DropRight
import EndpointProfile.Text.Blank

/-! What the cuts of texts give, each said by how the parts make up the whole. -/
namespace EndpointProfile.Text

theorem dropStart?_eq_some {start t rest : Text} :
    dropStart? start t = some rest ↔ t = start ++ rest := by
  induction start generalizing t with
  | nil => simp [dropStart?]
  | cons s start ih =>
      cases t with
      | nil => simp [dropStart?]
      | cons c t =>
          by_cases h : s = c
          · subst h; simp [dropStart?, ih]
          · simp [dropStart?, h, Ne.symm h]

theorem dropEnd?_eq_some {ending t rest : Text} :
    dropEnd? ending t = some rest ↔ t = rest ++ ending := by
  simp only [dropEnd?, Option.map_eq_some_iff, dropStart?_eq_some]
  constructor
  · rintro ⟨r, h, rfl⟩
    rw [← List.reverse_reverse t, h]
    simp
  · rintro rfl
    exact ⟨rest.reverse, by simp, by simp⟩

theorem dropEnd?_eq_none {ending t : Text} : dropEnd? ending t = none ↔ ¬ ending <:+ t := by
  rw [Option.eq_none_iff_forall_ne_some]
  constructor
  · rintro h ⟨rest, rfl⟩
    exact h rest (dropEnd?_eq_some.mpr rfl)
  · intro h rest same
    exact h ⟨rest, (dropEnd?_eq_some.mp same).symm⟩

theorem cutAt?_eq_some {sep : Char} {t before after : Text} :
    cutAt? sep t = some (before, after) ↔ t = before ++ sep :: after ∧ sep ∉ before := by
  induction t generalizing before with
  | nil => simp [cutAt?]
  | cons c t ih =>
      by_cases h : c = sep
      · subst h
        cases before with
        | nil => simp [cutAt?, eq_comm]
        | cons b before => simp +contextual [cutAt?, eq_comm]
      · simp only [cutAt?, h, if_false, Option.map_eq_some_iff, Prod.exists, Prod.mk.injEq]
        constructor
        · rintro ⟨a, b, hab, rfl, rfl⟩
          obtain ⟨rfl, free⟩ := ih.mp hab
          exact ⟨rfl, by simp [free, Ne.symm h]⟩
        · rintro ⟨same, free⟩
          cases before with
          | nil => exact absurd (List.cons.inj same).1 h
          | cons b before =>
              obtain ⟨rfl, rfl⟩ := List.cons.inj same
              exact ⟨before, after, ih.mpr ⟨rfl, fun m => free (List.mem_cons_of_mem _ m)⟩, rfl, rfl⟩

theorem cutAt?_eq_none {sep : Char} {t : Text} : cutAt? sep t = none ↔ sep ∉ t := by
  induction t with
  | nil => simp [cutAt?]
  | cons c t ih =>
      by_cases h : c = sep
      · simp [cutAt?, h]
      · simp [cutAt?, h, ih, Ne.symm h]

/-- A text of nothing but characters of a class. -/
def Only (p : Char → Bool) (t : Text) : Prop := ∀ c ∈ t, p c = true

@[simp] theorem only_nil (p : Char → Bool) : Only p [] := by simp [Only]

@[simp] theorem only_cons {p : Char → Bool} {c : Char} {t : Text} :
    Only p (c :: t) ↔ p c = true ∧ Only p t := by simp [Only]

@[simp] theorem only_append {p : Char → Bool} {s t : Text} :
    Only p (s ++ t) ↔ Only p s ∧ Only p t := by simp [Only, or_imp, forall_and]

/-- A text that neither starts nor ends with a character of a class. -/
structure Bare (p : Char → Bool) (t : Text) : Prop where
  start : ∀ c ∈ t.head?, p c = false
  ending : ∀ c ∈ t.getLast?, p c = false

instance (p : Char → Bool) (t : Text) : Decidable (Bare p t) :=
  decidable_of_iff (t.head?.all (fun c => !p c) ∧ t.getLast?.all fun c => !p c)
    ⟨fun h => ⟨by simpa [Option.all_eq_true] using h.1, by simpa [Option.all_eq_true] using h.2⟩,
      fun h => by simpa [Option.all_eq_true] using And.intro h.start h.ending⟩

theorem bare_of_free {p : Char → Bool} {t : Text} (free : ∀ c ∈ t, p c = false) : Bare p t where
  start c hc := free c (List.mem_of_head? hc)
  ending c hc := free c (List.mem_of_getLast? hc)

theorem Bare.eq_nil_of_start {p : Char → Bool} {a t : Text} (bare : Bare p (a ++ t))
    (ha : Only p a) : a = [] := by
  cases a with
  | nil => rfl
  | cons c a =>
      have inside := (only_cons.mp ha).1
      have outside := bare.start c (by simp)
      rw [inside] at outside
      cases outside

theorem Bare.eq_nil_of_ending {p : Char → Bool} {t z : Text} (bare : Bare p (t ++ z))
    (hz : Only p z) : z = [] := by
  rcases List.eq_nil_or_concat z with rfl | ⟨z, c, rfl⟩
  · rfl
  · have inside := hz c (by simp)
    have outside := bare.ending c (by simp [← List.append_assoc])
    rw [inside] at outside
    cases outside

theorem Bare.around {p : Char → Bool} {s t : Text} (hs : Bare p s) (ht : Bare p t) (m : Text)
    (left : s ≠ []) (right : t ≠ []) : Bare p (s ++ m ++ t) := by
  constructor
  · intro c hc
    rw [List.append_assoc, List.head?_append_of_ne_nil s left] at hc
    exact hs.start c hc
  · intro c hc
    rw [List.getLast?_append_of_ne_nil _ right] at hc
    exact ht.ending c hc

theorem dropWhile_eq_iff {p : Char → Bool} {t s : Text} :
    t.dropWhile p = s ↔ ∃ a, Only p a ∧ t = a ++ s ∧ ∀ c ∈ s.head?, p c = false := by
  constructor
  · rintro rfl
    refine ⟨t.takeWhile p, fun c hc => List.mem_takeWhile_imp hc, by simp, ?_⟩
    intro c hc
    have := List.head?_dropWhile_not p t
    rw [Option.mem_def.mp hc] at this
    simpa using this
  · rintro ⟨a, ha, rfl, hs⟩
    rw [List.dropWhile_append_of_pos ha]
    cases s with
    | nil => rfl
    | cons c s => simp [hs c (by simp)]

theorem dropEndWhile_eq_iff {p : Char → Bool} {t s : Text} :
    dropEndWhile p t = s ↔ ∃ z, Only p z ∧ t = s ++ z ∧ ∀ c ∈ s.getLast?, p c = false := by
  rw [dropEndWhile, List.reverse_eq_iff, dropWhile_eq_iff]
  constructor
  · rintro ⟨a, ha, same, hs⟩
    refine ⟨a.reverse, fun c hc => ha c (List.mem_reverse.mp hc), ?_, by simpa using hs⟩
    rw [← List.reverse_reverse t, same]
    simp
  · rintro ⟨z, hz, rfl, hs⟩
    exact ⟨z.reverse, fun c hc => hz c (List.mem_reverse.mp hc), by simp, by simpa using hs⟩

theorem strip_eq_iff {p : Char → Bool} {t s : Text} :
    strip p t = s ↔ ∃ a z, Only p a ∧ Only p z ∧ t = a ++ s ++ z ∧ Bare p s := by
  rw [strip, dropEndWhile_eq_iff]
  constructor
  · rintro ⟨z, hz, same, last⟩
    obtain ⟨a, ha, rfl, first⟩ := dropWhile_eq_iff.mp same
    refine ⟨a, z, ha, hz, by simp, ⟨fun c hc => first c ?_, last⟩⟩
    cases s with
    | nil => simp at hc
    | cons d s => simpa using hc
  · rintro ⟨a, z, ha, hz, rfl, bare⟩
    cases s with
    | nil =>
        refine ⟨[], by simp, ?_, by simp⟩
        rw [List.append_nil, List.append_nil, List.dropWhile_eq_nil_iff]
        exact only_append.mpr ⟨ha, hz⟩
    | cons c s =>
        refine ⟨z, hz, ?_, bare.ending⟩
        rw [dropWhile_eq_iff]
        exact ⟨a, ha, by simp, fun d hd => bare.start d (by simpa using hd)⟩

section
variable {p : Char → Bool} {a m z : Text}

/-- Cuts stop at a bare text, whatever is behind it. -/
theorem dropWhile_bare (ha : Only p a) (bare : Bare p m) (nonempty : m ≠ []) (t : Text) :
    (a ++ m ++ t).dropWhile p = m ++ t := by
  refine dropWhile_eq_iff.mpr ⟨a, ha, List.append_assoc _ _ _, ?_⟩
  rw [List.head?_append_of_ne_nil m nonempty]
  exact bare.start

theorem dropEndWhile_bare (hz : Only p z) (bare : Bare p m) (nonempty : m ≠ []) (t : Text) :
    dropEndWhile p (t ++ m ++ z) = t ++ m := by
  refine dropEndWhile_eq_iff.mpr ⟨z, hz, rfl, ?_⟩
  rw [List.getLast?_append_of_ne_nil t nonempty]
  exact bare.ending

end

theorem strip_surrounded {p : Char → Bool} {a z : Text} (ha : Only p a) (hz : Only p z) (t : Text) :
    strip p (a ++ t ++ z) = strip p t := by
  obtain ⟨b, y, hb, hy, same, bare⟩ := strip_eq_iff.mp (rfl : strip p t = strip p t)
  refine strip_eq_iff.mpr ⟨a ++ b, y ++ z, only_append.mpr ⟨ha, hb⟩, only_append.mpr ⟨hy, hz⟩, ?_, bare⟩
  conv_lhs => rw [same]
  simp only [List.append_assoc]

theorem trim_eq_iff {t s : Text} :
    trim t = s ↔ ∃ a z, Only isBlank a ∧ Only isBlank z ∧ t = a ++ s ++ z ∧ Bare isBlank s :=
  strip_eq_iff

theorem trim_of_bare {t : Text} (bare : Bare isBlank t) : trim t = t :=
  trim_eq_iff.mpr ⟨[], [], only_nil _, only_nil _, (List.append_nil t).symm, bare⟩

theorem bare_trim (t : Text) : Bare isBlank (trim t) := by
  obtain ⟨-, -, -, -, -, bare⟩ := trim_eq_iff.mp (rfl : trim t = trim t)
  exact bare

theorem trim_cons_of_blank {c : Char} (h : isBlank c = true) (t : Text) :
    trim (c :: t) = trim t := by
  have blank : Only isBlank [c] := only_cons.mpr ⟨h, only_nil _⟩
  have same : trim ([c] ++ t ++ []) = trim t := strip_surrounded blank (only_nil _) t
  simpa using same

theorem trim_append {s : Text} (bare : Bare isBlank s) (nonempty : s ≠ []) (t : Text) :
    trim (s ++ t) = s ++ trimEnd t := by
  obtain ⟨z, blank, same, last⟩ := dropEndWhile_eq_iff.mp (rfl : trimEnd t = _)
  refine trim_eq_iff.mpr ⟨[], z, only_nil _, blank, by simp [← same], ?_, ?_⟩
  · rw [List.head?_append_of_ne_nil s nonempty]
    exact bare.start
  · intro c hc
    rw [List.getLast?_append, Option.mem_def, Option.or_eq_some_iff] at hc
    rcases hc with inside | ⟨-, inside⟩
    · exact last c inside
    · exact bare.ending c inside

theorem trimStart_trimEnd (t : Text) : trimStart (trimEnd t) = trim t := by
  obtain ⟨z, hz, same, last⟩ := dropEndWhile_eq_iff.mp (rfl : trimEnd t = _)
  obtain ⟨a, ha, whole, first⟩ := dropWhile_eq_iff.mp (rfl : trimStart (trimEnd t) = _)
  refine (trim_eq_iff.mpr ⟨a, z, ha, hz, by rw [← whole, ← same], first, fun c hc => last c ?_⟩).symm
  rw [whole, List.getLast?_append, Option.mem_def.mp hc]
  rfl

theorem compact_append (s t : Text) : compact (s ++ t) = compact s ++ compact t :=
  List.filter_append _ _

theorem compact_cons_of_blank {c : Char} (h : isBlank c = true) (t : Text) :
    compact (c :: t) = compact t := by
  simp [compact, h]

theorem compact_of_blank {space : Text} (blank : Only isBlank space) : compact space = [] :=
  List.filter_eq_nil_iff.mpr fun c hc => by simp [blank c hc]

end EndpointProfile.Text
