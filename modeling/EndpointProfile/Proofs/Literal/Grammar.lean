import EndpointProfile.Profile.Basic
import EndpointProfile.Proofs.Literal

/-! The grammar of literals, and where a literal ends in a text that goes on after it. -/
namespace EndpointProfile.Literal

/-- What may stand between the quotes: plain characters, and pairs of a backslash and a character.
Line breaks are neither. -/
inductive Body : Text → Prop
  | nil : Body []
  | plain {c : Char} {t : Text} : c ≠ '"' → c ≠ '\\' → c ≠ '\n' → c ≠ '\r' → Body t → Body (c :: t)
  | escaped {c : Char} {t : Text} : c ≠ '\n' → c ≠ '\r' → Body t → Body ('\\' :: c :: t)

/-- What no body goes on with, by its start. -/
inductive Wrong : Text → Flaw → Prop
  | quote (t : Text) : Wrong ('"' :: t) .innerQuote
  | newline (t : Text) : Wrong ('\n' :: t) .lineBreak
  | return (t : Text) : Wrong ('\r' :: t) .lineBreak
  | escapedNewline (t : Text) : Wrong ('\\' :: '\n' :: t) .lineBreak
  | escapedReturn (t : Text) : Wrong ('\\' :: '\r' :: t) .lineBreak
  | backslash : Wrong ['\\'] .escapedEnd

/-- A body leaves the scan as it was before it. -/
theorem flawAfter_append {a : Text} (body : Body a) (t : Text) :
    flawAfter false (a ++ t) = flawAfter false t := by
  induction body with
  | nil => rfl
  | plain quote backslash newline ret _ ih => simp [flawAfter, quote, backslash, newline, ret, ih]
  | escaped newline ret _ ih => simp [flawAfter, newline, ret, ih]

theorem flawAfter_of_body {t : Text} (body : Body t) : flawAfter false t = none := by
  have scanned := flawAfter_append body []
  rwa [List.append_nil] at scanned

theorem flawAfter_of_wrong {t : Text} {f : Flaw} (wrong : Wrong t f) :
    flawAfter false t = some f := by
  cases wrong <;> simp [flawAfter]

/-- A text in parts: a body, and then something wrong unless that is all. -/
def Parted (t : Text) : Prop :=
  ∃ a rest, t = a ++ rest ∧ Body a ∧ (rest = [] ∨ ∃ f, Wrong rest f)

theorem Parted.prepend {p t : Text} (parted : Parted t) (keeps : ∀ a, Body a → Body (p ++ a)) :
    Parted (p ++ t) := by
  obtain ⟨a, rest, rfl, body, ends⟩ := parted
  exact ⟨p ++ a, rest, (List.append_assoc p a rest).symm, keeps a body, ends⟩

theorem parted_of_wrong {t : Text} {f : Flaw} (wrong : Wrong t f) : Parted t :=
  ⟨[], t, rfl, .nil, .inr ⟨f, wrong⟩⟩

theorem parted_cons {c : Char} {t : Text} (backslash : c ≠ '\\') (parted : Parted t) :
    Parted (c :: t) := by
  by_cases quote : c = '"'
  · subst quote; exact parted_of_wrong (.quote t)
  by_cases newline : c = '\n'
  · subst newline; exact parted_of_wrong (.newline t)
  by_cases ret : c = '\r'
  · subst ret; exact parted_of_wrong (.return t)
  · exact parted.prepend (p := [c]) fun a body => .plain quote backslash newline ret body

theorem parted_backslash {c : Char} {t : Text} (parted : Parted t) : Parted ('\\' :: c :: t) := by
  by_cases newline : c = '\n'
  · subst newline; exact parted_of_wrong (.escapedNewline t)
  by_cases ret : c = '\r'
  · subst ret; exact parted_of_wrong (.escapedReturn t)
  · exact parted.prepend (p := ['\\', c]) fun a body => .escaped newline ret body

/-- The characters are taken one by one, but two at a time from a backslash on. -/
theorem parted (t : Text) : Parted t := by
  have nil : Parted [] := ⟨[], [], rfl, .nil, .inl rfl⟩
  induction t using List.twoStepInduction with
  | nil => exact nil
  | singleton c =>
      by_cases backslash : c = '\\'
      · subst backslash; exact parted_of_wrong .backslash
      · exact parted_cons backslash nil
  | cons_cons c d t two one =>
      by_cases backslash : c = '\\'
      · subst backslash; exact parted_backslash two
      · exact parted_cons backslash (one d)

theorem flawAfter_eq_none {t : Text} : flawAfter false t = none ↔ Body t := by
  refine ⟨fun flawless => ?_, flawAfter_of_body⟩
  obtain ⟨a, rest, rfl, body, rfl | ⟨f, wrong⟩⟩ := parted t
  · simpa using body
  · rw [flawAfter_append body, flawAfter_of_wrong wrong] at flawless
    cases flawless

theorem flawAfter_eq_some {t : Text} {f : Flaw} :
    flawAfter false t = some f ↔ ∃ a rest, t = a ++ rest ∧ Body a ∧ Wrong rest f := by
  constructor
  · intro flawed
    obtain ⟨a, rest, rfl, body, rfl | ⟨g, wrong⟩⟩ := parted t
    · rw [flawAfter_append body] at flawed
      cases flawed
    · rw [flawAfter_append body, flawAfter_of_wrong wrong] at flawed
      cases flawed
      exact ⟨a, rest, rfl, body, wrong⟩
  · rintro ⟨a, rest, rfl, body, wrong⟩
    rw [flawAfter_append body, flawAfter_of_wrong wrong]

instance : DecidablePred Body := fun _ => decidable_of_iff _ flawAfter_eq_none

-- three backslashes hide the quote after them, two do not, and three at the end hide the closing one
example : Body "a\\\\\\\"" ∧ ¬ Body "a\\\\\"" ∧ ¬ Body "a\\\\\\" := by decide

theorem body_unquoted (l : Literal) : Body l.unquoted := flawAfter_eq_none.mp l.flawless

/-- The fault of a text names the text and says what is wrong in it first. -/
theorem parse_eq_error {t : Text} {e : Fault} :
    parse t = .error e ↔ e.raw = t ∧ (unwrap? t = none ∧ e.flaw = .unwrapped ∨
      ∃ a rest, t = '"' :: (a ++ rest) ++ ['"'] ∧ Body a ∧ Wrong rest e.flaw) := by
  obtain ⟨raw, flaw⟩ := e
  unfold parse
  constructor
  · intro refused
    split at refused
    · next unwrapped =>
        cases refused
        exact ⟨rfl, .inl ⟨unwrapped, rfl⟩⟩
    · next inner wrapped =>
        split at refused
        · next found =>
            obtain ⟨a, rest, rfl, body, wrong⟩ := flawAfter_eq_some.mp found
            cases refused
            exact ⟨rfl, .inr ⟨a, rest, unwrap?_eq_some.mp wrapped, body, wrong⟩⟩
        · cases refused
  · rintro ⟨rfl, ⟨unwrapped, rfl⟩ | ⟨a, rest, wrapped, body, wrong⟩⟩
    · rw [unwrapped]
    · have flawed := flawAfter_eq_some.mpr ⟨a, rest, rfl, body, wrong⟩
      rw [unwrap?_eq_some.mpr wrapped]
      simp only
      split
      · next found => rw [← Option.some.inj (flawed.symm.trans found)]
      · next flawless => rw [flawless] at flawed; cases flawed

/-- A text is read as a literal exactly if it is a body in quotes, which is then what stands between
the quotes. All other texts are refused. -/
theorem parse_iff_body (t : Text) :
    (∀ inner, (∃ l, parse t = .ok l ∧ l.unquoted = inner) ↔ Body inner ∧ t = '"' :: inner ++ ['"']) ∧
      ((¬ ∃ inner, Body inner ∧ t = '"' :: inner ++ ['"']) ↔ ∃ flaw, parse t = .error ⟨t, flaw⟩) := by
  have accepted (inner : Text) :
      (∃ l, parse t = .ok l ∧ l.unquoted = inner) ↔ Body inner ∧ t = '"' :: inner ++ ['"'] := by
    constructor
    · rintro ⟨l, read, rfl⟩
      exact ⟨l.body_unquoted, parse_eq_ok.mp read⟩
    · rintro ⟨body, rfl⟩
      exact ⟨⟨inner, flawAfter_of_body body⟩, parse_eq_ok.mpr rfl, rfl⟩
  refine ⟨accepted, ?_, ?_⟩
  · intro nowhere
    cases read : parse t with
    | ok l => exact absurd ⟨l.unquoted, (accepted l.unquoted).mp ⟨l, read, rfl⟩⟩ nowhere
    | error e =>
        obtain ⟨rfl, -⟩ := parse_eq_error.mp read
        exact ⟨e.flaw, rfl⟩
  · rintro ⟨flaw, refused⟩ ⟨inner, body⟩
    obtain ⟨l, read, -⟩ := (accepted inner).mpr body
    rw [refused] at read
    cases read

/-- Cuts a text right after its first double quote, where a backslash hides the character after
it. -/
def cutQuote? : Text → Option (Text × Text)
  | [] => none
  | '"' :: t => some (['"'], t)
  | '\\' :: c :: t => (cutQuote? t).map fun (a, rest) => ('\\' :: c :: a, rest)
  | c :: t => (cutQuote? t).map fun (a, rest) => (c :: a, rest)

/-- Takes a quoted token off the start of a text, as a reader of code does. -/
def token? : Text → Option (Text × Text)
  | '"' :: t => (cutQuote? t).map fun (a, rest) => ('"' :: a, rest)
  | _ => none

theorem cutQuote?_body {a : Text} (body : Body a) (rest : Text) :
    cutQuote? (a ++ '"' :: rest) = some (a ++ ['"'], rest) := by
  induction body with
  | nil => rfl
  | plain _ backslash _ _ _ ih => simp [cutQuote?, backslash, ih]
  | escaped _ _ _ ih => simp [cutQuote?, ih]

theorem token?_raw (l : Literal) (rest : Text) : token? (l.raw ++ rest) = some (l.raw, rest) := by
  have cut := cutQuote?_body l.body_unquoted rest
  simp [raw, token?, cut]

/-- What a build puts in place of a name is one token of the code around it. -/
theorem token?_definition {p : Profile} {name code : Text} (h : (name, code) ∈ p.definitions)
    (after : Text) : token? (code ++ after) = some (code, after) := by
  obtain ⟨⟨k, l⟩, -, same⟩ := List.mem_map.mp h
  cases same
  exact token?_raw l after

theorem raw_injective {a b : Literal} (same : a.raw = b.raw) : a = b := by
  have read := parse_raw a
  rw [same, parse_raw b] at read
  injection read with read
  exact read.symm

/-- A literal ends where the first token ends, whatever comes after it, so that no literal can be
taken for the start of another. -/
theorem raw_append_inj :
    (∀ (a b : Literal) (s t : Text), a.raw ++ s = b.raw ++ t ↔ a = b ∧ s = t) ∧
      (∀ a b : Literal, a.raw <+: b.raw ↔ a = b) ∧
      ∀ (a : Literal) (s : Text), token? (a.raw ++ s) = some (a.raw, s) := by
  have cancel (a b : Literal) (s t : Text) : a.raw ++ s = b.raw ++ t ↔ a = b ∧ s = t := by
    constructor
    · intro same
      have token := token?_raw a s
      rw [same, token?_raw b t] at token
      injection token with token
      injection token with raws rests
      exact ⟨(raw_injective raws).symm, rests.symm⟩
    · rintro ⟨rfl, rfl⟩
      rfl
  refine ⟨cancel, fun a b => ⟨?_, ?_⟩, token?_raw⟩
  · rintro ⟨s, same⟩
    exact ((cancel a b s []).mp (by rw [same, List.append_nil])).1
  · rintro rfl
    exact List.prefix_refl a.raw

end EndpointProfile.Literal
