import EndpointProfile.Proofs.Json.Arrays
import EndpointProfile.Proofs.Json.Numbers

/-! Whatever is a JSON value is passed over, however deep it is nested. -/
namespace EndpointProfile.Json
open Text (Only)

/-- What may stand between the quotes of a string that is passed over. Halves of pairs may stand
alone there. -/
inductive Quoted : Text → Prop
  | nil : Quoted []
  | plain {c : Char} {body : Text} : c ≠ '"' → c ≠ '\\' → ¬ c.toNat < 0x20 →
      Quoted body → Quoted (c :: body)
  | escape {e : Char} {body : Text} : (escaped? e).isSome → Quoted body → Quoted ('\\' :: e :: body)
  | digits {digits body : Text} : (hexValue? digits).isSome → Quoted body →
      Quoted ('\\' :: 'u' :: (digits ++ body))

/-- The whole part of a number: a zero stands alone. -/
inductive Whole : Text → Prop
  | zero : Whole ['0']
  | digits {c : Char} {t : Text} : c.isDigit = true → c ≠ '0' → Only Char.isDigit t → Whole (c :: t)

inductive Fraction : Text → Prop
  | none : Fraction []
  | digits {t : Text} : t ≠ [] → Only Char.isDigit t → Fraction ('.' :: t)

inductive Exponent : Text → Prop
  | none : Exponent []
  | digits {e : Char} {sign t : Text} : e ∈ ['e', 'E'] → sign ∈ [[], ['+'], ['-']] → t ≠ [] →
      Only Char.isDigit t → Exponent (e :: (sign ++ t))

/-- A number without a sign. -/
inductive Unsigned : Text → Prop
  | intro {whole fraction exponent : Text} : Whole whole → Fraction fraction → Exponent exponent →
      Unsigned (whole ++ (fraction ++ exponent))

/-- What a container is made of. -/
inductive Part where
  | value
  | member

def Part.goal : Part → SkipGoal
  | value => .value
  | member => .member

def Frame.part : Frame → Part
  | array => .value
  | object => .member

def Frame.opening : Frame → Char
  | array => '['
  | object => '\x7b'

/-- A value of any depth, or a member with such a value, with blanks before it. -/
inductive Valid : Part → Text → Prop
  | word {gap t : Text} : Only isBlank gap → t ∈ (["null", "true", "false"] : List Text) →
      Valid .value (gap ++ t)
  | string {gap body : Text} : Only isBlank gap → Quoted body →
      Valid .value (gap ++ '"' :: (body ++ ['"']))
  | number {gap t : Text} : Only isBlank gap → Unsigned t → Valid .value (gap ++ t)
  | negative {gap t : Text} : Only isBlank gap → Unsigned t → Valid .value (gap ++ '-' :: t)
  | container {gap inside : Text} (frame : Frame) {raw : List Text} : Only isBlank gap →
      Items true raw inside → (∀ one ∈ raw, Valid frame.part one) →
      Valid .value (gap ++ frame.opening :: (inside ++ [frame.closing]))
  | member {gap body between value : Text} : Only isBlank gap → Quoted body → Only isBlank between →
      Valid .value value → Valid .member (gap ++ '"' :: (body ++ '"' :: (between ++ ':' :: value)))

theorem skipString_quoted {body : Text} (quoted : Quoted body) (rest : Text) :
    skipString .plain (body ++ '"' :: rest) = .ok rest := by
  induction quoted with
  | nil => simp [skipString]
  | plain quote backslash control _ ih => simp [skipString, quote, backslash, control, ih]
  | @escape e body short _ ih =>
      have unicode : e ≠ 'u' := by
        rintro rfl
        cases short
      simp [skipString, unicode, short, ih]
  | @digits digits body value _ ih =>
      obtain ⟨n, value⟩ := Option.isSome_iff_exists.mp value
      obtain ⟨a, b, c, d, rfl, sizes⟩ := exists_four_of_hexValue? value
      simp only [List.forall_mem_cons] at sizes
      simp [skipString, Text.byteCount, sizes, value, ih]

theorem dropDigits_append {digits rest : Text} (only : Only Char.isDigit digits)
    (ends : ∀ c ∈ rest.head?, c.isDigit = false) : dropDigits (digits ++ rest) = rest :=
  Text.dropWhile_eq_iff.mpr ⟨digits, only, rfl, ends⟩

theorem startsWithDigit_append {digits : Text} (only : Only Char.isDigit digits) (some : digits ≠ [])
    (rest : Text) : startsWithDigit (digits ++ rest) = true := by
  cases digits with
  | nil => exact absurd rfl some
  | cons d digits => simp [startsWithDigit, (Text.only_cons.mp only).1]

section
variable {rest : Text}

theorem skipExponent_append {sign digits : Text} (signed : sign ∈ ([[], ['+'], ['-']] : List Text))
    (some : digits ≠ []) (only : Only Char.isDigit digits) (follows : Follows rest) :
    skipExponent (sign ++ digits ++ rest) = .ok rest := by
  have digit := startsWithDigit_append only some rest
  have drop := dropDigits_append only fun c start => (follows.not_number c start).1
  simp only [List.mem_cons, List.not_mem_nil, or_false] at signed
  rcases signed with rfl | rfl | rfl
  · obtain ⟨d, more, rfl⟩ := List.exists_cons_of_ne_nil some
    have apart {c : Char} (sign : c.isDigit = false) : d ≠ c :=
      isDigit_apart (Text.only_cons.mp only).1 sign
    rw [List.nil_append]
    unfold skipExponent
    split
    · next same => exact absurd (List.cons.inj same).1 (apart rfl)
    · next same => exact absurd (List.cons.inj same).1 (apart rfl)
    · simp only [digit, drop, if_true]
  · simp [skipExponent, digit, drop]
  · simp [skipExponent, digit, drop]

theorem skipMarkedExponent_append {exponent : Text} (h : Exponent exponent)
    (follows : Follows rest) : skipMarkedExponent (exponent ++ rest) = .ok rest := by
  cases h with
  | none =>
      have apart := follows.not_number
      rw [List.nil_append]
      unfold skipMarkedExponent
      split
      · exact absurd rfl (apart 'e' rfl).2.2.1
      · exact absurd rfl (apart 'E' rfl).2.2.2
      · rfl
  | digits mark signed some only =>
      have skip := skipExponent_append signed some only follows
      simp only [List.mem_cons, List.not_mem_nil, or_false] at mark
      rcases mark with rfl | rfl <;> simpa [skipMarkedExponent] using skip

theorem Exponent.apart {exponent : Text} (h : Exponent exponent) (follows : Follows rest) :
    ∀ c ∈ (exponent ++ rest).head?, c.isDigit = false ∧ c ≠ '.' := by
  intro c start
  cases h with
  | none => exact ⟨(follows.not_number c start).1, (follows.not_number c start).2.1⟩
  | digits mark =>
      obtain rfl : _ = c := by simpa using start
      simp only [List.mem_cons, List.not_mem_nil, or_false] at mark
      rcases mark with rfl | rfl <;> decide

theorem skipNumber_tail {fraction exponent : Text} (h : Fraction fraction) (h' : Exponent exponent)
    (follows : Follows rest) : skipNumber.tail (fraction ++ (exponent ++ rest)) = .ok rest := by
  have apart := h'.apart follows
  have skip := skipMarkedExponent_append h' follows
  cases h with
  | none =>
      unfold skipNumber.tail
      split
      · next same => exact absurd rfl (apart '.' (by rw [List.nil_append] at same; rw [same]; rfl)).2
      · exact skip
  | digits some only =>
      have digit := startsWithDigit_append only some (exponent ++ rest)
      have drop := dropDigits_append only fun c start => (apart c start).1
      simp [skipNumber.tail, digit, drop, skip]

theorem Fraction.apart {fraction exponent : Text} (h : Fraction fraction) (h' : Exponent exponent)
    (follows : Follows rest) :
    ∀ c ∈ (fraction ++ (exponent ++ rest)).head?, c.isDigit = false := by
  intro c start
  cases h with
  | none => exact (h'.apart follows c start).1
  | digits =>
      obtain rfl : '.' = c := by simpa using start
      rfl

theorem skipNumber_whole {whole : Text} (h : Whole whole)
    (apart : ∀ c ∈ rest.head?, c.isDigit = false) :
    skipNumber (whole ++ rest) = skipNumber.tail rest := by
  cases h with
  | zero =>
      have drop : dropDigits ('0' :: rest) = rest :=
        dropDigits_append (Text.only_cons.mpr ⟨rfl, Text.only_nil _⟩) apart
      rw [List.singleton_append]
      unfold skipNumber
      split
      · next same =>
          obtain ⟨-, rfl⟩ := List.cons.inj same
          rw [if_neg (by simp [apart _ rfl])]
      · next same =>
          obtain ⟨rfl, -⟩ := List.cons.inj same
          rw [if_pos (by decide), drop]
      · next nothing => cases nothing
  | @digits c more first nonzero only =>
      have drop : dropDigits (c :: (more ++ rest)) = rest :=
        dropDigits_append (Text.only_cons.mpr ⟨first, only⟩) apart
      rw [List.cons_append]
      unfold skipNumber
      split
      · next same => exact absurd (List.cons.inj same).1 nonzero
      · next same =>
          obtain ⟨rfl, -⟩ := List.cons.inj same
          rw [if_pos first, drop]
      · next nothing => cases nothing

theorem skipNumber_append {number : Text} (h : Unsigned number) (follows : Follows rest) :
    skipNumber (number ++ rest) = .ok rest := by
  obtain ⟨whole, fraction, exponent⟩ := h
  rw [List.append_assoc, List.append_assoc, skipNumber_whole whole (fraction.apart exponent follows)]
  exact skipNumber_tail fraction exponent follows

end

/-- A text that is passed over in some steps, less than two for each of its characters, whatever
containers are open and whatever follows. -/
def Passes (part : Part) (text : Text) : Prop :=
  ∃ steps < 2 * text.length, ∀ fuel frames rest, Follows rest →
    skipFrom (fuel + (steps + 1)) part.goal frames (text ++ rest) = skipFrom fuel .closed frames rest

theorem Unsigned.starts {number : Text} (h : Unsigned number) :
    ∃ c u, number = c :: u ∧ c.isDigit = true := by
  obtain ⟨whole, fraction, exponent⟩ := h
  cases whole with
  | zero => exact ⟨'0', _, rfl, rfl⟩
  | digits first _ _ => exact ⟨_, _, rfl, first⟩

theorem Valid.starts {part : Part} {text : Text} (h : Valid part text) :
    ∃ gap c u, text = gap ++ c :: u ∧ Only isBlank gap ∧ isBlank c = false ∧
      ∀ frame : Frame, c ≠ frame.closing := by
  cases h with
  | word blank one =>
      simp only [List.mem_cons, List.not_mem_nil, or_false] at one
      rcases one with rfl | rfl | rfl
      · exact ⟨_, 'n', "ull", rfl, blank, by decide, by rintro ⟨⟩ <;> decide⟩
      · exact ⟨_, 't', "rue", rfl, blank, by decide, by rintro ⟨⟩ <;> decide⟩
      · exact ⟨_, 'f', "alse", rfl, blank, by decide, by rintro ⟨⟩ <;> decide⟩
  | string blank _ => exact ⟨_, '"', _, rfl, blank, by decide, by rintro ⟨⟩ <;> decide⟩
  | number blank number =>
      obtain ⟨c, u, rfl, digit⟩ := number.starts
      refine ⟨_, c, u, rfl, blank, isBlank_of_isDigit digit, ?_⟩
      rintro ⟨⟩ <;> exact isDigit_apart digit rfl
  | negative blank _ => exact ⟨_, '-', _, rfl, blank, by decide, by rintro ⟨⟩ <;> decide⟩
  | container frame blank _ _ =>
      refine ⟨_, frame.opening, _, rfl, blank, ?_, ?_⟩
      · cases frame <;> decide
      · rintro ⟨⟩ <;> cases frame <;> decide
  | member blank _ _ _ => exact ⟨_, '"', _, rfl, blank, by decide, by rintro ⟨⟩ <;> decide⟩

section
variable {fuel : Nat} {frame : Frame} {frames : List Frame} {t rest : Text} {c : Char}

theorem skipFrom_blanks (part : Part) :
    skipFrom (fuel + 1) part.goal frames (skipBlanks t) = skipFrom (fuel + 1) part.goal frames t := by
  have twice : skipBlanks (skipBlanks t) = skipBlanks t := List.dropWhile_idempotent isBlank t
  cases part <;> simp only [Part.goal, skipFrom, twice]

theorem skipFrom_open (start : skipBlanks t = frame.opening :: rest) :
    skipFrom (fuel + 1) .value frames t = skipFrom fuel .opened (frame :: frames) rest := by
  cases frame <;> simp only [skipFrom, start, Frame.opening]

/-- A container that does not end at once goes on with its first part. -/
theorem skipFrom_first (start : skipBlanks t = c :: rest) (inside : c ≠ frame.closing) :
    skipFrom (fuel + 2) .opened (frame :: frames) t =
      skipFrom (fuel + 1) frame.part.goal (frame :: frames) t := by
  have step (n : Nat) : skipFrom (n + 1) .opened (frame :: frames) t =
      skipFrom n frame.part.goal (frame :: frames) (c :: rest) := by
    cases frame <;> simp [skipFrom, start, inside, Frame.part, Part.goal]
  rw [step (fuel + 1), ← start, skipFrom_blanks]

theorem skipFrom_comma (start : skipBlanks t = ',' :: rest) :
    skipFrom (fuel + 1) .closed (frame :: frames) t =
      skipFrom fuel frame.part.goal (frame :: frames) rest := by
  cases frame <;> simp [skipFrom, start, Frame.part, Part.goal]

theorem skipFrom_close {first : Bool} (start : skipBlanks t = frame.closing :: rest) :
    skipFrom (fuel + 1) (if first then .opened else .closed) (frame :: frames) t =
      skipFrom fuel .closed frames rest := by
  cases frame <;> cases first <;> simp [skipFrom, start, Frame.closing]

end

theorem follows_closing (frame : Frame) (rest : Text) : Follows (frame.closing :: rest) := by
  cases frame <;> simp [Follows, Frame.closing]

/-- The items of a container are passed over if each of them is, with a step for each comma and one
for the end. -/
theorem passes_items {frame : Frame} {first : Bool} {raw : List Text} {inside : Text}
    (items : Items first raw inside)
    (parts : ∀ one ∈ raw, Valid frame.part one ∧ Passes frame.part one) :
    ∃ steps ≤ 2 * inside.length + first.toNat, ∀ fuel frames rest,
      skipFrom (fuel + (steps + 1)) (if first then .opened else .closed) (frame :: frames)
        (inside ++ frame.closing :: rest) = skipFrom fuel .closed frames rest := by
  induction items with
  | nil only =>
      refine ⟨0, by omega, fun fuel frames rest => ?_⟩
      have dark : isBlank frame.closing = false := by cases frame <;> decide
      exact skipFrom_close (by rw [skipBlanks_append only, skipBlanks_cons dark])
  | @first one rest raw later ih =>
      obtain ⟨⟨valid, k, few, passes⟩, others⟩ := List.forall_mem_cons.mp parts
      obtain ⟨steps, bound, run⟩ := ih others
      refine ⟨k + 1 + (steps + 1), ?_, fun fuel frames tail => ?_⟩
      · simp only [List.length_append, Bool.toNat_true, Bool.toNat_false] at bound ⊢
        omega
      · obtain ⟨gap, c, u, rfl, blank, dark, inside⟩ := valid.starts
        have start : skipBlanks (gap ++ c :: u ++ rest ++ frame.closing :: tail) =
            c :: (u ++ rest ++ frame.closing :: tail) :=
          skipBlanks_eq_cons.mpr ⟨dark, gap, blank, by simp⟩
        have ends : Follows (rest ++ frame.closing :: tail) := later.follows (follows_closing _ _)
        have regroup : fuel + (k + 1 + (steps + 1) + 1) = fuel + (steps + 1) + k + 2 := by omega
        rw [if_pos rfl, regroup, skipFrom_first start (inside frame), List.append_assoc]
        exact (passes _ _ _ ends).trans (run fuel frames tail)
  | @next blank one rest raw only later ih =>
      obtain ⟨⟨valid, k, few, passes⟩, others⟩ := List.forall_mem_cons.mp parts
      obtain ⟨steps, bound, run⟩ := ih others
      refine ⟨k + 1 + (steps + 1), ?_, fun fuel frames tail => ?_⟩
      · simp only [List.length_append, List.length_cons, Bool.toNat_false] at bound ⊢
        omega
      · have start : skipBlanks (blank ++ ',' :: (one ++ rest) ++ frame.closing :: tail) =
            ',' :: (one ++ (rest ++ frame.closing :: tail)) :=
          skipBlanks_eq_cons.mpr ⟨by decide, blank, only, by simp⟩
        have ends : Follows (rest ++ frame.closing :: tail) := later.follows (follows_closing _ _)
        have regroup : fuel + (k + 1 + (steps + 1) + 1) = fuel + (steps + 1) + (k + 1) + 1 := by omega
        rw [regroup]
        exact (skipFrom_comma start).trans ((passes _ _ _ ends).trans (run fuel frames tail))

theorem passes_of_step {gap u : Text} {c : Char} (blank : Only isBlank gap) (dark : isBlank c = false)
    (step : ∀ fuel frames t rest, skipBlanks t = c :: (u ++ rest) → Follows rest →
      skipFrom (fuel + 1) .value frames t = skipFrom fuel .closed frames rest) :
    Passes .value (gap ++ c :: u) := by
  have long : 0 < (gap ++ c :: u).length := by
    rw [List.length_append, List.length_cons]
    omega
  refine ⟨0, by omega, fun fuel frames rest follows => ?_⟩
  have start : skipBlanks (gap ++ c :: u ++ rest) = c :: (u ++ rest) :=
    skipBlanks_eq_cons.mpr ⟨dark, gap, blank, by simp⟩
  exact step fuel frames _ rest start follows

theorem passes_word {gap t : Text} (blank : Only isBlank gap)
    (one : t ∈ (["null", "true", "false"] : List Text)) : Passes .value (gap ++ t) := by
  simp only [List.mem_cons, List.not_mem_nil, or_false] at one
  rcases one with rfl | rfl | rfl
  all_goals
    refine passes_of_step blank rfl fun fuel frames t rest start _ => ?_
    rw [skipFrom, start]
    rfl

theorem passes_string {gap body : Text} (blank : Only isBlank gap) (quoted : Quoted body) :
    Passes .value (gap ++ '"' :: (body ++ ['"'])) := by
  refine passes_of_step blank rfl fun fuel frames t rest start _ => ?_
  rw [List.append_assoc, List.singleton_append] at start
  simp only [skipFrom, start, skipString_quoted quoted, Except.bind]

theorem skipFrom_digit {fuel : Nat} {frames : List Frame} {t u : Text} {c : Char}
    (start : skipBlanks t = c :: u) (digit : c.isDigit = true) :
    skipFrom (fuel + 1) .value frames t =
      (skipNumber (c :: u)).bind (skipFrom fuel .closed frames) := by
  rw [skipFrom, start]
  split
  · next nothing => cases nothing
  all_goals first
    | next same => exact absurd (List.cons.inj same).1 (isDigit_apart digit rfl)
    | next same =>
        cases same
        rw [if_pos digit]

theorem passes_number {gap t : Text} (blank : Only isBlank gap) (number : Unsigned t) :
    Passes .value (gap ++ t) := by
  obtain ⟨c, u, rfl, digit⟩ := number.starts
  refine passes_of_step blank (isBlank_of_isDigit digit) fun fuel frames t rest start follows => ?_
  have skip : skipNumber (c :: (u ++ rest)) = .ok rest := skipNumber_append number follows
  rw [skipFrom_digit start digit, skip, Except.bind]

theorem passes_negative {gap t : Text} (blank : Only isBlank gap) (number : Unsigned t) :
    Passes .value (gap ++ '-' :: t) := by
  refine passes_of_step blank rfl fun fuel frames t rest start follows => ?_
  simp only [skipFrom, start, skipNumber_append number follows, Except.bind]

theorem passes_container {gap inside : Text} {frame : Frame} {raw : List Text}
    (blank : Only isBlank gap) (items : Items true raw inside)
    (parts : ∀ one ∈ raw, Valid frame.part one ∧ Passes frame.part one) :
    Passes .value (gap ++ frame.opening :: (inside ++ [frame.closing])) := by
  obtain ⟨steps, bound, run⟩ := passes_items items parts
  refine ⟨steps + 1, ?_, fun fuel frames rest _ => ?_⟩
  · simp only [List.length_append, List.length_cons, Bool.toNat_true] at bound ⊢
    omega
  · have start : skipBlanks (gap ++ frame.opening :: (inside ++ [frame.closing]) ++ rest) =
        frame.opening :: (inside ++ frame.closing :: rest) :=
      skipBlanks_eq_cons.mpr ⟨by cases frame <;> decide, gap, blank, by simp⟩
    exact (skipFrom_open start).trans (run fuel frames rest)

theorem passes_member {gap body between value : Text} (blank : Only isBlank gap)
    (quoted : Quoted body) (space : Only isBlank between) (passes : Passes .value value) :
    Passes .member (gap ++ '"' :: (body ++ '"' :: (between ++ ':' :: value))) := by
  obtain ⟨steps, bound, run⟩ := passes
  refine ⟨steps + 1, ?_, fun fuel frames rest follows => ?_⟩
  · simp only [List.length_append, List.length_cons]
    omega
  · have start : skipBlanks (gap ++ '"' :: (body ++ '"' :: (between ++ ':' :: value)) ++ rest) =
        '"' :: (body ++ '"' :: (between ++ ':' :: (value ++ rest))) :=
      skipBlanks_eq_cons.mpr ⟨by decide, gap, blank, by simp⟩
    have colon : skipBlanks (between ++ ':' :: (value ++ rest)) = ':' :: (value ++ rest) :=
      skipBlanks_eq_cons.mpr ⟨by decide, between, space, rfl⟩
    rw [← run fuel frames rest follows]
    simp only [Part.goal]
    rw [← Nat.add_assoc, skipFrom]
    simp only [start, skipString_quoted quoted, Except.bind, colon]

/-- What is in a container is passed over before the container is. -/
theorem Valid.passes {part : Part} {text : Text} (h : Valid part text) : Passes part text := by
  induction h with
  | word blank one => exact passes_word blank one
  | string blank quoted => exact passes_string blank quoted
  | number blank number => exact passes_number blank number
  | negative blank number => exact passes_negative blank number
  | container frame blank items parts ih =>
      exact passes_container blank items fun one inside => ⟨parts one inside, ih one inside⟩
  | member blank quoted between _ ih => exact passes_member blank quoted between ih

theorem skipValue_valid {text rest : Text} (h : Valid .value text) (follows : Follows rest) :
    skipValue (text ++ rest) = .ok rest := by
  obtain ⟨steps, few, passes⟩ := h.passes
  obtain ⟨fuel, enough⟩ : ∃ fuel, 2 * (text ++ rest).length + 2 = fuel + (steps + 1) :=
    ⟨2 * (text ++ rest).length + 2 - (steps + 1), by rw [List.length_append]; omega⟩
  have run := passes fuel [] rest follows
  rw [skipValue, enough]
  exact run.trans (by cases fuel <;> rfl)

end EndpointProfile.Json
