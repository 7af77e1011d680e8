import EndpointProfile.Proofs.Json.Containers
import EndpointProfile.Proofs.Text.Digits

/-! Whole numbers of 64 bits, with or without a sign, are read back as themselves. -/
namespace EndpointProfile.Json
open Text (Only)

/-- Digits are absorbed as long as what they add up to stays within the limit. -/
theorem absorb_of_le {limit n : Nat} {digits : Text}
    (fits : Nat.ofDigitChars 10 digits n ≤ limit) :
    absorb limit n digits = (Nat.ofDigitChars 10 digits n, []) := by
  have grows (digits : Text) (n : Nat) : n ≤ Nat.ofDigitChars 10 digits n := by
    induction digits generalizing n with
    | nil => exact le_rfl
    | cons d digits ih =>
        refine le_trans ?_ (ih (10 * n + (d.toNat - '0'.toNat)))
        omega
  induction digits generalizing n with
  | nil => rfl
  | cons d digits ih =>
      have next : Nat.ofDigitChars 10 digits (10 * n + (d.toNat - '0'.toNat)) ≤ limit := fits
      rw [absorb, if_neg (not_lt.mpr ((grows digits _).trans next)), ih next]
      rfl

theorem only_ofNat (n : Nat) : Only Char.isDigit (Text.ofNat n) :=
  (Text.digits?_ten.mp (Text.digits?_toDigits (by decide) (by decide) n)).1

theorem ofDigitChars_ofNat (n : Nat) : Nat.ofDigitChars 10 (Text.ofNat n) 0 = n :=
  (Text.digits?_ten.mp (Text.digits?_toDigits (by decide) (by decide) n)).2

/-- Only zero starts with a zero, and nothing stands after this one. -/
theorem ofNat_ne_padded (n : Nat) (c : Char) (t : Text) : Text.ofNat n ≠ '0' :: c :: t := by
  intro padded
  rcases Nat.eq_zero_or_pos n with rfl | positive
  · cases padded
  · have start : (Nat.toDigits 10 n).head? ≠ some '0' :=
      Text.head?_toDigits (by decide) (by decide) positive
    rw [← Text.ofNat, padded] at start
    exact start rfl

theorem Follows.not_number {rest : Text} (h : Follows rest) :
    ∀ c ∈ rest.head?, c.isDigit = false ∧ c ≠ '.' ∧ c ≠ 'e' ∧ c ≠ 'E' := by
  intro c start
  rcases h c start with blank | rfl | rfl | rfl
  · unfold isBlank at blank
    simp only [Bool.or_eq_true, decide_eq_true_eq] at blank
    rcases blank with ((rfl | rfl) | rfl) | rfl <;> decide
  all_goals decide

theorem takeWhile_digits {digits rest : Text} (only : Only Char.isDigit digits)
    (ends : ∀ c ∈ rest.head?, c.isDigit = false) :
    (digits ++ rest).takeWhile Char.isDigit = digits := by
  have stop : rest.takeWhile Char.isDigit = [] := by
    cases rest with
    | nil => rfl
    | cons c rest => simp [ends c rfl]
  rw [List.takeWhile_append_of_pos only, stop, List.append_nil]

theorem readNumber_ofNat {n : Nat} (small : n ≤ largestWord) (negative : Bool) {rest : Text}
    (follows : Follows rest) :
    readNumber negative (Text.ofNat n ++ rest) = .ok (wholeNumber negative n, rest) := by
  have ends := follows.not_number
  have absorbed : absorb largestWord 0 (Text.ofNat n) = (n, []) := by
    rw [absorb_of_le (by rwa [ofDigitChars_ofNat]), ofDigitChars_ofNat]
  unfold readNumber
  rw [takeWhile_digits (only_ofNat n) fun c start => (ends c start).1]
  simp only [List.drop_left]
  split
  · next nothing => exact absurd nothing (Text.toDigits_ne_nil (by decide) n)
  · next padded => exact absurd padded (ofNat_ne_padded n _ _)
  rw [absorbed]
  simp only
  split
  · exact absurd rfl (ends '.' rfl).2.1
  have plain : startsExponent rest = false := by
    cases rest with
    | nil => rfl
    | cons c rest => simp [startsExponent, (ends c rfl).2.2]
  simp [plain]

theorem isDigit_apart {c d : Char} (digit : c.isDigit = true) (other : d.isDigit = false) :
    c ≠ d := by
  rintro rfl
  rw [digit] at other
  cases other

theorem isBlank_of_isDigit {c : Char} (digit : c.isDigit = true) : isBlank c = false := by
  simp [isBlank, isDigit_apart digit]

theorem exists_digit_ofNat (n : Nat) :
    ∃ c digits, Text.ofNat n = c :: digits ∧ c.isDigit = true := by
  have some : Text.ofNat n ≠ [] := Text.toDigits_ne_nil (by decide) n
  obtain ⟨c, digits, written⟩ := List.exists_cons_of_ne_nil some
  exact ⟨c, digits, written, only_ofNat n c (by simp [written])⟩

theorem takes_word {gap : Text} (blank : Only isBlank gap) {n : Nat} (small : n ≤ largestWord)
    (depth : Nat) : Takes (word depth) (gap ++ Text.ofNat n) n := by
  intro rest follows
  have read := readNumber_ofNat small false follows
  obtain ⟨c, digits, written, digit⟩ := exists_digit_ofNat n
  have start : skipBlanks (gap ++ Text.ofNat n ++ rest) = c :: (digits ++ rest) := by
    rw [List.append_assoc, skipBlanks_append blank, written, List.cons_append,
      skipBlanks_cons (isBlank_of_isDigit digit)]
  rw [written, List.cons_append] at read
  simp only [word, start]
  split
  · next minus => exact absurd (List.cons.inj minus).1 (isDigit_apart digit rfl)
  · next same =>
      cases same
      simp [digit, read, Except.bind, wholeNumber]
  · next nothing => cases nothing

end EndpointProfile.Json
