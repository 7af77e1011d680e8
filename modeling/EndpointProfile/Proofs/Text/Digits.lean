import Mathlib.Data.List.Basic
import Mathlib.Data.List.Induction
import EndpointProfile.Text.Blank

/-! Numbers in digits. What is written in a base is read back, and a decimal text stands for the
number that its digits add up to. -/
namespace EndpointProfile.Text

theorem digits?_concat (base : Nat) (t : Text) (c : Char) :
    digits? base (t ++ [c]) =
      (digits? base t).bind fun n => (digits?.digit? base c).map (base * n + ·) := by
  rw [digits?, List.foldl_append]
  rfl

theorem digit?_digitChar {base d : Nat} (small : base ≤ 16) (digit : d < base) :
    digits?.digit? base d.digitChar = some d := by
  have each : ∀ b ≤ 16, ∀ n < b, digits?.digit? b n.digitChar = some n := by decide
  exact each base small d digit

/-- A character of the digits of a number in a base up to 16. -/
def Digit (c : Char) : Prop := ∃ d < 16, c = d.digitChar

theorem Digit.apart {c : Char} (digit : Digit c) : c ≠ '.' ∧ c ≠ ':' ∧ isBlank c = false := by
  obtain ⟨d, small, rfl⟩ := digit
  have each : ∀ d < 16, d.digitChar ≠ '.' ∧ d.digitChar ≠ ':' ∧ isBlank d.digitChar = false := by
    decide
  exact each d small

section
variable {base : Nat}

/-- What holds of single digits and is kept when a digit is put at the end holds of all numbers and
their digits. -/
theorem toDigits_induction (large : 1 < base) {P : Nat → Text → Prop}
    (single : ∀ d < base, P d [d.digitChar])
    (longer : ∀ n t, 0 < n → P n t → ∀ d < base, P (base * n + d) (t ++ [d.digitChar])) (n : Nat) :
    P n (Nat.toDigits base n) := by
  induction n using Nat.strongRecOn with
  | ind n ih =>
      rcases Nat.lt_or_ge n base with short | long
      · rw [Nat.toDigits_of_lt_base short]
        exact single n short
      · have less : n / base < n := Nat.div_lt_self (by omega) large
        have positive : 0 < n / base := Nat.div_pos long (by omega)
        have last : n % base < base := Nat.mod_lt n (by omega)
        have written := longer _ _ positive (ih _ less) _ last
        rwa [Nat.div_add_mod, ← Nat.toDigits_of_base_le large long] at written

theorem toDigits_ne_nil (large : 1 < base) (n : Nat) : Nat.toDigits base n ≠ [] :=
  toDigits_induction large (P := fun _ t => t ≠ []) (by simp) (by simp) n

theorem digits?_toDigits (large : 1 < base) (small : base ≤ 16) (n : Nat) :
    digits? base (Nat.toDigits base n) = some n := by
  refine toDigits_induction large (P := fun n t => digits? base t = some n) ?_ ?_ n
  · intro d digit
    have read : digits? base ([] ++ [d.digitChar]) = some d := by
      rw [digits?_concat, digit?_digitChar small digit]
      simp [digits?]
    exact read
  · intro n t _ read d digit
    rw [digits?_concat, read, digit?_digitChar small digit]
    rfl

theorem digit_of_mem (large : 1 < base) (small : base ≤ 16) {n : Nat} {c : Char}
    (inside : c ∈ Nat.toDigits base n) : Digit c := by
  have digit {d : Nat} (less : d < base) : Digit d.digitChar := ⟨d, by omega, rfl⟩
  refine toDigits_induction large (P := fun _ t => ∀ c ∈ t, Digit c) ?_ ?_ n c inside
  · intro d less
    exact List.forall_mem_singleton.mpr (digit less)
  · intro n t _ before d less
    exact List.forall_mem_append.mpr ⟨before, List.forall_mem_singleton.mpr (digit less)⟩

theorem head?_toDigits (large : 1 < base) (small : base ≤ 16) {n : Nat} (positive : 0 < n) :
    (Nat.toDigits base n).head? ≠ some '0' := by
  have digits : ∀ d < 16, 0 < d → d.digitChar ≠ '0' := by decide
  refine (toDigits_induction large (P := fun n t => 0 < n → t ≠ [] ∧ t.head? ≠ some '0') ?_ ?_ n
    positive).2
  · intro d less above
    simpa using digits d (by omega) above
  · intro n t above before d _ _
    obtain ⟨nonempty, start⟩ := before above
    rw [List.head?_append_of_ne_nil t nonempty]
    exact ⟨by simp, start⟩

end

theorem digit?_ten {c : Char} {d : Nat} :
    digits?.digit? 10 c = some d ↔ c.isDigit = true ∧ c.toNat - '0'.toNat = d := by
  have decimal : c.isDigit = ('0' ≤ c && c ≤ '9') := rfl
  unfold digits?.digit?
  rw [decimal]
  simp only
  split
  · next inside =>
      have bound : c.toNat ≤ '9'.toNat :=
        UInt32.le_iff_toNat_le.mp (of_decide_eq_true (Bool.and_eq_true_iff.mp inside).2)
      have small : c.toNat - '0'.toNat < 10 := Nat.lt_succ_of_le (Nat.sub_le_sub_right bound _)
      rw [if_pos small]
      simp [inside]
  · next outside =>
      -- a letter stands for ten or more
      rw [if_neg (by split <;> [skip; split] <;> omega)]
      simp [outside]

/-- A decimal text stands for what its digits add up to. -/
theorem digits?_ten {t : Text} {n : Nat} : digits? 10 t = some n ↔
    (∀ c ∈ t, c.isDigit = true) ∧ Nat.ofDigitChars 10 t 0 = n := by
  induction t using List.reverseRecOn generalizing n with
  | nil => simp [digits?, Nat.ofDigitChars]
  | append_singleton t c ih =>
      have value : Nat.ofDigitChars 10 (t ++ [c]) 0 =
          10 * Nat.ofDigitChars 10 t 0 + (c.toNat - '0'.toNat) := by
        rw [Nat.ofDigitChars, List.foldl_append]
        rfl
      simp only [digits?_concat, Option.bind_eq_some_iff, Option.map_eq_some_iff, ih, digit?_ten,
        value, List.forall_mem_append, List.forall_mem_singleton]
      constructor
      · rintro ⟨_, ⟨before, rfl⟩, _, ⟨last, rfl⟩, rfl⟩
        exact ⟨⟨before, last⟩, rfl⟩
      · rintro ⟨⟨before, last⟩, rfl⟩
        exact ⟨_, ⟨before, rfl⟩, _, ⟨last, rfl⟩, rfl⟩

end EndpointProfile.Text
