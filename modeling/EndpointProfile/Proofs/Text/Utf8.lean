import EndpointProfile.Text.Utf8
import Mathlib.Tactic.IntervalCases
import Mathlib.Tactic.Ring

/-! The bytes that are read as a text are those that the text is written in, and no others. -/
namespace EndpointProfile.Utf8

/-- Bytes that make up a text, after those of a character that has begun. -/
def Reads (p : Option Pending) (bytes : Bytes) (t : Text) : Prop :=
  (scan p bytes).mapM id = some t

/-- What a step makes of a text that is read after it. -/
def Step.Reads (bytes : Bytes) (t : Text) : Step → Prop
  | char c => ∃ s, t = c :: s ∧ Utf8.Reads none bytes s
  | illFormed => False
  | wait p => Utf8.Reads (some p) bytes t

theorem mapM_some_cons {c : Char} {l : List (Option Char)} {t : Text} :
    (some c :: l).mapM id = some t ↔ ∃ s, t = c :: s ∧ l.mapM id = some s := by
  cases h : l.mapM id with
  | none => simp [List.mapM_cons, h]
  | some s => simp [List.mapM_cons, h, eq_comm]

theorem mapM_none_cons {l : List (Option Char)} {t : Text} : (none :: l).mapM id ≠ some t := by
  simp [List.mapM_cons]

theorem reads_nil {t : Text} : Reads none [] t ↔ t = [] := by
  simp [Reads, scan, eq_comm]

theorem reads_cons {b : UInt8} {bytes : Bytes} {t : Text} :
    Reads none (b :: bytes) t ↔ (first b).Reads bytes t := by
  unfold Reads
  rw [scan]
  cases first b with
  | char c => exact mapM_some_cons
  | illFormed => exact iff_of_false mapM_none_cons id
  | wait p => exact Iff.rfl

theorem not_reads_pending {p : Pending} {t : Text} : ¬ Reads (some p) [] t :=
  mapM_none_cons

theorem reads_pending {p : Pending} {b : UInt8} {bytes : Bytes} {t : Text} :
    Reads (some p) (b :: bytes) t ↔ ∃ step, next? p b = some step ∧ step.Reads bytes t := by
  unfold Reads
  rw [scan]
  cases next? p b with
  | none =>
      have refused : ¬ ∃ step : Step, none = some step ∧ step.Reads bytes t :=
        fun ⟨_, absent, _⟩ => nomatch absent
      cases first b <;> exact iff_of_false mapM_none_cons refused
  | some step =>
      simp only [Option.some.injEq, exists_eq_left']
      cases step with
      | char c => exact mapM_some_cons
      | illFormed => exact iff_of_false mapM_none_cons id
      | wait p => exact Iff.rfl

/-- The bytes that continue a character: a number below `64 ^ n` as `n` sextets. -/
def continuation : Nat → Nat → Bytes
  | 0, _ => []
  | n + 1, x => UInt8.ofNat (0x80 + x / 64 ^ n) :: continuation n (x % 64 ^ n)

theorem continuation_join {n x : Nat} (y : Nat) (less : x < 64 ^ n) :
    continuation (n + 1) (64 ^ n * y + x) = UInt8.ofNat (0x80 + y) :: continuation n x := by
  have positive : 0 < 64 ^ n := Nat.pow_pos (by decide)
  rw [continuation, Nat.mul_add_div positive, Nat.div_eq_of_lt less, Nat.mul_add_mod,
    Nat.mod_eq_of_lt less, Nat.add_zero]

/-- The range of the next byte lies within that of all bytes that continue a character. -/
structure Pending.Sextet (p : Pending) : Prop where
  low : 0x80 ≤ p.low
  high : p.high ≤ 0xBF

theorem next?_eq_some {p : Pending} {b : UInt8} {step : Step} : next? p b = some step ↔
    (p.low ≤ b ∧ b ≤ p.high) ∧ step =
      let value := 64 * p.value + (b.toNat - 0x80)
      if p.missing = 1 then .char (Char.ofNat value) else .wait ⟨value, p.missing - 1, 0x80, 0xBF⟩ := by
  unfold next?
  by_cases range : p.low ≤ b ∧ b ≤ p.high
  · simp [range, eq_comm]
  · simp [range]

theorem toNat_sextet {y : Nat} (h : y < 64) : (UInt8.ofNat (0x80 + y)).toNat = 0x80 + y :=
  UInt8.toNat_ofNat_of_lt' (by rw [UInt8.size]; omega)

theorem ofNat_sextet {b : UInt8} (h : 0x80 ≤ b) : UInt8.ofNat (0x80 + (b.toNat - 0x80)) = b := by
  have low : 0x80 ≤ b.toNat := UInt8.le_iff_toNat_le.mp h
  rw [Nat.add_sub_cancel' low, UInt8.ofNat_toNat]

/-- A character that has begun goes on with a sextet in the range of the next byte. -/
theorem reads_sextet {p : Pending} (sextet : p.Sextet) {bytes : Bytes} {t : Text} :
    Reads (some p) bytes t ↔ ∃ y rest, y < 64 ∧ p.low.toNat ≤ 0x80 + y ∧ 0x80 + y ≤ p.high.toNat ∧
      bytes = UInt8.ofNat (0x80 + y) :: rest ∧
        (if p.missing = 1 then Step.char (Char.ofNat (64 * p.value + y))
          else .wait ⟨64 * p.value + y, p.missing - 1, 0x80, 0xBF⟩).Reads rest t := by
  have low : 0x80 ≤ p.low.toNat := UInt8.le_iff_toNat_le.mp sextet.low
  have high : p.high.toNat ≤ 0xBF := UInt8.le_iff_toNat_le.mp sextet.high
  constructor
  · intro read
    cases bytes with
    | nil => exact absurd read not_reads_pending
    | cons b rest =>
        obtain ⟨step, go, rest⟩ := reads_pending.mp read
        obtain ⟨⟨above, below⟩, rfl⟩ := next?_eq_some.mp go
        have byte := ofNat_sextet (UInt8.le_trans sextet.low above)
        rw [UInt8.le_iff_toNat_le] at above below
        exact ⟨b.toNat - 0x80, _, by omega, by omega, by omega, by rw [byte], rest⟩
  · rintro ⟨y, rest, small, above, below, rfl, read⟩
    have byte := toNat_sextet small
    refine reads_pending.mpr ⟨_, next?_eq_some.mpr ⟨⟨?_, ?_⟩, rfl⟩, ?_⟩
    · rwa [UInt8.le_iff_toNat_le, byte]
    · rwa [UInt8.le_iff_toNat_le, byte]
    · rwa [byte, Nat.add_sub_cancel_left]

/-- A character that has begun is finished by the sextets of a number. -/
theorem reads_number {n : Nat} {p : Pending} (missing : p.missing = n + 1) (sextet : p.Sextet)
    {bytes : Bytes} {t : Text} : Reads (some p) bytes t ↔
      ∃ x r s, x < 64 ^ (n + 1) ∧ p.low.toNat ≤ 0x80 + x / 64 ^ n ∧ 0x80 + x / 64 ^ n ≤ p.high.toNat ∧
        bytes = continuation (n + 1) x ++ r ∧ t = Char.ofNat (64 ^ (n + 1) * p.value + x) :: s ∧
          Reads none r s := by
  induction n generalizing p bytes t with
  | zero =>
      simp only [reads_sextet sextet, missing, Nat.zero_add, if_true]
      constructor
      · rintro ⟨y, rest, small, above, below, rfl, s, rfl, read⟩
        exact ⟨y, rest, s, by simpa using small, by simpa using above, by simpa using below,
          by simp [continuation], by simp, read⟩
      · rintro ⟨x, r, s, small, above, below, rfl, rfl, read⟩
        exact ⟨x, r, by simpa using small, by simpa using above, by simpa using below,
          by simp [continuation], s, by simp, read⟩
  | succ n ih =>
      have any (value : Nat) : Pending.Sextet ⟨value, n + 1, 0x80, 0xBF⟩ :=
        ⟨UInt8.le_refl _, UInt8.le_refl _⟩
      have positive : 0 < 64 ^ (n + 1) := Nat.pow_pos (by decide)
      have several : n + 1 + 1 ≠ 1 := by omega
      simp only [reads_sextet sextet, missing, several, if_false]
      constructor
      · rintro ⟨y, rest, small, above, below, rfl, read⟩
        obtain ⟨x, r, s, less, -, -, rfl, rfl, after⟩ := (ih rfl (any _)).mp read
        have top : (64 ^ (n + 1) * y + x) / 64 ^ (n + 1) = y := by
          rw [Nat.mul_add_div positive, Nat.div_eq_of_lt less, Nat.add_zero]
        refine ⟨64 ^ (n + 1) * y + x, r, s, ?_, ?_, ?_, ?_, ?_, after⟩
        · calc 64 ^ (n + 1) * y + x < 64 ^ (n + 1) * (y + 1) := by rw [Nat.mul_succ]; omega
            _ ≤ 64 ^ (n + 1 + 1) := Nat.mul_le_mul_left _ small
        · rwa [top]
        · rwa [top]
        · rw [continuation_join y less]
          rfl
        · congr 2
          ring
      · rintro ⟨x, r, s, less, above, below, rfl, rfl, read⟩
        have low : x % 64 ^ (n + 1) < 64 ^ (n + 1) := Nat.mod_lt _ positive
        have sextet : x % 64 ^ (n + 1) / 64 ^ n < 64 := Nat.div_lt_of_lt_mul low
        refine ⟨x / 64 ^ (n + 1), _, Nat.div_lt_of_lt_mul less, above, below, rfl, ?_⟩
        refine (ih rfl (any _)).mpr ⟨x % 64 ^ (n + 1), r, s, low, ?_, ?_, rfl, ?_, read⟩
        · exact Nat.le_add_right _ _
        · exact Nat.add_le_add_left (Nat.le_of_lt_succ sextet) _
        · have whole := Nat.div_add_mod x (64 ^ (n + 1))
          congr 2
          calc 64 ^ (n + 1 + 1) * p.value + x
              = 64 ^ (n + 1 + 1) * p.value + (64 ^ (n + 1) * (x / 64 ^ (n + 1)) + x % 64 ^ (n + 1)) := by
                rw [whole]
            _ = 64 ^ (n + 1) * (64 * p.value + x / 64 ^ (n + 1)) + x % 64 ^ (n + 1) := by ring

theorem first_of_small {n : Nat} (h : n < 0x80) : first (UInt8.ofNat n) = .char (Char.ofNat n) := by
  interval_cases n <;> rfl

theorem first_of_two {k : Nat} (low : 2 ≤ k) (high : k < 0x20) :
    first (UInt8.ofNat (0xC0 + k)) = .wait ⟨k, 1, 0x80, 0xBF⟩ := by
  interval_cases k <;> rfl

theorem first_of_three {k : Nat} (high : k < 0x10) : first (UInt8.ofNat (0xE0 + k)) =
    .wait ⟨k, 2, if k = 0 then 0xA0 else 0x80, if k = 0xD then 0x9F else 0xBF⟩ := by
  interval_cases k <;> rfl

theorem first_of_four {k : Nat} (high : k < 5) : first (UInt8.ofNat (0xF0 + k)) =
    .wait ⟨k, 3, if k = 0 then 0x90 else 0x80, if k = 4 then 0x8F else 0xBF⟩ := by
  interval_cases k <;> rfl

/-- The bytes that a lead byte begins, where `Fits` says which numbers the range of the next byte
lets pass. -/
theorem reads_lead (n : Nat) (Fits : Nat → Prop) {lead : UInt8} {p : Pending}
    (begun : first lead = .wait p) (missing : p.missing = n + 1) (sextet : p.Sextet)
    (fits : ∀ x < 64 ^ (n + 1), Fits (64 ^ (n + 1) * p.value + x) ↔
      p.low.toNat ≤ 0x80 + x / 64 ^ n ∧ 0x80 + x / 64 ^ n ≤ p.high.toNat)
    {bytes : Bytes} {t : Text} : Reads none (lead :: bytes) t ↔ ∃ x r s, x < 64 ^ (n + 1) ∧
      Fits (64 ^ (n + 1) * p.value + x) ∧ bytes = continuation (n + 1) x ++ r ∧
        t = Char.ofNat (64 ^ (n + 1) * p.value + x) :: s ∧ Reads none r s := by
  rw [reads_cons, begun, Step.Reads, reads_number missing sextet]
  refine exists_congr fun x => exists_congr fun r => exists_congr fun s => ?_
  refine and_congr_right fun less => ?_
  rw [fits x less, and_assoc]

/-- A byte that begins two bytes leaves it open which sextet follows. -/
theorem reads_two {k : Nat} (low : 2 ≤ k) (high : k < 0x20) {bytes : Bytes} {t : Text} :
    Reads none (UInt8.ofNat (0xC0 + k) :: bytes) t ↔ ∃ x r s, x < 64 ∧
      (0x80 ≤ 64 * k + x ∧ (64 * k + x).isValidChar) ∧
        bytes = continuation 1 x ++ r ∧ t = Char.ofNat (64 * k + x) :: s ∧ Reads none r s := by
  refine reads_lead 0 (fun v => 0x80 ≤ v ∧ v.isValidChar) (first_of_two low high) rfl ?_ ?_
  · exact ⟨UInt8.le_refl _, UInt8.le_refl _⟩
  · intro x less
    simp only [UInt8.toNat_ofNat, Nat.isValidChar]
    omega

/-- The first of two sextets keeps the number in the range of three bytes, without surrogates. -/
theorem reads_three {k : Nat} (high : k < 0x10) {bytes : Bytes} {t : Text} :
    Reads none (UInt8.ofNat (0xE0 + k) :: bytes) t ↔ ∃ x r s, x < 64 ^ 2 ∧
      (0x800 ≤ 64 ^ 2 * k + x ∧ (64 ^ 2 * k + x).isValidChar) ∧
        bytes = continuation 2 x ++ r ∧ t = Char.ofNat (64 ^ 2 * k + x) :: s ∧ Reads none r s := by
  refine reads_lead 1 (fun v => 0x800 ≤ v ∧ v.isValidChar) (first_of_three high) rfl ?_ ?_
  · constructor
    · simp only
      split <;> decide
    · simp only
      split <;> decide
  · intro x less
    simp only [apply_ite UInt8.toNat, UInt8.toNat_ofNat, Nat.isValidChar]
    split <;> split <;> omega

/-- The first of three sextets keeps the number in the range of four bytes. -/
theorem reads_four {k : Nat} (high : k < 5) {bytes : Bytes} {t : Text} :
    Reads none (UInt8.ofNat (0xF0 + k) :: bytes) t ↔ ∃ x r s, x < 64 ^ 3 ∧
      (0x10000 ≤ 64 ^ 3 * k + x ∧ (64 ^ 3 * k + x).isValidChar) ∧
        bytes = continuation 3 x ++ r ∧ t = Char.ofNat (64 ^ 3 * k + x) :: s ∧ Reads none r s := by
  refine reads_lead 2 (fun v => 0x10000 ≤ v ∧ v.isValidChar) (first_of_four high) rfl ?_ ?_
  · constructor
    · simp only
      split <;> decide
    · simp only
      split <;> decide
  · intro x less
    simp only [apply_ite UInt8.toNat, UInt8.toNat_ofNat, Nat.isValidChar]
    split <;> split <;> omega

theorem first_of_other {b : UInt8} (h : 0x80 ≤ b.toNat ∧ b.toNat < 0xC2 ∨ 0xF5 ≤ b.toNat) :
    first b = .illFormed := by
  simp only [first, UInt8.lt_iff_toNat_lt, UInt8.le_iff_toNat_le, ← UInt8.toNat_inj]
  simp only [UInt8.toNat_ofNat, Bool.and_eq_true, decide_eq_true_eq]
  repeat rw [if_neg (by omega)]

theorem utf8EncodeChar_eq (c : Char) : String.utf8EncodeChar c =
    if c.toNat < 0x80 then [UInt8.ofNat c.toNat]
    else if c.toNat < 0x800 then UInt8.ofNat (0xC0 + c.toNat / 64) :: continuation 1 (c.toNat % 64)
    else if c.toNat < 0x10000 then
      UInt8.ofNat (0xE0 + c.toNat / 64 ^ 2) :: continuation 2 (c.toNat % 64 ^ 2)
    else UInt8.ofNat (0xF0 + c.toNat / 64 ^ 3) :: continuation 3 (c.toNat % 64 ^ 3) := by
  have valid : c.toNat < 0x110000 := by
    have := c.valid
    unfold UInt32.isValidChar Nat.isValidChar at this
    exact this.elim (fun h => Nat.lt_trans h (by decide)) And.right
  unfold String.utf8EncodeChar
  rw [Char.toNat_val]
  generalize c.toNat = v at valid
  simp only [← Nat.lt_succ_iff (m := v), continuation]
  split_ifs with one two three
  · rfl
  · simp only [List.cons.injEq, and_true]
    exact ⟨congrArg _ (by omega), congrArg _ (by omega)⟩
  · simp only [List.cons.injEq, and_true]
    exact ⟨congrArg _ (by omega), congrArg _ (by omega), congrArg _ (by omega)⟩
  · simp only [List.cons.injEq, and_true]
    exact ⟨congrArg _ (by omega), congrArg _ (by omega), congrArg _ (by omega), congrArg _ (by omega)⟩

theorem char_join (c : Char) (n : Nat) :
    c = Char.ofNat (64 ^ n * (c.toNat / 64 ^ n) + c.toNat % 64 ^ n) := by
  rw [Nat.div_add_mod, Char.ofNat_toNat]

section
variable {k x : Nat}

theorem toNat_ofNat (valid : k.isValidChar) : (Char.ofNat k).toNat = k := by
  rw [Char.ofNat, dif_pos valid]
  rfl

theorem utf8EncodeChar_small (h : k < 0x80) :
    String.utf8EncodeChar (Char.ofNat k) = [UInt8.ofNat k] := by
  have value : (Char.ofNat k).toNat = k := toNat_ofNat (.inl (by omega))
  rw [utf8EncodeChar_eq, value, if_pos h]

theorem utf8EncodeChar_two (high : k < 0x20) (less : x < 64)
    (fits : 0x80 ≤ 64 * k + x ∧ (64 * k + x).isValidChar) :
    String.utf8EncodeChar (Char.ofNat (64 * k + x)) =
      UInt8.ofNat (0xC0 + k) :: continuation 1 x := by
  have value : (Char.ofNat (64 * k + x)).toNat = 64 * k + x := toNat_ofNat fits.2
  have top : (64 * k + x) / 64 = k := by omega
  have rest : (64 * k + x) % 64 = x := by omega
  rw [utf8EncodeChar_eq, value, if_neg (by omega), if_pos (by omega), top, rest]

theorem utf8EncodeChar_three (high : k < 0x10) (less : x < 64 ^ 2)
    (fits : 0x800 ≤ 64 ^ 2 * k + x ∧ (64 ^ 2 * k + x).isValidChar) :
    String.utf8EncodeChar (Char.ofNat (64 ^ 2 * k + x)) =
      UInt8.ofNat (0xE0 + k) :: continuation 2 x := by
  have value : (Char.ofNat (64 ^ 2 * k + x)).toNat = 64 ^ 2 * k + x := toNat_ofNat fits.2
  have top : (64 ^ 2 * k + x) / 64 ^ 2 = k := by omega
  have rest : (64 ^ 2 * k + x) % 64 ^ 2 = x := by omega
  rw [utf8EncodeChar_eq, value, if_neg (by omega), if_neg (by omega), if_pos (by omega), top, rest]

theorem utf8EncodeChar_four (less : x < 64 ^ 3)
    (fits : 0x10000 ≤ 64 ^ 3 * k + x ∧ (64 ^ 3 * k + x).isValidChar) :
    String.utf8EncodeChar (Char.ofNat (64 ^ 3 * k + x)) =
      UInt8.ofNat (0xF0 + k) :: continuation 3 x := by
  have value : (Char.ofNat (64 ^ 3 * k + x)).toNat = 64 ^ 3 * k + x := toNat_ofNat fits.2
  have top : (64 ^ 3 * k + x) / 64 ^ 3 = k := by omega
  have rest : (64 ^ 3 * k + x) % 64 ^ 3 = x := by omega
  rw [utf8EncodeChar_eq, value, if_neg (by omega), if_neg (by omega), if_neg (by omega), top, rest]

end

/-- What is read first is a character that the first bytes are written for. -/
theorem exists_char_of_reads {b : UInt8} {bytes : Bytes} {t : Text} (read : Reads none (b :: bytes) t) :
    ∃ c r s, b :: bytes = String.utf8EncodeChar c ++ r ∧ t = c :: s ∧ Reads none r s := by
  have byte : UInt8.ofNat b.toNat = b := UInt8.ofNat_toNat
  have bound := b.toNat_lt
  by_cases other : 0x80 ≤ b.toNat ∧ b.toNat < 0xC2 ∨ 0xF5 ≤ b.toNat
  · rw [reads_cons, first_of_other other] at read
    exact read.elim
  by_cases one : b.toNat < 0x80
  · rw [← byte, reads_cons, first_of_small one] at read
    obtain ⟨s, rfl, read⟩ := read
    refine ⟨_, bytes, s, ?_, rfl, read⟩
    rw [utf8EncodeChar_small one, byte]
    rfl
  by_cases two : b.toNat < 0xE0
  · obtain ⟨k, same⟩ := Nat.exists_eq_add_of_le (show 0xC0 ≤ b.toNat by omega)
    rw [same] at byte
    rw [← byte, reads_two (by omega) (by omega)] at read
    obtain ⟨x, r, s, less, fits, rfl, rfl, read⟩ := read
    refine ⟨_, r, s, ?_, rfl, read⟩
    rw [utf8EncodeChar_two (by omega) less fits, byte]
    rfl
  by_cases three : b.toNat < 0xF0
  · obtain ⟨k, same⟩ := Nat.exists_eq_add_of_le (show 0xE0 ≤ b.toNat by omega)
    rw [same] at byte
    rw [← byte, reads_three (by omega)] at read
    obtain ⟨x, r, s, less, fits, rfl, rfl, read⟩ := read
    refine ⟨_, r, s, ?_, rfl, read⟩
    rw [utf8EncodeChar_three (by omega) less fits, byte]
    rfl
  · obtain ⟨k, same⟩ := Nat.exists_eq_add_of_le (show 0xF0 ≤ b.toNat by omega)
    rw [same] at byte
    rw [← byte, reads_four (by omega)] at read
    obtain ⟨x, r, s, less, fits, rfl, rfl, read⟩ := read
    refine ⟨_, r, s, ?_, rfl, read⟩
    rw [utf8EncodeChar_four less fits, byte]
    rfl

theorem reads_utf8EncodeChar (c : Char) {bytes : Bytes} {t : Text} (read : Reads none bytes t) :
    Reads none (String.utf8EncodeChar c ++ bytes) (c :: t) := by
  have valid : c.toNat.isValidChar := c.valid
  have small : c.toNat < 0x110000 := by
    unfold Nat.isValidChar at valid
    omega
  rw [utf8EncodeChar_eq]
  split_ifs with one two three
  · rw [List.singleton_append, reads_cons, first_of_small one, Char.ofNat_toNat]
    exact ⟨t, rfl, read⟩
  · have whole := Nat.div_add_mod c.toNat 64
    refine (reads_two (by omega) (by omega)).mpr ⟨_, bytes, t, Nat.mod_lt _ (by decide), ?_, rfl, ?_, read⟩
    · rw [whole]
      exact ⟨by omega, valid⟩
    · exact congrArg (· :: t) (char_join c 1)
  · have whole := Nat.div_add_mod c.toNat (64 ^ 2)
    refine (reads_three (by omega)).mpr ⟨_, bytes, t, Nat.mod_lt _ (by decide), ?_, rfl, ?_, read⟩
    · rw [whole]
      exact ⟨by omega, valid⟩
    · exact congrArg (· :: t) (char_join c 2)
  · have whole := Nat.div_add_mod c.toNat (64 ^ 3)
    refine (reads_four (by omega)).mpr ⟨_, bytes, t, Nat.mod_lt _ (by decide), ?_, rfl, ?_, read⟩
    · rw [whole]
      exact ⟨by omega, valid⟩
    · exact congrArg (· :: t) (char_join c 3)

/-- Bytes are well-formed exactly if a text is written in them, and are read as this text. -/
theorem decode?_eq_some {bytes : Bytes} {t : Text} : decode? bytes = some t ↔ bytes = encode t := by
  change Reads none bytes t ↔ bytes = encode t
  constructor
  · intro read
    induction t generalizing bytes with
    | nil =>
        cases bytes with
        | nil => rfl
        | cons b bytes =>
            obtain ⟨c, r, s, -, impossible, -⟩ := exists_char_of_reads read
            cases impossible
    | cons c t ih =>
        cases bytes with
        | nil => cases reads_nil.mp read
        | cons b bytes =>
            obtain ⟨_, r, _, same, ⟨⟩, rest⟩ := exists_char_of_reads read
            rw [same, ih rest]
            rfl
  · rintro rfl
    induction t with
    | nil => exact reads_nil.mpr rfl
    | cons c t ih => exact reads_utf8EncodeChar c ih

end EndpointProfile.Utf8
