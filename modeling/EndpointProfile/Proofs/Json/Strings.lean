import EndpointProfile.Proofs.Json.Spelling

/-! A quoted text is read back, and passed over, up to its closing quote. -/
namespace EndpointProfile.Json
open Text (Only)

theorem skipBlanks_append {gap : Text} (blank : Only isBlank gap) (t : Text) :
    skipBlanks (gap ++ t) = skipBlanks t :=
  List.dropWhile_append_of_pos blank

theorem skipBlanks_cons {c : Char} (dark : isBlank c = false) (t : Text) :
    skipBlanks (c :: t) = c :: t := by
  rw [skipBlanks, List.dropWhile_cons_of_neg (by simp [dark])]

/-- The two digits of a control character stand for its number. -/
theorem hexValue?_control : ∀ n < 32,
    hexValue? ['0', '0', Nat.digitChar (n / 16), Nat.digitChar (n % 16)] = some n := by decide

theorem utf8Size_digitChar : ∀ d < 16, (Nat.digitChar d).utf8Size = 1 := by decide

theorem skipString_control {n : Nat} (small : n < 32) (t : Text) :
    skipString .plain ('\\' :: 'u' :: '0' :: '0' ::
      Nat.digitChar (n / 16) :: Nat.digitChar (n % 16) :: t) = skipString .plain t := by
  have value := hexValue?_control n small
  have zero : '0'.utf8Size = 1 := rfl
  have high := utf8Size_digitChar (n / 16) (by omega)
  have low := utf8Size_digitChar (n % 16) (by omega)
  simp [skipString, Text.byteCount, zero, high, low, value]

theorem escapeChar_cases (c : Char) :
    (∃ d, escapeChar c = ['\\', d] ∧ d ≠ 'u' ∧ escaped? d = some c) ∨
      (c.toNat < 32 ∧ escapeChar c = ['\\', 'u', '0', '0',
        Nat.digitChar (c.toNat / 16), Nat.digitChar (c.toNat % 16)]) ∨
      (escapeChar c = [c] ∧ c ≠ '"' ∧ c ≠ '\\' ∧ ¬ c.toNat < 32) := by
  unfold escapeChar
  split
  · next h => exact .inl ⟨'"', rfl, by decide, by rw [h]; rfl⟩
  next quote =>
  split
  · next h => exact .inl ⟨'\\', rfl, by decide, by rw [h]; rfl⟩
  next backslash =>
  split
  · next h => exact .inl ⟨'b', rfl, by decide, by rw [h]; rfl⟩
  split
  · next h => exact .inl ⟨'f', rfl, by decide, by rw [h]; rfl⟩
  split
  · next h => exact .inl ⟨'n', rfl, by decide, by rw [h]; rfl⟩
  split
  · next h => exact .inl ⟨'r', rfl, by decide, by rw [h]; rfl⟩
  split
  · next h => exact .inl ⟨'t', rfl, by decide, by rw [h]; rfl⟩
  split
  · next small => exact .inr (.inl ⟨small, rfl⟩)
  · next large => exact .inr (.inr ⟨rfl, quote, backslash, large⟩)

theorem spells_escapeChar (c : Char) {body t : Text} (h : Spells body t) :
    Spells (escapeChar c ++ body) (c :: t) := by
  rcases escapeChar_cases c with ⟨d, written, -, read⟩ | ⟨small, written⟩ | ⟨written, plain⟩
  · rw [written]
    exact .escape read h
  · have lone : isTrail c.toNat = false := by simp [isTrail]; omega
    have own : isLead c.toNat = false := by simp [isLead]; omega
    have spells := Spells.digits (hexValue?_control _ small) lone own h
    rw [Char.ofNat_toNat] at spells
    rw [written]
    exact spells
  · rw [written]
    exact .plain plain.1 plain.2.1 plain.2.2 h

theorem spells_escaped (t : Text) : Spells (t.flatMap escapeChar) t := by
  induction t with
  | nil => exact .nil
  | cons c t ih => exact spells_escapeChar c ih

theorem skipString_escapeChar (c : Char) (t : Text) :
    skipString .plain (escapeChar c ++ t) = skipString .plain t := by
  rcases escapeChar_cases c with ⟨d, written, unicode, read⟩ | ⟨small, written⟩ | ⟨written, plain⟩
  · simp [written, skipString, unicode, read]
  · rw [written]
    exact skipString_control small t
  · simp [written, skipString, plain]

theorem readString_escaped (t rest : Text) :
    readString .plain (t.flatMap escapeChar ++ '"' :: rest) = .ok (t, rest) :=
  readString_of_spells (spells_escaped t) rest

theorem skipString_escaped (t rest : Text) :
    skipString .plain (t.flatMap escapeChar ++ '"' :: rest) = .ok rest := by
  induction t with
  | nil => simp [skipString]
  | cons c t ih => rw [List.flatMap_cons, List.append_assoc, skipString_escapeChar, ih]

theorem quote_append (t rest : Text) :
    quote t ++ rest = '"' :: (t.flatMap escapeChar ++ '"' :: rest) := by
  simp [quote]

theorem skipBlanks_quote {gap : Text} (blank : Only isBlank gap) (t rest : Text) :
    skipBlanks (gap ++ (quote t ++ rest)) = '"' :: (t.flatMap escapeChar ++ '"' :: rest) := by
  rw [skipBlanks_append blank, quote_append, skipBlanks_cons (by decide)]

theorem stringAs_quote {gap : Text} (blank : Only isBlank gap) (expected : Text) (depth : Nat)
    (t rest : Text) : stringAs expected depth (gap ++ (quote t ++ rest)) = .ok (t, rest) := by
  simp only [stringAs, skipBlanks_quote blank, readString_escaped]

theorem skipValue_quote {gap : Text} (blank : Only isBlank gap) (t rest : Text) :
    skipValue (gap ++ (quote t ++ rest)) = .ok rest := by
  simp only [skipValue, skipFrom, skipBlanks_quote blank, skipString_escaped, Except.bind]

end EndpointProfile.Json
