import EndpointProfile.Literal
import EndpointProfile.Proofs.Text.Cuts

/-! Reading a literal and writing it with its quotes undo each other, and no literal holds a line
break. -/
namespace EndpointProfile.Literal

theorem unwrap?_eq_some {t inner : Text} : unwrap? t = some inner ↔ t = '"' :: inner ++ ['"'] := by
  unfold unwrap?
  split
  · rw [Text.dropEnd?_eq_some]
    simp
  · next h => simpa using fun same => h _ same

theorem parse_eq_ok {t : Text} {l : Literal} : parse t = .ok l ↔ t = l.raw := by
  constructor
  · intro h
    unfold parse at h
    split at h
    · cases h
    · next inner wrapped =>
        split at h
        · cases h
        · injection h with h
          subst h
          exact unwrap?_eq_some.mp wrapped
  · rintro rfl
    have wrapped : unwrap? l.raw = some l.unquoted := unwrap?_eq_some.mpr rfl
    unfold parse
    split
    · next none => simp [wrapped] at none
    · next inner some =>
        obtain rfl : l.unquoted = inner := Option.some.inj (wrapped.symm.trans some)
        split
        · next flaw found => simp [l.flawless] at found
        · rfl

@[simp] theorem parse_raw (l : Literal) : parse l.raw = .ok l := parse_eq_ok.mpr rfl

theorem quote_eq_ok {t : Text} {l : Literal} : quote t = .ok l ↔ t = l.unquoted := by
  rw [quote, parse_eq_ok, raw]
  simp

theorem no_break_of_flawless {escaped : Bool} {t : Text} (h : flawAfter escaped t = none) :
    '\n' ∉ t ∧ '\r' ∉ t := by
  induction t generalizing escaped with
  | nil => simp
  | cons c t ih =>
      rw [flawAfter] at h
      split at h
      · next backslash =>
          obtain ⟨n, r⟩ := ih h
          simp [backslash.1, n, r]
      · split at h
        · cases h
        · split at h
          · cases h
          · next kept =>
              obtain ⟨n, r⟩ := ih h
              rw [not_or] at kept
              simp [n, r, Ne.symm kept.1, Ne.symm kept.2]

theorem newline_not_mem_raw (l : Literal) : '\n' ∉ l.raw := by
  simp [raw, (no_break_of_flawless l.flawless).1]

end EndpointProfile.Literal
