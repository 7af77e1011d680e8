import EndpointProfile.Proofs.Text.Lowering
import EndpointProfile.Violation

/-! Texts that a page could run: nothing around them hides them, and no letter case does. -/
namespace EndpointProfile.Check

/-- A text is refused exactly if a dangerous piece is in its lower case. -/
theorem script?_eq_some {t : Text} {v : Violation} :
    script? t = some v ↔ v = .script ∧ ∃ piece ∈ dangerous, piece <:+: t.lower := by
  unfold script?
  dsimp only
  split
  · next found =>
      obtain ⟨piece, listed, inside⟩ := List.any_eq_true.mp found
      have here : ∃ piece ∈ dangerous, piece <:+: t.lower :=
        ⟨piece, listed, Text.includes_iff.mp inside⟩
      rw [Option.some_inj, eq_comm, and_iff_left here]
  · next free =>
      constructor
      · intro none
        cases none
      · rintro ⟨-, piece, listed, inside⟩
        exact (free (List.any_eq_true.mpr ⟨piece, listed, Text.includes_iff.mpr inside⟩)).elim

theorem dangerous_free : ∀ piece ∈ dangerous, 'σ' ∉ piece ∧ 'ς' ∉ piece := by decide

/-- A text that is refused stays so with anything around it, and with its letters of ASCII in any
case. -/
theorem script?_around {s s' : Text} (found : script? s ≠ none) (same : s'.lowerAscii = s.lowerAscii)
    (a b : Text) : script? (a ++ s' ++ b) = some .script := by
  obtain ⟨v, refused⟩ := Option.ne_none_iff_exists'.mp found
  obtain ⟨-, piece, listed, inside⟩ := script?_eq_some.mp refused
  have still := Text.infix_lower_around (dangerous_free piece listed) same inside a b
  exact script?_eq_some.mpr ⟨rfl, piece, listed, still⟩

/-- Behind a letter the sigma is a final one, and at the start of a text it is not. -/
theorem script?_around_sigma :
    let s : Text := "Σ<ScRipt"
    let s' : Text := "Σ<sCRIPt"
    script? s ≠ none ∧ s'.lowerAscii = s.lowerAscii ∧ script? ("a" ++ s' ++ "İ") = some .script := by
  intro s s'
  have found : script? s ≠ none := by decide +kernel
  have same : s'.lowerAscii = s.lowerAscii := by decide
  exact ⟨found, same, script?_around found same "a" "İ"⟩

end EndpointProfile.Check
