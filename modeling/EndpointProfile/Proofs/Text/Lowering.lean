import Mathlib.Data.List.Basic
import EndpointProfile.Text.Blank
import EndpointProfile.Text.Lower

/-! Lower case piece by piece. Only a sigma looks at what stands around it, and becomes one of two
letters. With these two taken for one, the lower case of a text is that of its pieces in a row. -/
namespace EndpointProfile.Text

theorem includes_iff {p t : Text} : includes p t = true ↔ p <:+: t := by
  induction t with
  | nil => rw [includes, List.isEmpty_iff, List.infix_nil]
  | cons c t ih =>
      rw [includes, Bool.or_eq_true, List.isPrefixOf_iff_prefix, ih, List.infix_cons_iff]

/-- A final sigma taken for one that is not. -/
def unfinal (c : Char) : Char :=
  if c = 'ς' then 'σ' else c

/-- What a character adds to the lower case of a text, wherever it stands. -/
def lowerAnywhere (c : Char) : Text :=
  if c = 'Σ' then ['σ'] else (lowerChar c).map unfinal

theorem unfinal_lowerSigma (before after : Text) : unfinal (lowerSigma before after) = 'σ' := by
  unfold lowerSigma
  split <;> rfl

theorem map_lowerAfter (before t : Text) :
    (lowerAfter before t).map unfinal = t.flatMap lowerAnywhere := by
  -- a character joins what stands before the rest, which makes no difference to the rest
  induction t generalizing before with
  | nil => rfl
  | cons c t ih =>
      rw [lowerAfter, List.map_append, ih, List.flatMap_cons]
      congr 1
      unfold lowerAnywhere
      split
      · rw [List.map_singleton, unfinal_lowerSigma]
      · rfl

theorem map_lower (t : Text) : (lower t).map unfinal = t.flatMap lowerAnywhere :=
  map_lowerAfter [] t

/-- The letters of ASCII in the other case add the same. -/
theorem lowerAnywhere_toLower (c : Char) : lowerAnywhere c.toLower = lowerAnywhere c := by
  by_cases upper : 'A'.val ≤ c.val ∧ c.val ≤ 'Z'.val
  · have letters : ∀ n ≤ 'Z'.toNat, 'A'.toNat ≤ n →
        lowerAnywhere (Char.ofNat n).toLower = lowerAnywhere (Char.ofNat n) := by decide
    have here := letters c.toNat (UInt32.le_iff_toNat_le.mp upper.2)
      (UInt32.le_iff_toNat_le.mp upper.1)
    rwa [Char.ofNat_toNat] at here
  · have same : c.toLower = c := dif_neg upper
    rw [same]

theorem flatMap_lowerAscii (t : Text) :
    t.lowerAscii.flatMap lowerAnywhere = t.flatMap lowerAnywhere := by
  rw [lowerAscii, List.flatMap_map]
  exact List.flatMap_congr fun c _ => lowerAnywhere_toLower c

/-- A text without small sigmas is found in the same texts. -/
theorem infix_map_unfinal {p t : Text} (free : 'σ' ∉ p ∧ 'ς' ∉ p) :
    p <:+: t.map unfinal ↔ p <:+: t := by
  have fixed {l : Text} (others : 'ς' ∉ l) : l.map unfinal = l := by
    have each : ∀ c ∈ l, unfinal c = id c := fun c here => if_neg (ne_of_mem_of_not_mem here others)
    rw [List.map_congr_left each, List.map_id]
  rw [List.infix_map_iff]
  constructor
  · rintro ⟨l, inside, rfl⟩
    have others : 'ς' ∉ l := fun here => free.1 (List.mem_map.mpr ⟨'ς', here, rfl⟩)
    rw [fixed others]
    exact inside
  · intro inside
    exact ⟨p, inside, (fixed free.2).symm⟩

/-- What is found in the lower case of a text is found in whatever that text is a part of, and if
letters of ASCII are in the other case. -/
theorem infix_lower_around {p s s' : Text} (free : 'σ' ∉ p ∧ 'ς' ∉ p)
    (same : s'.lowerAscii = s.lowerAscii) (found : p <:+: lower s) (a b : Text) :
    p <:+: lower (a ++ s' ++ b) := by
  have part : (lower s').map unfinal = (lower s).map unfinal := by
    rw [map_lower, map_lower, ← flatMap_lowerAscii, same, flatMap_lowerAscii]
  rw [← infix_map_unfinal free] at found ⊢
  rw [map_lower, List.flatMap_append, List.flatMap_append, ← map_lower s', part]
  exact found.trans (List.infix_append _ _ _)

end EndpointProfile.Text
