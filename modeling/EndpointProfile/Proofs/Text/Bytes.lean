import EndpointProfile.Text.Basic

/-! Texts counted and cut by the bytes of their UTF-8 form. -/
namespace EndpointProfile.Text

theorem byteCount_append (s t : Text) : byteCount (s ++ t) = s.byteCount + t.byteCount := by
  induction s with
  | nil => simp [byteCount]
  | cons c s ih => simp only [List.cons_append, byteCount, ih, Nat.add_assoc]

/-- Cuts after a number of bytes. There is no such cut beyond the end or inside a character. -/
def splitBytes? (n : Nat) : Text → Option (Text × Text)
  | [] => if n = 0 then some ([], []) else none
  | c :: t =>
    if n = 0 then some ([], c :: t)
    else if c.utf8Size ≤ n then
      (splitBytes? (n - c.utf8Size) t).map fun (a, rest) => (c :: a, rest)
    else none

/-- The bytes from `start` up to `stop` as a text, if the two are cuts in this order. -/
def slice? (start stop : Nat) (t : Text) : Option Text :=
  if start ≤ stop then
    (splitBytes? stop t).bind fun (before, _) => (splitBytes? start before).map Prod.snd
  else none

theorem splitBytes?_append (a rest : Text) :
    splitBytes? a.byteCount (a ++ rest) = some (a, rest) := by
  induction a with
  | nil => cases rest <;> simp [splitBytes?, byteCount]
  | cons c a ih =>
      have positive := c.utf8Size_pos
      have nonzero : byteCount (c :: a) ≠ 0 := by rw [byteCount]; omega
      have fits : c.utf8Size ≤ byteCount (c :: a) := by rw [byteCount]; omega
      have left : byteCount (c :: a) - c.utf8Size = byteCount a := by rw [byteCount]; omega
      rw [List.cons_append, splitBytes?, if_neg nonzero, if_pos fits, left, ih, Option.map_some]

theorem splitBytes?_eq_some {n : Nat} {t a rest : Text} :
    splitBytes? n t = some (a, rest) ↔ t = a ++ rest ∧ byteCount a = n := by
  refine ⟨fun h => ?_, fun ⟨same, count⟩ => same ▸ count ▸ splitBytes?_append a rest⟩
  induction t generalizing n a with
  | nil =>
      rw [splitBytes?] at h
      split at h
      · next zero => cases h; exact ⟨rfl, zero.symm⟩
      · cases h
  | cons c t ih =>
      rw [splitBytes?] at h
      split at h
      · next zero => cases h; exact ⟨rfl, zero.symm⟩
      split at h
      · next fits =>
          obtain ⟨⟨b, left⟩, cut, same⟩ := Option.map_eq_some_iff.mp h
          cases same
          obtain ⟨rfl, count⟩ := ih cut
          refine ⟨rfl, ?_⟩
          rw [byteCount]
          omega
      · cases h

theorem slice?_eq_some {start stop : Nat} {t m : Text} :
    slice? start stop t = some m ↔
      ∃ a z, t = a ++ m ++ z ∧ a.byteCount = start ∧ byteCount (a ++ m) = stop := by
  constructor
  · intro h
    unfold slice? at h
    split at h
    · obtain ⟨⟨before, z⟩, outer, inner⟩ := Option.bind_eq_some_iff.mp h
      obtain ⟨⟨a, n⟩, cut, rfl⟩ := Option.map_eq_some_iff.mp inner
      obtain ⟨rfl, count⟩ := splitBytes?_eq_some.mp outer
      obtain ⟨rfl, first⟩ := splitBytes?_eq_some.mp cut
      exact ⟨a, z, rfl, first, count⟩
    · cases h
  · rintro ⟨a, z, rfl, rfl, rfl⟩
    have ordered : a.byteCount ≤ byteCount (a ++ m) := by rw [byteCount_append]; omega
    simp only [slice?, if_pos ordered, splitBytes?_append, Option.bind_some, Option.map_some]

end EndpointProfile.Text
