import EndpointProfile.IpAddress
import EndpointProfile.Proofs.Text.Digits
import EndpointProfile.Proofs.Text.Pieces

/-! The canonical text of an address is read as that address. -/
namespace EndpointProfile.IpAddress
open Text (Digit digit_of_mem mapM_map_inverse)

section Octets

theorem octet?_ofNat (o : UInt8) : octet? (Text.ofNat o.toNat) = some o := by
  have fits : o.toNat < 256 := o.toNat_lt
  have read : Text.digits? 10 (Text.ofNat o.toNat) = some o.toNat :=
    Text.digits?_toDigits (by decide) (by decide) _
  rw [octet?, if_neg, read, Option.bind_some, if_pos fits, UInt8.ofNat_toNat]
  rintro (empty | long | ⟨more, zero⟩)
  · exact Text.toDigits_ne_nil (by decide) _ (List.length_eq_zero_iff.mp empty)
  · have short : (Text.ofNat o.toNat).length ≤ 3 :=
      (Nat.length_toDigits_le_iff (by decide) (by decide)).mpr (by omega)
    omega
  · have positive : 0 < o.toNat := by
      by_contra none
      rw [Nat.eq_zero_of_not_pos none] at more
      exact absurd more (by decide)
    exact Text.head?_toDigits (by decide) (by decide) positive zero

theorem digit_of_mem_octet {o : UInt8} {c : Char} (inside : c ∈ Text.ofNat o.toNat) : Digit c :=
  digit_of_mem (by decide) (by decide) inside

theorem mem_octetsText {octets : List UInt8} {c : Char} (inside : c ∈ octetsText octets) :
    c = '.' ∨ Digit c := by
  apply (Text.mem_join_map inside).imp_right
  rintro ⟨o, here⟩
  exact digit_of_mem_octet here

theorem splitOn_octetsText (octets : List UInt8) (nonempty : octets ≠ []) :
    (octetsText octets).splitOn '.' = octets.map fun o => Text.ofNat o.toNat :=
  Text.splitOn_join_map (fun _ inside => (digit_of_mem_octet inside).apart.1 rfl) nonempty

theorem octets?_octetsText (a b c d : UInt8) :
    octets? (octetsText [a, b, c, d]) = some [a, b, c, d] := by
  rw [octets?, splitOn_octetsText _ (by simp), mapM_map_inverse octet?_ofNat]

theorem octets?_of_pointless {t : Text} (free : '.' ∉ t) : octets? t = none := by
  rw [octets?, List.splitOn_eq_singleton free, List.mapM_cons, List.mapM_nil]
  cases octet? t <;> rfl

/-- No number before the first point is that long. -/
theorem octets?_of_long {start : Text} (free : '.' ∉ start) (long : 3 < start.length) (t : Text) :
    octets? (start ++ t) = none := by
  obtain ⟨first, rest, -, split⟩ := Text.splitOn_prepend free t
  have refused : octet? (start ++ first) = none := by
    rw [octet?, if_pos]
    right
    left
    rw [List.length_append]
    omega
  rw [octets?, split, List.mapM_cons, refused]
  rfl

end Octets

section Groups

def groupText (g : UInt16) : Text := Nat.toDigits 16 g.toNat

theorem hexText_eq (groups : List UInt16) :
    hexText groups = Text.join [':'] (groups.map groupText) := rfl

theorem group?_groupText (g : UInt16) : group? (groupText g) = some g := by
  have fits : g.toNat < 65536 := g.toNat_lt
  have read : Text.digits? 16 (groupText g) = some g.toNat :=
    Text.digits?_toDigits (by decide) (by decide) _
  rw [group?, if_neg, read, Option.map_some, UInt16.ofNat_toNat]
  rintro (empty | long)
  · exact Text.toDigits_ne_nil (by decide) _ (List.length_eq_zero_iff.mp empty)
  · have short : (groupText g).length ≤ 4 :=
      (Nat.length_toDigits_le_iff (by decide) (by decide)).mpr (by omega)
    omega

theorem digit_of_mem_groupText {g : UInt16} {c : Char} (inside : c ∈ groupText g) : Digit c :=
  digit_of_mem (by decide) (by decide) inside

theorem mem_hexText {groups : List UInt16} {c : Char} (inside : c ∈ hexText groups) :
    c = ':' ∨ Digit c := by
  apply (Text.mem_join_map inside).imp_right
  rintro ⟨g, here⟩
  exact digit_of_mem_groupText here

theorem hexText_cons (g h : UInt16) (groups : List UInt16) :
    hexText (g :: h :: groups) = groupText g ++ ':' :: hexText (h :: groups) := by
  simp [hexText_eq, Text.join]

theorem groupText_ne_nil (g : UInt16) : groupText g ≠ [] :=
  Text.toDigits_ne_nil (by decide) g.toNat

theorem hexText_eq_nil {groups : List UInt16} : hexText groups = [] ↔ groups = [] := by
  constructor
  · intro empty
    cases groups with
    | nil => rfl
    | cons g groups =>
        cases groups with
        | nil => exact absurd empty (by simpa [hexText_eq, Text.join] using groupText_ne_nil g)
        | cons h groups => simp [hexText_cons] at empty
  · rintro rfl
    rfl

theorem splitOn_hexText {groups : List UInt16} (nonempty : groups ≠ []) :
    (hexText groups).splitOn ':' = groups.map groupText :=
  Text.splitOn_join_map (fun _ inside => (digit_of_mem_groupText inside).apart.2.1 rfl) nonempty

/-- The last of the groups is none that is written as octets. -/
theorem groups?_hexText (mixed : Bool) (groups : List UInt16) :
    groups? mixed (hexText groups) = some groups := by
  rcases eq_or_ne groups [] with rfl | nonempty
  · rfl
  have written : ¬ (hexText groups).isEmpty = true := by
    rw [List.isEmpty_iff, hexText_eq_nil]
    exact nonempty
  have hexadecimal : octets? ((groups.map groupText).getLast?.getD []) = none := by
    apply octets?_of_pointless
    intro inside
    cases last : groups.getLast? with
    | none => simp [last] at inside
    | some g =>
        rw [List.getLast?_map, last] at inside
        exact (digit_of_mem_groupText inside).apart.1 rfl
  rw [groups?, if_neg written, splitOn_hexText nonempty]
  simp only [hexadecimal, ite_self, mapM_map_inverse group?_groupText]

theorem cutAtGap?_append {a : Text} (free : ∀ c ∈ a, c ≠ ':') (t : Text) :
    cutAtGap? (a ++ t) = (cutAtGap? t).map fun (x, y) => (a ++ x, y) := by
  induction a with
  | nil => simp
  | cons c a ih =>
      obtain ⟨here, later⟩ := List.forall_mem_cons.mp free
      simp [cutAtGap?, here, ih later, Function.comp_def]

theorem cutAtGap?_colon {c : Char} (other : c ≠ ':') (t : Text) :
    cutAtGap? (':' :: c :: t) = (cutAtGap? (c :: t)).map fun (x, y) => (':' :: x, y) := by
  conv_lhs => rw [cutAtGap?.eq_2 _ _ (by rintro _ - ⟨⟩; exact other rfl)]

theorem exists_cons_hexText (g : UInt16) (groups : List UInt16) :
    ∃ c t, hexText (g :: groups) = c :: t ∧ c ≠ ':' := by
  obtain ⟨c, t, start⟩ := List.exists_cons_of_ne_nil (groupText_ne_nil g)
  have other : c ≠ ':' := (digit_of_mem_groupText (start ▸ List.mem_cons_self)).apart.2.1
  cases groups with
  | nil => exact ⟨c, t, by simpa [hexText_eq, Text.join] using start, other⟩
  | cons h groups => exact ⟨c, _, by rw [hexText_cons, start]; rfl, other⟩

theorem cutAtGap?_hexText (groups : List UInt16) (t : Text) :
    cutAtGap? (hexText groups ++ t) = (cutAtGap? t).map fun (x, y) => (hexText groups ++ x, y) := by
  induction groups with
  | nil => simp [hexText_eq, Text.join]
  | cons g groups ih =>
      have free : ∀ c ∈ groupText g, c ≠ ':' := fun c inside =>
        (digit_of_mem_groupText inside).apart.2.1
      cases groups with
      | nil => simpa [hexText_eq, Text.join] using cutAtGap?_append free t
      | cons h groups =>
          obtain ⟨c, rest, start, other⟩ := exists_cons_hexText h groups
          rw [start] at ih
          rw [hexText_cons, start, List.append_assoc, cutAtGap?_append free, List.cons_append,
            List.cons_append, cutAtGap?_colon other, ← List.cons_append, ih]
          simp [Function.comp_def]

end Groups

section Zeros

/-- A run of zeros in a list of groups, by its start and its length. -/
structure Zeros (groups : List UInt16) (run : Nat × Nat) : Prop where
  inside : run.1 + run.2 ≤ groups.length
  zeros : (groups.drop run.1).take run.2 = List.replicate run.2 0

theorem zeros_at {groups : List UInt16} {i : Nat} (inside : i ≤ groups.length) :
    Zeros groups (i, zerosAt (groups.drop i)) := by
  have start := List.takeWhile_prefix (fun g : UInt16 => decide (g = 0)) (l := groups.drop i)
  constructor
  · have short := start.length_le
    rw [List.length_drop] at short
    simp only [zerosAt]
    omega
  · simp only [zerosAt]
    rw [← List.prefix_iff_eq_take.mp start, List.eq_replicate_iff]
    refine ⟨rfl, fun g hg => ?_⟩
    simpa using List.mem_takeWhile_imp hg

theorem zeros_longest (groups : List UInt16) : Zeros groups (longestZeros groups) := by
  refine List.foldlRecOn (motive := Zeros groups) _ _ ⟨by simp, rfl⟩ ?_
  intro best run i hi
  simp only
  split
  · exact zeros_at (List.mem_range.mp hi).le
  · exact run

theorem Zeros.eq {groups : List UInt16} {start count : Nat} (run : Zeros groups (start, count)) :
    groups = groups.take start ++ List.replicate count 0 ++ groups.drop (start + count) := by
  have zeros := run.zeros
  simp only at zeros
  rw [← zeros, List.append_assoc, ← List.drop_drop, List.take_append_drop, List.take_append_drop]

end Zeros

theorem vector?_toList {α : Type} {n : Nat} (v : Vector α n) : vector? n v.toList = some v := by
  rw [vector?, dif_pos v.length_toList]
  congr 1

theorem v6?_groupsText {groups : List UInt16} (eight : groups.length = 8) :
    v6? (groupsText groups) = ofGroups? groups := by
  have run := zeros_longest groups
  unfold groupsText
  generalize longestZeros groups = found at run ⊢
  obtain ⟨start, count⟩ := found
  simp only
  split
  · have nonempty : ¬ (hexText groups).isEmpty = true := by
      rw [List.isEmpty_iff, hexText_eq_nil]
      rintro rfl
      cases eight
    have whole : cutAtGap? (hexText groups) = none := by
      have cut := cutAtGap?_hexText groups []
      rwa [List.append_nil] at cut
    rw [v6?, whole]
    simp only [if_neg nonempty, groups?_hexText, Option.bind_some]
  · next long =>
      have cut : cutAtGap? (hexText (groups.take start) ++ "::".toList ++
          hexText (groups.drop (start + count))) =
          some (hexText (groups.take start), hexText (groups.drop (start + count))) := by
        rw [List.append_assoc, cutAtGap?_hexText]
        simp [cutAtGap?]
      have inside : start + count ≤ groups.length := run.inside
      have before : (groups.take start).length = start := by
        rw [List.length_take]
        omega
      have after : (groups.drop (start + count)).length = 8 - (start + count) := by
        rw [List.length_drop, eight]
      have left : 8 - start - (8 - (start + count)) = count := by omega
      have fits : start + (8 - (start + count)) ≤ 7 := by omega
      rw [v6?, cut]
      simp only [groups?_hexText, Option.bind_some, before, after, if_pos fits, left, ← run.eq]

theorem mapped?_eq_some {groups : List UInt16} {octets : List UInt8}
    (mapped : mapped? groups = some octets) : ∃ a b c d : UInt8, octets = [a, b, c, d] ∧
      groups = List.replicate 5 0 ++ 0xFFFF :: pairs octets := by
  unfold mapped? at mapped
  split at mapped
  · next g h =>
      cases mapped
      refine ⟨_, _, _, _, rfl, ?_⟩
      have joined (g : UInt16) : (g >>> 8).toUInt8.toUInt16 * 256 + g.toUInt8.toUInt16 = g := by
        have bound := g.toNat_lt
        apply UInt16.toNat_inj.mp
        simp [UInt16.toNat_add, UInt16.toNat_mul, Nat.shiftRight_eq_div_pow]
        omega
      simp only [pairs, joined]
      rfl
  · cases mapped

theorem v6?_mapped (a b c d : UInt8) : v6? ("::ffff:".toList ++ octetsText [a, b, c, d]) =
    ofGroups? (List.replicate 5 0 ++ 0xFFFF :: pairs [a, b, c, d]) := by
  have cut (t : Text) : cutAtGap? ("::ffff:".toList ++ t) = some ([], "ffff:".toList ++ t) := rfl
  have free : ':' ∉ octetsText [a, b, c, d] := by
    intro inside
    rcases mem_octetsText inside with same | digit
    · exact absurd same (by decide)
    · exact digit.apart.2.1 rfl
  have split : ("ffff:".toList ++ octetsText [a, b, c, d]).splitOn ':' =
      ["ffff".toList, octetsText [a, b, c, d]] := by
    have pieces : ∀ piece ∈ ["ffff".toList, octetsText [a, b, c, d]], ':' ∉ piece :=
      List.forall_mem_cons.mpr ⟨by decide, List.forall_mem_singleton.mpr free⟩
    exact Text.splitOn_eq_iff.mpr ⟨by simp, pieces, by simp [Text.join]⟩
  have tail : groups? true ("ffff:".toList ++ octetsText [a, b, c, d]) =
      some (0xFFFF :: pairs [a, b, c, d]) := by
    rw [groups?, if_neg (by simp), split]
    simp only [List.getLast?_cons_cons, List.getLast?_singleton, Option.getD_some, if_true,
      octets?_octetsText]
    rfl
  have head : groups? false [] = some [] := rfl
  rw [v6?, cut]
  simp only [head, tail, Option.bind_some]
  rfl

theorem mem_groupsText {groups : List UInt16} {c : Char} (inside : c ∈ groupsText groups) :
    c = ':' ∨ Digit c := by
  unfold groupsText at inside
  simp only at inside
  split at inside
  · exact mem_hexText inside
  · simp only [List.mem_append] at inside
    rcases inside with (before | gap) | after
    · exact mem_hexText before
    · exact .inl (by simpa using gap)
    · exact mem_hexText after

theorem octets?_text (groups : Vector UInt16 8) : octets? (text (.v6 groups)) = none := by
  rw [text]
  split
  · exact octets?_of_long (by decide) (by decide) _
  · apply octets?_of_pointless
    intro inside
    rcases mem_groupsText inside with same | digit
    · exact absurd same (by decide)
    · exact digit.apart.1 rfl

theorem not_blank_of_mem_text {address : IpAddress} {c : Char} (inside : c ∈ address.text) :
    isBlank c = false := by
  cases address with
  | v4 octets =>
      rcases mem_octetsText inside with rfl | digit
      · decide
      · exact digit.apart.2.2
  | v6 groups =>
      rw [text] at inside
      split at inside
      · rcases List.mem_append.mp inside with start | rest
        · have plain : ("::ffff:".toList).all (fun c => !isBlank c) = true := by decide
          simpa using List.all_eq_true.mp plain c start
        · rcases mem_octetsText rest with rfl | digit
          · decide
          · exact digit.apart.2.2
      · rcases mem_groupsText inside with rfl | digit
        · decide
        · exact digit.apart.2.2

/-- Whatever the address is, its text is read as that address. -/
theorem ofText?_text (address : IpAddress) : ofText? address.text = some address := by
  cases address with
  | v4 octets =>
      obtain ⟨a, b, c, d, same⟩ := List.length_eq_four.mp octets.length_toList
      rw [ofText?, text, same, octets?_octetsText]
      simp only
      rw [← same, ofOctets?, vector?_toList, Option.map_some]
  | v6 groups =>
      rw [ofText?, octets?_text, text]
      simp only
      split
      · next octets mapped =>
          obtain ⟨a, b, c, d, rfl, same⟩ := mapped?_eq_some mapped
          rw [v6?_mapped, ← same, ofGroups?, vector?_toList, Option.map_some]
      · rw [v6?_groupsText groups.length_toList, ofGroups?, vector?_toList, Option.map_some]

end EndpointProfile.IpAddress
