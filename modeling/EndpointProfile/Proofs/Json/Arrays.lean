import EndpointProfile.Proofs.Json.Containers

/-! The items of an array and the members of an object are read one by one, up to the end that
closes them. -/
namespace EndpointProfile.Json
open Text (Only)

/-- An item with blanks before it, which is taken from its first character on. -/
inductive Takable {α : Type} (item : Text → Read α) : Text → α → Prop
  | intro {gap u : Text} {c : Char} {a : α} : Only isBlank gap → isBlank c = false → c ≠ ']' →
      Takes item (c :: u) a → Takable item (gap ++ c :: u) a

theorem follows_of_blank {blank : Text} (h : Only isBlank blank) : Follows blank := by
  have nothing : Follows [] := by simp [Follows]
  simpa using follows_append h nothing

theorem follows_bracket (rest : Text) : Follows (']' :: rest) := by simp [Follows]

theorem Items.follows {raw : List Text} {text rest : Text} (h : Items false raw text)
    (ends : Follows rest) : Follows (text ++ rest) := by
  cases h with
  | nil blank => exact follows_append blank ends
  | next blank _ =>
      rw [List.append_assoc]
      exact follows_append blank (follows_comma _)

/-- There is a comma before each item but the first. -/
theorem Items.length_le {first : Bool} {raw : List Text} {text : Text} (h : Items first raw text) :
    raw.length ≤ text.length + first.toNat := by
  induction h with
  | nil => simp
  | first _ ih =>
      simp only [List.length_cons, List.length_append, Bool.toNat_true, Bool.toNat_false] at ih ⊢
      omega
  | next _ _ ih =>
      simp only [List.length_cons, List.length_append, Bool.toNat_false] at ih ⊢
      omega

theorem compactItems_eq (v : Value) (vs : List Value) :
    compactItems (v :: vs) = v.compact ++ (vs.map Value.compact).flatMap fun one => ',' :: one := by
  induction vs generalizing v with
  | nil => simp [compactItems]
  | cons w vs ih =>
      rw [compactItems, ih]
      · simp
      · simp

theorem items_compact (vs : List Value) : Items true (vs.map Value.compact) (compactItems vs) := by
  have rows (texts : List Text) : Items false texts (texts.flatMap fun one => ',' :: one) := by
    induction texts with
    | nil => exact .nil (Text.only_nil isBlank)
    | cons one texts ih => exact .next (Text.only_nil isBlank) ih
  cases vs with
  | nil => exact .nil (Text.only_nil isBlank)
  | cons v vs =>
      rw [compactItems_eq]
      exact .first (rows _)

theorem nextItem?_end {blank : Text} (h : Only isBlank blank) (first : Bool) (rest : Text) :
    nextItem? first (blank ++ ']' :: rest) = .ok none := by
  simp only [nextItem?, skipBlanks_append h, skipBlanks_cons (by decide : isBlank ']' = false)]

/-- Each item takes one unit of fuel, and the end of the array takes one. -/
theorem readItems_items {α : Type} {item : Text → Read α} {first : Bool} {raw : List Text}
    {as : List α} {text : Text} (taken : List.Forall₂ (Takable item) raw as)
    (items : Items first raw text) (tail : Text) {fuel : Nat} (enough : raw.length < fuel) :
    ∃ rest, readItems item fuel first (text ++ ']' :: tail) = .ok (as, rest) ∧
      skipBlanks rest = ']' :: tail := by
  induction taken generalizing first text fuel with
  | nil =>
      obtain ⟨fuel, rfl⟩ : ∃ n, fuel = n + 1 := ⟨fuel - 1, by simp at enough; omega⟩
      refine ⟨text ++ ']' :: tail, ?_, ?_⟩
      · simp only [readItems, nextItem?_end items.only, Except.bind]
      · rw [skipBlanks_append items.only, skipBlanks_cons (by decide)]
  | cons one _ ih =>
      obtain ⟨fuel, rfl⟩ : ∃ n, fuel = n + 1 := ⟨fuel - 1, by simp at enough; omega⟩
      obtain ⟨blank, dark, inside, takes⟩ := one
      obtain ⟨rest, later, next⟩ := items.next_of_dark blank dark inside
      obtain ⟨left, read, close⟩ := ih later (by simpa using enough)
      have value := takes (rest ++ ']' :: tail) (later.follows (follows_bracket tail))
      refine ⟨left, ?_, close⟩
      simp only [readItems, next, value, read, Except.bind, Except.map]

theorem readMembers_members {α : Type} {value : Text → Read α} {first : Bool} {raw : List Member}
    {ms : List (Text × α)} {text : Text}
    (taken : List.Forall₂ (fun one m => one.1 = m.1 ∧ Takes value one.2 m.2) raw ms)
    (members : Members first raw text) (tail : Text) {fuel : Nat} (enough : raw.length < fuel) :
    ∃ rest, readMembers value fuel first (text ++ '\x7d' :: tail) = .ok (ms, rest) ∧
      skipBlanks rest = '\x7d' :: tail := by
  induction taken generalizing first text fuel with
  | nil =>
      obtain ⟨fuel, rfl⟩ : ∃ n, fuel = n + 1 := ⟨fuel - 1, by simp at enough; omega⟩
      cases members with
      | nil blank =>
          refine ⟨text ++ '\x7d' :: tail, ?_, ?_⟩
          · simp only [readMembers, nextKey?_end blank, Except.bind]
          · rw [skipBlanks_append blank, skipBlanks_cons (by decide)]
  | @cons one m raw ms taken _ ih =>
      obtain ⟨fuel, rfl⟩ : ∃ n, fuel = n + 1 := ⟨fuel - 1, by simp at enough; omega⟩
      obtain ⟨name, a⟩ := m
      obtain ⟨rfl, takes⟩ := taken
      obtain ⟨body, between, rest, spells, blank, later, key⟩ := members.head
      obtain ⟨left, read, close⟩ := ih later (by simpa using enough)
      have value := takes (rest ++ '\x7d' :: tail) (later.follows tail)
      refine ⟨left, ?_, close⟩
      simp only [readMembers, key, readString_of_spells spells, readColon_colon blank, value, read,
        Except.bind, Except.map]

section
variable {α : Type} {depth : Nat}

theorem readItems_array {item : Text → Read α} {raw : List Text} {as : List α} {inside : Text}
    (taken : List.Forall₂ (Takable item) raw as) (items : Items true raw inside) (tail : Text) :
    within closeArray leaveArray (readItems item ((inside ++ ']' :: tail).length + 1) true
      (inside ++ ']' :: tail)) = .ok (as, tail) := by
  have enough : raw.length < (inside ++ ']' :: tail).length + 1 := by
    have few := items.length_le
    rw [Bool.toNat_true] at few
    simp only [List.length_append, List.length_cons]
    omega
  obtain ⟨left, read, close⟩ := readItems_items taken items tail enough
  exact within_eq_ok.mpr ⟨left, read, closeArray_eq_ok.mpr close⟩

theorem readMembers_object {value : Text → Read α} {raw : List Member} {ms : List (Text × α)}
    {inside : Text}
    (taken : List.Forall₂ (fun one m => one.1 = m.1 ∧ Takes value one.2 m.2) raw ms)
    (members : Members true raw inside) (tail : Text) :
    within closeObject leaveObject (readMembers value ((inside ++ '\x7d' :: tail).length + 1) true
      (inside ++ '\x7d' :: tail)) = .ok (ms, tail) := by
  have enough : raw.length < (inside ++ '\x7d' :: tail).length + 1 := by
    have few := members.length_le
    rw [List.length_append]
    omega
  obtain ⟨left, read, close⟩ := readMembers_members taken members tail enough
  exact within_eq_ok.mpr ⟨left, read, closeObject_eq_ok.mpr close⟩

theorem takes_list {reader : Reader α} {raw : List Text} {as : List α} {gap inside : Text}
    (blank : Only isBlank gap) (taken : List.Forall₂ (Takable (reader depth)) raw as)
    (items : Items true raw inside) :
    Takes (list reader (depth + 1)) (gap ++ '[' :: (inside ++ [']'])) as := by
  intro tail _
  have start : skipBlanks (gap ++ '[' :: (inside ++ [']']) ++ tail) =
      '[' :: (inside ++ ']' :: tail) :=
    skipBlanks_eq_cons.mpr ⟨by decide, gap, blank, by simp⟩
  simp only [list, start, Nat.add_one_ne_zero, if_false, Nat.add_sub_cancel]
  exact readItems_array taken items tail

end

end EndpointProfile.Json
