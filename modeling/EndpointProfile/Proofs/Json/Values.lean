import Mathlib.Data.List.Forall2
import EndpointProfile.Proofs.Json.Arrays
import EndpointProfile.Proofs.Json.Layout
import EndpointProfile.Proofs.Json.Numbers

/-! A value without floating point numbers is read back from its compact text. -/
namespace EndpointProfile.Text

theorem precedes_asymm {s t : Text} (h : precedes s t = true) : precedes t s = false := by
  induction s generalizing t with
  | nil => cases t <;> simp_all [precedes]
  | cons c s ih =>
      cases t with
      | nil => cases h
      | cons d t =>
          simp only [precedes, Bool.or_eq_true, Bool.and_eq_true, decide_eq_true_eq] at h
          rcases h with less | ⟨rfl, later⟩
          · have after : c ≤ d := Char.not_lt.mp (Char.lt_asymm less)
            simp [precedes, after, (Char.ne_of_lt less).symm]
          · simp [precedes, ih later]

theorem precedes_ne {s t : Text} (h : precedes s t = true) : s ≠ t := by
  rintro rfl
  simp [precedes_asymm h] at h

end EndpointProfile.Text

namespace EndpointProfile.Json
open Text (Only)

/-- A value without floating point numbers, nested at most so many containers deep. Its whole
numbers have 64 bits, with a sign or without, and the members of an object have names of their own,
in order. -/
inductive Value.Exact : Nat → Value → Prop
  | null {depth : Nat} : Exact depth .null
  | bool {depth : Nat} (b : Bool) : Exact depth (.bool b)
  | integer {depth : Nat} {n : Int} : -0x8000000000000000 ≤ n → n ≤ largestWord →
      Exact depth (.number (.integer n))
  | string {depth : Nat} (t : Text) : Exact depth (.string t)
  | array {depth : Nat} {items : List Value} : (∀ v ∈ items, v.Exact depth) →
      Exact (depth + 1) (.array items)
  | object {depth : Nat} {members : List (Text × Value)} : (∀ m ∈ members, m.2.Exact depth) →
      members.Pairwise (fun m n => Text.precedes m.1 n.1 = true) →
      Exact (depth + 1) (.object members)

theorem putMember_last {α : Type} {key : Text} {a : α} {ms : List (Text × α)}
    (last : ∀ m ∈ ms, Text.precedes m.1 key = true) : putMember key a ms = ms ++ [(key, a)] := by
  induction ms with
  | nil => rfl
  | cons m ms ih =>
      obtain ⟨less, last⟩ := List.forall_mem_cons.mp last
      rw [putMember, if_neg (Text.precedes_ne less), Text.precedes_asymm less, ih last]
      rfl

theorem ofMembers_sorted {ms : List (Text × Value)}
    (sorted : ms.Pairwise fun m n => Text.precedes m.1 n.1 = true) : ofMembers ms = .object ms := by
  have run (before after : List (Text × Value))
      (sorted : (before ++ after).Pairwise fun m n => Text.precedes m.1 n.1 = true) :
      after.foldl (fun l m => putMember m.1 m.2 l) before = before ++ after := by
    induction after generalizing before with
    | nil => simp
    | cons m after ih =>
        obtain ⟨k, v⟩ := m
        have last : ∀ n ∈ before, Text.precedes n.1 k = true := by
          intro n inside
          exact (List.pairwise_append.mp sorted).2.2 n inside (k, v) List.mem_cons_self
        have rest : ((before ++ [(k, v)]) ++ after).Pairwise
            fun m n => Text.precedes m.1 n.1 = true := by
          simpa using sorted
        simp only [List.foldl_cons, putMember_last last, ih _ rest, List.append_assoc,
          List.singleton_append]
  exact congrArg Value.object (run [] ms sorted)

theorem Value.Exact.starts {depth : Nat} {v : Value} (h : v.Exact depth) :
    ∃ c u, v.compact = c :: u ∧ isBlank c = false ∧ c ≠ ']' ∧ (c = 'n' → v = .null) := by
  cases h with
  | null => exact ⟨'n', "ull", rfl, by decide, by decide, fun _ => rfl⟩
  | bool b =>
      cases b with
      | false => exact ⟨'f', "alse", rfl, by decide, by decide, fun same => absurd same (by decide)⟩
      | true => exact ⟨'t', "rue", rfl, by decide, by decide, fun same => absurd same (by decide)⟩
  | @integer _ n low high =>
      cases n with
      | negSucc n =>
          exact ⟨'-', _, rfl, by decide, by decide, fun same => absurd same (by decide)⟩
      | ofNat n =>
          obtain ⟨c, digits, written, digit⟩ := exists_digit_ofNat n
          exact ⟨c, digits, written, isBlank_of_isDigit digit, isDigit_apart digit rfl,
            fun same => absurd same (isDigit_apart digit rfl)⟩
  | string t => exact ⟨'"', _, rfl, by decide, by decide, fun same => absurd same (by decide)⟩
  | array => exact ⟨'[', _, rfl, by decide, by decide, fun same => absurd same (by decide)⟩
  | object => exact ⟨'\x7b', _, rfl, by decide, by decide, fun same => absurd same (by decide)⟩

/-- At any depth a value is read as one whose containers may hold something or nothing. -/
theorem value_eq_valueWith (limit : Nat) : ∃ inner, value limit = valueWith inner := by
  cases limit with
  | zero => exact ⟨none, rfl⟩
  | succ limit => exact ⟨some (value limit), rfl⟩

theorem valueWith_digit {inner : Option (Text → Read Value)} {t u : Text} {c : Char}
    (start : skipBlanks t = c :: u) (digit : c.isDigit = true) :
    valueWith inner t = (readNumber false (c :: u)).map fun (n, rest) => (.number n, rest) := by
  unfold valueWith
  rw [start]
  split
  · next nothing => cases nothing
  -- no other value starts with a digit
  all_goals first
    | next same => exact absurd (List.cons.inj same).1 (isDigit_apart digit rfl)
    | next same =>
        cases same
        rw [if_pos digit]

theorem takes_integer {inner : Option (Text → Read Value)} {n : Int}
    (low : -0x8000000000000000 ≤ n) (high : n ≤ largestWord) :
    Takes (valueWith inner) (Value.number (.integer n)).compact (.number (.integer n)) := by
  intro rest follows
  cases n with
  | negSucc n =>
      have read := readNumber_ofNat (n := n + 1) (by simp [largestWord]; omega) true follows
      have whole : wholeNumber true (n + 1) = .integer (Int.negSucc n) := by
        have within : ¬ 0x8000000000000000 < n + 1 := by omega
        simp [wholeNumber, within, Int.negSucc_eq]
      have start : skipBlanks ((Value.number (.integer (Int.negSucc n))).compact ++ rest) =
          '-' :: (Text.ofNat (n + 1) ++ rest) := skipBlanks_cons (by decide) _
      simp only [valueWith, start, read, whole, Except.map]
  | ofNat n =>
      have small : n ≤ largestWord := Int.ofNat_le.mp high
      have read := readNumber_ofNat small false follows
      obtain ⟨c, digits, written, digit⟩ := exists_digit_ofNat n
      have start : skipBlanks ((Value.number (.integer (Int.ofNat n))).compact ++ rest) =
          c :: (digits ++ rest) := by
        have text : (Value.number (.integer (Int.ofNat n))).compact = c :: digits := written
        rw [text]
        exact skipBlanks_cons (isBlank_of_isDigit digit) _
      rw [written, List.cons_append] at read
      rw [valueWith_digit start digit, read]
      rfl

/-- The containers of a value are read from the inside out. -/
theorem takes_value {depth limit : Nat} {v : Value} (h : v.Exact depth) (fits : depth ≤ limit) :
    Takes (value limit) v.compact v := by
  induction h generalizing limit with
  | null =>
      obtain ⟨inner, same⟩ := value_eq_valueWith limit
      intro rest _
      rw [same]
      rfl
  | bool b =>
      obtain ⟨inner, same⟩ := value_eq_valueWith limit
      intro rest _
      rw [same]
      cases b <;> rfl
  | integer low high =>
      obtain ⟨inner, same⟩ := value_eq_valueWith limit
      rw [same]
      exact takes_integer low high
  | string t =>
      intro rest _
      have start : skipBlanks (quote t ++ rest) = _ := skipBlanks_quote (Text.only_nil _) t rest
      rw [Value.compact, value_quote start, readString_escaped]
      rfl
  | @array depth items inner ih =>
      obtain ⟨limit, rfl⟩ : ∃ n, limit = n + 1 := ⟨limit - 1, by omega⟩
      have taken : List.Forall₂ (Takable (value limit)) (items.map Value.compact) items := by
        refine List.forall₂_map_left_iff.mpr (List.forall₂_same.mpr fun v inside => ?_)
        obtain ⟨c, u, written, dark, bracket, -⟩ := (inner v inside).starts
        have takes : Takes (value limit) v.compact v := ih v inside (by omega)
        rw [written] at takes ⊢
        exact .intro (Text.only_nil isBlank) dark bracket takes
      intro rest _
      have read := readItems_array taken (items_compact items) rest
      have start : skipBlanks ((Value.array items).compact ++ rest) =
          '[' :: (compactItems items ++ ']' :: rest) :=
        skipBlanks_eq_cons.mpr ⟨by decide, [], Text.only_nil _, by simp [Value.compact]⟩
      simp only [value, valueWith, start, read, Except.map]
  | @object depth members inner sorted ih =>
      obtain ⟨limit, rfl⟩ : ∃ n, limit = n + 1 := ⟨limit - 1, by omega⟩
      have taken : List.Forall₂ (fun (one : Member) (m : Text × Value) =>
          one.1 = m.1 ∧ Takes (value limit) one.2 m.2)
          (members.map fun m => (m.1, m.2.compact)) members := by
        refine List.forall₂_map_left_iff.mpr (List.forall₂_same.mpr fun m inside => ?_)
        exact ⟨rfl, ih m inside (by omega)⟩
      intro rest _
      have read := readMembers_object taken (members_compact members) rest
      have start : skipBlanks ((Value.object members).compact ++ rest) =
          '\x7b' :: (compactMembers members ++ '\x7d' :: rest) :=
        skipBlanks_eq_cons.mpr ⟨by decide, [], Text.only_nil _, by simp [Value.compact]⟩
      simp only [value, valueWith, start, read, Except.map, ofMembers_sorted sorted]

/-- A value, unless it is `null`. -/
def Value.nonNull? : Value → Option Value
  | .null => none
  | v => some v

/-- A value that may be missing is missing where it is `null`. -/
theorem takes_nonNull {depth limit : Nat} {v : Value} (h : v.Exact depth) (fits : depth ≤ limit) :
    Takes (optional value limit) v.compact v.nonNull? := by
  have takes := takes_value h fits
  obtain ⟨c, u, written, dark, -, null⟩ := h.starts
  cases v with
  | null => exact takes_null (Text.only_nil _) value limit
  | _ =>
      have other : c ≠ 'n' := fun same => nomatch null same
      rw [written] at takes ⊢
      exact takes_some (Text.only_nil _) dark other takes

end EndpointProfile.Json
