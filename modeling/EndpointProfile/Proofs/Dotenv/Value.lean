import EndpointProfile.Dotenv
import EndpointProfile.Proofs.Text.Cuts

/-! Which values in a file of variable assignments are read as they are written. A value is read
from left to right, and whatever is not read as itself costs a character that no later one makes up
for. -/
namespace EndpointProfile.Dotenv

/-- Characters that quote, escape, or name a variable. -/
def isSpecial (c : Char) : Bool :=
  c = '$' || c = '\'' || c = '"' || c = '\\'

/-- Characters that are not read as themselves outside quotes. -/
def isMark (c : Char) : Bool :=
  isSpecial c || c = ' ' || c = '\t'

/-- A value that says what it looks like. -/
structure Plain (t : Text) : Prop where
  unmarked : ∀ c ∈ t, isMark c = false
  bare : Text.Bare isBlank t
  noComment : t.head? ≠ some '#'

/-- Variables without special characters in their values. -/
def Quiet (env : Environment) : Prop :=
  ∀ p ∈ env, ∀ c ∈ p.2, isSpecial c = false

theorem isSpecial_of_isMark {c : Char} (mark : isMark c = true) (dark : c ≠ ' ' ∧ c ≠ '\t') :
    isSpecial c = true := by
  simpa [isMark, dark] using mark

theorem isSpecial_of_escaped? {c d : Char} (h : escaped? c = some d) (special : isSpecial d = true) :
    isSpecial c = true := by
  unfold escaped? at h
  split at h
  · cases h
    exact absurd special (by decide)
  · split at h
    · cases h
      exact special
    · cases h

section
variable {env : Environment}

/-- After its end a value has comments only. -/
theorem eq_nil_of_ended {t v : Text} (read : readValue env .ended t = some v) : v = [] := by
  induction t with
  | nil => simpa [readValue] using read.symm
  | cons c t ih =>
      rw [readValue] at read
      split at read
      · exact ih read
      split at read
      · exact (Option.some.inj read).symm
      · cases read

/-- What a character adds to a value, with no more special characters than itself. -/
def Adds (env : Environment) (c : Char) (t v : Text) : Prop :=
  ∃ state front u, readValue env state t = some u ∧ v = front ++ u ∧
    front.countP isSpecial ≤ [c].countP isSpecial

section
variable {state : ValueState} {c d : Char} {t v : Text}

theorem Adds.nothing (read : readValue env state t = some v) : Adds env c t v :=
  ⟨state, [], v, read, rfl, Nat.zero_le _⟩

theorem Adds.character (special : isSpecial d = true → isSpecial c = true)
    (read : (readValue env state t).map (d :: ·) = some v) : Adds env c t v := by
  obtain ⟨u, after, rfl⟩ := Option.map_eq_some_iff.mp read
  refine ⟨state, [d], u, after, rfl, ?_⟩
  by_cases h : isSpecial d = true
  · simp [h, special h]
  · simp [h]

variable (quiet : Quiet env)
include quiet

theorem countP_valueOf (name : Text) : (valueOf env name).countP isSpecial = 0 := by
  rw [List.countP_eq_zero]
  unfold valueOf
  cases found : env.lookup name with
  | none => exact fun c inside => absurd inside List.not_mem_nil
  | some value =>
      obtain ⟨before, after, rfl, -⟩ := List.lookup_eq_some_iff.mp found
      have free := quiet (name, value) (by simp)
      simpa using free

theorem Adds.variable (name : Text)
    (read : (readValue env state t).map (valueOf env name ++ ·) = some v) : Adds env c t v := by
  obtain ⟨u, after, rfl⟩ := Option.map_eq_some_iff.mp read
  exact ⟨state, valueOf env name, u, after, rfl, (countP_valueOf quiet name).trans_le (Nat.zero_le _)⟩

theorem Adds.variable_character (name : Text)
    (read : (readValue env state t).map (valueOf env name ++ c :: ·) = some v) : Adds env c t v := by
  obtain ⟨u, after, rfl⟩ := Option.map_eq_some_iff.mp read
  refine ⟨state, valueOf env name ++ [c], u, after, by simp, ?_⟩
  rw [List.countP_append, countP_valueOf quiet, Nat.zero_add]

theorem adds_of_readValue (read : readValue env state (c :: t) = some v) :
    v = [] ∨ Adds env c t v := by
  cases state with
  | plain =>
      rw [readValue] at read
      split at read
      · exact .inr (.nothing read)
      split at read
      · exact .inr (.nothing read)
      split at read
      · exact .inr (.nothing read)
      split at read
      · exact .inr (.nothing read)
      split at read
      · exact .inr (.nothing read)
      · exact .inr (.character id read)
  | weak =>
      rw [readValue] at read
      split at read
      · exact .inr (.nothing read)
      split at read
      · exact .inr (.nothing read)
      split at read
      · exact .inr (.nothing read)
      · exact .inr (.character id read)
  | strong =>
      rw [readValue] at read
      split at read
      · exact .inr (.nothing read)
      · exact .inr (.character id read)
  | escape weak =>
      rw [readValue] at read
      obtain ⟨d, escaped, after⟩ := Option.bind_eq_some_iff.mp read
      exact .inr (.character (isSpecial_of_escaped? escaped) after)
  | name weak name =>
      rw [readValue] at read
      split at read
      · exact .inr (.nothing read)
      split at read
      · exact .inr (.nothing read)
      split at read
      · exact .inr (.variable quiet name read)
      · exact .inr (.variable_character quiet name read)
  | braced weak name =>
      rw [readValue] at read
      split at read
      · exact .inr (.variable quiet name read)
      · exact .inr (.nothing read)
  | ended => exact .inl (eq_nil_of_ended read)

/-- No special character is read that was not written. -/
theorem countP_readValue (read : readValue env state t = some v) :
    v.countP isSpecial ≤ t.countP isSpecial := by
  induction t generalizing state v with
  | nil =>
      cases state with
      | plain | ended | weak | strong | braced => simp_all [readValue]
      | escape weak => cases weak <;> simp_all [readValue]
      | name weak name =>
          cases weak with
          | true => simp [readValue] at read
          | false =>
              simp only [readValue, Bool.false_eq_true, if_false, Option.some.injEq] at read
              rw [← read, countP_valueOf quiet]
              exact Nat.zero_le _
  | cons c t ih =>
      rcases adds_of_readValue quiet read with rfl | ⟨state, front, u, after, rfl, fits⟩
      · exact Nat.zero_le _
      · rw [List.countP_append, ← List.singleton_append, List.countP_append]
        exact Nat.add_le_add fits (ih after)

/-- A value that starts with a mark is read as nothing, or with a special character less. -/
theorem readValue_mark (mark : isMark c = true) (read : readValue env .plain (c :: t) = some v) :
    v = [] ∨ v.countP isSpecial < (c :: t).countP isSpecial := by
  by_cases dark : c ≠ ' ' ∧ c ≠ '\t'
  · have special := isSpecial_of_isMark mark dark
    obtain ⟨state, after⟩ : ∃ state, readValue env state t = some v := by
      simp only [isSpecial, Bool.or_eq_true, decide_eq_true_eq] at special
      rcases special with ((rfl | rfl) | rfl) | rfl
      · exact ⟨.name false [], by simpa [readValue] using read⟩
      · exact ⟨.strong, by simpa [readValue] using read⟩
      · exact ⟨.weak, by simpa [readValue] using read⟩
      · exact ⟨.escape false, by simpa [readValue] using read⟩
    right
    rw [List.countP_cons_of_pos special]
    exact Nat.lt_succ_of_le (countP_readValue quiet after)
  · have blank : c = ' ' ∨ c = '\t' := by
      rwa [not_and_or, not_not, not_not] at dark
    have other : c ≠ '$' ∧ c ≠ '\'' ∧ c ≠ '"' ∧ c ≠ '\\' := by
      rcases blank with rfl | rfl <;> decide
    rw [readValue] at read
    simp only [other, blank, if_true, if_false] at read
    exact .inl (eq_nil_of_ended read)

end

theorem readValue_append {a : Text} (unmarked : ∀ c ∈ a, isMark c = false) (t : Text) :
    readValue env .plain (a ++ t) = (readValue env .plain t).map (a ++ ·) := by
  induction a with
  | nil => simp
  | cons c a ih =>
      obtain ⟨here, later⟩ := List.forall_mem_cons.mp unmarked
      simp only [isMark, isSpecial, Bool.or_eq_false_iff, decide_eq_false_iff_not] at here
      rw [List.cons_append, readValue, ih later]
      simp [here, Function.comp_def]

theorem readValue_unmarked {t : Text} (unmarked : ∀ c ∈ t, isMark c = false) :
    readValue env .plain t = some t := by
  simpa [readValue] using readValue_append unmarked []

theorem unmarked_of_infix (quiet : Quiet env) {t v : Text} (read : readValue env .plain t = some v)
    (inside : t <:+: v) : ∀ c ∈ t, isMark c = false := by
  have whole := List.takeWhile_append_dropWhile (p := fun c => !isMark c) (l := t)
  have front : ∀ c ∈ t.takeWhile fun c => !isMark c, isMark c = false := by
    intro c here
    simpa using List.mem_takeWhile_imp here
  cases rest : t.dropWhile fun c => !isMark c with
  | nil =>
      rw [rest, List.append_nil] at whole
      rwa [whole] at front
  | cons c b =>
      exfalso
      have mark : isMark c = true := by
        simpa [rest] using List.head?_dropWhile_not (fun c => !isMark c) t
      rw [rest] at whole
      generalize t.takeWhile (fun c => !isMark c) = a at whole front
      subst whole
      rw [readValue_append front] at read
      obtain ⟨u, after, rfl⟩ := Option.map_eq_some_iff.mp read
      rcases readValue_mark quiet mark after with rfl | fewer
      · have shorter := inside.length_le
        simp only [List.length_append, List.length_cons, List.length_nil] at shorter
        omega
      · have most := inside.sublist.countP_le (p := isSpecial)
        rw [List.countP_append, List.countP_append] at most
        omega

/-- The value that stands behind an equals sign. -/
def readText (env : Environment) (t : Text) : Option Text :=
  if isNothing (Text.trim t) then some [] else readValue env .plain (Text.trim t)

theorem isNothing_iff {t : Text} : isNothing t = true ↔ t = [] ∨ t.head? = some '#' := by
  rw [isNothing, Bool.or_eq_true, List.isEmpty_iff, decide_eq_true_iff]

/-- Among quiet variables just the plain values are read as they are written. -/
theorem readText_eq_self_iff (quiet : Quiet env) {t : Text} : readText env t = some t ↔ Plain t := by
  unfold readText
  constructor
  · intro read
    split at read
    · cases read
      exact ⟨by simp, by simp [Text.bare_of_free], by simp⟩
    · next something =>
        obtain ⟨a, z, -, -, same, bare⟩ := Text.trim_eq_iff.mp (rfl : Text.trim t = _)
        have unmarked := unmarked_of_infix quiet read ⟨a, z, same.symm⟩
        rw [readValue_unmarked unmarked, Option.some_inj] at read
        rw [read] at unmarked bare something
        exact ⟨unmarked, bare, fun comment => something (isNothing_iff.mpr (.inr comment))⟩
  · intro plain
    rw [Text.trim_of_bare plain.bare, readValue_unmarked plain.unmarked]
    split
    · next nothing =>
        rw [(isNothing_iff.mp nothing).resolve_right plain.noComment]
    · rfl

end
end EndpointProfile.Dotenv
