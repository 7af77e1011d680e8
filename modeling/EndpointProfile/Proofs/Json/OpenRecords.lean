import Mathlib.Data.List.Nodup
import EndpointProfile.Proofs.Json.Layout
import EndpointProfile.Proofs.Json.Skipping

/-! A record that is open is read from any object that gives its fields, whatever else is in it. -/
namespace EndpointProfile.Json
open Text (Only)

/-- A text with blanks before it. -/
inductive Padded (one : Text) : Text → Prop
  | intro {gap : Text} : Only isBlank gap → Padded one (gap ++ one)

/-- How a value that may be missing is written, given how the value is. -/
def OrNull {α : Type} (writes : α → Text → Prop) : Option α → Text → Prop
  | some a => writes a
  | none => Padded "null"

section
variable {text : Text} (depth : Nat)

theorem takes_written {t : Text} (h : Written (.string t) text) : Takes (string depth) text t :=
  fun _ _ => stringAs_eq_ok.mpr ⟨text, h, rfl⟩

theorem takes_name {α : Type} {all : List α} {name : α → Text} {a : α}
    (found : all.find? (fun b => name b = name a) = some a) (h : Written (.string (name a)) text) :
    Takes (choice all name depth) text a := by
  intro rest _
  have string : stringAs "variant identifier" depth (text ++ rest) = .ok (name a, rest) :=
    stringAs_eq_ok.mpr ⟨text, h, rfl⟩
  cases h with
  | @string gap body _ blank spells =>
      have start : skipBlanks (gap ++ '"' :: (body ++ ['"']) ++ rest) = '"' :: (body ++ '"' :: rest) :=
        skipBlanks_eq_cons.mpr ⟨by decide, gap, blank, by simp⟩
      simp only [choice, start, named, string, Except.bind, found]
  | other never => exact absurd rfl (never (name a))

theorem takes_padded {n : Nat} (small : n ≤ largestWord) (h : Padded (Text.ofNat n) text) :
    Takes (word depth) text n := by
  obtain ⟨blank⟩ := h
  exact takes_word blank small depth

theorem takes_string_or_null {o : Option Text} (h : OrNull (fun t => Written (.string t)) o text) :
    Takes (optional string depth) text o := by
  cases o with
  | none =>
      obtain ⟨blank⟩ := h
      exact takes_null blank string depth
  | some t =>
      cases h with
      | string blank spells =>
          exact takes_some blank rfl (by decide) (takes_written depth (.string (Text.only_nil _) spells))
      | other never => exact absurd rfl (never t)

theorem takes_word_or_null {o : Option Nat} (small : ∀ n ∈ o, n ≤ largestWord)
    (h : OrNull (fun n => Padded (Text.ofNat n)) o text) : Takes (optional word depth) text o := by
  cases o with
  | none =>
      obtain ⟨blank⟩ := h
      exact takes_null blank word depth
  | some n =>
      obtain ⟨blank⟩ := h
      have takes := takes_word (Text.only_nil _) (small n rfl) depth
      obtain ⟨c, digits, written, digit⟩ := exists_digit_ofNat n
      rw [List.nil_append, written] at takes
      rw [written]
      exact takes_some blank (isBlank_of_isDigit digit) (isDigit_apart digit rfl) takes

end

namespace Schema

variable {Field : Type} {Slot : Field → Type}

/-- The fields that some members give. -/
def given (s : Schema Field Slot) (ms : List Member) : List Field :=
  ms.filterMap fun m => s.field? m.1

/-- Members that hold a record. No field is given twice, and those that are not given are what they
are when left out. `writes` says which texts write the value of a field; what is no field has any
value at all. -/
structure Holds (s : Schema Field Slot) (writes : (f : Field) → Slot f → Text → Prop)
    (get : (f : Field) → Slot f) (ms : List Member) : Prop where
  once : (s.given ms).Nodup
  own : ∀ m ∈ ms, ∀ f, s.field? m.1 = some f → writes f (get f) m.2
  others : ∀ m ∈ ms, s.field? m.1 = none → Valid .value m.2
  left : ∀ f, f ∉ s.given ms → s.absent f = some (get f)

/-- An object that holds a record, with blanks before it. -/
inductive Writes (s : Schema Field Slot) (writes : (f : Field) → Slot f → Text → Prop)
    (get : (f : Field) → Slot f) : Text → Prop
  | intro {gap inside : Text} {ms : List Member} : Only isBlank gap → Members true ms inside →
      s.Holds writes get ms → Writes s writes get (gap ++ '\x7b' :: (inside ++ ['\x7d']))

variable {s : Schema Field Slot} {writes : (f : Field) → Slot f → Text → Prop}
  {get : (f : Field) → Slot f} {ms before after : List Member} {name value : Text}

/-- The members of some fields hold a record if they give what cannot be left out. -/
theorem holds_fields (found : ∀ f, s.field? (s.label f) = some f) {fs : List Field}
    {text : Field → Text} (distinct : fs.Nodup) (own : ∀ f ∈ fs, writes f (get f) (text f))
    (left : ∀ f, f ∉ fs → s.absent f = some (get f)) :
    s.Holds writes get (fs.map fun f => (s.label f, text f)) := by
  have same : s.given (fs.map fun f => (s.label f, text f)) = fs := by
    simp [given, List.filterMap_map, found]
  refine ⟨same.symm ▸ distinct, ?_, ?_, fun f missing => left f (same ▸ missing)⟩
  · rintro m inside g known
    obtain ⟨f, among, rfl⟩ := List.mem_map.mp inside
    cases (found f).symm.trans known
    exact own _ among
  · rintro m inside unknown
    obtain ⟨f, -, rfl⟩ := List.mem_map.mp inside
    cases (found f).symm.trans unknown

theorem Holds.writes_compact {ms : List (Text × Value)}
    (h : s.Holds writes get (ms.map fun m => (m.1, m.2.compact))) :
    s.Writes writes get (Value.object ms).compact := by
  have object := Writes.intro (Text.only_nil _) (members_compact ms) h
  simpa [Value.compact] using object

/-- Members that are no fields make no difference, wherever they stand. -/
theorem Holds.insert (h : s.Holds writes get (before ++ after)) (unknown : s.field? name = none)
    (valid : Valid .value value) : s.Holds writes get (before ++ (name, value) :: after) := by
  have same : s.given (before ++ (name, value) :: after) = s.given (before ++ after) := by
    simp [given, unknown]
  have cases {m : Member} (inside : m ∈ before ++ (name, value) :: after) :
      m = (name, value) ∨ m ∈ before ++ after := by
    simpa [or_left_comm] using inside
  refine ⟨same ▸ h.once, ?_, ?_, fun f missing => h.left f (same ▸ missing)⟩
  · intro m inside f known
    rcases cases inside with rfl | old
    · cases unknown.symm.trans known
    · exact h.own m old f known
  · intro m inside missing
    rcases cases inside with rfl | old
    · exact valid
    · exact h.others m old missing

/-- A field that is what it is when left out may be left out. -/
theorem Holds.drop (h : s.Holds writes get (before ++ (name, value) :: after)) {f : Field}
    (known : s.field? name = some f) (absent : s.absent f = some (get f)) :
    s.Holds writes get (before ++ after) := by
  have split : s.given (before ++ (name, value) :: after) = s.given before ++ f :: s.given after := by
    simp [given, known]
  have rest : s.given (before ++ after) = s.given before ++ s.given after := by simp [given]
  have stays {m : Member} (inside : m ∈ before ++ after) : m ∈ before ++ (name, value) :: after :=
    List.mem_append.mpr ((List.mem_append.mp inside).imp_right (List.mem_cons_of_mem _))
  refine ⟨?_, fun m inside => h.own m (stays inside), fun m inside => h.others m (stays inside), ?_⟩
  · have once := h.once
    rw [split] at once
    rw [rest]
    exact once.sublist ((List.sublist_cons_self f _).append_left _)
  · intro g missing
    rcases eq_or_ne g f with rfl | differs
    · exact absent
    · refine h.left g ?_
      rw [rest] at missing
      rw [split]
      simpa [differs] using missing

variable [DecidableEq Field]

/-- Each field is read where it is given, and the others are passed over. -/
theorem fills_given {depth : Nat} {slots : Slots Slot} (opened : s.closed = false)
    (once : (s.given ms).Nodup) (free : ∀ f ∈ s.given ms, slots f = none)
    (own : ∀ m ∈ ms, ∀ f, s.field? m.1 = some f → Takes (s.reader f depth) m.2 (get f))
    (others : ∀ m ∈ ms, s.field? m.1 = none → Valid .value m.2) :
    Fills s depth slots ms (fun f => if f ∈ s.given ms then some (get f) else slots f) := by
  induction ms generalizing slots with
  | nil => simpa [given] using Fills.nil
  | cons m ms ih =>
      obtain ⟨name, value⟩ := m
      obtain ⟨own, owns⟩ := List.forall_mem_cons.mp own
      obtain ⟨other, others⟩ := List.forall_mem_cons.mp others
      cases known : s.field? name with
      | none =>
          have same : s.given ((name, value) :: ms) = s.given ms := by simp [given, known]
          rw [same] at once free ⊢
          have passes : ∀ rest, Follows rest → skipValue (value ++ rest) = .ok rest :=
            fun _ => skipValue_valid (other known)
          exact .unknown known opened passes (ih once free owns others)
      | some f =>
          have more : s.given ((name, value) :: ms) = f :: s.given ms := by simp [given, known]
          rw [more] at once free ⊢
          obtain ⟨fresh, once⟩ := List.nodup_cons.mp once
          obtain ⟨unread, free⟩ := List.forall_mem_cons.mp free
          rw [← put_filled]
          exact .known known unread (own f known)
            (ih once (put_free fresh free (get f)) owns others)

theorem takes_record {depth : Nat} {text : Text} (opened : s.closed = false)
    (takes : ∀ f one, writes f (get f) one → Takes (s.reader f depth) one (get f))
    (h : s.Writes writes get text) : Takes (s.record (depth + 1)) text get := by
  obtain @⟨gap, inside, ms, blank, members, holds⟩ := h
  have own : ∀ m ∈ ms, ∀ f, s.field? m.1 = some f → Takes (s.reader f depth) m.2 (get f) :=
    fun m among f known => takes f m.2 (holds.own m among f known)
  have fills : Fills s depth (fun _ => none) ms (fun f => if f ∈ s.given ms then some (get f) else none) :=
    fills_given opened holds.once (fun _ _ => rfl) own holds.others
  have full : ∀ f, ((if f ∈ s.given ms then some (get f) else none) <|> s.absent f) =
      some (get f) := by
    intro f
    split
    · rfl
    · next missing => exact holds.left f missing
  intro rest _
  have start : skipBlanks (gap ++ '\x7b' :: (inside ++ ['\x7d']) ++ rest) =
      '\x7b' :: (inside ++ '\x7d' :: rest) :=
    skipBlanks_eq_cons.mpr ⟨by decide, gap, blank, by simp⟩
  have read := record_of_fills members fills full rest
  rw [record, skipBlanks_cons (by decide)] at read
  rw [record, start]
  exact read

end Schema
end EndpointProfile.Json
