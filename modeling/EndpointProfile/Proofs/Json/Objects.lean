import EndpointProfile.Json.Record
import EndpointProfile.Proofs.Json.Strings

/-! An object that is written out is read back as the record of its members, in either layout. -/
namespace EndpointProfile.Json
open Text (Only)

/-- What can follow a value inside a container. -/
def Follows (rest : Text) : Prop := ∀ c ∈ rest.head?, isBlank c ∨ c = ',' ∨ c = ']' ∨ c = '\x7d'

/-- A reader takes the text of a value, whatever follows it. -/
def Takes {α : Type} (reader : Text → Read α) (text : Text) (a : α) : Prop :=
  ∀ rest, Follows rest → reader (text ++ rest) = .ok (a, rest)

theorem takes_string {gap : Text} (blank : Only isBlank gap) (depth : Nat) (t : Text) :
    Takes (string depth) (gap ++ quote t) t := by
  intro rest _
  rw [List.append_assoc]
  exact stringAs_quote blank _ depth t rest

theorem takes_choice {α : Type} {all : List α} {name : α → Text} {a : α}
    (found : all.find? (fun b => name b = name a) = some a) {gap : Text} (blank : Only isBlank gap)
    (depth : Nat) : Takes (choice all name depth) (gap ++ quote (name a)) a := by
  intro rest _
  have string := stringAs_quote blank "variant identifier" depth (name a) rest
  rw [List.append_assoc]
  simp only [choice, skipBlanks_quote blank, named, string, Except.bind, found]

theorem takes_null {α : Type} {gap : Text} (blank : Only isBlank gap) (reader : Reader α)
    (depth : Nat) : Takes (optional reader depth) (gap ++ "null") none := by
  intro rest _
  have start : skipBlanks (gap ++ "null" ++ rest) = 'n' :: ("ull" ++ rest) := by
    rw [List.append_assoc, skipBlanks_append blank]
    exact skipBlanks_cons (by decide) _
  simp only [optional, start]
  rfl

theorem takes_some {α : Type} {reader : Reader α} {depth : Nat} {gap u : Text} {c : Char} {a : α}
    (blank : Only isBlank gap) (dark : isBlank c = false) (other : c ≠ 'n')
    (takes : Takes (reader depth) (c :: u) a) :
    Takes (optional reader depth) (gap ++ c :: u) (some a) := by
  intro rest follows
  have value := takes rest follows
  rw [List.cons_append] at value
  rw [List.append_assoc, List.cons_append]
  simp [optional, skipBlanks_append blank, skipBlanks_cons dark, other, value, Except.map]

theorem read_eq_ok {α : Type} {reader : Reader α} {whole : Text} {a : α} :
    read reader whole = .ok a ↔
      ∃ tail, reader depthLimit whole = .ok (a, tail) ∧ skipBlanks tail = [] := by
  constructor
  · intro h
    unfold read at h
    split at h
    · cases h
    · next b tail taken =>
        split at h
        · next ends =>
            cases h
            exact ⟨tail, taken, ends⟩
        · cases h
  · rintro ⟨tail, taken, ends⟩
    simp only [read, taken, ends]

theorem read_of_ok {α : Type} {reader : Reader α} {whole tail : Text} {a : α}
    (h : reader depthLimit whole = .ok (a, tail)) (ends : Only isBlank tail) :
    read reader whole = .ok a := by
  have nothing : skipBlanks tail = [] := by simpa [skipBlanks] using skipBlanks_append ends []
  exact read_eq_ok.mpr ⟨tail, h, nothing⟩

theorem converted_eq_ok {α β : Type} {reader : Reader α} {convert : α → Except Text β} {depth : Nat}
    {t rest : Text} {b : β} : converted reader convert depth t = .ok (b, rest) ↔
      ∃ a, reader depth t = .ok (a, rest) ∧ convert a = .ok b := by
  unfold converted
  constructor
  · intro h
    cases first : reader depth t with
    | error s => rw [first] at h; cases h
    | ok r =>
        simp only [first, Except.bind] at h
        split at h
        · next c done =>
            cases h
            exact ⟨r.1, rfl, done⟩
        · cases h
  · rintro ⟨a, first, done⟩
    simp only [first, Except.bind, done]

theorem read_converted {α β : Type} {reader : Reader α} {convert : α → Except Text β} {whole : Text}
    {b : β} : read (converted reader convert) whole = .ok b ↔
      ∃ a, read reader whole = .ok a ∧ convert a = .ok b := by
  simp only [read_eq_ok, converted_eq_ok]
  constructor
  · rintro ⟨tail, ⟨a, taken, done⟩, ends⟩
    exact ⟨a, ⟨tail, taken, ends⟩, done⟩
  · rintro ⟨a, ⟨tail, taken, ends⟩, done⟩
    exact ⟨tail, ⟨a, taken, done⟩, ends⟩

/-- Members are given by their names and by the texts of their values, with the blanks before. -/
abbrev Member := Text × Text

/-- The name of a member, in some spelling and with blanks around it, and its value. -/
inductive Named : Member → Text → Prop
  | intro {before body between name value : Text} : Only isBlank before → Spells body name →
      Only isBlank between →
      Named (name, value) (before ++ '"' :: (body ++ '"' :: (between ++ ':' :: value)))

/-- The inside of an object, with commas between its members. `first` says that none came before. -/
inductive Members : Bool → List Member → Text → Prop
  | nil {first : Bool} {blank : Text} : Only isBlank blank → Members first [] blank
  | first {m : Member} {ms : List Member} {one rest : Text} : Named m one →
      Members false ms rest → Members true (m :: ms) (one ++ rest)
  | next {m : Member} {ms : List Member} {blank one rest : Text} : Only isBlank blank →
      Named m one → Members false ms rest → Members false (m :: ms) (blank ++ ',' :: (one ++ rest))

theorem follows_append {blank : Text} (h : Only isBlank blank) {rest : Text} (hr : Follows rest) :
    Follows (blank ++ rest) := by
  cases blank with
  | nil => exact hr
  | cons c blank =>
      intro d hd
      obtain rfl : c = d := by simpa using hd
      exact .inl (h c List.mem_cons_self)

theorem follows_comma (rest : Text) : Follows (',' :: rest) := by simp [Follows]

theorem follows_brace (rest : Text) : Follows ('\x7d' :: rest) := by simp [Follows]

theorem Members.follows {ms : List Member} {text : Text} (h : Members false ms text) (rest : Text) :
    Follows (text ++ '\x7d' :: rest) := by
  cases h with
  | nil blank => exact follows_append blank (follows_brace rest)
  | next blank _ _ =>
      rw [List.append_assoc]
      exact follows_append blank (follows_comma _)

theorem Members.length_le {first : Bool} {ms : List Member} {text : Text}
    (h : Members first ms text) : ms.length ≤ text.length := by
  induction h with
  | nil => simp
  | first named _ ih =>
      cases named
      simp only [List.length_cons, List.length_append]
      omega
  | next _ _ _ ih =>
      simp only [List.length_cons, List.length_append]
      omega

theorem nextKey?_end {blank : Text} (h : Only isBlank blank) (first : Bool) (rest : Text) :
    nextKey? first (blank ++ '\x7d' :: rest) = .ok none := by
  simp only [nextKey?, skipBlanks_append h, skipBlanks_cons (by decide : isBlank '\x7d' = false)]

theorem nextKey?_first {before : Text} (h : Only isBlank before) (rest : Text) :
    nextKey? true (before ++ '"' :: rest) = .ok (some rest) := by
  simp [nextKey?, skipBlanks_append h, skipBlanks_cons (by decide : isBlank '"' = false)]

theorem nextKey?_next {blank before : Text} (h : Only isBlank blank) (hb : Only isBlank before)
    (rest : Text) : nextKey? false (blank ++ ',' :: (before ++ '"' :: rest)) = .ok (some rest) := by
  simp [nextKey?, skipBlanks_append h, skipBlanks_cons (by decide : isBlank ',' = false),
    skipBlanks_append hb, skipBlanks_cons (by decide : isBlank '"' = false)]

theorem readColon_colon {between : Text} (h : Only isBlank between) (rest : Text) :
    readColon (between ++ ':' :: rest) = .ok rest := by
  simp only [readColon, skipBlanks_append h, skipBlanks_cons (by decide : isBlank ':' = false)]

/-- From the start of a member its name is found, then its value, then the members after it. -/
theorem Members.head {first : Bool} {name value : Text} {ms : List Member} {text : Text}
    (h : Members first ((name, value) :: ms) text) :
    ∃ body between rest, Spells body name ∧ Only isBlank between ∧ Members false ms rest ∧
      ∀ tail, nextKey? first (text ++ tail) =
        .ok (some (body ++ '"' :: (between ++ ':' :: (value ++ (rest ++ tail))))) := by
  cases h with
  | first named later =>
      cases named with
      | @intro before body between _ _ hb spells hm =>
          refine ⟨body, between, _, spells, hm, later, fun tail => ?_⟩
          rw [← nextKey?_first hb]
          simp only [List.append_assoc, List.cons_append]
  | next blank named later =>
      cases named with
      | @intro before body between _ _ hb spells hm =>
          refine ⟨body, between, _, spells, hm, later, fun tail => ?_⟩
          rw [← nextKey?_next blank hb]
          simp only [List.append_assoc, List.cons_append]

theorem closeObject_brace {t rest : Text} (h : skipBlanks t = '\x7d' :: rest) :
    closeObject t = .ok rest := by
  simp only [closeObject, h]

namespace Schema

variable {Field : Type} {Slot : Field → Type} [DecidableEq Field]

/-- How members fill the slots of a record: fields that are known are read, and the others are
passed over where the record is open. -/
inductive Fills (s : Schema Field Slot) (depth : Nat) : Slots Slot → List Member → Slots Slot → Prop
  | nil {slots : Slots Slot} : Fills s depth slots [] slots
  | known {slots out : Slots Slot} {name value : Text} {ms : List Member} {f : Field} {a : Slot f} :
      s.field? name = some f → slots f = none → Takes (s.reader f depth) value a →
      Fills s depth (put f a slots) ms out → Fills s depth slots ((name, value) :: ms) out
  | unknown {slots out : Slots Slot} {name value : Text} {ms : List Member} :
      s.field? name = none → s.closed = false →
      (∀ rest, Follows rest → skipValue (value ++ rest) = .ok rest) →
      Fills s depth slots ms out → Fills s depth slots ((name, value) :: ms) out

variable {s : Schema Field Slot} {depth : Nat}

/-- Each member takes one unit of fuel, and the end of the object takes one. -/
theorem readFields_members {first : Bool} {slots out : Slots Slot} {ms : List Member} {text : Text}
    (fills : Fills s depth slots ms out) (members : Members first ms text) (tail : Text) {fuel : Nat}
    (enough : ms.length < fuel) :
    ∃ rest, s.readFields depth fuel first slots (text ++ '\x7d' :: tail) = .ok (out, rest) ∧
      skipBlanks rest = '\x7d' :: tail := by
  obtain ⟨fuel, rfl⟩ : ∃ n, fuel = n + 1 := ⟨fuel - 1, by omega⟩
  induction fills generalizing first text fuel with
  | nil =>
      cases members with
      | nil blank =>
          refine ⟨text ++ '\x7d' :: tail, ?_, ?_⟩
          · simp only [readFields, nextKey?_end blank, Except.bind]
          · rw [skipBlanks_append blank, skipBlanks_cons (by decide)]
  | known found free takes _ ih =>
      obtain ⟨body, between, rest, spells, blank, later, key⟩ := members.head
      obtain ⟨fuel, rfl⟩ : ∃ n, fuel = n + 1 := ⟨fuel - 1, by simp at enough; omega⟩
      obtain ⟨left, read, close⟩ := ih later fuel (by simpa using enough)
      have value := takes (rest ++ '\x7d' :: tail) (later.follows tail)
      refine ⟨left, ?_, close⟩
      rw [readFields]
      simp only [key, readString_of_spells spells, found, free, readColon_colon blank, value, Except.bind]
      exact read
  | unknown missing opened passes _ ih =>
      obtain ⟨body, between, rest, spells, blank, later, key⟩ := members.head
      obtain ⟨fuel, rfl⟩ : ∃ n, fuel = n + 1 := ⟨fuel - 1, by simp at enough; omega⟩
      obtain ⟨left, read, close⟩ := ih later fuel (by simpa using enough)
      have value := passes (rest ++ '\x7d' :: tail) (later.follows tail)
      refine ⟨left, ?_, close⟩
      rw [readFields]
      simp only [key, readString_of_spells spells, missing, opened, readColon_colon blank, value, Except.bind]
      exact read

omit [DecidableEq Field] in
theorem build_of_full {slots : Slots Slot} {get : (f : Field) → Slot f}
    (full : ∀ f, (slots f <|> s.absent f) = some (get f)) (rest : Text) :
    s.build slots rest = .ok (get, rest) := by
  unfold build
  simp only
  split
  · next f missing =>
      have := List.find?_some missing
      rw [full f] at this
      cases this
  · congr 2
    funext f
    simp [full f]

/-- An object whose members fill all slots is read as the record that they make up. -/
theorem record_of_fills {ms : List Member} {text : Text} {slots : Slots Slot}
    {get : (f : Field) → Slot f} (members : Members true ms text)
    (fills : Fills s depth (fun _ => none) ms slots)
    (full : ∀ f, (slots f <|> s.absent f) = some (get f)) (tail : Text) :
    s.record (depth + 1) ('\x7b' :: (text ++ '\x7d' :: tail)) = .ok (get, tail) := by
  have enough : ms.length < (text ++ '\x7d' :: tail).length + 1 := by
    have := members.length_le
    rw [List.length_append]
    omega
  obtain ⟨rest, read, close⟩ := readFields_members fills members tail enough
  simp only [record, skipBlanks_cons (by decide : isBlank '\x7b' = false), Nat.add_one_ne_zero,
    if_false, Nat.add_sub_cancel, read, Except.bind, build_of_full full rest, within,
    closeObject_brace close, Except.map]

/-- The slots wanted in the end are those wanted after the rest, with the first one put before. -/
theorem put_filled (f : Field) (fs : List Field) (get : (f : Field) → Slot f) (slots : Slots Slot) :
    (fun g => if g ∈ fs then some (get g) else put f (get f) slots g) =
      fun g => if g ∈ f :: fs then some (get g) else slots g := by
  funext g
  by_cases h : f = g
  · subst h
    simp [put]
  · simp [put, h, Ne.symm h]

theorem put_free {f : Field} {fs : List Field} {slots : Slots Slot} (other : f ∉ fs)
    (free : ∀ g ∈ fs, slots g = none) (a : Slot f) : ∀ g ∈ fs, put f a slots g = none := by
  intro g inside
  have differs : f ≠ g := fun same => other (same ▸ inside)
  simp [put, differs, free g inside]

/-- Members that are found by their names, no field twice, fill the slots of these fields. -/
theorem fills_fields {fs : List Field} {ms : List Member} {get : (f : Field) → Slot f}
    {slots : Slots Slot} (distinct : fs.Nodup) (free : ∀ f ∈ fs, slots f = none)
    (named : List.Forall₂ (fun f m => s.field? m.1 = some f ∧ Takes (s.reader f depth) m.2 (get f))
      fs ms) :
    Fills s depth slots ms (fun f => if f ∈ fs then some (get f) else slots f) := by
  induction named generalizing slots with
  | nil => simpa using Fills.nil
  | @cons f m fs ms named _ ih =>
      obtain ⟨other, distinct⟩ := List.nodup_cons.mp distinct
      rw [List.forall_mem_cons] at free
      rw [← put_filled]
      exact .known named.1 free.1 named.2 (ih distinct (put_free other free.2 (get f)))

end Schema
end EndpointProfile.Json
