import Mathlib.Data.List.Perm.Basic
import EndpointProfile.Proofs.Json.Containers

/-! A closed record of strings is read from just the objects and arrays that hold its fields. -/
namespace EndpointProfile.Json.Schema
open Text (Only)

variable {Field : Type} {Slot : Field → Type}

/-- A record whose fields are strings that have to be given, each under a name of its own. `text`
says how a value is written. -/
structure OfStrings (s : Schema Field Slot) (text : (f : Field) → Slot f → Text) : Prop where
  closed : s.closed = true
  required : ∀ f, s.absent f = none
  distinct : s.fields.Nodup
  found : ∀ f, s.field? (s.label f) = some f
  reads : ∀ {f depth t a rest}, s.reader f depth t = .ok (a, rest) ↔
    ∃ one, Written (.string (text f a)) one ∧ t = one ++ rest

variable {s : Schema Field Slot} {text : (f : Field) → Slot f → Text} {depth : Nat}

theorem OfStrings.takes_iff (strings : s.OfStrings text) {f : Field} {one : Text} {a : Slot f} :
    Takes (s.reader f depth) one a ↔ Written (.string (text f a)) one := by
  constructor
  · intro takes
    obtain ⟨other, written, same⟩ := strings.reads.mp (takes [] (by simp [Follows]))
    rw [List.append_nil, List.append_nil] at same
    exact same ▸ written
  · intro written rest _
    exact strings.reads.mpr ⟨one, written, rfl⟩

theorem OfStrings.field?_eq_some (strings : s.OfStrings text) {name : Text} {f : Field} :
    s.field? name = some f ↔ s.label f = name := by
  constructor
  · intro known
    simpa using List.find?_some known
  · rintro rfl
    exact strings.found f

theorem build_eq_ok {slots : Slots Slot} {get : (f : Field) → Slot f} {t rest : Text} :
    s.build slots t = .ok (get, rest) ↔
      (∀ f, (slots f <|> s.absent f) = some (get f)) ∧ t = rest := by
  constructor
  · intro h
    unfold build at h
    simp only at h
    split at h
    · cases h
    · simp only [Except.ok.injEq, Prod.mk.injEq] at h
      obtain ⟨rfl, rfl⟩ := h
      simp
  · rintro ⟨full, rfl⟩
    exact build_of_full full t

/-- The members of a record, with the fields in some order. -/
def members (s : Schema Field Slot) (text : (f : Field) → Slot f → Text) (get : (f : Field) → Slot f)
    (fs : List Field) : List (Text × Value) :=
  fs.map fun f => (s.label f, .string (text f (get f)))

def items (s : Schema Field Slot) (text : (f : Field) → Slot f → Text)
    (get : (f : Field) → Slot f) : List Value :=
  s.fields.map fun f => .string (text f (get f))

theorem OfStrings.decoded_iff (strings : s.OfStrings text) (depth : Nat)
    {get : (f : Field) → Slot f} {fs : List Field} {raw : List Member} :
    Decoded (s.members text get fs) raw ↔ List.Forall₂ (fun f m => s.field? m.1 = some f ∧
      Takes (s.reader f depth) m.2 (get f)) fs raw := by
  simp only [Decoded, members, List.forall₂_map_left_iff, strings.field?_eq_some, strings.takes_iff]

/-- A record is made up once each of its fields has been read and its end is there. -/
theorem OfStrings.closing_eq_ok (strings : s.OfStrings text) {close : Text → Except Stop Text}
    {leave : Text → Text} {inside : Read (Slots Slot)} {get : (f : Field) → Slot f} {rest : Text} :
    within close leave (inside.bind fun (slots, left) => s.build slots left) = .ok (get, rest) ↔
      ∃ left, inside = .ok ((fun f => some (get f)), left) ∧ close left = .ok rest := by
  rw [within_eq_ok]
  refine exists_congr fun left => and_congr_left fun _ => ?_
  rw [bind_eq_ok]
  constructor
  · rintro ⟨⟨out, last⟩, read, built⟩
    obtain ⟨full, rfl⟩ := build_eq_ok.mp built
    rw [read]
    congr 2
    funext f
    simpa [strings.required f] using full f
  · intro read
    exact ⟨_, read, build_eq_ok.mpr ⟨fun _ => rfl, rfl⟩⟩

variable [DecidableEq Field]

/-- What has been read of an object makes up members that fill the slots. -/
theorem members_of_readFields (strings : s.OfStrings text) {fuel : Nat} {first : Bool}
    {slots out : Slots Slot} {t left : Text}
    (h : s.readFields depth fuel first slots t = .ok (out, left)) :
    ∃ ms inside tail, t = inside ++ '\x7d' :: tail ∧ Members first ms inside ∧
      Fills s depth slots ms out ∧ skipBlanks left = '\x7d' :: tail := by
  induction fuel generalizing first slots t with
  | zero => cases h
  | succ fuel ih =>
      rw [readFields] at h
      obtain ⟨key?, found, h⟩ := bind_eq_ok.mp h
      cases key? with
      | none =>
          cases h
          obtain ⟨blank, rest, only, rfl⟩ := nextKey?_eq_none found
          exact ⟨[], blank, rest, rfl, .nil only, .nil,
            skipBlanks_eq_cons.mpr ⟨by decide, blank, only, rfl⟩⟩
      | some key =>
          obtain ⟨⟨name, afterName⟩, read, h⟩ := bind_eq_ok.mp h
          simp only at h
          split at h
          · next f known =>
              split at h
              · cases h
              · next free =>
                  obtain ⟨start, colon, h⟩ := bind_eq_ok.mp h
                  obtain ⟨⟨a, rest⟩, value, h⟩ := bind_eq_ok.mp h
                  obtain ⟨ms, inside, tail, rfl, members, fills, close⟩ := ih h
                  obtain ⟨one, written, rfl⟩ := strings.reads.mp value
                  obtain ⟨lead, rfl, grows⟩ := members_of_read found read colon
                  refine ⟨(name, one) :: ms, lead ++ (one ++ inside), tail, by simp,
                    grows one ms inside members, ?_, close⟩
                  exact .known known (by simpa using free) (strings.takes_iff.mpr written) fills
          · rw [if_pos strings.closed] at h
            cases h

theorem fields_of_fills (closed : s.closed = true) {slots out : Slots Slot} {ms : List Member}
    (h : Fills s depth slots ms out) :
    ∃ fs : List Field, fs.Nodup ∧ (∀ f ∈ fs, slots f = none) ∧ (∀ f ∉ fs, out f = slots f) ∧
      List.Forall₂ (fun f m => s.field? m.1 = some f ∧
        ∃ a, out f = some a ∧ Takes (s.reader f depth) m.2 a) fs ms := by
  induction h with
  | nil => exact ⟨[], by simp⟩
  | @known slots out name value ms f a known free takes _ ih =>
      obtain ⟨fs, distinct, unread, kept, named⟩ := ih
      have other : f ∉ fs := by
        intro again
        simpa [put] using unread f again
      have filled : out f = some a := by rw [kept f other]; simp [put]
      refine ⟨f :: fs, List.nodup_cons.mpr ⟨other, distinct⟩, ?_, ?_,
        .cons ⟨known, a, filled, takes⟩ named⟩
      · rw [List.forall_mem_cons]
        refine ⟨free, fun g hg => ?_⟩
        have differs : f ≠ g := fun same => other (same ▸ hg)
        simpa [put, differs] using unread g hg
      · intro g hg
        rw [List.mem_cons, not_or] at hg
        simp [kept g hg.2, put, Ne.symm hg.1]
  | unknown _ opened => simp [closed] at opened

/-- What has been read of an array makes up the items of the fields, in order. -/
theorem items_of_readInOrder (strings : s.OfStrings text) {fs : List Field} (distinct : fs.Nodup)
    {n : Nat} {slots out : Slots Slot} {t left tail : Text}
    (h : s.readInOrder depth fs n slots t = .ok (out, left)) (close : skipBlanks left = ']' :: tail) :
    ∃ raw inside, t = inside ++ ']' :: tail ∧ Items (n = 0) raw inside ∧
      (∀ f ∉ fs, out f = slots f) ∧
      List.Forall₂ (fun f one => ∃ a, out f = some a ∧ Written (.string (text f a)) one) fs raw := by
  induction fs generalizing n slots t with
  | nil =>
      cases h
      obtain ⟨-, blank, only, rfl⟩ := skipBlanks_eq_cons.mp close
      exact ⟨[], blank, rfl, .nil only, fun _ _ => rfl, .nil⟩
  | cons f fs ih =>
      obtain ⟨other, distinct⟩ := List.nodup_cons.mp distinct
      rw [readInOrder] at h
      obtain ⟨item?, found, h⟩ := bind_eq_ok.mp h
      cases item? with
      | none => cases h
      | some u =>
          obtain ⟨⟨a, rest⟩, value, h⟩ := bind_eq_ok.mp h
          obtain ⟨raw, inside, rfl, items, kept, written⟩ := ih distinct h
          obtain ⟨one, string, rfl⟩ := strings.reads.mp value
          obtain ⟨gap, lead, rfl, blank, grows⟩ := items_of_read found
          have filled : out f = some a := by rw [kept f other]; simp [put]
          refine ⟨(gap ++ one) :: raw, lead ++ (gap ++ one ++ inside), by simp, ?_, ?_,
            .cons ⟨a, filled, string.pad blank⟩ written⟩
          · exact grows (gap ++ one) raw inside (by simpa using items)
          · intro g hg
            rw [List.mem_cons, not_or] at hg
            simp [kept g hg.2, put, Ne.symm hg.1]

theorem readInOrder_items (strings : s.OfStrings text) {fs : List Field} {raw : List Text}
    {get : (f : Field) → Slot f}
    (written : List.Forall₂ (fun f one => Written (.string (text f (get f))) one) fs raw)
    {n : Nat} {inside : Text} (items : Items (n = 0) raw inside) (slots : Slots Slot) (tail : Text) :
    ∃ left, s.readInOrder depth fs n slots (inside ++ ']' :: tail) =
        .ok ((fun f => if f ∈ fs then some (get f) else slots f), left) ∧
      skipBlanks left = ']' :: tail := by
  induction written generalizing n inside slots with
  | nil =>
      refine ⟨inside ++ ']' :: tail, by simp [readInOrder], ?_⟩
      exact skipBlanks_eq_cons.mpr ⟨by decide, inside, items.only, rfl⟩
  | @cons f one fs raw string _ ih =>
      obtain ⟨start, rest, bare, later, found⟩ := items.head string
      have after : Items (n + 1 = 0) raw rest := by simpa using later
      obtain ⟨left, read, close⟩ := ih after (put f (get f) slots)
      have value : s.reader f depth (start ++ (rest ++ ']' :: tail)) =
          .ok (get f, rest ++ ']' :: tail) := strings.reads.mpr ⟨start, bare, rfl⟩
      rw [put_filled] at read
      refine ⟨left, ?_, close⟩
      simp only [readInOrder, found, value, Except.bind, read]

theorem OfStrings.object_of_readFields (strings : s.OfStrings text) {fuel : Nat} {t left rest : Text}
    {get : (f : Field) → Slot f}
    (h : s.readFields depth fuel true (fun _ => none) t = .ok ((fun f => some (get f)), left))
    (close : closeObject left = .ok rest) :
    ∃ fs raw inside, fs.Perm s.fields ∧ Decoded (s.members text get fs) raw ∧
      Members true raw inside ∧ t = inside ++ '\x7d' :: rest := by
  obtain ⟨raw, inside, tail, rfl, members, fills, ends⟩ := members_of_readFields strings h
  rw [closeObject_eq_ok.mp close, List.cons.injEq] at ends
  obtain ⟨-, rfl⟩ := ends
  obtain ⟨fs, distinct, -, kept, named⟩ := fields_of_fills strings.closed fills
  have all : fs.Perm s.fields := by
    refine (List.perm_ext_iff_of_nodup distinct strings.distinct).mpr fun f => ?_
    refine iff_of_true ?_ (s.complete f)
    by_contra missing
    cases kept f missing
  refine ⟨fs, raw, inside, all, (strings.decoded_iff depth).mpr (named.imp ?_), members, rfl⟩
  rintro f m ⟨known, a, ⟨⟩, takes⟩
  exact ⟨known, takes⟩

theorem OfStrings.array_of_readInOrder (strings : s.OfStrings text) {t left rest : Text}
    {get : (f : Field) → Slot f}
    (h : s.readInOrder depth s.fields 0 (fun _ => none) t = .ok ((fun f => some (get f)), left))
    (close : closeArray left = .ok rest) :
    ∃ raw inside, List.Forall₂ Written (s.items text get) raw ∧ Items true raw inside ∧
      t = inside ++ ']' :: rest := by
  obtain ⟨raw, inside, rfl, items, -, written⟩ :=
    items_of_readInOrder strings strings.distinct h (closeArray_eq_ok.mp close)
  refine ⟨raw, inside, List.forall₂_map_left_iff.mpr (written.imp ?_), items, rfl⟩
  rintro f one ⟨a, ⟨⟩, string⟩
  exact string

/-- A record is read from what starts with an object of all its fields, in any order, or with an
array of them. -/
theorem OfStrings.record_eq_ok (strings : s.OfStrings text) {t rest : Text}
    {get : (f : Field) → Slot f} :
    s.record (depth + 1) t = .ok (get, rest) ↔
      (∃ fs raw inside, fs.Perm s.fields ∧ Decoded (s.members text get fs) raw ∧
          Members true raw inside ∧ skipBlanks t = '\x7b' :: (inside ++ '\x7d' :: rest)) ∨
        ∃ raw inside, List.Forall₂ Written (s.items text get) raw ∧ Items true raw inside ∧
          skipBlanks t = '[' :: (inside ++ ']' :: rest) := by
  have opened : ¬ depth + 1 = 0 := Nat.add_one_ne_zero depth
  constructor
  · intro h
    unfold record at h
    split at h
    · next start =>
        rw [if_neg opened, Nat.add_sub_cancel] at h
        obtain ⟨left, read, close⟩ := strings.closing_eq_ok.mp h
        obtain ⟨fs, raw, inside, all, decoded, members, rfl⟩ := strings.object_of_readFields read close
        exact .inl ⟨fs, raw, inside, all, decoded, members, start⟩
    · next start =>
        rw [if_neg opened, Nat.add_sub_cancel] at h
        obtain ⟨left, read, close⟩ := strings.closing_eq_ok.mp h
        obtain ⟨raw, inside, written, items, rfl⟩ := strings.array_of_readInOrder read close
        exact .inr ⟨raw, inside, written, items, start⟩
    · exact absurd h (wrongType_ne_ok _ _ _)
  · rintro (⟨fs, raw, inside, all, decoded, members, start⟩ | ⟨raw, inside, written, items, start⟩)
    · have distinct : fs.Nodup := all.nodup_iff.mpr strings.distinct
      have fills := fills_fields distinct (fun _ _ => rfl) ((strings.decoded_iff depth).mp decoded)
      have full : ∀ f, ((if f ∈ fs then some (get f) else none) <|> s.absent f) = some (get f) := by
        intro f
        simp [all.mem_iff.mpr (s.complete f)]
      have read := record_of_fills members fills full rest
      rw [record, skipBlanks_cons (by decide)] at read
      rw [record, start]
      exact read
    · have first : Items (decide (0 = 0)) raw inside := items
      rw [record, start]
      simp only [opened, if_false, Nat.add_sub_cancel]
      refine strings.closing_eq_ok.mpr ?_
      simp only [closeArray_eq_ok]
      simpa only [s.complete, if_true] using readInOrder_items strings
        (List.forall₂_map_left_iff.mp written) first (fun _ => none) rest

/-- A text is read as a record exactly if it is an object of all its fields, in any order, or an
array of them, and nothing else. -/
theorem OfStrings.read_record_eq_ok (strings : s.OfStrings text) {t : Text}
    {get : (f : Field) → Slot f} :
    read s.record t = .ok get ↔
      (∃ fs, fs.Perm s.fields ∧ ObjectText (s.members text get fs) t) ∨
        ArrayText (s.items text get) t := by
  have nothing (tail : Text) : skipBlanks tail = [] ↔ Only isBlank tail := List.dropWhile_eq_nil_iff
  rw [read_eq_ok, depthLimit]
  simp only [strings.record_eq_ok, nothing]
  constructor
  · rintro ⟨tail, ⟨fs, raw, inside, all, decoded, members, start⟩ |
      ⟨raw, inside, written, items, start⟩, ends⟩
    · obtain ⟨-, gap, blank, rfl⟩ := skipBlanks_eq_cons.mp start
      exact .inl ⟨fs, all, .intro blank members decoded ends⟩
    · obtain ⟨-, gap, blank, rfl⟩ := skipBlanks_eq_cons.mp start
      exact .inr (.intro blank items written ends)
  · rintro (⟨fs, all, blank, members, decoded, ends⟩ | ⟨blank, items, written, ends⟩)
    · exact ⟨_, .inl ⟨fs, _, _, all, decoded, members,
        skipBlanks_eq_cons.mpr ⟨by decide, _, blank, rfl⟩⟩, ends⟩
    · exact ⟨_, .inr ⟨_, _, written, items,
        skipBlanks_eq_cons.mpr ⟨by decide, _, blank, rfl⟩⟩, ends⟩

end EndpointProfile.Json.Schema
