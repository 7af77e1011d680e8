import EndpointProfile.Json.Reader

/-! Records: objects with known fields, which may also be written as arrays of all their fields in
order. -/
namespace EndpointProfile.Json

/-- What a record looks like. `Slot f` is the type of the field `f`. -/
structure Schema (Field : Type) (Slot : Field → Type) where
  title : Text
  fields : List Field
  complete : ∀ f, f ∈ fields
  label : Field → Text
  reader : (f : Field) → Reader (Slot f)
  /-- What a field is when it is left out. -/
  absent : (f : Field) → Option (Slot f) := fun _ => none
  /-- Whether other fields are refused; else they are passed over. -/
  closed : Bool := false

namespace Schema

variable {Field : Type} {Slot : Field → Type} [DecidableEq Field]

abbrev Slots (Slot : Field → Type) := (f : Field) → Option (Slot f)

def put (f : Field) (a : Slot f) (slots : Slots Slot) : Slots Slot :=
  fun g => if h : f = g then some (h ▸ a) else slots g

def expected (s : Schema Field Slot) : Text :=
  "struct " ++ s.title ++ " with " ++ Text.ofNat s.fields.length ++ " elements"

def field? (s : Schema Field Slot) (key : Text) : Option Field :=
  s.fields.find? fun f => s.label f = key

def readFields (s : Schema Field Slot) (depth : Nat) :
    Nat → Bool → Slots Slot → Text → Read (Slots Slot)
  | 0, _, _, t => .error (.upon .noValue t)
  | fuel + 1, first, slots, t =>
    (nextKey? first t).bind fun
      | none => .ok (slots, t)
      | some t =>
        (readString .plain t).bind fun (key, rest) =>
          match s.field? key with
          | some f =>
            if (slots f).isSome then .error (.unplaced (.duplicateField key) rest)
            else
              (readColon rest).bind fun rest =>
                (s.reader f depth rest).bind fun (a, rest) =>
                  readFields s depth fuel false (put f a slots) rest
          | none =>
            if s.closed then .error (.unplaced (.unknownField key (s.fields.map s.label)) rest)
            else
              (readColon rest).bind fun rest =>
                (skipValue rest).bind fun rest => readFields s depth fuel false slots rest

/-- The items of an array, one for each of the fields. -/
def readInOrder (s : Schema Field Slot) (depth : Nat) :
    List Field → Nat → Slots Slot → Text → Read (Slots Slot)
  | [], _, slots, t => .ok (slots, t)
  | f :: fields, n, slots, t =>
    (nextItem? (n = 0) t).bind fun
      | none => .error (.unplaced (.wrongLength n s.expected) t)
      | some t =>
        (s.reader f depth t).bind fun (a, rest) =>
          readInOrder s depth fields (n + 1) (put f a slots) rest

/-- The record that the slots hold. A field that was left out gets its value for that case. -/
def build (s : Schema Field Slot) (slots : Slots Slot) (rest : Text) : Read ((f : Field) → Slot f) :=
  let filled (f : Field) : Option (Slot f) := slots f <|> s.absent f
  match h : s.fields.find? fun f => (filled f).isNone with
  | some f => .error (.unplaced (.missingField (s.label f)) rest)
  | none =>
    have full (f : Field) : (filled f).isSome := by
      have := List.find?_eq_none.mp h f (s.complete f)
      simpa [Option.isSome_iff_ne_none] using this
    .ok (fun f => (filled f).get (full f), rest)

def record (s : Schema Field Slot) : Reader ((f : Field) → Slot f) := fun depth t =>
  match skipBlanks t with
  | '\x7b' :: t =>
    if depth = 0 then .error (.upon .tooDeep ('\x7b' :: t))
    else
      within closeObject leaveObject <|
        (s.readFields (depth - 1) (t.length + 1) true (fun _ => none) t).bind
          fun (slots, rest) => s.build slots rest
  | '[' :: t =>
    if depth = 0 then .error (.upon .tooDeep ('[' :: t))
    else
      within closeArray leaveArray <|
        (s.readInOrder (depth - 1) s.fields 0 (fun _ => none) t).bind
          fun (slots, rest) => s.build slots rest
  | t => wrongType ("struct " ++ s.title) t

end Schema
end EndpointProfile.Json
