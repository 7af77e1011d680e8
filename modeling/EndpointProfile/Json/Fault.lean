import EndpointProfile.Json.Value
import EndpointProfile.Text.Escaped
import EndpointProfile.Text.Utf8

/-! Why a JSON text could not be read, and where. -/
namespace EndpointProfile.Json

/-- What stands where something else is wanted. -/
inductive Found where
  | null
  | bool (b : Bool)
  | number (n : Number)
  | string (t : Text)
  | array
  | object

def Found.message : Found → Text
  | null => "null"
  | bool b => "boolean " ++ (if b then "\u0060true\u0060" else "\u0060false\u0060")
  | number (.integer n) => "integer \u0060" ++ Text.ofInt n ++ "\u0060"
  | number (.float x) => "floating point \u0060" ++ floatText x ++ "\u0060"
  | string t => "string " ++ t.quoted
  | array => "sequence"
  | object => "map"

inductive Cause where
  | endInValue
  | endInString
  | endInArray
  | endInObject
  | noColon
  | noArrayEnd
  | noObjectEnd
  | noWord
  | noValue
  | badEscape
  | badNumber
  | numberTooLarge
  | loneSurrogate
  | endedEscape
  | control
  | keyNotString
  | trailingComma
  | trailingText
  | tooDeep
  | wrongType (found : Found) (expected : Text)
  | wrongValue (found : Found) (expected : Text)
  | wrongLength (length : Nat) (expected : Text)
  | unknownVariant (name : Text) (known : List Text)
  | unknownField (name : Text) (known : List Text)
  | duplicateField (name : Text)
  | missingField (name : Text)
  | refused (reason : Text)

private def ticked (t : Text) : Text :=
  "\u0060" ++ t ++ "\u0060"

private def oneOf (known : List Text) : Text :=
  "expected one of " ++ Text.join ", " (known.map ticked)

def Cause.message : Cause → Text
  | endInValue => "EOF while parsing a value"
  | endInString => "EOF while parsing a string"
  | endInArray => "EOF while parsing a list"
  | endInObject => "EOF while parsing an object"
  | noColon => "expected " ++ ticked ":"
  | noArrayEnd => "expected " ++ ticked "," ++ " or " ++ ticked "]"
  | noObjectEnd => "expected " ++ ticked "," ++ " or " ++ ticked "\x7d"
  | noWord => "expected ident"
  | noValue => "expected value"
  | badEscape => "invalid escape"
  | badNumber => "invalid number"
  | numberTooLarge => "number out of range"
  | loneSurrogate => "lone leading surrogate in hex escape"
  | endedEscape => "unexpected end of hex escape"
  | control => "control character (\\u0000-\\u001F) found while parsing a string"
  | keyNotString => "key must be a string"
  | trailingComma => "trailing comma"
  | trailingText => "trailing characters"
  | tooDeep => "recursion limit exceeded"
  | wrongType found expected => "invalid type: " ++ found.message ++ ", expected " ++ expected
  | wrongValue found expected => "invalid value: " ++ found.message ++ ", expected " ++ expected
  | wrongLength n expected => "invalid length " ++ Text.ofNat n ++ ", expected " ++ expected
  | unknownVariant name known => "unknown variant " ++ ticked name ++ ", " ++ oneOf known
  | unknownField name known => "unknown field " ++ ticked name ++ ", " ++ oneOf known
  | duplicateField name => "duplicate field " ++ ticked name
  | missingField name => "missing field " ++ ticked name
  | refused reason => reason

/-- Where reading stopped: the text that is left, and how many bytes of it count as read. A cause
that is not about the text itself gets its place from the container that it occurs in. -/
structure Stop where
  cause : Cause
  rest : Text
  ahead : Nat
  placed : Bool

namespace Stop

/-- A stop right before the rest. -/
def before (cause : Cause) (rest : Text) : Stop :=
  ⟨cause, rest, 0, true⟩

/-- A stop at the first character of the rest. -/
def upon (cause : Cause) (rest : Text) : Stop :=
  ⟨cause, rest, 1, true⟩

def unplaced (cause : Cause) (rest : Text) : Stop :=
  ⟨cause, rest, 0, false⟩

/-- Gives a stop a place, unless it has one. `close` leads to the end of the container. -/
def settle (close : Text → Text) (s : Stop) : Stop :=
  if s.placed then s else ⟨s.cause, close s.rest, 0, true⟩

end Stop

/-- A fault with the line and the column, counted in bytes, of the place where it was found. -/
structure Error where
  cause : Cause
  place : Option (Nat × Nat)

def placeAfter (bytes : Bytes) : Nat × Nat :=
  (1 + bytes.count 10, (bytes.reverse.takeWhile (· ≠ 10)).length)

def Stop.error (whole : Text) (s : Stop) : Error :=
  let read := (Utf8.encode whole).take (whole.byteCount - s.rest.byteCount + s.ahead)
  ⟨s.cause, if s.placed then some (placeAfter read) else none⟩

def Error.message (e : Error) : Text :=
  e.cause.message ++
    match e.place with
    | some (line, column) =>
      " at line " ++ Text.ofNat line ++ " column " ++ Text.ofNat column
    | none => []

/-- What is read from the start of a text, and the rest. -/
abbrev Read (α : Type) := Except Stop (α × Text)

end EndpointProfile.Json
