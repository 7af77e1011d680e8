import EndpointProfile.Text.Basic

/-! UTF-8: texts as bytes, and bytes read back byte by byte. -/
namespace EndpointProfile

abbrev Bytes := List UInt8

namespace Utf8

def encode (t : Text) : Bytes :=
  t.flatMap String.utf8EncodeChar

/-- A character that has begun: the bits read so far, the bytes still missing, and the range that
the next byte must be in. -/
structure Pending where
  value : Nat
  missing : Nat
  low : UInt8
  high : UInt8

/-- What one byte brings: a character, the mark of ill-formed bytes, or a wait for more. -/
inductive Step where
  | char (c : Char)
  | illFormed
  | wait (p : Pending)

/-- The step of a byte that begins a character. The ranges leave out overlong forms, surrogates and
what lies beyond the last code point. -/
def first (b : UInt8) : Step :=
  if b < 0x80 then .char (Char.ofNat b.toNat)
  else if 0xC2 ≤ b && b ≤ 0xDF then .wait ⟨b.toNat - 0xC0, 1, 0x80, 0xBF⟩
  else if b = 0xE0 then .wait ⟨0, 2, 0xA0, 0xBF⟩
  else if b = 0xED then .wait ⟨0xD, 2, 0x80, 0x9F⟩
  else if 0xE1 ≤ b && b ≤ 0xEF then .wait ⟨b.toNat - 0xE0, 2, 0x80, 0xBF⟩
  else if b = 0xF0 then .wait ⟨0, 3, 0x90, 0xBF⟩
  else if 0xF1 ≤ b && b ≤ 0xF3 then .wait ⟨b.toNat - 0xF0, 3, 0x80, 0xBF⟩
  else if b = 0xF4 then .wait ⟨4, 3, 0x80, 0x8F⟩
  else .illFormed

/-- The step of a byte within a character, unless it cannot continue it. -/
def next? (p : Pending) (b : UInt8) : Option Step :=
  if p.low ≤ b && b ≤ p.high then
    let value := 64 * p.value + (b.toNat - 0x80)
    some (if p.missing = 1 then .char (Char.ofNat value) else .wait ⟨value, p.missing - 1, 0x80, 0xBF⟩)
  else none

/-- The characters of the bytes, with `none` for each maximal run of bytes that begins a character
and does not finish it, and for each byte that begins none. -/
def scan : Option Pending → Bytes → List (Option Char)
  | none, [] => []
  | some _, [] => [none]
  | none, b :: r =>
    match first b with
    | .char c => some c :: scan none r
    | .illFormed => none :: scan none r
    | .wait p => scan (some p) r
  | some p, b :: r =>
    match next? p b with
    | some (.char c) => some c :: scan none r
    | some .illFormed => none :: scan none r
    | some (.wait p) => scan (some p) r
    | none =>
      match first b with
      | .char c => none :: some c :: scan none r
      | .illFormed => none :: none :: scan none r
      | .wait p => none :: scan (some p) r

def decode? (bytes : Bytes) : Option Text :=
  (scan none bytes).mapM id

/-- The text of any bytes. Ill-formed ones become replacement characters. -/
def decodeLossy (bytes : Bytes) : Text :=
  (scan none bytes).map (·.getD '\uFFFD')

end Utf8
end EndpointProfile
