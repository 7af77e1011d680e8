import EndpointProfile.Text.Blank
import EndpointProfile.Text.CharsetData
import EndpointProfile.Text.Utf8

/-! Texts of unknown encoding. A byte order mark settles the encoding, and else a label does. -/
namespace EndpointProfile

inductive Charset where
  | utf8
  | utf16 (highFirst : Bool)
  /-- The rows say what the upper half of the bytes stands for. -/
  | singleByte (rows : List String)
  | refused
  deriving DecidableEq, Repr

namespace Charset

private def isLabelBlank (c : Char) : Bool :=
  c = ' ' || c = '\t' || c = '\n' || c = '\x0c' || c = '\r'

def ofLabel? (label : Text) : Option Charset :=
  let wanted := String.ofList (Text.lowerAscii (Text.strip isLabelBlank label))
  if wanted ∈ utf16Labels then some (.utf16 false)
  else if wanted ∈ utf16BigLabels then some (.utf16 true)
  else if wanted ∈ refusedLabels then some .refused
  else (singleByteEncodings.find? fun e => e.1.contains wanted).map fun e => .singleByte e.2

/-- The encoding that a byte order mark tells, and the bytes after the mark. -/
def ofMark? : Bytes → Option (Charset × Bytes)
  | 0xEF :: 0xBB :: 0xBF :: rest => some (.utf8, rest)
  | 0xFE :: 0xFF :: rest => some (.utf16 true, rest)
  | 0xFF :: 0xFE :: rest => some (.utf16 false, rest)
  | _ => none

/-- Reads two bytes at a time. `lead` is the first half of a pair that waits for its second half. -/
def readUtf16 (highFirst : Bool) (lead : Option Nat) : Bytes → Text
  | a :: b :: rest =>
    let unit := if highFirst then 256 * a.toNat + b.toNat else 256 * b.toNat + a.toNat
    let isSecond := 0xDC00 ≤ unit && unit < 0xE000
    match lead with
    | some first =>
      if isSecond then
        Char.ofNat (0x10000 + 0x400 * (first - 0xD800) + (unit - 0xDC00)) ::
          readUtf16 highFirst none rest
      else if 0xD800 ≤ unit && unit < 0xDC00 then '\uFFFD' :: readUtf16 highFirst (some unit) rest
      else '\uFFFD' :: Char.ofNat unit :: readUtf16 highFirst none rest
    | none =>
      if isSecond then '\uFFFD' :: readUtf16 highFirst none rest
      else if 0xD800 ≤ unit && unit < 0xDC00 then readUtf16 highFirst (some unit) rest
      else Char.ofNat unit :: readUtf16 highFirst none rest
  | [] => if lead.isSome then ['\uFFFD'] else []
  | [_] => ['\uFFFD']

/-- The text of any bytes. What stands for nothing becomes a replacement character. -/
def decode : Charset → Bytes → Text
  | utf8, bytes => Utf8.decodeLossy bytes
  | utf16 highFirst, bytes => readUtf16 highFirst none bytes
  | singleByte rows, bytes =>
    let upper := Shift.ofRows rows
    bytes.map fun b =>
      let c := Char.ofNat b.toNat
      if b < 0x80 then c else (Shift.image? upper c).getD '\uFFFD'
  | refused, bytes => if bytes.isEmpty then [] else ['\uFFFD']

/-- Decodes bytes by their mark, or else by a label. Without either they are UTF-8. -/
def read (label : Option Text) (bytes : Bytes) : Text :=
  match ofMark? bytes with
  | some (charset, rest) => charset.decode rest
  | none => ((label.bind ofLabel?).getD .utf8).decode bytes

end Charset
end EndpointProfile
