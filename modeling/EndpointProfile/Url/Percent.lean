import EndpointProfile.Text.Utf8

/-! Percent-encoding. A character outside ASCII is always written byte by byte; which ASCII
characters are depends on the part of the address. -/
namespace EndpointProfile.Percent

private def upperHex (n : Nat) : Char :=
  (Nat.digitChar n).toUpper

private def byteText (b : UInt8) : Text :=
  ['%', upperHex (b.toNat / 16), upperHex (b.toNat % 16)]

/-- Escapes the characters of a class and everything that is not printable ASCII. -/
def encode (escapes : Char → Bool) (t : Text) : Text :=
  t.flatMap fun c =>
    if 0x20 ≤ c.toNat && c.toNat < 0x7F && !escapes c then [c]
    else (String.utf8EncodeChar c).flatMap byteText

/-- The byte that two hexadecimal digits stand for. -/
def byte? (a b : Char) : Option UInt8 :=
  (Text.digits? 16 [a, b]).map UInt8.ofNat

/-- The bytes of a text, with each escape that `chosen` picks read as its byte. Anything else,
incomplete escapes too, stands for itself. -/
def decodeSome (chosen : UInt8 → Bool) : Text → Bytes
  | '%' :: a :: b :: t =>
    match (byte? a b).filter chosen with
    | some byte => byte :: decodeSome chosen t
    | none => String.utf8EncodeChar '%' ++ decodeSome chosen (a :: b :: t)
  | c :: t => String.utf8EncodeChar c ++ decodeSome chosen t
  | [] => []

def decode (t : Text) : Bytes :=
  decodeSome (fun _ => true) t

def inFragment (c : Char) : Bool :=
  c = ' ' || c = '"' || c = '<' || c = '>' || c = '\u0060'

def inPath (c : Char) : Bool :=
  inFragment c || c = '#' || c = '?' || c = '{' || c = '}'

def inUserInfo (c : Char) : Bool :=
  inPath c || "/:;=@[\\]^|".toList.contains c

def inQuery (c : Char) : Bool :=
  c = ' ' || c = '"' || c = '#' || c = '<' || c = '>'

def inSpecialQuery (c : Char) : Bool :=
  inQuery c || c = '\''

end EndpointProfile.Percent
