import EndpointProfile.Json.Fault

/-! The smallest pieces of a JSON text: blanks, words, strings and numbers. -/
namespace EndpointProfile.Json

def isBlank (c : Char) : Bool :=
  c = ' ' || c = '\n' || c = '\t' || c = '\r'

def skipBlanks (t : Text) : Text :=
  t.dropWhile isBlank

def readWord : (word t : Text) → Except Stop Text
  | [], t => .ok t
  | _ :: _, [] => .error (.before .endInValue [])
  | w :: word, c :: t => if w = c then readWord word t else .error (.upon .noWord (c :: t))

/-- The four digits of an escape. -/
def hexValue? (digits : Text) : Option Nat :=
  if digits.length = 4 then Text.digits? 16 digits else none

def isLead (n : Nat) : Bool :=
  0xD800 ≤ n && n ≤ 0xDBFF

def isTrail (n : Nat) : Bool :=
  0xDC00 ≤ n && n ≤ 0xDFFF

/-- The character that stands after a backslash for another one. -/
def escaped? (c : Char) : Option Char :=
  match c with
  | '"' => some '"'
  | '\\' => some '\\'
  | '/' => some '/'
  | 'b' => some '\x08'
  | 'f' => some '\x0C'
  | 'n' => some '\n'
  | 'r' => some '\r'
  | 't' => some '\t'
  | _ => none

/-- Where a string is: in plain text, after a backslash, in the digits that begin at `start`, or
after the first half of a pair. -/
inductive StringState where
  | plain
  | escape
  | digits (start seen : Text) (lead : Option Nat)
  | pairBackslash (lead : Nat)
  | pairLetter (lead : Nat)

/-- Puts a character before what is read after it. -/
def push (c : Char) : Read Text → Read Text
  | .ok (t, rest) => .ok (c :: t, rest)
  | .error s => .error s

/-- The rest of a string up to its closing quote. -/
def readString : StringState → Text → Read Text
  | _, [] => .error (.before .endInString [])
  | .plain, c :: t =>
    if c = '"' then .ok ([], t)
    else if c = '\\' then readString .escape t
    else if c.toNat < 0x20 then .error (.before .control t)
    else push c (readString .plain t)
  | .escape, c :: t =>
    if c = 'u' then readString (.digits t [] none) t
    else
      match escaped? c with
      | some d => push d (readString .plain t)
      | none => .error (.upon .badEscape (c :: t))
  | .digits start seen lead, c :: t =>
    let seen := seen ++ [c]
    if Text.byteCount seen < 4 then readString (.digits start seen lead) t
    else
      match hexValue? seen, lead with
      | none, _ => .error ⟨.badEscape, start, 4, true⟩
      | some n, none =>
        if isTrail n then .error (.before .loneSurrogate t)
        else if isLead n then readString (.pairBackslash n) t
        else push (Char.ofNat n) (readString .plain t)
      | some n, some m =>
        if isTrail n then
          push (Char.ofNat (0x10000 + (m - 0xD800) * 0x400 + (n - 0xDC00))) (readString .plain t)
        else .error (.before .loneSurrogate t)
  | .pairBackslash lead, c :: t =>
    if c = '\\' then readString (.pairLetter lead) t else .error (.upon .endedEscape (c :: t))
  | .pairLetter lead, c :: t =>
    if c = 'u' then readString (.digits t [] (some lead)) t
    else .error (.upon .endedEscape (c :: t))

/-- Adds digits to a number while it stays within a limit. The digits that do not fit are left. -/
def absorb (limit n : Nat) : Text → Nat × Text
  | [] => (n, [])
  | d :: digits =>
    let m := 10 * n + (d.toNat - '0'.toNat)
    if limit < m then (n, d :: digits) else absorb limit m digits

def largestWord : Nat := UInt64.size - 1

/-- The number `significand * 10 ^ exponent`, computed by scaling with exact powers of ten. `none`
stands for a number too large. -/
def scale? : Nat → Float → Int → Option Float
  | fuel, x, e =>
    if e.natAbs ≤ 308 then
      let power := Float.ofScientific 1 false e.natAbs
      if 0 ≤ e then
        let y := x * power
        if y.isInf then none else some y
      else some (x / power)
    else if x == 0 then some x
    else if 0 ≤ e then none
    else
      match fuel with
      | 0 => some 0
      | fuel + 1 => scale? fuel (x / Float.ofScientific 1 false 308) (e + 308)

private def signed (negative : Bool) (x : Float) : Float :=
  if negative then -x else x

private def scaled (negative : Bool) (significand : Nat) (exponent : Int) (rest : Text) :
    Read Number :=
  match scale? 3 significand.toUInt64.toFloat exponent with
  | some x => .ok (.float (signed negative x), rest)
  | none => .error (.before .numberTooLarge rest)

/-- The rest of a number after the letter of its exponent. -/
private def readExponent (negative : Bool) (significand : Nat) (exponent : Int) (t : Text) :
    Read Number :=
  let (down, t) :=
    match t with
    | '+' :: t => (false, t)
    | '-' :: t => (true, t)
    | t => (false, t)
  let digits := t.takeWhile Char.isDigit
  let rest := t.drop digits.length
  if digits.isEmpty then
    match t with
    | [] => .error (.before .endInValue [])
    | _ => .error (.upon .badNumber t)
  else
    match absorb 0x7FFFFFFF 0 digits with
    | (e, []) => scaled negative significand (exponent + if down then -(Int.ofNat e) else e) rest
    | (_, excess) =>
      if significand ≠ 0 ∧ ¬down then .error (.before .numberTooLarge (excess.drop 1 ++ rest))
      else .ok (.float (signed negative 0), rest)

def startsExponent (t : Text) : Bool :=
  t.head? = some 'e' || t.head? = some 'E'

/-- The rest of a number after its point. -/
private def readFraction (negative : Bool) (significand : Nat) (exponent : Int) (t : Text) :
    Read Number :=
  let digits := t.takeWhile Char.isDigit
  let rest := t.drop digits.length
  if digits.isEmpty then
    match t with
    | [] => .error (.before .endInValue [])
    | _ => .error (.upon .badNumber t)
  else
    let (significand, excess) := absorb largestWord significand digits
    let exponent := exponent - Int.ofNat (digits.length - excess.length)
    if startsExponent rest then readExponent negative significand exponent (rest.drop 1)
    else scaled negative significand exponent rest

def wholeNumber (negative : Bool) (n : Nat) : Number :=
  if ¬negative then .integer n
  else if n = 0 ∨ 0x8000000000000000 < n then .float (-n.toUInt64.toFloat)
  else .integer (-(Int.ofNat n))

/-- A number after its sign. A whole number that fits a machine word stays exact. -/
def readNumber (negative : Bool) (t : Text) : Read Number :=
  let digits := t.takeWhile Char.isDigit
  let rest := t.drop digits.length
  match digits with
  | [] =>
    match t with
    | [] => .error (.before .endInValue [])
    | _ => .error (.upon .badNumber t)
  | '0' :: d :: more => .error (.upon .badNumber (d :: more ++ rest))
  | digits =>
    let (significand, excess) := absorb largestWord 0 digits
    let exponent := Int.ofNat excess.length
    match rest with
    | '.' :: t => readFraction negative significand exponent t
    | _ =>
      if startsExponent rest then readExponent negative significand exponent (rest.drop 1)
      else if excess.isEmpty then .ok (wholeNumber negative significand, rest)
      else scaled negative significand exponent rest

end EndpointProfile.Json
