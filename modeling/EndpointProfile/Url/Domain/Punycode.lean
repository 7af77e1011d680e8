import EndpointProfile.Text.Basic

/-! Labels written in ASCII: the basic characters first, then where the others go, as numbers with
digits of changing weight. -/
namespace EndpointProfile.Punycode

private def digitChar (d : Nat) : Char :=
  if d < 26 then Char.ofNat ('a'.toNat + d) else Char.ofNat ('0'.toNat + (d - 26))

def digit? (c : Char) : Option Nat :=
  if 'a' ≤ c ∧ c ≤ 'z' then some (c.toNat - 'a'.toNat)
  else if 'A' ≤ c ∧ c ≤ 'Z' then some (c.toNat - 'A'.toNat)
  else if '0' ≤ c ∧ c ≤ '9' then some (c.toNat - '0'.toNat + 26)
  else none

/-- A digit below the threshold of its place ends a number. -/
def threshold (place bias : Nat) : Nat :=
  if place ≤ bias then 1 else if bias + 26 ≤ place then 26 else place - bias

theorem threshold_pos (place bias : Nat) : 1 ≤ threshold place bias := by
  unfold threshold
  split
  · omega
  · split <;> omega

theorem threshold_le (place bias : Nat) : threshold place bias ≤ 26 := by
  unfold threshold
  split
  · omega
  · split <;> omega

private def settle (delta place : Nat) : Nat × Nat :=
  if 455 < delta then settle (delta / 35) (place + 36) else (delta, place)
termination_by delta

/-- The bias for the next number, from the last one and how many characters there are now. -/
def adapt (delta count : Nat) (firstTime : Bool) : Nat :=
  let d := if firstTime then delta / 700 else delta / 2
  let (d, place) := settle (d + d / count) 0
  place + 36 * d / (d + 38)

/-- A number in digits, the one of least weight first. -/
def writeNumber (bias place n : Nat) : Text :=
  let t := threshold place bias
  if n < t then [digitChar n]
  else digitChar (t + (n - t) % (36 - t)) :: writeNumber bias (place + 36) ((n - t) / (36 - t))
termination_by n
decreasing_by
  have h₁ := threshold_pos place bias
  have h₂ := threshold_le place bias
  have h₃ := Nat.div_le_self (n - threshold place bias) (36 - threshold place bias)
  omega

/-- What has been written, and the numbers that the next one depends on. -/
private structure Writer where
  written : Text
  delta : Nat
  bias : Nat
  done : Nat

private def Writer.see (basics point : Nat) (w : Writer) (c : Char) : Writer :=
  if c.toNat < point then { w with delta := w.delta + 1 }
  else if c.toNat = point then
    { written := w.written ++ writeNumber w.bias 36 w.delta
      delta := 0
      bias := adapt w.delta (w.done + 1) (w.done = basics)
      done := w.done + 1 }
  else w

private def writePoints (t : Text) (basics : Nat) : Writer → Nat → List Nat → Text
  | w, _, [] => w.written
  | w, least, point :: points =>
    let w := { w with delta := w.delta + (point - least) * (w.done + 1) }
    let w := t.foldl (Writer.see basics point) w
    writePoints t basics { w with delta := w.delta + 1 } (point + 1) points

private def insertPoint (n : Nat) : List Nat → List Nat
  | [] => [n]
  | m :: r => if n < m then n :: m :: r else if n = m then m :: r else m :: insertPoint n r

def encode (t : Text) : Text :=
  let basic := t.filter fun c => c.toNat < 0x80
  let points := (t.filter fun c => 0x80 ≤ c.toNat).foldr (fun c r => insertPoint c.toNat r) []
  let start : Text := if basic.isEmpty then [] else basic ++ ['-']
  writePoints t basic.length ⟨start, 0, 72, basic.length⟩ 0x80 points

/-- What has been read, the last code point, and the number that is being read: where the one
before it ended, its value so far, and the weight and place of its next digit. -/
structure Reader where
  text : Text
  point : Nat
  bias : Nat
  start : Nat
  value : Nat
  weight : Nat
  place : Nat

def Reader.fresh (text : Text) (point bias position : Nat) : Reader :=
  ⟨text, point, bias, position, position, 1, 36⟩

/-- Puts in the character that a finished number stands for. -/
def Reader.finish? (r : Reader) (value : Nat) : Option Reader :=
  let count := r.text.length + 1
  let point := r.point + value / count
  let position := value % count
  if h : point.isValidChar then
    let text := r.text.take position ++ Char.ofNatAux point h :: r.text.drop position
    some (.fresh text point (adapt (value - r.start) count (r.start = 0)) (position + 1))
  else none

def readNumbers : Reader → Text → Option Text
  | r, [] => if r.place = 36 then some r.text else none
  | r, c :: t =>
    match digit? c with
    | none => none
    | some d =>
      let value := r.value + d * r.weight
      let least := threshold r.place r.bias
      if d < least then (r.finish? value).bind fun r => readNumbers r t
      else readNumbers { r with value, weight := r.weight * (36 - least), place := r.place + 36 } t

/-- Reads a label back. The basic characters end at the last hyphen, unless it comes first. -/
def decode? (t : Text) : Option Text :=
  let tail := (t.reverse.takeWhile (· ≠ '-')).reverse
  let head := t.take (t.length - tail.length - 1)
  if tail.length = t.length then readNumbers (.fresh [] 0x80 72 0) t
  else if head.isEmpty then none
  else readNumbers (.fresh head 0x80 72 0) tail

end EndpointProfile.Punycode
