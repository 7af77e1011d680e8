import EndpointProfile.Text.Basic

/-! Addresses of the Internet Protocol and their canonical text. -/
namespace EndpointProfile

inductive IpAddress where
  | v4 (octets : Vector UInt8 4)
  | v6 (groups : Vector UInt16 8)
  deriving DecidableEq

namespace IpAddress

def vector? {α : Type} (n : Nat) (l : List α) : Option (Vector α n) :=
  if h : l.length = n then some ⟨l.toArray, by simpa using h⟩ else none

def ofOctets? (octets : List UInt8) : Option IpAddress :=
  (vector? 4 octets).map .v4

def ofGroups? (groups : List UInt16) : Option IpAddress :=
  (vector? 8 groups).map .v6

def octetsText (octets : List UInt8) : Text :=
  Text.join ['.'] (octets.map fun o => Text.ofNat o.toNat)

def hexText (groups : List UInt16) : Text :=
  Text.join [':'] (groups.map fun g => Nat.toDigits 16 g.toNat)

/-- The run of zeros that starts a list of groups. -/
def zerosAt (groups : List UInt16) : Nat :=
  (groups.takeWhile (· = 0)).length

/-- The start and the length of the first longest run of zeros. -/
def longestZeros (groups : List UInt16) : Nat × Nat :=
  (List.range groups.length).foldl
    (fun best i =>
      let n := zerosAt (groups.drop i)
      if best.2 < n then (i, n) else best)
    (0, 0)

/-- Groups in hexadecimal, with the first longest run of two or more zeros left out. -/
def groupsText (groups : List UInt16) : Text :=
  let (start, count) := longestZeros groups
  if count < 2 then hexText groups
  else hexText (groups.take start) ++ "::" ++ hexText (groups.drop (start + count))

/-- The address within an address of the other kind that stands for it. -/
def mapped? : List UInt16 → Option (List UInt8)
  | [0, 0, 0, 0, 0, 0xFFFF, a, b] =>
    some [(a >>> 8).toUInt8, a.toUInt8, (b >>> 8).toUInt8, b.toUInt8]
  | _ => none

def text : IpAddress → Text
  | v4 octets => octetsText octets.toList
  | v6 groups =>
    match mapped? groups.toList with
    | some octets => "::ffff:" ++ octetsText octets
    | none => groupsText groups.toList

/-- A number of one to three decimal digits, below 256 and without a needless zero. -/
def octet? (t : Text) : Option UInt8 :=
  if t.length = 0 ∨ 3 < t.length ∨ (1 < t.length ∧ t.head? = some '0') then none
  else (Text.digits? 10 t).bind fun n => if n < 256 then some (UInt8.ofNat n) else none

def octets? (t : Text) : Option (List UInt8) :=
  match (t.splitOn '.').mapM octet? with
  | some [a, b, c, d] => some [a, b, c, d]
  | _ => none

def group? (t : Text) : Option UInt16 :=
  if t.length = 0 ∨ 4 < t.length then none
  else (Text.digits? 16 t).map UInt16.ofNat

/-- Two groups that four octets fill. -/
def pairs (octets : List UInt8) : List UInt16 :=
  match octets with
  | [a, b, c, d] => [a.toUInt16 * 256 + b.toUInt16, c.toUInt16 * 256 + d.toUInt16]
  | _ => []

/-- Groups between colons. Where `mixed` allows it, the last two may be written as four octets. -/
def groups? (mixed : Bool) (t : Text) : Option (List UInt16) :=
  if t.isEmpty then some []
  else
    let pieces := t.splitOn ':'
    let last := pieces.getLast?.getD []
    match if mixed then octets? last else none with
    | some octets => (pieces.dropLast.mapM group?).map (· ++ pairs octets)
    | none => pieces.mapM group?

/-- Cuts at the first pair of colons. -/
def cutAtGap? : Text → Option (Text × Text)
  | ':' :: ':' :: t => some ([], t)
  | c :: t => (cutAtGap? t).map fun (a, b) => (c :: a, b)
  | [] => none

def v6? (t : Text) : Option IpAddress :=
  match cutAtGap? t with
  | none => if t.isEmpty then none else (groups? true t).bind ofGroups?
  | some (before, after) =>
    (groups? false before).bind fun head =>
      (groups? true after).bind fun tail =>
        if head.length + tail.length ≤ 7 then
          ofGroups? (head ++ List.replicate (8 - head.length - tail.length) 0 ++ tail)
        else none

def ofText? (t : Text) : Option IpAddress :=
  match octets? t with
  | some octets => ofOctets? octets
  | none => v6? t

end IpAddress
end EndpointProfile
