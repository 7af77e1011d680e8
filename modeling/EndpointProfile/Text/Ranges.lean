import EndpointProfile.Text.Basic

/-! Sets and maps of code points, written as rows of hexadecimal numbers. An entry is a few numbers
with commas between them, and entries are set apart by spaces. -/
namespace EndpointProfile

private def entry? (item : Text) : Option (List Nat) :=
  (item.splitOn ',').mapM (Text.digits? 16)

/-- The entries of all rows, in order. -/
def tableEntries (rows : List String) : List (List Nat) :=
  rows.flatMap fun row => (row.toList.splitOn ' ').filterMap entry?

/-- A set of code points as ranges from the first to the last. -/
abbrev Ranges := List (Nat × Nat)

namespace Ranges

/-- An entry is one code point, or the two ends of a range. -/
def ofRows (rows : List String) : Ranges :=
  (tableEntries rows).filterMap fun
    | [a] => some (a, a)
    | [a, b] => some (a, b)
    | _ => none

def has (r : Ranges) (c : Char) : Bool :=
  let n := c.toNat
  r.any fun (a, b) => a ≤ n && n ≤ b

end Ranges

/-- The code points `first`, `first + step`, … up to `last`. The first goes to `target`, and each
other keeps its distance from it. -/
structure Shift where
  first : Nat
  last : Nat
  step : Nat
  target : Nat

namespace Shift

def ofRows (rows : List String) : List Shift :=
  (tableEntries rows).filterMap fun
    | [first, target] => some ⟨first, first, 1, target⟩
    | [first, last, target] => some ⟨first, last, 1, target⟩
    | [first, last, step, target] => some ⟨first, last, step, target⟩
    | _ => none

def move? (s : Shift) (n : Nat) : Option Nat :=
  if s.first ≤ n ∧ n ≤ s.last ∧ (n - s.first) % s.step = 0 then some (s.target + (n - s.first))
  else none

/-- The image of a character under the first shift that moves it. -/
def image? (shifts : List Shift) (c : Char) : Option Char :=
  (shifts.findSome? fun s => s.move? c.toNat).map Char.ofNat

end Shift

/-- A map from single code points to texts. -/
abbrev Expansions := List (Nat × Text)

namespace Expansions

/-- An entry is a code point and the code points of its image. -/
def ofRows (rows : List String) : Expansions :=
  (tableEntries rows).filterMap fun
    | c :: image => some (c, image.map Char.ofNat)
    | [] => none

def image? (e : Expansions) (c : Char) : Option Text :=
  e.lookup c.toNat

end Expansions
end EndpointProfile
