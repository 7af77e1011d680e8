/-! Text as a finite sequence of Unicode scalar values, and the cuts made in it. -/
namespace EndpointProfile

abbrev Text := List Char

instance : Coe String Text := ⟨String.toList⟩

namespace Text

/-- The number of UTF-8 bytes. -/
def byteCount : Text → Nat
  | [] => 0
  | c :: t => c.utf8Size + byteCount t

def dropEndWhile (p : Char → Bool) (t : Text) : Text :=
  (t.reverse.dropWhile p).reverse

/-- Removes the characters of a class from both ends. -/
def strip (p : Char → Bool) (t : Text) : Text :=
  dropEndWhile p (t.dropWhile p)

/-- Cuts at the first occurrence of a separator, which belongs to neither part. -/
def cutAt? (sep : Char) : Text → Option (Text × Text)
  | [] => none
  | c :: t => if c = sep then some ([], t) else (cutAt? sep t).map fun (a, b) => (c :: a, b)

def dropStart? : (start t : Text) → Option Text
  | [], t => some t
  | _ :: _, [] => none
  | s :: start, c :: t => if s = c then dropStart? start t else none

def dropEnd? (ending t : Text) : Option Text :=
  (dropStart? ending.reverse t.reverse).map List.reverse

/-- Whether `p` occurs in the text, as one piece. -/
def includes (p : Text) : Text → Bool
  | [] => p.isEmpty
  | c :: t => p.isPrefixOf (c :: t) || includes p t

/-- A carriage return right before a line feed belongs to the line ending. -/
def dropReturn (line : Text) : Text :=
  (dropEnd? ['\r'] line).getD line

/-- The lines of a text. A line feed ends a line, and what follows the last one is a line unless
it is empty. -/
def lines (t : Text) : List Text :=
  let pieces := t.splitOn '\n'
  let last := pieces.getLast?.getD []
  pieces.dropLast.map dropReturn ++ if last.isEmpty then [] else [last]

/-- Pieces with a separator between each two. -/
def join (sep : Text) (pieces : List Text) : Text :=
  sep.intercalate pieces

/-- The order of texts by code points. -/
def precedes : Text → Text → Bool
  | [], t => !t.isEmpty
  | _ :: _, [] => false
  | c :: s, d :: t => c < d || (c = d && precedes s t)

def ofNat (n : Nat) : Text :=
  Nat.toDigits 10 n

def ofInt : Int → Text
  | .ofNat n => ofNat n
  | .negSucc n => '-' :: ofNat (n + 1)

/-- The number written by digits of a base up to 16; anything else than its digits is refused. -/
def digits? (base : Nat) (t : Text) : Option Nat :=
  t.foldl (fun n c => n.bind fun n => (digit? c).map (base * n + ·)) (some 0)
where
  digit? (c : Char) : Option Nat :=
    let v :=
      if '0' ≤ c && c ≤ '9' then c.toNat - '0'.toNat
      else if 'a' ≤ c && c ≤ 'f' then c.toNat - 'a'.toNat + 10
      else if 'A' ≤ c && c ≤ 'F' then c.toNat - 'A'.toNat + 10
      else base
    if v < base then some v else none

end Text
end EndpointProfile
