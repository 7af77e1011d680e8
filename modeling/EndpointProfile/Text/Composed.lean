import EndpointProfile.Text.CompositionData

/-! The composed normal form of a text: marks in canonical order, and every pair that makes one
character made into it. -/
namespace EndpointProfile.Text

/-- The order of a combining character among its neighbours; others have class 0. -/
def combiningClass (c : Char) : Nat :=
  if c.toNat < 0x300 then 0
  else
    (combiningClasses.findSome? fun
      | [a, b, k] => if a ≤ c.toNat ∧ c.toNat ≤ b then some k else none
      | _ => none).getD 0

/-- A Hangul syllable is its place in the table of leading, middle and trailing letters. -/
private def syllable (n : Nat) : Text :=
  let i := n - 0xAC00
  let trailing := i % 28
  [Char.ofNat (0x1100 + i / 588), Char.ofNat (0x1161 + i % 588 / 28)] ++
    if trailing = 0 then [] else [Char.ofNat (0x11A7 + trailing)]

/-- What a character is made of, as far as it can be taken apart. -/
def decomposeChar (c : Char) : Text :=
  if c.toNat < 0xC0 then [c]
  else if 0xAC00 ≤ c.toNat ∧ c.toNat ≤ 0xD7A3 then syllable c.toNat
  else
    match Shift.image? singletonDecompositions c with
    | some d => [d]
    | none => (decompositions.image? c).getD [c]

/-- Puts a mark after the last character, given backwards, that it may follow. -/
def place (c : Char) : Text → Text
  | [] => [c]
  | d :: before =>
    if 0 < combiningClass c ∧ combiningClass c < combiningClass d then d :: place c before
    else c :: d :: before

def canonicalOrder (t : Text) : Text :=
  (t.foldl (fun before c => place c before) []).reverse

/-- The one character that two make. -/
def pair? (a b : Char) : Option Char :=
  let m := a.toNat
  let n := b.toNat
  if n < 0x300 then none
  else if 0x1100 ≤ m ∧ m ≤ 0x1112 ∧ 0x1161 ≤ n ∧ n ≤ 0x1175 then
    some (Char.ofNat (0xAC00 + (m - 0x1100) * 588 + (n - 0x1161) * 28))
  else if 0xAC00 ≤ m ∧ m ≤ 0xD7A3 ∧ (m - 0xAC00) % 28 = 0 ∧ 0x11A8 ≤ n ∧ n ≤ 0x11C2 then
    some (Char.ofNat (m + (n - 0x11A7)))
  else
    compositions.findSome? fun
      | [x, y, z] => if x = m ∧ y = n then some (Char.ofNat z) else none
      | _ => none

/-- Composes what follows a character. `marks` are those that stayed apart from it, backwards. -/
def composeAfter (start : Char) (marks : Text) : Text → Text
  | [] => start :: marks.reverse
  | c :: t =>
    let reachable :=
      match marks with
      | [] => true
      | m :: _ => combiningClass m < combiningClass c
    match if reachable then pair? start c else none with
    | some made => composeAfter made marks t
    | none =>
      if combiningClass c = 0 then start :: marks.reverse ++ composeAfter c [] t
      else composeAfter start (c :: marks) t

def composed (t : Text) : Text :=
  match canonicalOrder (t.flatMap decomposeChar) with
  | [] => []
  | c :: rest => composeAfter c [] rest

end EndpointProfile.Text
