import EndpointProfile.Url.Domain.DirectionData

/-! The rule of writing direction for labels: in a domain with right-to-left characters, no label
may be shown in an order that hides its own. -/
namespace EndpointProfile.Domain

inductive Direction where
  | left
  | right
  | arabicDigit
  | europeanDigit
  | weak
  | mark
  | barred
  deriving DecidableEq

def direction (c : Char) : Direction :=
  if rightToLeft.has c then .right
  else if arabicDigits.has c then .arabicDigit
  else if europeanDigits.has c then .europeanDigit
  else if weakCharacters.has c then .weak
  else if nonspacingMarks.has c then .mark
  else if separatorsOfParagraphs.has c then .barred
  else .left

/-- Whether a character makes its domain one of two directions. -/
def turnsRight (c : Char) : Bool :=
  direction c = .right || direction c = .arabicDigit

/-- A label runs from left to right or from right to left as its first character does, ends in a
letter or digit of that direction, marks apart, and holds nothing of the other. -/
def keepsDirection (label : Text) : Bool :=
  match label.map direction with
  | [] => true
  | first :: rest =>
    let body := first :: (rest.reverse.dropWhile (· = .mark)).reverse
    let last := body.getLast?.getD first
    match first with
    | .left =>
      (last = .left || last = .europeanDigit) &&
        body.all fun d => d = .left || d = .europeanDigit || d = .weak || d = .mark
    | .right =>
      (last = .right || last = .europeanDigit || last = .arabicDigit) &&
        body.all (fun d => d ≠ .left && d ≠ .barred) &&
        !(body.contains .europeanDigit && body.contains .arabicDigit)
    | _ => false

end EndpointProfile.Domain
