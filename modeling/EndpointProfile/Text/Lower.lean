import EndpointProfile.Text.CaseData

/-! Full lower-casing. One letter becomes two, and the Greek sigma looks at its neighbours. -/
namespace EndpointProfile.Text

/-- The lower case of a character that does not depend on its neighbours. -/
def lowerChar (c : Char) : Text :=
  if c.toNat < 0x80 then [c.toLower]
  else if c = 'İ' then ['i', '\u0307']
  else [(Shift.image? lowerShifts c).getD c]

/-- Whether a cased letter comes next, past everything that case ignores. -/
def meetsCased : Text → Bool
  | [] => false
  | c :: t => if caseIgnorables.has c then meetsCased t else casedLetters.has c

/-- Sigma is final when a letter comes before it and none after it. -/
def lowerSigma (before after : Text) : Char :=
  if meetsCased before && !meetsCased after then 'ς' else 'σ'

/-- The lower case of a text that follows `before`, which is given backwards. -/
def lowerAfter (before : Text) : Text → Text
  | [] => []
  | c :: t =>
    (if c = 'Σ' then [lowerSigma before t] else lowerChar c) ++ lowerAfter (c :: before) t

def lower (t : Text) : Text :=
  lowerAfter [] t

end EndpointProfile.Text
