import EndpointProfile.Text.Composed
import EndpointProfile.Url.Domain.JoiningData

/-! Where the invisible joiners may stand in a label. -/
namespace EndpointProfile.Domain

def nonJoiner : Char := '\u200C'

def joiner : Char := '\u200D'

/-- Whether the first character that is not transparent belongs to `letters`. -/
private def reaches (letters : Ranges) (t : Text) : Bool :=
  match t.dropWhile transparentJoiners.has with
  | [] => false
  | c :: _ => letters.has c

/-- A joiner follows a virama; a non-joiner may instead part two letters that would join. `before`
is given backwards. -/
def joinersFit (before : Text) : Text → Bool
  | [] => true
  | c :: t =>
    let afterVirama :=
      match before with
      | [] => false
      | b :: _ => Text.combiningClass b = 9
    let fits :=
      if c = joiner then afterVirama
      else if c = nonJoiner then
        afterVirama || (reaches joiningBefore before && reaches joiningAfter t)
      else true
    fits && joinersFit (c :: before) t

end EndpointProfile.Domain
