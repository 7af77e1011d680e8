import EndpointProfile.Text.Blank
import EndpointProfile.Url.Domain.Direction
import EndpointProfile.Url.Domain.Joining
import EndpointProfile.Url.Domain.MappingData
import EndpointProfile.Url.Domain.Punycode

/-! Domain names in ASCII. A name in plain ASCII is lower-cased; any other is folded, composed,
checked label by label, and each label that is not ASCII is written in Punycode. -/
namespace EndpointProfile.Domain

/-- ASCII characters that no domain name may hold. -/
def isForbidden (c : Char) : Bool :=
  c.toNat ≤ 0x20 || c = '\x7F' || "%#/:<>?@[\\]^|".toList.contains c

def isAscii (t : Text) : Bool :=
  t.all fun c => c.toNat < 0x80

/-- What a domain name makes of a character, unless it refuses it. -/
def fold? (c : Char) : Option Text :=
  if c.toNat < 0x80 then some [c.toLower]
  else if droppedCharacters.has c then some []
  else if refusedCharacters.has c then none
  else
    match Shift.image? foldedShifts c with
    | some d => some [d]
    | none => some ((foldedExpansions.image? c).getD [c])

def fold (t : Text) : Option Text :=
  (t.mapM fold?).map fun parts => Text.composed parts.flatten

def punycodeMark : Text := "xn--"

/-- What a label that is not ASCII has to keep to, in its Unicode form. -/
def labelFits (label : Text) : Bool :=
  !(label.any isForbidden || label.contains '.') &&
    (match label with
      | [] => true
      | c :: _ => !combiningMarks.has c) &&
    joinersFit [] label

/-- A label in both forms. -/
structure Label where
  ascii : Text
  unicode : Text

/-- The label that a folded text is. One that says it is Punycode has to be the Punycode of a text
that is not ASCII and that folding leaves alone. -/
def label? (t : Text) : Option Label :=
  if isAscii t then
    match Text.dropStart? punycodeMark t with
    | none => if t.any isForbidden then none else some ⟨t, t⟩
    | some code =>
      if code.length > 2000 then none
      else
        match Punycode.decode? code with
        | some u =>
          if !isAscii u && fold u = some u && labelFits u then some ⟨t, u⟩ else none
        | none => none
  else if labelFits t && (Text.dropStart? punycodeMark t).isNone && t.length ≤ 1000 then
    some ⟨punycodeMark ++ Punycode.encode t, t⟩
  else none

/-- Whether a name needs no more than lower-casing. -/
def isPlain (name : Text) : Bool :=
  isAscii name && (name.splitOn '.').all fun l => (Text.dropStart? punycodeMark (Text.lowerAscii l)).isNone

def toAscii? (name : Text) : Option Text :=
  if isPlain name then
    if name.any isForbidden then none else some (Text.lowerAscii name)
  else
    (fold name).bind fun folded =>
      ((folded.splitOn '.').mapM label?).bind fun labels =>
        if labels.any (·.unicode.any turnsRight) && !labels.all (keepsDirection ·.unicode) then none
        else some (Text.join ['.'] (labels.map (·.ascii)))

end EndpointProfile.Domain
