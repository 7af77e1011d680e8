import EndpointProfile.Text.Basic

/-! White space: the 25 code points of the Unicode property, and trimming by it. -/
namespace EndpointProfile

def isBlank (c : Char) : Bool :=
  let n := c.toNat
  (0x09 ≤ n && n ≤ 0x0D) || n = 0x20 || n = 0x85 || n = 0xA0 || n = 0x1680 ||
    (0x2000 ≤ n && n ≤ 0x200A) || n = 0x2028 || n = 0x2029 || n = 0x202F || n = 0x205F || n = 0x3000

namespace Text

def trimStart (t : Text) : Text := t.dropWhile isBlank

def trimEnd (t : Text) : Text := t.dropEndWhile isBlank

def trim (t : Text) : Text := t.strip isBlank

def compact (t : Text) : Text := t.filter fun c => !isBlank c

/-- ASCII letters in lower case, all else as it is. -/
def lowerAscii (t : Text) : Text := t.map Char.toLower

end Text
end EndpointProfile
