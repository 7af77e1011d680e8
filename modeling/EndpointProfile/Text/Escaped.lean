import EndpointProfile.Text.Unprintable

/-! Texts made visible for messages: quotes, backslashes and everything unprintable is escaped. -/
namespace EndpointProfile.Text

private def codePoint (c : Char) : Text :=
  "\\u\x7b" ++ Nat.toDigits 16 c.toNat ++ "\x7d"

/-- A character as a message shows it. One that joins its predecessor is escaped only where
`joiners` says so. -/
def escapeChar (joiners : Bool) (c : Char) : Text :=
  if c = '\x00' then "\\0"
  else if c = '\t' then "\\t"
  else if c = '\r' then "\\r"
  else if c = '\n' then "\\n"
  else if c = '\\' || c = '"' then ['\\', c]
  else if 0x20 ≤ c.toNat && c.toNat < 0x7F then [c]
  else if joiners && graphemeExtenders.has c then codePoint c
  else if unprintable.has c then codePoint c
  else [c]

private def escapeApostrophe (joiners : Bool) (c : Char) : Text :=
  if c = '\'' then "\\'" else escapeChar joiners c

/-- The text between double quotes, with no character that could be mistaken. -/
def quoted (t : Text) : Text :=
  "\"" ++ t.flatMap (escapeChar true) ++ "\""

/-- The text without quotes around it. Apostrophes are escaped too, and a joining character only
where it has nothing to join. -/
def escaped : Text → Text
  | [] => []
  | c :: t => escapeApostrophe true c ++ t.flatMap (escapeApostrophe false)

end EndpointProfile.Text
