import EndpointProfile.Decimal.Shortest

/-! JSON values and their text. -/
namespace EndpointProfile.Json

inductive Number where
  | integer (n : Int)
  | float (x : Float)

inductive Value where
  | null
  | bool (b : Bool)
  | number (n : Number)
  | string (t : Text)
  | array (items : List Value)
  | object (members : List (Text × Value))

/-- A finite number always shows that it is no integer: by a point, or by an exponent when its
first digit is far from the point. -/
def floatText (x : Float) : Text :=
  let d := Decimal.shortest x
  let e := d.scientificExponent
  (if Decimal.isNegative x then ['-'] else []) ++
    if -5 ≤ e ∧ e ≤ 15 then
      if 0 ≤ d.exponent then d.positional ++ ".0" else d.positional
    else
      let mantissa := Decimal.positional ⟨d.digits, d.exponent - e⟩
      mantissa ++ (if 0 ≤ e then ['e', '+'] else ['e', '-']) ++ Text.ofNat e.natAbs

def Number.text : Number → Text
  | integer n => Text.ofInt n
  | float x => floatText x

/-- Quotes, backslashes and controls are escaped, and nothing else. -/
def escapeChar (c : Char) : Text :=
  if c = '"' then "\\\""
  else if c = '\\' then "\\\\"
  else if c = '\x08' then "\\b"
  else if c = '\x0C' then "\\f"
  else if c = '\n' then "\\n"
  else if c = '\r' then "\\r"
  else if c = '\t' then "\\t"
  else if c.toNat < 0x20 then
    "\\u00" ++ [Nat.digitChar (c.toNat / 16), Nat.digitChar (c.toNat % 16)]
  else [c]

def quote (t : Text) : Text :=
  "\"" ++ t.flatMap escapeChar ++ "\""

mutual

def Value.compact : Value → Text
  | .null => "null"
  | .bool b => if b then "true" else "false"
  | .number n => n.text
  | .string t => quote t
  | .array items => "[" ++ compactItems items ++ "]"
  | .object members => "\x7b" ++ compactMembers members ++ "\x7d"

def compactItems : List Value → Text
  | [] => []
  | [v] => v.compact
  | v :: rest => v.compact ++ "," ++ compactItems rest

def compactMembers : List (Text × Value) → Text
  | [] => []
  | [(k, v)] => quote k ++ ":" ++ v.compact
  | (k, v) :: rest => quote k ++ ":" ++ v.compact ++ "," ++ compactMembers rest

end

def indent (depth : Nat) : Text :=
  List.replicate (2 * depth) ' '

mutual

/-- A value with one item or member a line, `depth` levels in. -/
def Value.prettyAt (depth : Nat) : Value → Text
  | .array [] => "[]"
  | .array items => "[\n" ++ prettyItems (depth + 1) items ++ "\n" ++ indent depth ++ "]"
  | .object [] => "\x7b\x7d"
  | .object members =>
    "\x7b\n" ++ prettyMembers (depth + 1) members ++ "\n" ++ indent depth ++ "\x7d"
  | v => v.compact

def prettyItems (depth : Nat) : List Value → Text
  | [] => []
  | [v] => indent depth ++ v.prettyAt depth
  | v :: rest => indent depth ++ v.prettyAt depth ++ ",\n" ++ prettyItems depth rest

def prettyMembers (depth : Nat) : List (Text × Value) → Text
  | [] => []
  | [(k, v)] => indent depth ++ quote k ++ ": " ++ v.prettyAt depth
  | (k, v) :: rest =>
    indent depth ++ quote k ++ ": " ++ v.prettyAt depth ++ ",\n" ++ prettyMembers depth rest

end

def Value.pretty (v : Value) : Text :=
  v.prettyAt 0

end EndpointProfile.Json
