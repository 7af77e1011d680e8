import EndpointProfile.Text.Escaped

/-! Quoted literals: the double-quoted texts that a build pastes into code as one string token. -/
namespace EndpointProfile

namespace Literal

/-- What keeps a text from being a quoted literal. -/
inductive Flaw where
  | unwrapped
  | innerQuote
  | lineBreak
  | escapedEnd
  deriving DecidableEq, Repr

/-- The first flaw of the text inside the quotes. `escaped` says that a backslash came right
before it. -/
def flawAfter (escaped : Bool) : Text → Option Flaw
  | [] => if escaped then some .escapedEnd else none
  | c :: t =>
    if c = '\\' ∧ ¬escaped then flawAfter true t
    else if c = '"' ∧ ¬escaped then some .innerQuote
    else if c = '\n' ∨ c = '\r' then some .lineBreak
    else flawAfter false t

/-- The text between an opening and a closing double quote. -/
def unwrap? : Text → Option Text
  | '"' :: t => Text.dropEnd? ['"'] t
  | _ => none

end Literal

/-- A quoted literal, kept as the text between its quotes. -/
structure Literal where
  unquoted : Text
  flawless : Literal.flawAfter false unquoted = none
  deriving DecidableEq

namespace Literal

/-- The literal with its quotes. -/
def raw (l : Literal) : Text :=
  '"' :: l.unquoted ++ ['"']

structure Fault where
  raw : Text
  flaw : Flaw
  deriving DecidableEq, Repr

def Fault.message (e : Fault) : Text :=
  match e.flaw with
  | .unwrapped => e.raw ++ ": must be wrapped in double quotes"
  | .innerQuote => e.raw ++ ": unescaped quote inside literal"
  | .lineBreak => e.raw.escaped ++ ": line break inside literal"
  | .escapedEnd => e.raw ++ ": closing quote is escaped"

/-- Reads a literal, quotes included. -/
def parse (raw : Text) : Except Fault Literal :=
  match unwrap? raw with
  | none => .error ⟨raw, .unwrapped⟩
  | some inner =>
    match h : flawAfter false inner with
    | some flaw => .error ⟨raw, flaw⟩
    | none => .ok ⟨inner, h⟩

def quote (text : Text) : Except Fault Literal :=
  parse ('"' :: text ++ ['"'])

end Literal
end EndpointProfile
