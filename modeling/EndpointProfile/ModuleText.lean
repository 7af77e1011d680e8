import EndpointProfile.Profile.Basic

/-! The module that a bundler loads: one quoted entry a line between an opening and a closing
line. Blank lines and comment lines do not count. -/
namespace EndpointProfile.ModuleText

/-- Writes a text so that it can stand between single quotes. -/
def escape (t : Text) : Text :=
  t.flatMap fun c => if c = '\\' ∨ c = '\'' then ['\\', c] else [c]

/-- Reads what stands between single quotes. -/
def unescape? : Text → Option Text
  | [] => some []
  | '\\' :: c :: t =>
    if c = '\\' ∨ c = '\'' ∨ c = '"' then (unescape? t).map (c :: ·) else none
  | c :: t => if c = '\\' ∨ c = '\'' then none else (unescape? t).map (c :: ·)

def useStrict : Text := "'use strict'"

def opening : Text := "module.exports = \x7b"

def closing : Text := "\x7d"

/-- An entry line without its comma. -/
def entryText (k : Key) (l : Literal) : Text :=
  "  " ++ k.name ++ ": '" ++ escape l.raw ++ "'"

def render (p : Profile) : Text :=
  useStrict ++ "\n" ++ opening ++ "\n" ++
    Text.join ",\n" (p.entries.map fun (k, l) => entryText k l) ++ "\n" ++ closing ++ "\n"

/-- A line that counts, trimmed, with its number from 1 on. -/
structure Line where
  number : Nat
  text : Text
  deriving DecidableEq, Repr

def isComment (t : Text) : Bool :=
  (Text.dropStart? "//" t).isSome

/-- The trimmed lines of a text that are neither blank nor comments. -/
def significant (t : Text) : List Line :=
  (t.lines.zipIdx 1).filterMap fun (line, n) =>
    let s := Text.trim line
    if s.isEmpty || isComment s then none else some ⟨n, s⟩

def dropSemicolons (t : Text) : Text :=
  Text.dropEndWhile (· = ';') t

def isDirective (t : Text) : Bool :=
  let statement := dropSemicolons t
  statement = useStrict || statement = "\"use strict\""

def isOpening (t : Text) : Bool :=
  Text.compact t = Text.compact opening

def isClosing (t : Text) : Bool :=
  dropSemicolons t = closing

structure Entry where
  key : Key
  value : Literal
  comma : Bool

def singleQuoted? (t : Text) : Option Text :=
  (Text.dropStart? ['\''] t).bind (Text.dropEnd? ['\''])

/-- Takes the comma off the end of an entry, with the blanks before it. -/
def cutComma (t : Text) : Text × Bool :=
  match Text.dropEnd? [','] t with
  | some r => (Text.trimEnd r, true)
  | none => (t, false)

def entry (line : Line) : Except Fault Entry :=
  match Text.cutAt? ':' line.text with
  | none => .error (.malformed line.number .noEntry)
  | some (name, rest) =>
    match Key.ofName? (Text.trim name) with
    | none => .error (.unknownKey (Text.trim name))
    | some key =>
      let (rest, comma) := cutComma (Text.trim rest)
      match singleQuoted? rest with
      | none => .error (.malformed line.number .notQuoted)
      | some body =>
        match unescape? body with
        | none => .error (.malformed line.number .badEscape)
        | some raw =>
          match Literal.parse raw with
          | .ok value => .ok ⟨key, value, comma⟩
          | .error f => .error (.badValue key (.violation (.badLiteral f)))

/-- What comes after the closing line: nothing. -/
def readEnd (entries : List (Key × Literal)) : List Line → Except Fault (List (Key × Literal))
  | [] => .ok entries.reverse
  | line :: _ => .error (.malformed line.number .afterClosing)

/-- The entries up to the closing line, after those that were read, given backwards. `bare` is the
number of the line before, if it has no comma. -/
def readEntries (last : Nat) (entries : List (Key × Literal)) (bare : Option Nat) :
    List Line → Except Fault (List (Key × Literal))
  | [] => .error (.malformed last .missingClosing)
  | line :: lines =>
    if isClosing line.text then readEnd entries lines
    else
      match bare with
      | some n => .error (.malformed n .missingComma)
      | none =>
        match entry line with
        | .error f => .error f
        | .ok e =>
          if (entries.lookup e.key).isSome then .error (.duplicateKey e.key line.number)
          else
            readEntries last ((e.key, e.value) :: entries)
              (if e.comma then none else some line.number) lines

/-- The entries of a module, whose last line has the number `last`. -/
def readLines (last : Nat) : List Line → Except Fault (List (Key × Literal))
  | [] => .error (.malformed last .missingOpening)
  | line :: lines =>
    if isDirective line.text then readLines last lines
    else if isOpening line.text then readEntries last [] none lines
    else .error (.malformed line.number .noOpening)

/-- The entries of a module in the order of its lines. -/
def scan (t : Text) : Except Fault (List (Key × Literal)) :=
  readLines (max 1 t.lines.length) (significant t)

/-- Reads a module whose values fit their keys. -/
def parse (t : Text) : Except Fault Profile :=
  match scan t with
  | .error f => .error f
  | .ok entries =>
    match Profile.ofEntries entries with
    | .error f => .error f
    | .ok p => p.validated

/-- The keys whose values in a module differ from those of a profile. -/
def check (t : Text) (expected : Profile) : Except Fault (List Key) :=
  (parse t).map fun p => p.differences expected

end EndpointProfile.ModuleText
