import EndpointProfile.Text.Alphanumeric
import EndpointProfile.Text.Blank

/-! Files of variable assignments. Each line is `NAME=value`; loading adds the variables that the
environment does not have yet, up to the first line that cannot be read. -/
namespace EndpointProfile

abbrev Environment := List (Text × Text)

namespace Dotenv

/-- Where the reading of a value is. `weak` says that it is between double quotes. -/
inductive ValueState where
  | plain
  | weak
  | strong
  | escape (weak : Bool)
  | name (weak : Bool) (name : Text)
  | braced (weak : Bool) (name : Text)
  | ended

def back (weak : Bool) : ValueState :=
  if weak then .weak else .plain

def escaped? (c : Char) : Option Char :=
  if c = 'n' then some '\n'
  else if "\\'\"$ ".toList.contains c then some c
  else none

/-- The value of a variable; one that is not there is empty. -/
def valueOf (env : Environment) (name : Text) : Text :=
  (env.lookup name).getD []

/-- Reads a value. A dollar sign names a variable, and a blank outside quotes ends the value. -/
def readValue (env : Environment) : ValueState → Text → Option Text
  | .plain, [] | .ended, [] => some []
  | .escape weak, [] => if weak then none else some []
  | .name weak name, [] => if weak then none else some (valueOf env name)
  | .weak, [] | .strong, [] | .braced .., [] => none
  | .ended, c :: t =>
    if c = ' ' ∨ c = '\t' then readValue env .ended t else if c = '#' then some [] else none
  | .escape weak, c :: t =>
    (escaped? c).bind fun d => (readValue env (back weak) t).map (d :: ·)
  | .strong, c :: t =>
    if c = '\'' then readValue env .plain t else (readValue env .strong t).map (c :: ·)
  | .name weak name, c :: t =>
    if isAlphanumeric c then readValue env (.name weak (name ++ [c])) t
    else if c = '\x7b' ∧ name.isEmpty then readValue env (.braced weak []) t
    else if c = '$' then (readValue env (.name weak []) t).map (valueOf env name ++ ·)
    else (readValue env (back weak) t).map (valueOf env name ++ c :: ·)
  | .braced weak name, c :: t =>
    if c = '\x7d' then (readValue env (back weak) t).map (valueOf env name ++ ·)
    else readValue env (.braced weak (name ++ [c])) t
  | .weak, c :: t =>
    if c = '$' then readValue env (.name true []) t
    else if c = '"' then readValue env .plain t
    else if c = '\\' then readValue env (.escape true) t
    else (readValue env .weak t).map (c :: ·)
  | .plain, c :: t =>
    if c = '$' then readValue env (.name false []) t
    else if c = '\'' then readValue env .strong t
    else if c = '"' then readValue env .weak t
    else if c = '\\' then readValue env (.escape false) t
    else if c = ' ' ∨ c = '\t' then readValue env .ended t
    else (readValue env .plain t).map (c :: ·)

private def isNameCharacter (c : Char) : Bool :=
  c.isAlphanum || c = '_' || c = '.'

/-- The name that starts a text, and what follows it and the blanks after it. -/
def readName (t : Text) : Option (Text × Text) :=
  match t with
  | [] => none
  | c :: _ =>
    if c.isAlpha ∨ c = '_' then
      let name := t.takeWhile isNameCharacter
      some (name, Text.trimStart (t.drop name.length))
    else none

/-- The name of an assignment and what follows its equals sign. The word `export` may come before
the name, unless it is the name itself. -/
def readTarget (t : Text) : Option (Text × Text) :=
  match readName t with
  | none => none
  | some (name, '=' :: rest) => some (name, rest)
  | some (name, rest) =>
    if name = "export" then
      match readName rest with
      | some (name, '=' :: rest) => some (name, rest)
      | _ => none
    else none

inductive Line where
  | nothing
  | assignment (name value : Text)
  | unreadable
  deriving DecidableEq, Repr

def isNothing (t : Text) : Bool :=
  t.isEmpty || t.head? = some '#'

def readLine (env : Environment) (line : Text) : Line :=
  let t := Text.trim line
  if isNothing t then .nothing
  else
    match readTarget t with
    | none => .unreadable
    | some (name, rest) =>
      let rest := Text.trimStart rest
      if isNothing rest then .assignment name []
      else
        match readValue env .plain rest with
        | some v => .assignment name v
        | none => .unreadable

/-- Adds a variable, unless there is one of that name. -/
def define (env : Environment) (name value : Text) : Environment :=
  if (env.lookup name).isSome then env else env ++ [(name, value)]

def loadLines (env : Environment) : List Text → Environment
  | [] => env
  | line :: lines =>
    match readLine env line with
    | .nothing => loadLines env lines
    | .assignment name value => loadLines (define env name value) lines
    | .unreadable => env

def load (env : Environment) (file : Text) : Environment :=
  loadLines env file.lines

end Dotenv
end EndpointProfile
