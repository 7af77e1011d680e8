import EndpointProfile.Render

/-! The arguments of the command line. Each option takes one value, after an equals sign or as the
next argument, and may be given once. -/
namespace EndpointProfile.CommandLine

inductive Choice where
  | format
  | variant
  | check
  deriving DecidableEq, Repr

namespace Choice

def all : List Choice :=
  [.format, .variant, .check]

def name : Choice → Text
  | format => "format"
  | variant => "variant"
  | check => "check"

/-- An option with its value, as messages name it. -/
def shown : Choice → Text
  | format => "--format <FORMAT>"
  | variant => "--variant <VARIANT>"
  | check => "--check <FILE>"

end Choice

structure Options where
  format : Option Format
  variant : Option Text
  check : Option Text
  deriving DecidableEq, Repr

inductive ArgumentFault where
  | unexpected (argument : Text)
  | valueMissing (choice : Choice)
  | badValue (choice : Choice) (value : Text)
  | repeated (choice : Choice)
  | needlessValue (flag value : Text)
  deriving DecidableEq, Repr

def ArgumentFault.message : ArgumentFault → Text
  | unexpected a => "error: unexpected argument '" ++ a ++ "' found"
  | valueMissing c =>
    "error: a value is required for '" ++ c.shown ++ "' but none was supplied"
  | badValue c v => "error: invalid value '" ++ v ++ "' for '" ++ c.shown ++ "'"
  | repeated c => "error: the argument '" ++ c.shown ++ "' cannot be used multiple times"
  | needlessValue flag v =>
    "error: unexpected value '" ++ v ++ "' for '" ++ flag ++ "' found; no more were expected"

/-- What ends the reading of arguments early. -/
inductive Stop where
  | help
  | version
  | fault (f : ArgumentFault)
  deriving DecidableEq, Repr

/-- The options that are settled, and the last one, which is settled only when the next begins. -/
structure Progress where
  options : Options
  pending : Option (Choice × Option Text)

def Options.none : Options :=
  ⟨.none, .none, .none⟩

def given (o : Options) : Choice → Bool
  | .format => o.format.isSome
  | .variant => o.variant.isSome
  | .check => o.check.isSome

def Options.set (o : Options) (c : Choice) (value : Option Text) : Except Stop Options :=
  match value with
  | .none => .error (.fault (.valueMissing c))
  | some v =>
    if given o c then .error (.fault (.repeated c))
    else
      match c with
      | .variant => .ok { o with variant := v }
      | .check =>
        if v.isEmpty then .error (.fault (.valueMissing c)) else .ok { o with check := v }
      | .format =>
        match Format.all.find? fun f => f.name = v with
        | some f => .ok { o with format := f }
        | .none =>
          .error (.fault (if v.isEmpty then .valueMissing c else .badValue c v))

def Progress.settle (p : Progress) : Except Stop Options :=
  match p.pending with
  | some (c, value) => p.options.set c value
  | none => .ok p.options

def flag (p : Progress) (stop : Stop) : Except Stop Progress :=
  p.settle.bind fun _ => .error stop

/-- Takes an argument that starts with two hyphens, given without them. -/
def takeLong (p : Progress) (t : Text) : Except Stop Progress :=
  let (name, value) :=
    match Text.cutAt? '=' t with
    | some (name, v) => (name, some v)
    | none => (t, none)
  let flagOr (stop : Stop) : Except Stop Progress :=
    match value with
    | some v => .error (.fault (.needlessValue ("--" ++ name) v))
    | none => flag p stop
  if name = "help" then flagOr .help
  else if name = "version" then flagOr .version
  else
    match Choice.all.find? fun c => c.name = name with
    | none => .error (.fault (.unexpected ("--" ++ name)))
    | some c =>
      p.settle.bind fun o =>
        match value with
        | some v => (o.set c (some v)).map fun o => ⟨o, none⟩
        | none => .ok ⟨o, some (c, none)⟩

/-- Takes an argument that starts with one hyphen, by its first letter. -/
def takeShort (p : Progress) (letter : Char) : Except Stop Progress :=
  if letter = 'h' then flag p .help
  else if letter = 'V' then flag p .version
  else .error (.fault (.unexpected ['-', letter]))

/-- Takes an argument that may be the value of the last option. -/
def takeValue (p : Progress) (t : Text) : Except Stop Progress :=
  match p.pending with
  | some (c, none) => .ok { p with pending := some (c, some t) }
  | _ => .error (.fault (.unexpected t))

def take (p : Progress) (argument : Text) : Except Stop Progress :=
  match argument with
  | '-' :: '-' :: t => takeLong p t
  | '-' :: letter :: _ => takeShort p letter
  | t => takeValue p t

/-- Reads the arguments. After two hyphens alone, nothing may follow. -/
def readFrom (p : Progress) : List Text → Except Stop Options
  | [] => p.settle
  | argument :: rest =>
    if argument = "--" then
      match rest with
      | [] => p.settle
      | a :: _ => .error (.fault (.unexpected a))
    else (take p argument).bind fun p => readFrom p rest

def readArguments (arguments : List Text) : Except Stop Options :=
  readFrom ⟨.none, none⟩ arguments

end EndpointProfile.CommandLine
