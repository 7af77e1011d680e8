import EndpointProfile.CommandLine.Arguments
import EndpointProfile.Log
import EndpointProfile.Text.Utf8

/-! The command: it writes a profile for a build, or checks a module against the profile. -/
namespace EndpointProfile.CommandLine

inductive ReadFault where
  | missing
  | forbidden
  | notDirectory
  | isDirectory
  | notUtf8
  | other (message : Text)
  deriving DecidableEq, Repr

def ReadFault.message : ReadFault → Text
  | missing => "No such file or directory (os error 2)"
  | forbidden => "Permission denied (os error 13)"
  | notDirectory => "Not a directory (os error 20)"
  | isDirectory => "Is a directory (os error 21)"
  | notUtf8 => "stream did not contain valid UTF-8"
  | other m => m

def fileText (content : Except ReadFault Bytes) : Except ReadFault Text :=
  content.bind fun bytes =>
    match Utf8.decode? bytes with
    | some t => .ok t
    | none => .error .notUtf8

inductive Fault where
  | noProfile (variant : Text) (fault : EndpointProfile.Fault)
  | unreadable (file : Text) (fault : ReadFault)
  | badModule (file : Text) (fault : EndpointProfile.Fault)

/-- Every line of a cause is set in. -/
private def setIn (t : Text) : Text :=
  Text.join "\n" ((t.splitOn '\n').map fun line => "    " ++ line)

private def report (what cause : Text) : Text :=
  "Error: " ++ what ++ "\n\nCaused by:\n" ++ setIn cause

def Fault.message : Fault → Text
  | noProfile variant f => report ("cannot load profile for " ++ variant) f.message
  | unreadable file f => report ("cannot read " ++ file) f.message
  | badModule file f => report ("cannot parse " ++ file) f.message

def versionText : Text := "render-profile 0.1.0\n"

def helpText : Text :=
  "Render the MCS environment profile\n\nUsage: render-profile [OPTIONS]\n\nOptions:\n" ++
    "      --format <FORMAT>    Output format [default: module] [possible values: module, dotenv, json]\n" ++
    "      --variant <VARIANT>  Environment variant to render [env: MCS_ENV=] [default: test]\n" ++
    "      --check <FILE>       Check an existing module file against the profile instead of rendering\n" ++
    "  -h, --help               Print help\n  -V, --version            Print version\n"

/-- What the command does: its exit code, what it writes, what it logs, and why it fails. -/
structure Outcome where
  code : Nat
  output : Text
  events : List Log.Event
  error : Option Text
  deriving DecidableEq, Repr

private def failed (f : Fault) : Outcome :=
  ⟨1, [], [], some f.message⟩

private def event (level : Log.Level) (message : Text) (fields : List (Text × Text)) : Log.Event :=
  ⟨level, "render_profile", message, fields.map fun (k, v) => (k, .text v)⟩

/-- Checks the module in a file against a profile. -/
def check (textOf : Text → Except ReadFault Text) (file variant : Text) (p : Profile) : Outcome :=
  match textOf file with
  | .error f => failed (.unreadable file f)
  | .ok text =>
    match ModuleText.check text p with
    | .error f => failed (.badModule file f)
    | .ok [] =>
      ⟨0, [], [event .info "module matches profile" [("file", file), ("variant", variant)]], none⟩
    | .ok keys =>
      ⟨1, [],
        keys.map fun k =>
          event .error "value differs from profile"
            [("file", file), ("key", k.name), ("expected", (p.get k).raw)],
        none⟩

/-- The variable that names the variant when the arguments do not. -/
def variantVariable : Text := "MCS_ENV"

def defaultVariant : Text := "test"

/-- Does what the options ask for. `setting` is the value of that variable. -/
def perform (textOf : Text → Except ReadFault Text) (setting : Option Text) (o : Options) :
    Outcome :=
  let variant := (o.variant <|> setting).getD defaultVariant
  match Profile.forName variant with
  | .error f => failed (.noProfile variant f)
  | .ok p =>
    match o.check with
    | some file => check textOf file variant p
    | none => ⟨0, p.render (o.format.getD .module), [], none⟩

def run (textOf : Text → Except ReadFault Text) (setting : Option Text)
    (arguments : List Text) : Outcome :=
  match readArguments arguments with
  | .ok o => perform textOf setting o
  | .error .help => ⟨0, helpText, [], none⟩
  | .error .version => ⟨0, versionText, [], none⟩
  | .error (.fault f) => ⟨2, [], [], some f.message⟩

end EndpointProfile.CommandLine
