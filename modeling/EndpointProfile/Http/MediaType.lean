import EndpointProfile.Http.Basic
import EndpointProfile.Text.Charset

/-! Media types: two names with a slash between them, and parameters. -/
namespace EndpointProfile.Http

private def isNameCharacter (c : Char) : Bool :=
  c.isAlphanum || "!#$%&'*+-.^_\u0060|~".toList.contains c

private def isName (t : Text) : Bool :=
  !t.isEmpty && t.all isNameCharacter

/-- A value in quotes, and what follows it. -/
private def quotedValue? (t : Text) : Option (Text × Text) :=
  (Text.cutAt? '"' t).filter fun (v, _) => !v.isEmpty && v.all fun c => c.toNat > 31 && c.toNat ≠ 127

/-- What follows the semicolon that ends a value in quotes. -/
private def afterQuotes? (t : Text) : Option Text :=
  match t.dropWhile (· = ' ') with
  | [] => some []
  | c :: rest => if c = ';' then some rest else none

/-- The parameters that a text lists, with semicolons between them. The fuel is at least their
number. -/
private def parameters? : Nat → Text → Option (List (Text × Text))
  | 0, _ => none
  | fuel + 1, t =>
    match t.dropWhile (· = ' ') with
    | [] => some []
    | t =>
      (Text.cutAt? '=' t).bind fun (name, rest) =>
        if !isName name then none
        else
          match rest with
          | '"' :: rest =>
            (quotedValue? rest).bind fun (v, rest) =>
              (afterQuotes? rest).bind fun rest =>
                (parameters? fuel rest).map ((name, v) :: ·)
          | _ =>
            let v := rest.takeWhile (· ≠ ';')
            if !v.all isNameCharacter then none
            else (parameters? fuel (rest.drop (v.length + 1))).map ((name, v) :: ·)

def mediaParameters? (t : Text) : Option (List (Text × Text)) :=
  let kind := t.takeWhile (· ≠ ';')
  match Text.cutAt? '/' kind with
  | none => none
  | some (main, sub) =>
    if isName main && isName sub then parameters? (t.length + 1) (t.drop (kind.length + 1)) else none

/-- The name of the encoding that a media type tells. -/
def charset? (t : Text) : Option Text :=
  (mediaParameters? t).bind fun parameters =>
    (parameters.find? fun (name, _) => Text.lowerAscii name = "charset").map Prod.snd

def bodyText (contentType : Option Text) (body : Bytes) : Text :=
  Charset.read (contentType.bind charset?) body

end EndpointProfile.Http
