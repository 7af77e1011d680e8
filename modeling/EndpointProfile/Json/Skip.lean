import EndpointProfile.Json.Scan

/-! Passing over a value whose content does not matter. Only its shape is checked, and it may be
nested to any depth. -/
namespace EndpointProfile.Json

inductive SkipState where
  | plain
  | escape
  | digits (start seen : Text)

/-- The rest after a string, from inside it. -/
def skipString : SkipState → Text → Except Stop Text
  | _, [] => .error (.before .endInString [])
  | .plain, c :: t =>
    if c = '"' then .ok t
    else if c = '\\' then skipString .escape t
    else if c.toNat < 0x20 then .error (.before .control (c :: t))
    else skipString .plain t
  | .escape, c :: t =>
    if c = 'u' then skipString (.digits t []) t
    else if (escaped? c).isSome then skipString .plain t
    else .error (.upon .badEscape (c :: t))
  | .digits start seen, c :: t =>
    let seen := seen ++ [c]
    if Text.byteCount seen < 4 then skipString (.digits start seen) t
    else if (hexValue? seen).isSome then skipString .plain t
    else .error ⟨.badEscape, start, 4, true⟩

def dropDigits (t : Text) : Text :=
  t.dropWhile Char.isDigit

def startsWithDigit (t : Text) : Bool :=
  (t.head?.map Char.isDigit).getD false

def skipExponent (t : Text) : Except Stop Text :=
  let t :=
    match t with
    | '+' :: t | '-' :: t => t
    | t => t
  if startsWithDigit t then .ok (dropDigits t) else .error (.upon .badNumber t)

def skipMarkedExponent (t : Text) : Except Stop Text :=
  match t with
  | 'e' :: t | 'E' :: t => skipExponent t
  | t => .ok t

/-- The rest after a number, from after its sign. -/
def skipNumber (t : Text) : Except Stop Text :=
  match t with
  | '0' :: d :: t' => if d.isDigit then .error (.upon .badNumber (d :: t')) else tail (d :: t')
  | c :: _ => if c.isDigit then tail (dropDigits t) else .error (.upon .badNumber t)
  | [] => .error (.before .badNumber [])
where
  tail (t : Text) : Except Stop Text :=
    match t with
    | '.' :: t =>
      if startsWithDigit t then skipMarkedExponent (dropDigits t)
      else .error (.upon .badNumber t)
    | t => skipMarkedExponent t

/-- What a container that is passed over holds. -/
inductive Frame where
  | array
  | object
  deriving DecidableEq

def Frame.closing : Frame → Char
  | array => ']'
  | object => '\x7d'

private def Frame.ended : Frame → Cause
  | array => .endInArray
  | object => .endInObject

private def Frame.unclosed : Frame → Cause
  | array => .noArrayEnd
  | object => .noObjectEnd

/-- What comes next in a value that is passed over. -/
inductive SkipGoal where
  | value
  | member
  | opened
  | closed

/-- The rest after a value, within the containers `frames` that are still open. -/
def skipFrom : Nat → SkipGoal → List Frame → Text → Except Stop Text
  | _, .closed, [], t => .ok t
  | 0, _, _, t => .error (.upon .noValue t)
  | fuel + 1, .value, frames, t =>
    match skipBlanks t with
    | [] => .error (.before .endInValue [])
    | 'n' :: t => (readWord "ull" t).bind (skipFrom fuel .closed frames)
    | 't' :: t => (readWord "rue" t).bind (skipFrom fuel .closed frames)
    | 'f' :: t => (readWord "alse" t).bind (skipFrom fuel .closed frames)
    | '"' :: t => (skipString .plain t).bind (skipFrom fuel .closed frames)
    | '-' :: t => (skipNumber t).bind (skipFrom fuel .closed frames)
    | '[' :: t => skipFrom fuel .opened (.array :: frames) t
    | '\x7b' :: t => skipFrom fuel .opened (.object :: frames) t
    | c :: t =>
      if c.isDigit then (skipNumber (c :: t)).bind (skipFrom fuel .closed frames)
      else .error (.upon .noValue (c :: t))
  | fuel + 1, .member, frames, t =>
    match skipBlanks t with
    | [] => .error (.before .endInObject [])
    | '"' :: t =>
      (skipString .plain t).bind fun t =>
        match skipBlanks t with
        | [] => .error (.before .endInObject [])
        | ':' :: t => skipFrom fuel .value frames t
        | t => .error (.upon .noColon t)
    | t => .error (.upon .keyNotString t)
  | fuel + 1, .opened, frames, t =>
    match frames, skipBlanks t with
    | [], t => .ok t
    | frame :: _, [] => .error (.before frame.ended [])
    | frame :: outer, c :: t =>
      if c = frame.closing then skipFrom fuel .closed outer t
      else skipFrom fuel (if frame = .object then .member else .value) frames (c :: t)
  | fuel + 1, .closed, frame :: outer, t =>
    match skipBlanks t with
    | [] => .error (.before frame.ended [])
    | ',' :: t => skipFrom fuel (if frame = .object then .member else .value) (frame :: outer) t
    | c :: t =>
      if c = frame.closing then skipFrom fuel .closed outer t
      else .error (.upon frame.unclosed (c :: t))

/-- The rest after a value. Every step but the one into a container takes a character. -/
def skipValue (t : Text) : Except Stop Text :=
  skipFrom (2 * t.length + 2) .value [] t

end EndpointProfile.Json
