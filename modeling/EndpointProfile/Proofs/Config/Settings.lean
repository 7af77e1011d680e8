import EndpointProfile.Config
import EndpointProfile.Proofs.Text.Digits
import EndpointProfile.Proofs.Text.Pieces

/-! What the text of a setting says, each setting by itself. Blanks around it make no difference. -/
namespace EndpointProfile

def LogFormat.words : LogFormat → List Text
  | json => ["json"]
  | pretty => ["pretty", "console"]

namespace Setting

abbrev Value : Setting → Type
  | host => IpAddress
  | port => UInt16
  | environment => Text
  | logFormat => LogFormat
  | probeOrigins => Bool
  | allowedOrigins => List Text

def switchWords : Bool → List Text
  | true => ["1", "true", "yes"]
  | false => ["0", "false", "no"]

/-- A number of 16 bits in decimal digits, with a plus sign or none. -/
def IsPort (t : Text) (port : UInt16) : Prop :=
  ∃ digits : Text, (t = digits ∨ t = '+' :: digits) ∧ digits ≠ [] ∧
    (∀ c ∈ digits, c.isDigit = true) ∧ Nat.ofDigitChars 10 digits 0 = port.toNat

/-- The texts between commas, trimmed, but for those of which nothing is left. -/
def IsOrigins (t : Text) (origins : List Text) : Prop :=
  ∃ pieces : List Text, pieces ≠ [] ∧ (∀ piece ∈ pieces, ',' ∉ piece) ∧
    Text.join [','] pieces = t ∧ origins = (pieces.map Text.trim).filter (· ≠ [])

/-- What a text says for a setting. -/
def Means : (s : Setting) → Text → s.Value → Prop
  | host, t, address => IpAddress.ofText? t.trim = some address
  | port, t, number => IsPort t.trim number
  | environment, t, name => name = t.trim ∧ name ≠ []
  | logFormat, t, format => t.trim.lowerAscii ∈ format.words
  | probeOrigins, t, switch => t.trim.lowerAscii ∈ switchWords switch
  | allowedOrigins, t, origins => IsOrigins t origins

/-- Whether a text says anything for a setting. -/
def Admits (s : Setting) (t : Text) : Prop := ∃ v, s.Means t v

end Setting

namespace Config
open Setting (Means Admits)

def get (c : Config) : (s : Setting) → s.Value
  | .host => c.host
  | .port => c.port
  | .environment => c.environment
  | .logFormat => c.logFormat
  | .probeOrigins => c.probeOrigins
  | .allowedOrigins => c.allowedOrigins

theorem port_of_digits {digits : Text} {port : UInt16} :
    (if digits.isEmpty then none else (Text.digits? 10 digits).bind fun n =>
      if n < 65536 then some (UInt16.ofNat n) else none) = some port ↔
      digits ≠ [] ∧ (∀ c ∈ digits, c.isDigit = true) ∧
        Nat.ofDigitChars 10 digits 0 = port.toNat := by
  split
  · next empty => simp [List.isEmpty_iff.mp empty]
  · next some =>
      rw [List.isEmpty_iff] at some
      simp only [Option.bind_eq_some_iff, Text.digits?_ten, Option.ite_none_right_eq_some,
        Option.some_inj]
      constructor
      · rintro ⟨n, ⟨digit, rfl⟩, small, rfl⟩
        exact ⟨some, digit, (UInt16.toNat_ofNat_of_lt' small).symm⟩
      · rintro ⟨-, digit, value⟩
        refine ⟨port.toNat, ⟨digit, value⟩, port.toNat_lt, UInt16.ofNat_toNat⟩

theorem readPort?_eq_some {t : Text} {port : UInt16} :
    readPort? t = some port ↔ Setting.IsPort t port := by
  unfold readPort?
  split
  · next digits =>
      rw [port_of_digits]
      constructor
      · intro reads
        exact ⟨digits, .inr rfl, reads⟩
      · rintro ⟨_, rfl | same, reads⟩
        · exact absurd (reads.2.1 '+' List.mem_cons_self) (by decide)
        · cases same
          exact reads
  · next unsigned =>
      rw [port_of_digits]
      constructor
      · intro reads
        exact ⟨t, .inl rfl, reads⟩
      · rintro ⟨digits, rfl | rfl, reads⟩
        · exact reads
        · exact absurd rfl (unsigned digits)

theorem readEnvironment?_eq_some {t name : Text} :
    readEnvironment? t = some name ↔ name = t.trim ∧ name ≠ [] := by
  unfold readEnvironment?
  split
  · next blank =>
      rw [List.isEmpty_iff] at blank
      simp +contextual [blank]
  · next other =>
      rw [List.isEmpty_iff] at other
      constructor
      · rintro ⟨⟩
        exact ⟨rfl, other⟩
      · rintro ⟨rfl, -⟩
        rfl

theorem ofName?_eq_some {t : Text} {format : LogFormat} :
    LogFormat.ofName? t = some format ↔ t.trim.lowerAscii ∈ format.words := by
  unfold LogFormat.ofName?
  generalize t.trim.lowerAscii = wanted
  constructor
  · intro named
    simp only at named
    split at named
    · next same =>
        cases named
        exact List.mem_singleton.mpr same
    · split at named
      · next same =>
          cases named
          exact List.mem_pair.mpr same
      · cases named
  · intro listed
    cases format with
    | json =>
        obtain rfl := List.mem_singleton.mp listed
        decide
    | pretty => rcases List.mem_pair.mp listed with rfl | rfl <;> decide

theorem readSwitch?_eq_some {t : Text} {switch : Bool} :
    readSwitch? t = some switch ↔ t.trim.lowerAscii ∈ Setting.switchWords switch := by
  unfold readSwitch?
  generalize t.trim.lowerAscii = wanted
  constructor
  · intro named
    simp only at named
    split at named
    · next same =>
        cases named
        simpa [Setting.switchWords] using same
    · split at named
      · next same =>
          cases named
          simpa [Setting.switchWords] using same
      · cases named
  · intro listed
    cases switch with
    | true =>
        simp only [Setting.switchWords, List.mem_cons, List.not_mem_nil, or_false] at listed
        rcases listed with rfl | rfl | rfl <;> decide
    | false =>
        simp only [Setting.switchWords, List.mem_cons, List.not_mem_nil, or_false] at listed
        rcases listed with rfl | rfl | rfl <;> decide

theorem readOrigins_eq_iff {t : Text} {origins : List Text} :
    readOrigins t = origins ↔ Setting.IsOrigins t origins := by
  have filtered (pieces : List Text) :
      (pieces.filter fun o => !o.isEmpty) = pieces.filter (· ≠ []) :=
    List.filter_congr fun o _ => by cases o <;> rfl
  unfold readOrigins
  rw [filtered]
  constructor
  · rintro rfl
    obtain ⟨some, free, joined⟩ := Text.splitOn_eq_iff.mp (rfl : t.splitOn ',' = _)
    exact ⟨_, some, free, joined, rfl⟩
  · rintro ⟨pieces, some, free, joined, rfl⟩
    rw [Text.splitOn_eq_iff.mpr ⟨some, free, joined⟩]

end Config

namespace Setting
open Config

def read? : (s : Setting) → Text → Option s.Value
  | host => fun t => IpAddress.ofText? t.trim
  | port => fun t => readPort? t.trim
  | environment => readEnvironment?
  | logFormat => LogFormat.ofName?
  | probeOrigins => readSwitch?
  | allowedOrigins => fun t => some (readOrigins t)

theorem read?_eq_some {s : Setting} {t : Text} {v : s.Value} :
    s.read? t = some v ↔ s.Means t v := by
  cases s with
  | host => exact Iff.rfl
  | port => exact readPort?_eq_some
  | environment => exact readEnvironment?_eq_some
  | logFormat => exact ofName?_eq_some
  | probeOrigins => exact readSwitch?_eq_some
  | allowedOrigins => exact Option.some_inj.trans readOrigins_eq_iff

theorem read?_eq_none {s : Setting} {t : Text} : s.read? t = none ↔ ¬ s.Admits t := by
  rw [Option.eq_none_iff_forall_ne_some, Admits, not_exists]
  exact forall_congr' fun v => not_congr read?_eq_some

theorem Means.unique {s : Setting} {t : Text} {v w : s.Value} (meant : s.Means t v)
    (again : s.Means t w) : v = w :=
  Option.some.inj ((read?_eq_some.mpr meant).symm.trans (read?_eq_some.mpr again))

theorem means_trim {s : Setting} {t : Text} {v : s.Value} : s.Means t.trim v ↔ s.Means t v := by
  obtain ⟨a, z, ha, hz, same, bare⟩ := Text.trim_eq_iff.mp (rfl : t.trim = _)
  have again : t.trim.trim = t.trim := Text.trim_of_bare bare
  cases s with
  | allowedOrigins =>
      have solid : isBlank ',' = false := by decide
      have pieces := Text.map_trim_splitOn solid ha hz t.trim
      rw [← same] at pieces
      rw [Means, Means, ← readOrigins_eq_iff, ← readOrigins_eq_iff, readOrigins, readOrigins,
        pieces]
  | _ => simp only [Means, again]

theorem means_congr {s : Setting} {t u : Text} {v : s.Value} (same : t.trim = u.trim) :
    s.Means t v ↔ s.Means u v := by
  rw [← means_trim, same, means_trim]

/-- The text of a setting as a fault shows it. -/
def reported : Setting → Text → Text
  | environment => Text.trim
  | _ => id

end Setting

end EndpointProfile
