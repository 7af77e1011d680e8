import EndpointProfile.Proofs.Config.Reading
import EndpointProfile.Proofs.IpAddress

/-! Configurations written as variables. Whatever was read is written so that it is read again. -/
namespace EndpointProfile
open Text (Bare)

def Setting.all : List Setting := Setting.checked ++ [.allowedOrigins]

namespace Config

def shown (c : Config) : Setting → Text
  | .host => c.host.text
  | .port => Text.ofNat c.port.toNat
  | .environment => c.environment
  | .logFormat => c.logFormat.name
  | .probeOrigins => if c.probeOrigins then "true" else "false"
  | .allowedOrigins => Text.join [','] c.allowedOrigins

def assignments (c : Config) : List (Text × Text) :=
  Setting.all.map fun s => (s.name, c.shown s)

/-- What holds of any configuration that was read. -/
structure Settled (c : Config) : Prop where
  environment : c.environment ≠ [] ∧ Bare isBlank c.environment
  origins : ∀ o ∈ c.allowedOrigins, o ≠ [] ∧ Bare isBlank o ∧ ',' ∉ o

theorem settled_defaults : Settled defaults where
  environment := by decide
  origins := by decide

section
variable {lookup : Text → Option Text} {c : Config}

theorem origins_of_means {t : Text} {origins : List Text} (means : Setting.IsOrigins t origins) :
    ∀ o ∈ origins, o ≠ [] ∧ Bare isBlank o ∧ ',' ∉ o := by
  obtain ⟨pieces, -, free, -, rfl⟩ := means
  intro o ho
  obtain ⟨listed, nonempty⟩ := List.mem_filter.mp ho
  obtain ⟨piece, is, rfl⟩ := List.mem_map.mp listed
  obtain ⟨a, z, -, -, same, bare⟩ := Text.trim_eq_iff.mp (rfl : piece.trim = _)
  refine ⟨of_decide_eq_true nonempty, bare, fun inside => free piece is ?_⟩
  rw [same]
  simp [inside]

theorem settled_of_read (accepted : ofLookup lookup = .ok c) : Settled c := by
  have found := ofLookup_eq_ok.mp accepted
  constructor
  · obtain ⟨default, own⟩ := found .environment
    cases given : lookup Setting.environment.name with
    | none =>
        have same : c.environment = defaults.environment := default given
        rw [same]
        exact settled_defaults.environment
    | some t =>
        obtain ⟨same, nonempty⟩ : c.environment = t.trim ∧ c.environment ≠ [] := own t given
        refine ⟨nonempty, ?_⟩
        rw [same]
        exact Text.bare_trim t
  · obtain ⟨default, own⟩ := found .allowedOrigins
    cases given : lookup Setting.allowedOrigins.name with
    | none =>
        have same : c.allowedOrigins = defaults.allowedOrigins := default given
        rw [same]
        exact settled_defaults.origins
    | some t => exact origins_of_means (own t given)

theorem isPort_ofNat (port : UInt16) : Setting.IsPort (Text.ofNat port.toNat) port := by
  refine ⟨Text.ofNat port.toNat, .inl rfl, Text.toDigits_ne_nil (by decide) _, ?_, ?_⟩
  · intro c inside
    exact Nat.isDigit_of_mem_toDigits (by decide) (by decide) inside
  · exact Nat.ofDigitChars_toDigits (by decide) (by decide)

theorem isOrigins_join {origins : List Text}
    (settled : ∀ o ∈ origins, o ≠ [] ∧ Bare isBlank o ∧ ',' ∉ o) :
    Setting.IsOrigins (Text.join [','] origins) origins := by
  rcases eq_or_ne origins [] with rfl | nonempty
  · -- no origins are written as one empty piece
    exact ⟨[[]], by simp, by simp, rfl, by decide⟩
  · refine ⟨origins, nonempty, fun o ho => (settled o ho).2.2, rfl, ?_⟩
    have trimmed : origins.map Text.trim = origins.map id :=
      List.map_congr_left fun o ho => Text.trim_of_bare (settled o ho).2.1
    rw [trimmed, List.map_id, eq_comm, List.filter_eq_self]
    exact fun o ho => decide_eq_true (settled o ho).1

theorem means_shown (settled : Settled c) (s : Setting) : s.Means (c.shown s) (c.get s) := by
  cases s with
  | host =>
      have bare : Bare isBlank c.host.text :=
        Text.bare_of_free fun _ inside => IpAddress.not_blank_of_mem_text inside
      show IpAddress.ofText? c.host.text.trim = some c.host
      rw [Text.trim_of_bare bare, IpAddress.ofText?_text]
  | port =>
      have bare : Bare isBlank (Text.ofNat c.port.toNat) :=
        Text.bare_of_free fun _ inside =>
          (Text.digit_of_mem (by decide) (by decide) inside).apart.2.2
      show Setting.IsPort (Text.trim (Text.ofNat c.port.toNat)) c.port
      rw [Text.trim_of_bare bare]
      exact isPort_ofNat c.port
  | environment =>
      obtain ⟨nonempty, bare⟩ := settled.environment
      exact ⟨(Text.trim_of_bare bare).symm, nonempty⟩
  | logFormat =>
      have listed : ∀ format : LogFormat, format.name.trim.lowerAscii ∈ format.words := by
        rintro ⟨⟩ <;> decide
      exact listed c.logFormat
  | probeOrigins =>
      have listed : ∀ switch : Bool,
          Text.lowerAscii (Text.trim (if switch then "true" else "false")) ∈
            Setting.switchWords switch := by decide
      exact listed c.probeOrigins
  | allowedOrigins => exact isOrigins_join settled.origins

theorem lookup_assignments (c : Config) (s : Setting) :
    c.assignments.lookup s.name = some (c.shown s) := by
  cases s <;> rfl

end

/-- Each configuration that comes of any variables comes of its own ones again, and these
configurations are those that have the form of what is read. -/
theorem ofLookup_assignments (c : Config) :
    ((∃ lookup, ofLookup lookup = .ok c) ↔
      ofLookup (fun name => c.assignments.lookup name) = .ok c) ∧
    ((∃ lookup, ofLookup lookup = .ok c) ↔ Settled c) := by
  have again (settled : Settled c) : ofLookup (fun name => c.assignments.lookup name) = .ok c := by
    rw [ofLookup_eq_ok]
    intro s
    rw [Found, lookup_assignments]
    refine ⟨nofun, ?_⟩
    rintro _ ⟨⟩
    exact means_shown settled s
  have settled : (∃ lookup, ofLookup lookup = .ok c) → Settled c := by
    rintro ⟨lookup, accepted⟩
    exact settled_of_read accepted
  exact ⟨⟨fun read => again (settled read), fun read => ⟨_, read⟩⟩,
    ⟨settled, fun s => ⟨_, again s⟩⟩⟩

end Config
end EndpointProfile
