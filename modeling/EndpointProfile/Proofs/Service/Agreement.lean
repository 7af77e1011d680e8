import EndpointProfile.Client
import EndpointProfile.Proofs.ModuleText.RoundTrip
import EndpointProfile.Proofs.Profile.Json
import EndpointProfile.Service.Answer

/-! What the service answers is what the client reads. -/
namespace EndpointProfile
open Text (only_nil)

namespace Client

variable {status : Nat} {body : Text}

theorem accept_of_success (success : Http.isSuccess status) (path : Text) :
    accept path status body = .ok body :=
  if_pos success

theorem accept_of_failure (failure : Http.isSuccess status = false) (path : Text) :
    accept path status body = .error (.badStatus path status body) :=
  if_neg (Bool.eq_false_iff.mp failure)

theorem readProfile_of_ok {p : Profile} (success : Http.isSuccess status)
    (h : Profile.ofJson body = .ok p) : readProfile status body = .ok p := by
  simp only [readProfile, accept_of_success success, bind, Except.bind, h]
  rfl

theorem readModule_of_ok {p : Profile} (success : Http.isSuccess status)
    (h : ModuleText.parse body = .ok p) : readModule status body = .ok p := by
  simp only [readModule, accept_of_success success, bind, Except.bind, h]
  rfl

/-- The fields of a reply that says what the value of a key is. -/
def reply (k : Key) (l : Literal) : (f : Field) → Slot f
  | .key => k
  | .value => l.raw

theorem readValue_of_ok {k : Key} {l : Literal} (success : Http.isSuccess status)
    (h : Json.read schema.record body = .ok (reply k l)) : readValue k status body = .ok l := by
  simp only [readValue, accept_of_success success, bind, Except.bind, h, reply, ne_eq,
    not_true_eq_false, if_false, Literal.parse_raw]
  rfl

/-- The key and the value are read, and the value without quotes is passed over. -/
theorem fills_reply (depth : Nat) (k : Key) (l : Literal) :
    schema.Fills depth (fun _ => none)
      [("key", Json.quote k.name), ("value", Json.quote l.raw), ("unquoted", Json.quote l.unquoted)]
      (fun f => some (reply k l f)) := by
  have key : Json.Takes (schema.reader .key depth) (Json.quote k.name) k :=
    Json.takes_choice (Key.ofName?_name k) (only_nil _) depth
  have value : Json.Takes (schema.reader .value depth) (Json.quote l.raw) l.raw :=
    Json.takes_string (only_nil _) depth l.raw
  have slots : Json.Schema.put Field.value l.raw (Json.Schema.put Field.key k fun _ => none) =
      fun f => some (reply k l f) := by
    funext f
    cases f <;> rfl
  refine .known (f := .key) (by decide) rfl key (.known (f := .value) (by decide) rfl value ?_)
  refine .unknown (by decide) rfl (fun rest _ => Json.skipValue_quote (only_nil _) _ rest) ?_
  rw [slots]
  exact .nil

theorem read_valueBody (k : Key) (l : Literal) :
    Json.read schema.record (Service.valueBody k l).compact = .ok (reply k l) := by
  have written := Json.members_compact
    [("key", .string k.name), ("value", l.toJson), ("unquoted", .string l.unquoted)]
  have record := Json.Schema.record_of_fills written (fills_reply 126 k l) (fun _ => rfl) []
  exact Json.read_of_ok record (only_nil _)

end Client

namespace Service

/-- What a reader of the client makes of an answer that reaches it unchanged. -/
def Answer.readBy {α : Type} (read : Nat → Text → Except Client.Fault α) (a : Answer) :
    Except Client.Fault α :=
  read a.response.status a.response.body

variable (s : State) (m : Moment) (r : Http.Request)

theorem answer_key (k : Key) :
    (answer s m r (.key k.name)).response = json 200 (valueBody k (s.profile.get k)) := by
  simp only [answer, answerKey, Key.ofName?_name]

theorem answer_unknownKey {name : Text} (unknown : ∀ k : Key, k.name ≠ name) :
    (answer s m r (.key name)).response = refusal (.ofFault (.unknownKey name)) := by
  have missing : Key.ofName? name = none := by
    rw [Option.eq_none_iff_forall_ne_some]
    intro k found
    exact unknown k (Key.ofName?_eq_some.mp found).symm
  simp only [answer, answerKey, missing]

/-- The client reads the profile of the service from its answers: as a whole, as a module, and value
by value. Where it asks for anything but a key, it learns that there is no such thing. -/
theorem client_reads_answers (valid : s.profile.fault? = none) :
    (answer s m r .profile).readBy Client.readProfile = .ok s.profile ∧
    (answer s m r .module).readBy Client.readModule = .ok s.profile ∧
    (∀ k : Key, (answer s m r (.key k.name)).readBy (Client.readValue k) = .ok (s.profile.get k)) ∧
    ∀ name, (∀ k : Key, k.name ≠ name) →
      (answer s m r (.key name)).response.status = 404 ∧
      ∀ path, (answer s m r (.key name)).readBy (Client.accept path) =
        .error (.badStatus path 404 (answer s m r (.key name)).response.body) := by
  have fits : s.profile.validated = .ok s.profile := by simp only [Profile.validated, valid]
  refine ⟨?_, ?_, fun k => ?_, fun name unknown => ?_⟩
  · have read : Profile.ofJson s.profile.toJson.compact = .ok s.profile := by
      simp only [Profile.ofJson, Profile.ofJsonUnchecked_compact, fits]
    exact Client.readProfile_of_ok rfl read
  · exact Client.readModule_of_ok rfl ((ModuleText.parse_render_eq _).trans fits)
  · rw [Answer.readBy, answer_key]
    exact Client.readValue_of_ok rfl (Client.read_valueBody k _)
  · simp only [Answer.readBy, answer_unknownKey s m r unknown]
    exact ⟨rfl, Client.accept_of_failure rfl⟩

/-- A profile whose addresses hold what both quotes and escapes are written with. -/
def quotedProfile : Profile where
  get k := if k = .environment then ⟨"test", by decide⟩
    else ⟨"http://a.b/'\\\"c\\\\d,e:f;//\x7d", by decide⟩

theorem client_reads_quotedProfile :
    let s : State := ⟨quotedProfile, .test, false, .empty, .empty⟩
    let m : Moment := ⟨0, [], fun _ => .failed []⟩
    let r : Http.Request := ⟨"GET", "/env/node_env", [], none⟩
    s.profile.fault? = none ∧ (∀ k : Key, k.name ≠ "node_env") ∧
      (answer s m r .module).readBy Client.readModule = .ok quotedProfile ∧
      (answer s m r (.key "node_env")).response.status = 404 := by
  intro s m r
  have valid : s.profile.fault? = none := by decide +kernel
  have unknown : ∀ k : Key, k.name ≠ "node_env" := by
    intro k
    cases k <;> decide
  obtain ⟨-, module, -, refused⟩ := client_reads_answers s m r valid
  exact ⟨valid, unknown, module, (refused _ unknown).1⟩

end Service
end EndpointProfile
