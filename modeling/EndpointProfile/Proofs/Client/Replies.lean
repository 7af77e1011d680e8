import EndpointProfile.Proofs.Profile.Provenance
import EndpointProfile.Proofs.Service.Agreement

/-! What the client gives out, whatever it is sent: profiles are looked at before they are given
out, but a single value only has to be a literal. -/
namespace EndpointProfile.Client

variable {k : Key} {l : Literal} {p : Profile} {status : Nat} {body : Text}

theorem isSuccess_iff : Http.isSuccess status = true ↔ 200 ≤ status ∧ status < 300 := by
  simp only [Http.isSuccess, Bool.and_eq_true, decide_eq_true_eq]

theorem accept_bind_eq_ok {α : Type} {path : Text} {read : Text → Except Fault α} {result : α} :
    (accept path status body >>= read) = .ok result ↔
      Http.isSuccess status ∧ read body = .ok result := by
  cases success : Http.isSuccess status with
  | true =>
      rw [accept_of_success success]
      exact (and_iff_right rfl).symm
  | false =>
      rw [accept_of_failure success]
      exact iff_of_false nofun (fun h => nomatch h.1)

theorem readProfile_eq_ok :
    readProfile status body = .ok p ↔ Http.isSuccess status ∧ Profile.ofJson body = .ok p := by
  refine accept_bind_eq_ok.trans (and_congr_right fun _ => ?_)
  cases Profile.ofJson body with
  | ok q => simp only [pure, Except.pure, Except.ok.injEq]
  | error f => exact iff_of_false nofun nofun

theorem readModule_eq_ok :
    readModule status body = .ok p ↔ Http.isSuccess status ∧ ModuleText.parse body = .ok p := by
  refine accept_bind_eq_ok.trans (and_congr_right fun _ => ?_)
  cases ModuleText.parse body with
  | ok q => simp only [pure, Except.pure, Except.ok.injEq]
  | error f => exact iff_of_false nofun nofun

/-- The reply has to name the key that was asked for and a literal. -/
theorem readValue_eq_ok : readValue k status body = .ok l ↔ Http.isSuccess status ∧
    ∃ get, Json.read schema.record body = .ok get ∧ get .key = k ∧ get .value = l.raw := by
  refine accept_bind_eq_ok.trans (and_congr_right fun _ => ?_)
  cases Json.read schema.record body with
  | error e => exact iff_of_false nofun (fun ⟨get, read, _⟩ => nomatch read)
  | ok get =>
      simp only [Except.ok.injEq, exists_eq_left', ← Literal.parse_eq_ok]
      by_cases same : get .key = k
      · cases Literal.parse (get .value) with
        | ok m => simp [same, pure, Except.pure]
        | error f => simp [same]
      · simp [same, bind, Except.bind]

theorem exists_readProfile :
    (∃ body, readProfile status body = .ok p) ↔ Http.isSuccess status ∧ p.fault? = none := by
  constructor
  · rintro ⟨body, read⟩
    obtain ⟨success, given⟩ := readProfile_eq_ok.mp read
    exact ⟨success, (Profile.Vetted.json given).valid⟩
  · rintro ⟨success, valid⟩
    refine ⟨p.toJson.compact, readProfile_of_ok success ?_⟩
    have fits : p.validated = .ok p := by simp only [Profile.validated, valid]
    simp only [Profile.ofJson, Profile.ofJsonUnchecked_compact, fits]

theorem exists_readModule :
    (∃ body, readModule status body = .ok p) ↔ Http.isSuccess status ∧ p.fault? = none := by
  constructor
  · rintro ⟨body, read⟩
    obtain ⟨success, given⟩ := readModule_eq_ok.mp read
    exact ⟨success, (Profile.Vetted.module given).valid⟩
  · rintro ⟨success, valid⟩
    have fits : p.validated = .ok p := by simp only [Profile.validated, valid]
    exact ⟨ModuleText.render p, readModule_of_ok success ((ModuleText.parse_render_eq p).trans fits)⟩

/-- Every literal can come back for every key: the client does not ask whether it fits. -/
theorem exists_readValue :
    (∃ body, readValue k status body = .ok l) ↔ Http.isSuccess status := by
  constructor
  · rintro ⟨body, read⟩
    exact (readValue_eq_ok.mp read).1
  · intro success
    exact ⟨_, readValue_of_ok success (read_valueBody k l)⟩

/-- Whatever a server sends, only a success is taken for an answer. As a whole and as a module the
client gives out just the profiles whose values all fit their keys. As the value of a key it gives
out every literal that comes with the name of that key, whether it fits or not. -/
theorem given_out_iff (status : Nat) :
    (∀ p, (∃ body, readProfile status body = .ok p) ↔
      (200 ≤ status ∧ status < 300) ∧ p.fault? = none) ∧
    (∀ p, (∃ body, readModule status body = .ok p) ↔
      (200 ≤ status ∧ status < 300) ∧ p.fault? = none) ∧
    (∀ k l, (∃ body, readValue k status body = .ok l) ↔ 200 ≤ status ∧ status < 300) ∧
    ∀ k l body, readValue k status body = .ok l ↔ (200 ≤ status ∧ status < 300) ∧
      ∃ get, Json.read schema.record body = .ok get ∧ get .key = k ∧ get .value = l.raw := by
  simp only [← isSuccess_iff]
  exact ⟨fun _ => exists_readProfile, fun _ => exists_readModule, fun _ _ => exists_readValue,
    fun _ _ _ => readValue_eq_ok⟩

/-- A literal that is no web address comes back as the address of a service. -/
theorem unfit_value_given_out :
    let body : Text := "\x7b\"key\":\"BASE_API\",\"value\":\"\\\"nonsense\\\"\"\x7d"
    ∃ l : Literal, readValue .api 200 body = .ok l ∧ l.unquoted = "nonsense" ∧
      Profile.valueFault? .api l.unquoted =
        some (.violation (.badAddress "nonsense" (.unreadable .noBase))) := by
  intro body
  exact ⟨⟨"nonsense", by decide⟩, rfl, rfl, by decide +kernel⟩

end EndpointProfile.Client
