import EndpointProfile.CommandLine.Run
import EndpointProfile.Proofs.ModuleText.RoundTrip
import EndpointProfile.Proofs.Profile.Provenance
import EndpointProfile.Proofs.Text.Utf8

/-! The command as a gate of a build: it passes the one module that says what the profile says, and
writes nothing but whole profiles. -/
namespace EndpointProfile.CommandLine

theorem fileText_eq_ok {content : Except ReadFault Bytes} {t : Text} :
    fileText content = .ok t ↔ content = .ok (Utf8.encode t) := by
  cases content with
  | error f => constructor <;> rintro ⟨⟩
  | ok bytes =>
      rw [Except.ok.injEq, ← Utf8.decode?_eq_some]
      simp only [fileText, Except.bind]
      cases Utf8.decode? bytes with
      | none => constructor <;> rintro ⟨⟩
      | some s => simp only [Except.ok.injEq, Option.some_inj]

/-- An outcome without output that is a success exactly if something holds, and else a failure. -/
structure Outcome.Gates (o : Outcome) (passes : Prop) : Prop where
  silent : o.output = []
  success : o.code = 0 ↔ passes
  failure : o.code = 1 ↔ ¬ passes

theorem Outcome.gates_of_success {o : Outcome} {passes : Prop} (silent : o.output = [])
    (code : o.code = 0) (h : passes) : o.Gates passes := by
  refine ⟨silent, iff_of_true code h, ?_⟩
  rw [code]
  exact iff_of_false Nat.zero_ne_one (not_not_intro h)

theorem Outcome.gates_of_failure {o : Outcome} {passes : Prop} (silent : o.output = [])
    (code : o.code = 1) (h : ¬ passes) : o.Gates passes := by
  refine ⟨silent, ?_, iff_of_true code h⟩
  rw [code]
  exact iff_of_false Nat.one_ne_zero h

theorem check_gates (textOf : Text → Except ReadFault Text) (file variant : Text) (p : Profile) :
    (check textOf file variant p).Gates
      (∃ text, textOf file = .ok text ∧ ModuleText.parse text = .ok p) := by
  unfold check
  cases read : textOf file with
  | error f =>
      apply Outcome.gates_of_failure rfl rfl
      rintro ⟨text, ⟨⟩, -⟩
  | ok text =>
      simp only [Except.ok.injEq, exists_eq_left']
      unfold ModuleText.check
      cases ModuleText.parse text with
      | error f => exact Outcome.gates_of_failure rfl rfl nofun
      | ok q =>
          simp only [Except.map, Except.ok.injEq, ← Profile.differences_eq_nil]
          cases q.differences p with
          | nil => exact Outcome.gates_of_success rfl rfl rfl
          | cons k keys => exact Outcome.gates_of_failure rfl rfl nofun

theorem perform_of_test {textOf : Text → Except ReadFault Text} {setting : Option Text} {o : Options}
    (known : ((o.variant <|> setting).getD defaultVariant).trim.lowerAscii = "test".toList) :
    perform textOf setting o =
      match o.check with
      | some file => check textOf file ((o.variant <|> setting).getD defaultVariant) .test
      | none => ⟨0, Profile.test.render (o.format.getD .module), [], none⟩ := by
  have found := Profile.forName_eq_ok.mpr ⟨known, rfl⟩
  cases chosen : o.check <;> simp only [perform, found, chosen]

theorem perform_of_other (textOf : Text → Except ReadFault Text) {setting : Option Text}
    {o : Options}
    (other : ((o.variant <|> setting).getD defaultVariant).trim.lowerAscii ≠ "test".toList) :
    (perform textOf setting o).output = [] ∧ (perform textOf setting o).code = 1 := by
  unfold perform
  simp only
  cases found : Profile.forName ((o.variant <|> setting).getD defaultVariant) with
  | error f => exact ⟨rfl, rfl⟩
  | ok p => exact absurd (Profile.forName_eq_ok.mp found).1 other

/-- A check writes nothing. It is a success exactly if the variant is the test environment and the
file holds the text of a module that is read as the profile of it, and else a failure. Without a
check, all of the profile is written in a success, and nothing in a failure. -/
theorem run_gates {arguments : List Text} {o : Options} (accepted : readArguments arguments = .ok o)
    (setting : Option Text) (content : Text → Except ReadFault Bytes) :
    let variant := (o.variant <|> setting).getD defaultVariant
    let done := run (fun file => fileText (content file)) setting arguments
    (∀ file, o.check = some file → done.Gates (variant.trim.lowerAscii = "test".toList ∧
      ∃ text, content file = .ok (Utf8.encode text) ∧ ModuleText.parse text = .ok .test)) ∧
    (o.check = none →
      (∃ p, Profile.forName variant = .ok p ∧ done.code = 0 ∧
        done.output = p.render (o.format.getD .module)) ∨
      (∃ f, Profile.forName variant = .error f) ∧ done.code = 1 ∧ done.output = []) := by
  intro variant done
  have performed : done = perform (fun file => fileText (content file)) setting o := by
    simp only [done, run, accepted]
  by_cases known : variant.trim.lowerAscii = "test".toList
  · rw [perform_of_test known] at performed
    refine ⟨fun file checked => ?_, fun rendered => .inl ?_⟩
    · rw [checked] at performed
      have gate := check_gates (fun file => fileText (content file)) file variant .test
      simp only [fileText_eq_ok] at gate
      rw [performed]
      simpa only [known, true_and] using gate
    · rw [rendered] at performed
      rw [performed]
      exact ⟨.test, Profile.forName_eq_ok.mpr ⟨known, rfl⟩, rfl, rfl⟩
  · obtain ⟨silent, code⟩ := perform_of_other (fun file => fileText (content file)) known
    rw [← performed] at silent code
    refine ⟨fun file _ => Outcome.gates_of_failure silent code fun holds => known holds.1, ?_⟩
    intro _
    refine .inr ⟨?_, code, silent⟩
    cases found : Profile.forName variant with
    | error f => exact ⟨f, rfl⟩
    | ok p => exact absurd (Profile.forName_eq_ok.mp found).1 known

/-- A module that was rendered passes, under any spelling of the variant. -/
theorem run_gates_rendered :
    let content : Text → Except ReadFault Bytes := fun _ =>
      .ok (Utf8.encode (ModuleText.render .test))
    let done := run (fun file => fileText (content file)) (some " TEST ") ["--check", "env.js"]
    readArguments ["--check", "env.js"] = .ok ⟨none, none, some "env.js"⟩ ∧ done.output = [] ∧
      done.code = 0 := by
  intro content done
  have accepted : readArguments ["--check", "env.js"] = .ok ⟨none, none, some "env.js"⟩ := rfl
  have gate : done.Gates _ := (run_gates accepted (some " TEST ") content).1 "env.js" rfl
  have same : ModuleText.parse (ModuleText.render .test) = .ok .test := by
    rw [ModuleText.parse_render_eq]
    exact Profile.validated_eq_ok.mpr ⟨Profile.valid_test, rfl⟩
  exact ⟨accepted, gate.silent, gate.success.mpr ⟨by decide, _, rfl, same⟩⟩

end EndpointProfile.CommandLine
