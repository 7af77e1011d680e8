import EndpointProfile.Proofs.Config.Settings

/-! How a configuration comes of the variables: each field from its own one, and the first variable
that says nothing is blamed. -/
namespace EndpointProfile

/-- The settings whose text can be faulty, in the order in which they are read. -/
def Setting.checked : List Setting :=
  [.host, .port, .environment, .logFormat, .probeOrigins]

namespace Config

/-- The value of a setting: what its variable says, or the default where there is no variable. -/
def Found (lookup : Text → Option Text) (s : Setting) (v : s.Value) : Prop :=
  (lookup s.name = none → v = defaults.get s) ∧ ∀ t, lookup s.name = some t → s.Means t v

/-- A variable is there and says nothing. -/
def Unfit (lookup : Text → Option Text) (s : Setting) : Prop :=
  ∃ t, lookup s.name = some t ∧ ¬ s.Admits t

/-- What comes of the variables: a configuration with the value of each setting, or the fault of the
first setting whose variable says nothing. -/
inductive ReadFrom (lookup : Text → Option Text) : Except Fault Config → Prop where
  | config {c : Config} (found : ∀ s, Found lookup s (c.get s)) : ReadFrom lookup (.ok c)
  | fault {earlier later : List Setting} {s : Setting} {t : Text}
      (order : Setting.checked = earlier ++ s :: later) (given : lookup s.name = some t)
      (silent : ¬ s.Admits t) (before : ∀ r ∈ earlier, ¬ Unfit lookup r) :
      ReadFrom lookup (.error ⟨s, s.reported t⟩)

/-- A setting of any kind as it is read from its variable. -/
def read (lookup : Text → Option Text) (s : Setting) : Except Fault s.Value :=
  setting lookup s (defaults.get s) s.read? s.reported

section
variable {lookup : Text → Option Text} {s : Setting}

theorem Found.not_unfit {v : s.Value} (found : Found lookup s v) : ¬ Unfit lookup s := by
  rintro ⟨t, given, silent⟩
  exact silent ⟨v, found.2 t given⟩

theorem Found.unique {v w : s.Value} (found : Found lookup s v) (again : Found lookup s w) :
    v = w := by
  cases given : lookup s.name with
  | none => rw [found.1 given, again.1 given]
  | some t => exact (found.2 t given).unique (again.2 t given)

theorem found_congr {other : Text → Option Text} {v : s.Value}
    (same : (other s.name).map Text.trim = (lookup s.name).map Text.trim) :
    Found other s v ↔ Found lookup s v := by
  unfold Found
  cases here : lookup s.name with
  | none =>
      have absent : other s.name = none := by simpa [here] using same
      simp [absent]
  | some t =>
      obtain ⟨u, present, trimmed⟩ : ∃ u, other s.name = some u ∧ u.trim = t.trim := by
        simpa [here] using same
      simp [present, Setting.means_congr trimmed]

theorem read_cases (lookup : Text → Option Text) (s : Setting) :
    (∃ t, lookup s.name = some t ∧ ¬ s.Admits t ∧ read lookup s = .error ⟨s, s.reported t⟩) ∨
      ∃ v, Found lookup s v ∧ read lookup s = .ok v := by
  unfold read setting Found
  cases lookup s.name with
  | none => exact .inr ⟨defaults.get s, ⟨fun _ => rfl, nofun⟩, rfl⟩
  | some t =>
      simp only
      split
      · next v answer =>
          refine .inr ⟨v, ⟨nofun, ?_⟩, rfl⟩
          rintro _ ⟨⟩
          exact Setting.read?_eq_some.mp answer
      · next silent => exact .inl ⟨t, rfl, Setting.read?_eq_none.mp silent, rfl⟩

theorem found_origins (lookup : Text → Option Text) : Found lookup .allowedOrigins
    (((lookup Setting.allowedOrigins.name).map readOrigins).getD defaults.allowedOrigins) := by
  constructor
  · intro absent
    rw [absent]
    rfl
  · intro t present
    rw [present]
    exact readOrigins_eq_iff.mp rfl

/-- One more setting is read, after those before it were found. -/
theorem ReadFrom.step {earlier later : List Setting}
    (order : Setting.checked = earlier ++ s :: later) (before : ∀ r ∈ earlier, ¬ Unfit lookup r)
    {next : s.Value → Except Fault Config}
    (go : ∀ v, Found lookup s v → (∀ r ∈ earlier ++ [s], ¬ Unfit lookup r) →
      ReadFrom lookup (next v)) : ReadFrom lookup (read lookup s >>= next) := by
  rcases read_cases lookup s with ⟨t, given, silent, refused⟩ | ⟨v, found, accepted⟩
  · rw [refused]
    exact .fault order given silent before
  · rw [accepted]
    apply go v found
    exact List.forall_mem_append.mpr ⟨before, List.forall_mem_singleton.mpr found.not_unfit⟩

theorem ofLookup_eq (lookup : Text → Option Text) : ofLookup lookup = (do
    let host ← read lookup .host
    let port ← read lookup .port
    let environment ← read lookup .environment
    let logFormat ← read lookup .logFormat
    let probeOrigins ← read lookup .probeOrigins
    let allowedOrigins :=
      ((lookup Setting.allowedOrigins.name).map readOrigins).getD defaults.allowedOrigins
    return { host, port, environment, logFormat, probeOrigins, allowedOrigins }) := rfl

theorem readFrom_ofLookup (lookup : Text → Option Text) : ReadFrom lookup (ofLookup lookup) := by
  rw [ofLookup_eq]
  have before : ∀ r ∈ ([] : List Setting), ¬ Unfit lookup r := nofun
  apply ReadFrom.step rfl before
  intro host foundHost before
  apply ReadFrom.step rfl before
  intro port foundPort before
  apply ReadFrom.step rfl before
  intro environment foundEnvironment before
  apply ReadFrom.step rfl before
  intro logFormat foundFormat before
  apply ReadFrom.step rfl before
  intro probeOrigins foundProbe _
  apply ReadFrom.config
  intro s
  cases s with
  | host => exact foundHost
  | port => exact foundPort
  | environment => exact foundEnvironment
  | logFormat => exact foundFormat
  | probeOrigins => exact foundProbe
  | allowedOrigins => exact found_origins lookup

theorem ext_get {c d : Config} (same : ∀ s, c.get s = d.get s) : c = d := by
  obtain ⟨host, port, environment, logFormat, probeOrigins, allowedOrigins⟩ := c
  cases same .host
  cases same .port
  cases same .environment
  cases same .logFormat
  cases same .probeOrigins
  cases same .allowedOrigins
  rfl

theorem ofLookup_eq_ok {c : Config} :
    ofLookup lookup = .ok c ↔ ∀ s, Found lookup s (c.get s) := by
  have outcome := readFrom_ofLookup lookup
  generalize ofLookup lookup = result at outcome
  cases outcome with
  | config found =>
      rw [Except.ok.injEq]
      constructor
      · rintro rfl
        exact found
      · intro again
        exact ext_get fun s => (found s).unique (again s)
  | fault _ given silent _ =>
      refine iff_of_false nofun fun found => ?_
      exact (found _).not_unfit ⟨_, given, silent⟩

theorem first_unique {α : Type} {P : α → Prop} {before before' after after' : List α} {a a' : α}
    (same : before ++ a :: after = before' ++ a' :: after') (here : P a) (here' : P a')
    (none : ∀ b ∈ before, ¬ P b) (none' : ∀ b ∈ before', ¬ P b) : a = a' := by
  classical
  have found : (before ++ a :: after).find? (fun b => decide (P b)) = some a :=
    List.find?_eq_some_iff_append.mpr ⟨by simpa, before, after, rfl, by simpa⟩
  have found' : (before' ++ a' :: after').find? (fun b => decide (P b)) = some a' :=
    List.find?_eq_some_iff_append.mpr ⟨by simpa, before', after', rfl, by simpa⟩
  rw [same] at found
  exact Option.some.inj (found.symm.trans found')

theorem ofLookup_eq_error {f : Fault} : ofLookup lookup = .error f ↔
    ∃ earlier s later t, Setting.checked = earlier ++ s :: later ∧ lookup s.name = some t ∧
      ¬ s.Admits t ∧ (∀ r ∈ earlier, ¬ Unfit lookup r) ∧ f = ⟨s, s.reported t⟩ := by
  have outcome := readFrom_ofLookup lookup
  generalize ofLookup lookup = result at outcome
  cases outcome with
  | config found =>
      refine iff_of_false nofun ?_
      rintro ⟨-, s, -, t, -, given, silent, -⟩
      exact (found s).not_unfit ⟨t, given, silent⟩
  | @fault earlier later s t order given silent before =>
      rw [Except.error.injEq]
      constructor
      · rintro rfl
        exact ⟨earlier, s, later, t, order, given, silent, before, rfl⟩
      · rintro ⟨earlier', s', later', t', order', given', silent', before', rfl⟩
        obtain rfl := first_unique (order.symm.trans order') ⟨t, given, silent⟩
          ⟨t', given', silent'⟩ before before'
        obtain rfl := Option.some.inj (given.symm.trans given')
        rfl

/-- Two variables say nothing, and the first of them is blamed. -/
example : ofLookup (fun name => List.lookup name
    [("LOG_FORMAT".toList, "xml".toList), ("ENV_SERVICE_PORT".toList, " eighty".toList)]) =
    .error ⟨.port, " eighty"⟩ := by rfl

/-- A configuration comes of the variables exactly if each one that is there says something for its
setting; each field is then what its own variable says, or its default. Otherwise the fault names the
first variable that says nothing, whatever comes after it. Blanks around the texts, and all other
variables, make no difference to a configuration. -/
theorem ofLookup_each_setting (lookup : Text → Option Text) :
    ((∃ c, ofLookup lookup = .ok c) ↔
      ∀ s ∈ Setting.checked, ∀ t, lookup s.name = some t → s.Admits t) ∧
    (∀ c, ofLookup lookup = .ok c ↔ ∀ s, Found lookup s (c.get s)) ∧
    (∀ f, ofLookup lookup = .error f ↔
      ∃ earlier s later t, Setting.checked = earlier ++ s :: later ∧ lookup s.name = some t ∧
        ¬ s.Admits t ∧ (∀ r ∈ earlier, ∀ u, lookup r.name = some u → r.Admits u) ∧
        f = ⟨s, s.reported t⟩) ∧
    ∀ other c, (∀ s : Setting, (other s.name).map Text.trim = (lookup s.name).map Text.trim) →
      ofLookup lookup = .ok c → ofLookup other = .ok c := by
  have fits (r : Setting) : ¬ Unfit lookup r ↔ ∀ t, lookup r.name = some t → r.Admits t := by
    simp only [Unfit, not_exists, not_and, not_not]
  refine ⟨?_, fun c => ofLookup_eq_ok, ?_, ?_⟩
  · constructor
    · rintro ⟨c, accepted⟩ s -
      exact (fits s).mp (ofLookup_eq_ok.mp accepted s).not_unfit
    · intro fit
      cases result : ofLookup lookup with
      | ok c => exact ⟨c, rfl⟩
      | error f =>
          obtain ⟨earlier, s, later, t, order, given, silent, -⟩ := ofLookup_eq_error.mp result
          have inside : s ∈ Setting.checked := by simp [order]
          exact absurd (fit s inside t given) silent
  · intro f
    simp only [ofLookup_eq_error, fits]
  · intro other c same accepted
    rw [ofLookup_eq_ok] at accepted ⊢
    intro s
    exact (found_congr (same s)).mpr (accepted s)

end

/-- The variables of a configuration, and the same with blanks around them and another variable. -/
theorem ofLookup_each_setting_padded :
    let plain : List (Text × Text) :=
      [("ENV_SERVICE_HOST", "fe80::1"), ("ENV_SERVICE_PORT", "+080"), ("MCS_ENV", "dev 2"),
        ("LOG_FORMAT", "Console"), ("CORS_ALLOWED_ORIGINS", "http://a.test, ,http://b.test,")]
    let padded : List (Text × Text) :=
      [("PATH", "/bin"), ("ENV_SERVICE_HOST", "\tfe80::1"), ("ENV_SERVICE_PORT", " +080\n"),
        ("MCS_ENV", "dev 2\u3000"), ("LOG_FORMAT", " Console "),
        ("CORS_ALLOWED_ORIGINS", " http://a.test, ,http://b.test, ")]
    let c : Config :=
      { host := .v6 #v[0xfe80, 0, 0, 0, 0, 0, 0, 1], port := 80, environment := "dev 2",
        logFormat := .pretty, probeOrigins := false,
        allowedOrigins := ["http://a.test", "http://b.test"] }
    (∀ s : Setting, (padded.lookup s.name).map Text.trim = (plain.lookup s.name).map Text.trim) ∧
      ofLookup (fun name => plain.lookup name) = .ok c ∧
      ofLookup (fun name => padded.lookup name) = .ok c := by
  intro plain padded c
  have same (s : Setting) :
      (padded.lookup s.name).map Text.trim = (plain.lookup s.name).map Text.trim := by
    cases s <;> decide +kernel
  have accepted : ofLookup (fun name => plain.lookup name) = .ok c := by rfl
  exact ⟨same, accepted, (ofLookup_each_setting _).2.2.2 _ c same accepted⟩

end Config
end EndpointProfile
