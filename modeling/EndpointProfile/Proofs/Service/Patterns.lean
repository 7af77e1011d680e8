import EndpointProfile.Proofs.Text.Cuts
import EndpointProfile.Service.Metered

/-! The patterns that requests are counted under. A pattern is written like a path, with a name in
braces for any one segment. What is counted under is the registered pattern that fits a path, or a
label of its own where none does. -/
namespace EndpointProfile.Service

/-- The patterns of the service in the order in which they are registered. -/
def Route.patterns : List Text :=
  ["/health", "/liveness", "/readiness", "/metrics", "/env", "/env.js", "/env/\x7bkey\x7d",
    "/networks/\x7bnetwork\x7d"]

/-- Which paths a pattern fits. A name in braces stands for characters of one segment, of which
there is at least one. -/
inductive Fits : Text → Text → Prop
  | nil : Fits [] []
  | char {c : Char} {pattern path : Text} : c ≠ '{' → Fits pattern path →
      Fits (c :: pattern) (c :: path)
  | parameter {name segment pattern path : Text} : '}' ∉ name → segment ≠ [] → '/' ∉ segment →
      Fits pattern path → Fits ('{' :: name ++ '}' :: pattern) (segment ++ path)

/-- What a path is counted under. -/
inductive Labelled (path : Text) : Text → Prop
  | matched {pattern : Text} : pattern ∈ Route.patterns → Fits pattern path → Labelled path pattern
  | unmatched : (∀ pattern ∈ Route.patterns, ¬ Fits pattern path) → Labelled path "unmatched"

section
variable {text pattern path : Text}

theorem fits_nil : Fits [] path ↔ path = [] := by
  constructor
  · intro fits
    cases fits
    rfl
  · intro empty
    rw [empty]
    exact .nil

theorem fits_cons {c : Char} (plain : c ≠ '{') :
    Fits (c :: pattern) path ↔ ∃ rest, path = c :: rest ∧ Fits pattern rest := by
  constructor
  · intro fits
    cases fits with
    | char _ later => exact ⟨_, rfl, later⟩
    | parameter => exact absurd rfl plain
  · intro parts
    obtain ⟨rest, same, later⟩ := parts
    rw [same]
    exact .char plain later

/-- Outside braces a pattern is what it fits. -/
theorem fits_append (plain : '{' ∉ text) :
    Fits (text ++ pattern) path ↔ ∃ rest, path = text ++ rest ∧ Fits pattern rest := by
  induction text generalizing path with
  | nil => simp
  | cons c text ih =>
      rw [List.mem_cons, not_or] at plain
      obtain ⟨first, later⟩ := plain
      rw [List.cons_append, fits_cons (Ne.symm first)]
      constructor
      · intro fits
        obtain ⟨_, rfl, behind⟩ := fits
        obtain ⟨rest, rfl, ends⟩ := (ih later).mp behind
        exact ⟨rest, rfl, ends⟩
      · intro parts
        obtain ⟨rest, rfl, ends⟩ := parts
        exact ⟨text ++ rest, rfl, (ih later).mpr ⟨rest, rfl, ends⟩⟩

theorem fits_text (plain : '{' ∉ text) : Fits text path ↔ path = text := by
  have ends : Fits (text ++ []) path ↔ _ := fits_append plain
  simpa [fits_nil] using ends

theorem fits_parameter {name : Text} (closed : '}' ∉ name) :
    Fits ('{' :: name ++ ['}']) path ↔ path ≠ [] ∧ '/' ∉ path := by
  constructor
  · intro fits
    generalize whole : '{' :: name ++ ['}'] = shape at fits
    cases fits with
    | nil => cases whole
    | char plain => exact absurd (List.cons.inj whole).1.symm plain
    | @parameter other segment pattern rest free some slashless later =>
        have same : name ++ '}' :: [] = other ++ '}' :: pattern := (List.cons.inj whole).2
        obtain ⟨-, -, rfl⟩ := (List.append_cons_inj_of_notMem closed List.not_mem_nil).mp same
        obtain rfl := fits_nil.mp later
        rw [List.append_nil]
        exact ⟨some, slashless⟩
  · intro segment
    have fits := Fits.parameter closed segment.1 segment.2 .nil
    rwa [List.append_nil] at fits

theorem Route.segment?_eq_some {start segment : Text} : Route.segment? start path = some segment ↔
    path = start ++ segment ∧ segment ≠ [] ∧ '/' ∉ segment := by
  simp [Route.segment?, Option.filter_eq_some_iff, Text.dropStart?_eq_some]

theorem fits_segment (start name : Text) (plain : '{' ∉ start) (closed : '}' ∉ name) :
    Fits (start ++ ('{' :: name ++ ['}'])) path ↔
      ∃ segment, Route.segment? start path = some segment := by
  rw [fits_append plain]
  simp only [fits_parameter closed, Route.segment?_eq_some]

theorem fits_key (name : Text) :
    Fits (Route.key name).pattern path ↔ ∃ segment, Route.segment? "/env/" path = some segment :=
  fits_segment "/env/" "key" (by decide) (by decide)

theorem fits_network (name : Text) : Fits (Route.network name).pattern path ↔
    ∃ segment, Route.segment? "/networks/" path = some segment :=
  fits_segment "/networks/" "network" (by decide) (by decide)

theorem pattern_mem_patterns (route : Route) : route.pattern ∈ Route.patterns := by
  cases route with
  | key name => exact (by decide : (Route.key []).pattern ∈ Route.patterns)
  | network name => exact (by decide : (Route.network []).pattern ∈ Route.patterns)
  | _ => decide

/-- A path is led to a route by the pattern of it, which has to fit. -/
theorem Route.fits_of_ofPath? {route : Route} (found : Route.ofPath? path = some route) :
    Fits route.pattern path := by
  unfold Route.ofPath? at found
  split at found
  · next plain among =>
      obtain rfl := Option.some.inj found
      have same : plain.pattern = path := by simpa using List.find?_some among
      have braceless : ∀ r ∈ [health, liveness, readiness, metrics, profile, module],
        '{' ∉ r.pattern := by decide
      exact (fits_text (braceless _ (List.mem_of_find?_eq_some among))).mpr same.symm
  · cases first : Route.segment? "/env/" path with
    | some segment =>
        rw [first] at found
        obtain rfl := Option.some.inj found
        exact (fits_key _).mpr ⟨segment, first⟩
    | none =>
        cases second : Route.segment? "/networks/" path with
        | some segment =>
            rw [first, second] at found
            obtain rfl := Option.some.inj found
            exact (fits_network _).mpr ⟨segment, second⟩
        | none =>
            rw [first, second] at found
            cases found

/-- Below a start that no plain pattern has, the segments decide. -/
theorem Route.ofPath?_of_start (start : Text)
    (own : ∀ r ∈ [health, liveness, readiness, metrics, profile, module], ¬ start <+: r.pattern)
    (segment : Text) : Route.ofPath? (start ++ segment) =
      (((Route.segment? "/env/" (start ++ segment)).map fun s => key (Http.readParameter s)) <|>
        ((Route.segment? "/networks/" (start ++ segment)).map fun s =>
          network (Http.readParameter s))) := by
  have missed : [health, liveness, readiness, metrics, profile, module].find?
      (fun r => r.pattern = start ++ segment) = none := by
    rw [List.find?_eq_none]
    intro r listed same
    exact own r listed ⟨segment, (of_decide_eq_true same).symm⟩
  rw [Route.ofPath?, missed]

/-- Where a registered pattern fits, the path is led to its route: no two of them fit one path. -/
theorem Route.map_pattern_ofPath? (registered : pattern ∈ Route.patterns)
    (fits : Fits pattern path) : (Route.ofPath? path).map Route.pattern = some pattern := by
  simp only [Route.patterns, List.mem_cons, List.not_mem_nil, or_false] at registered
  have literal (plain : '{' ∉ pattern)
      (led : (Route.ofPath? pattern).map Route.pattern = some pattern) :
      (Route.ofPath? path).map Route.pattern = some pattern := by
    rw [(fits_text plain).mp fits]
    exact led
  -- the six patterns without braces each fit one path, their own text
  rcases registered with rfl | rfl | rfl | rfl | rfl | rfl | rfl | rfl
  iterate 6 · exact literal (by decide) rfl
  · obtain ⟨segment, found⟩ := (fits_key []).mp fits
    obtain ⟨rfl, -⟩ := Route.segment?_eq_some.mp found
    rw [Route.ofPath?_of_start "/env/" (by decide), found]
    rfl
  · obtain ⟨segment, found⟩ := (fits_network []).mp fits
    obtain ⟨rfl, -⟩ := Route.segment?_eq_some.mp found
    have other : Route.segment? "/env/" ("/networks/".toList ++ segment) = none := rfl
    rw [Route.ofPath?_of_start "/networks/" (by decide), other, found]
    rfl

/-- What a path is counted under is said by the patterns alone. -/
theorem labelled_iff : Labelled path text ↔ label path = text := by
  constructor
  · intro labelled
    cases labelled with
    | matched registered fits => rw [label, Route.map_pattern_ofPath? registered fits]; rfl
    | unmatched free =>
        cases found : Route.ofPath? path with
        | none => rw [label, found]; rfl
        | some route =>
            exact absurd (Route.fits_of_ofPath? found) (free _ (pattern_mem_patterns route))
  · intro same
    cases found : Route.ofPath? path with
    | some route =>
        rw [label, found] at same
        rw [← same]
        exact .matched (pattern_mem_patterns route) (Route.fits_of_ofPath? found)
    | none =>
        rw [label, found] at same
        rw [← same]
        refine .unmatched ?_
        intro pattern registered fits
        have led := Route.map_pattern_ofPath? registered fits
        rw [found] at led
        cases led

end

theorem labelled_endpoint (r : Http.Request) : Labelled (Http.routePath r.path) (endpoint r) :=
  labelled_iff.mpr rfl

example : endpoint ⟨"GET", "/env%2Ejs", [], none⟩ = "/env.js" := by decide

end EndpointProfile.Service
