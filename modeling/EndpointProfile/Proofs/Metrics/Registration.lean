import Mathlib.Data.List.Induction
import Mathlib.Data.List.Infix
import Mathlib.Data.List.Nodup
import EndpointProfile.Metrics.Registry

/-! Families are registered in groups, and of a group all are registered or none. No name is in two
groups, so that the names in a registry tell which groups it has. -/
namespace EndpointProfile.Metrics

/-- Families that are registered together: those of a service, under its name, or those of
profiles. -/
inductive Group where
  | service (space : Text)
  | usage
  deriving DecidableEq, Repr

namespace Group

/-- What the names of a group are put under. -/
def space : Group → Text
  | service space => space
  | usage => []

def trafficNames : List Text :=
  ["http_requests_total", "http_request_duration_seconds", "http_requests_in_progress",
    "errors_total"]

def usageNames : List Text :=
  ["profile_key_lookups_total", "profile_renders_total"]

/-- The names of the families of a group, without what they are put under. -/
def ownNames : Group → List Text
  | service _ => trafficNames
  | usage => usageNames

def names (g : Group) : List Text :=
  g.ownNames.map (fullName g.space)

end Group

def Registry.enter (r : Registry) : Group → Registry × Option RegistryFault
  | .service space => r.registerService space
  | .usage => r.registerUsage

/-- Registers groups one after another, whatever comes of each. -/
def Registry.enterAll (r : Registry) (groups : List Group) : Registry :=
  groups.foldl (fun r g => (r.enter g).1) r

theorem enter_eq (r : Registry) (g : Group) : r.enter g = r.register g.names := by
  cases g <;> rfl

section Names

variable {g h : Group} {space other x y name : Text}

def start (space : Text) : Text :=
  if space.isEmpty then [] else space ++ "_"

theorem fullName_eq (space x : Text) : fullName space x = start space ++ x := by
  unfold fullName start
  split <;> rfl

theorem start_injective (same : start space = start other) : space = other := by
  cases space <;> cases other <;> simp_all [start]

/-- No family has a name that ends in the name of another one. -/
theorem own_apart (hx : x ∈ Group.trafficNames ++ Group.usageNames)
    (hy : y ∈ Group.trafficNames ++ Group.usageNames) (ends : x <:+ y) : x = y := by
  have each : ∀ x ∈ Group.trafficNames ++ Group.usageNames,
      ∀ y ∈ Group.trafficNames ++ Group.usageNames, x <:+ y → x = y := by decide
  exact each x hx y hy ends

theorem mem_all_of_mem_own (own : x ∈ g.ownNames) : x ∈ Group.trafficNames ++ Group.usageNames := by
  cases g with
  | service => exact List.mem_append_left _ own
  | usage => exact List.mem_append_right _ own

theorem group_eq (spaces : g.space = h.space) (here : x ∈ g.ownNames) (there : x ∈ h.ownNames) :
    g = h := by
  have apart : ∀ x ∈ Group.trafficNames, x ∉ Group.usageNames := by decide
  cases g with
  | service =>
      cases h with
      | service => exact congrArg Group.service spaces
      | usage => exact absurd there (apart x here)
  | usage =>
      cases h with
      | service => exact absurd here (apart x there)
      | usage => rfl

theorem name_unique (here : name ∈ g.names) (there : name ∈ h.names) : g = h := by
  obtain ⟨x, own, rfl⟩ := List.mem_map.mp here
  obtain ⟨y, own', same⟩ := List.mem_map.mp there
  rw [fullName_eq, fullName_eq] at same
  have ends : x = y := by
    have allX := mem_all_of_mem_own own
    have allY := mem_all_of_mem_own own'
    have endX : x <:+ start g.space ++ x := List.suffix_append _ x
    have endY : y <:+ start g.space ++ x := same ▸ List.suffix_append _ y
    rcases List.suffix_or_suffix_of_suffix endX endY with ends | ends
    · exact own_apart allX allY ends
    · exact (own_apart allY allX ends).symm
  subst ends
  exact group_eq (start_injective (List.append_cancel_right same)).symm own own'

theorem nodup_names (g : Group) : g.names.Nodup := by
  have own : g.ownNames.Nodup := by
    have traffic : Group.trafficNames.Nodup := by decide
    have usage : Group.usageNames.Nodup := by decide
    cases g <;> assumption
  apply own.map
  intro x y same
  rw [fullName_eq, fullName_eq] at same
  exact List.append_cancel_left same

/-- The names of a group are valid if what they are put under is, or is empty. -/
theorem isValidName_iff (named : name ∈ g.names) :
    isValidName name = true ↔ g.space = [] ∨ isValidName g.space = true := by
  obtain ⟨x, own, rfl⟩ := List.mem_map.mp named
  have valid : ∀ x ∈ Group.trafficNames ++ Group.usageNames, isValidName x = true ∧
      x.all (fun c => isNameStart c || c.isDigit) = true := by decide
  obtain ⟨alone, later⟩ := valid x (mem_all_of_mem_own own)
  have joint : isNameStart '_' = true := by decide
  rw [fullName_eq, start]
  cases g.space with
  | nil => simp [alone]
  | cons c rest => simp [isValidName, joint, later]

theorem exists_names (g : Group) : ∃ first rest, g.names = first :: rest := by
  cases g <;> exact ⟨_, _, rfl⟩

end Names

theorem register_of_fresh {names : List Text} (distinct : names.Nodup)
    (valid : ∀ name ∈ names, isValidName name = true) {r : Registry}
    (fresh : ∀ name ∈ names, name ∉ r) : r.register names = (r ++ names, none) := by
  induction names generalizing r with
  | nil => rw [Registry.register, List.append_nil]
  | cons name names ih =>
      obtain ⟨other, distinct⟩ := List.nodup_cons.mp distinct
      obtain ⟨here, valid⟩ := List.forall_mem_cons.mp valid
      obtain ⟨new, fresh⟩ := List.forall_mem_cons.mp fresh
      have later : ∀ n ∈ names, n ∉ r ++ [name] := by
        intro n hn inside
        rcases List.mem_append.mp inside with before | same
        · exact fresh n hn before
        · exact other (List.mem_singleton.mp same ▸ hn)
      rw [Registry.register, here, if_neg (by simp), if_neg new, ih distinct valid later,
        List.append_assoc, List.singleton_append]

/-- The registry has the names of some groups, and no others. -/
structure Holds (r : Registry) (has : Group → Prop) : Prop where
  nodup : r.Nodup
  mem_iff : ∀ name, name ∈ r ↔ ∃ g, has g ∧ name ∈ g.names

/-- What comes of a group in a registry that has some groups. -/
inductive Entered (r : Registry) (has : Group → Prop) (g : Group) :
    Registry × Option RegistryFault → Prop where
  | whole (valid : ∀ name ∈ g.names, isValidName name = true) (new : ¬ has g) :
      Entered r has g (r ++ g.names, none)
  | taken (valid : ∀ name ∈ g.names, isValidName name = true) (known : has g) :
      Entered r has g (r, some .taken)
  | badName {name : Text} (first : g.names.head? = some name) (invalid : isValidName name = false) :
      Entered r has g (r, some (.badName name))

section
variable {r : Registry} {has : Group → Prop}

theorem Entered.succeeds_iff {g : Group} {result : Registry × Option RegistryFault}
    (entered : Entered r has g result) :
    result.2 = none ↔ (∀ name ∈ g.names, isValidName name = true) ∧ ¬ has g := by
  cases entered with
  | whole valid new => exact iff_of_true rfl ⟨valid, new⟩
  | taken _ known => exact iff_of_false nofun fun ⟨_, new⟩ => new known
  | badName first invalid =>
      refine iff_of_false nofun fun ⟨valid, _⟩ => ?_
      rw [valid _ (List.mem_of_head? first)] at invalid
      cases invalid

theorem Entered.registry_eq {g : Group} {result : Registry × Option RegistryFault}
    (entered : Entered r has g result) :
    result.1 = if result.2 = none then r ++ g.names else r := by
  cases entered with
  | whole => rw [if_pos rfl]
  | taken => rw [if_neg nofun]
  | badName => rw [if_neg nofun]

theorem Holds.entered (holds : Holds r has) (g : Group) : Entered r has g (r.enter g) := by
  -- the first name decides for all of them
  obtain ⟨first, rest, order⟩ := exists_names g
  have listed : first ∈ g.names := order ▸ List.mem_cons_self
  have known : ∀ name ∈ g.names, name ∈ r ↔ has g := by
    intro name named
    rw [holds.mem_iff]
    constructor
    · rintro ⟨h, there, same⟩
      exact name_unique named same ▸ there
    · intro there
      exact ⟨g, there, named⟩
  rw [enter_eq]
  cases validity : isValidName first with
  | false =>
      have refused : r.register g.names = (r, some (.badName first)) := by
        rw [order, Registry.register, validity]
        rfl
      rw [refused]
      exact .badName (by rw [order]; rfl) validity
  | true =>
      have valid : ∀ name ∈ g.names, isValidName name = true := by
        intro name named
        rw [isValidName_iff named, ← isValidName_iff listed]
        exact validity
      by_cases there : has g
      · have refused : r.register g.names = (r, some .taken) := by
          rw [order, Registry.register, validity, if_neg (by simp),
            if_pos ((known first listed).mpr there)]
        rw [refused]
        exact .taken valid there
      · rw [register_of_fresh (nodup_names g) valid fun name named =>
          (known name named).not.mpr there]
        exact .whole valid there

/-- A group that is registered joins those that the registry has, and one that is not changes
nothing. -/
theorem Holds.enter (holds : Holds r has) (g : Group) :
    Holds (r.enter g).1 fun h => has h ∨ h = g ∧ (r.enter g).2 = none := by
  have entered := holds.entered g
  generalize r.enter g = result at entered ⊢
  cases entered with
  | whole valid new =>
      constructor
      · refine List.Nodup.append holds.nodup (nodup_names g) ?_
        intro name here named
        obtain ⟨h, there, same⟩ := (holds.mem_iff name).mp here
        exact new (name_unique named same ▸ there)
      · intro name
        rw [List.mem_append, holds.mem_iff]
        constructor
        · rintro (⟨h, there, named⟩ | named)
          · exact ⟨h, .inl there, named⟩
          · exact ⟨g, .inr ⟨rfl, rfl⟩, named⟩
        · rintro ⟨h, there | ⟨rfl, -⟩, named⟩
          · exact .inl ⟨h, there, named⟩
          · exact .inr named
  | taken | badName => simpa using holds

end

/-- Some call registered the group, in the registry that those before it left. -/
def Succeeded (calls : List Group) (g : Group) : Prop :=
  ∃ earlier later, calls = earlier ++ g :: later ∧
    ((Registry.enterAll [] earlier).enter g).2 = none

theorem succeeded_concat {calls : List Group} {g h : Group} : Succeeded (calls ++ [g]) h ↔
    Succeeded calls h ∨ h = g ∧ ((Registry.enterAll [] calls).enter g).2 = none := by
  constructor
  · rintro ⟨earlier, later, same, done⟩
    rcases List.eq_nil_or_concat later with rfl | ⟨later, last, rfl⟩
    · obtain ⟨rfl, ends⟩ := List.append_inj' same rfl
      cases ends
      exact .inr ⟨rfl, done⟩
    · rw [List.concat_eq_append, ← List.cons_append, ← List.append_assoc] at same
      exact .inl ⟨earlier, later, (List.append_inj' same rfl).1, done⟩
  · rintro (⟨earlier, later, rfl, done⟩ | ⟨rfl, done⟩)
    · exact ⟨earlier, later ++ [g], by simp, done⟩
    · exact ⟨calls, [], rfl, done⟩

/-- After any calls the registry has the groups of those that succeeded. -/
theorem holds_enterAll (calls : List Group) :
    Holds (Registry.enterAll [] calls) (Succeeded calls) := by
  induction calls using List.reverseRecOn with
  | nil =>
      refine ⟨List.nodup_nil, fun name => iff_of_false List.not_mem_nil ?_⟩
      rintro ⟨g, ⟨earlier, later, same, -⟩, -⟩
      exact absurd same (by simp)
  | append_singleton calls g ih =>
      have joined : Registry.enterAll [] (calls ++ [g]) =
          ((Registry.enterAll [] calls).enter g).1 := List.foldl_append
      have groups : Succeeded (calls ++ [g]) = fun h => Succeeded calls h ∨
          h = g ∧ ((Registry.enterAll [] calls).enter g).2 = none :=
        funext fun h => propext succeeded_concat
      rw [joined, groups]
      exact ih.enter g

/-- The same name again changes nothing, and a name that goes on from it is another one. -/
example : Registry.enterAll [] [.service "env", .service "env", .service "env_http"] =
    (Group.service "env").names ++ (Group.service "env_http").names := by decide

/-- Whatever calls came before, a group is registered exactly if its names are valid and no call
before has registered it. All its families are then new in the registry, in which no name comes
twice; otherwise the registry stays as it was. -/
theorem enter_whole_or_nothing (calls : List Group) (g : Group) :
    let r := Registry.enterAll [] calls
    ((r.enter g).2 = none ↔
      (∀ name ∈ g.names, isValidName name = true) ∧ ¬ Succeeded calls g) ∧
    ((r.enter .usage).2 = none ↔ ¬ Succeeded calls .usage) ∧
    (r.enter g).1 = (if (r.enter g).2 = none then r ++ g.names else r) ∧ (r.enter g).1.Nodup ∧
    (∀ space, (Group.service space).names = (Traffic.families space .empty).map (·.name) ∧
      (Group.service space).names.length = 4) ∧
    Group.usage.names = (Usage.families .empty).map (·.name) ∧ Group.usage.names.length = 2 := by
  intro r
  have holds : Holds r (Succeeded calls) := holds_enterAll calls
  have valid : ∀ name ∈ Group.usage.names, isValidName name = true := by decide
  have usage : (r.enter .usage).2 = none ↔ ¬ Succeeded calls .usage :=
    (holds.entered .usage).succeeds_iff.trans (and_iff_right valid)
  exact ⟨(holds.entered g).succeeds_iff, usage, (holds.entered g).registry_eq,
    (holds.enter g).nodup, fun space => ⟨rfl, rfl⟩, rfl, rfl⟩

end EndpointProfile.Metrics
