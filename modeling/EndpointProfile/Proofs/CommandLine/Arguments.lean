import Mathlib.Data.List.Nodup
import EndpointProfile.CommandLine.Arguments
import EndpointProfile.Proofs.Checks
import EndpointProfile.Proofs.Text.Cuts

/-! What the arguments of a command line ask for. They spell options with their values, one after
another, and are accepted where there are options that have just these values. -/
namespace EndpointProfile.CommandLine

/-- An argument that can be the value of the option before it. -/
def IsValue (t : Text) : Prop := ∀ letter rest, t ≠ '-' :: letter :: rest

/-- How options with values are spelled. Two hyphens alone may end the arguments. -/
inductive Spelled : List (Choice × Text) → List Text → Prop
  | nothing : Spelled [] []
  | ended : Spelled [] ["--"]
  | apart {c : Choice} {v : Text} {asked : List (Choice × Text)} {rest : List Text} :
      IsValue v → Spelled asked rest → Spelled ((c, v) :: asked) (("--" ++ c.name) :: v :: rest)
  | joined {c : Choice} {v : Text} {asked : List (Choice × Text)} {rest : List Text} :
      Spelled asked rest → Spelled ((c, v) :: asked) (("--" ++ (c.name ++ '=' :: v)) :: rest)

/-- The value of an option, as it is spelled. -/
def Options.value? (o : Options) : Choice → Option Text
  | .format => o.format.map Format.name
  | .variant => o.variant
  | .check => o.check

/-- Each option is asked for at most once and has the value that it is asked for with. The name of a
file is not empty. -/
structure Options.Answers (o : Options) (asked : List (Choice × Text)) : Prop where
  once : (asked.map Prod.fst).Nodup
  value : ∀ c v, o.value? c = some v ↔ (c, v) ∈ asked
  file : o.value? .check ≠ some []

theorem find?_format (f : Format) : Format.all.find? (fun g => g.name = f.name) = some f := by
  cases f <;> rfl

theorem format_name_injective : Function.Injective Format.name := by
  intro f g same
  have found := find?_format f
  rw [same, find?_format g] at found
  exact (Option.some.inj found).symm

section
variable {o o' : Options} {c : Choice} {v : Text} {asked : List (Choice × Text)}

theorem Options.eq_of_value? (same : ∀ c, o.value? c = o'.value? c) : o = o' := by
  obtain ⟨format, variant, check⟩ := o
  obtain ⟨format', variant', check'⟩ := o'
  have formats : format = format' := Option.map_injective format_name_injective (same .format)
  have variants : variant = variant' := same .variant
  have checks : check = check' := same .check
  rw [formats, variants, checks]

/-- An option that had no value takes one. -/
structure Options.Sets (o : Options) (c : Choice) (v : Text) (o' : Options) : Prop where
  new : o.value? c = .none
  value : o'.value? = Function.update o.value? c (some v)
  file : c = .check → v ≠ []

theorem given_eq_isSome (o : Options) (c : Choice) : given o c = (o.value? c).isSome := by
  cases c with
  | format => exact Option.isSome_map.symm
  | variant | check => rfl

theorem sets_of_set (h : o.set c (some v) = .ok o') : o.Sets c v o' := by
  simp only [Options.set, given_eq_isSome] at h
  split at h
  · cases h
  · next absent =>
      have new : o.value? c = .none := by simpa using absent
      cases c with
      | variant =>
          cases h
          exact ⟨new, funext fun d => by cases d <;> rfl, nofun⟩
      | check =>
          simp only at h
          split at h
          · cases h
          · next named =>
              cases h
              exact ⟨new, funext fun d => by cases d <;> rfl, fun _ => by simpa using named⟩
      | format =>
          simp only at h
          split at h
          · next f found =>
              cases h
              obtain rfl : f.name = v := by simpa using List.find?_some found
              exact ⟨new, funext fun d => by cases d <;> rfl, nofun⟩
          · cases h

theorem Options.Sets.exists_set (h : o.Sets c v o') : ∃ o'', o.set c (some v) = .ok o'' := by
  have new : ¬ given o c = true := by simp [given_eq_isSome, h.new]
  simp only [Options.set, if_neg new]
  cases c with
  | variant => exact ⟨_, rfl⟩
  | check =>
      simp only [List.isEmpty_iff, if_neg (h.file rfl)]
      exact ⟨_, rfl⟩
  | format =>
      have own : o'.value? .format = some v := congrFun h.value .format
      obtain ⟨f, -, rfl⟩ := Option.map_eq_some_iff.mp own
      simp only [find?_format]
      exact ⟨_, rfl⟩

theorem set_eq_ok : o.set c (some v) = .ok o' ↔ o.Sets c v o' := by
  constructor
  · exact sets_of_set
  · intro h
    obtain ⟨o'', done⟩ := h.exists_set
    rw [done, Options.eq_of_value? (congrFun ((sets_of_set done).value.trans h.value.symm))]

def Options.setAll (o : Options) (asked : List (Choice × Text)) : Except Stop Options :=
  asked.foldlM (fun o x => o.set x.1 (some x.2)) o

theorem setAll_cons : o.setAll ((c, v) :: asked) = .ok o' ↔
    ∃ o₁, o.set c (some v) = .ok o₁ ∧ o₁.setAll asked = .ok o' := by
  rw [Options.setAll, List.foldlM_cons]
  exact bind_eq_ok

theorem setAll_concat : o.setAll (asked ++ [(c, v)]) = .ok o' ↔
    ∃ o₁, o.setAll asked = .ok o₁ ∧ o₁.set c (some v) = .ok o' := by
  rw [Options.setAll, List.foldlM_append]
  refine bind_eq_ok.trans ?_
  simp only [List.foldlM_cons, List.foldlM_nil, bind_pure]
  rfl

def Options.without (o : Options) : Choice → Options
  | .format => { o with format := .none }
  | .variant => { o with variant := .none }
  | .check => { o with check := .none }

theorem value?_without (o : Options) (c : Choice) :
    (o.without c).value? = Function.update o.value? c .none := by
  funext d
  cases c <;> cases d <;> rfl

theorem answers_nil : o.Answers [] ↔ o = .none := by
  constructor
  · intro h
    refine Options.eq_of_value? fun c => ?_
    have absent : ∀ v, o.value? c ≠ some v := by
      intro v has
      exact List.not_mem_nil ((h.value c v).mp has)
    rw [Option.eq_none_iff_forall_ne_some.mpr absent]
    cases c <;> rfl
  · intro h
    rw [h]
    exact ⟨List.nodup_nil, fun c v => by cases c <;> exact iff_of_false nofun List.not_mem_nil, nofun⟩

theorem answers_concat : o'.Answers (asked ++ [(c, v)]) ↔
    ∃ o : Options, o.Answers asked ∧ o.Sets c v o' := by
  have names : ((asked ++ [(c, v)]).map Prod.fst).Nodup ↔
      c ∉ asked.map Prod.fst ∧ (asked.map Prod.fst).Nodup := by
    rw [List.map_append, ← List.nodup_concat, List.concat_eq_append]
    rfl
  constructor
  · intro h
    obtain ⟨new, once⟩ := names.mp h.once
    have value : o'.value? c = some v := (h.value c v).mpr (by simp)
    -- before the last option was set, it had no value, and the others had the ones they have
    refine ⟨o'.without c, ⟨once, ?_, ?_⟩, ⟨?_, ?_, ?_⟩⟩
    · intro d w
      rw [value?_without, Function.update_apply]
      split
      · next same =>
          subst same
          refine iff_of_false nofun fun among => new ?_
          exact List.mem_map.mpr ⟨_, among, rfl⟩
      · next other => simp [h.value, other]
    · rw [value?_without, Function.update_apply]
      split
      · nofun
      · exact h.file
    · rw [value?_without, Function.update_self]
    · rw [value?_without, Function.update_idem, ← value, Function.update_eq_self]
    · intro same empty
      rw [same, empty] at value
      exact h.file value
  · intro h
    obtain ⟨o, answers, sets⟩ := h
    have value := congrFun sets.value
    simp only [Function.update_apply] at value
    have new : c ∉ asked.map Prod.fst := by
      intro among
      obtain ⟨⟨d, w⟩, listed, rfl⟩ := List.mem_map.mp among
      have has := (answers.value d w).mpr listed
      rw [sets.new] at has
      cases has
    refine ⟨?_, ?_, ?_⟩
    · exact names.mpr ⟨new, answers.once⟩
    · intro d w
      rw [value]
      split
      · next same =>
          subst same
          have missing : (d, w) ∉ asked := fun among => new (List.mem_map.mpr ⟨_, among, rfl⟩)
          simp [missing, eq_comm]
      · next other => simp [answers.value, other]
    · rw [value]
      split
      · next same =>
          intro empty
          exact sets.file same.symm (Option.some.inj empty)
      · exact answers.file

theorem setAll_eq_ok : Options.none.setAll asked = .ok o ↔ o.Answers asked := by
  induction asked using List.reverseRecOn generalizing o with
  | nil =>
      rw [answers_nil]
      constructor
      · intro h
        cases h
        rfl
      · intro h
        rw [h]
        rfl
  | append_singleton asked x ih =>
      obtain ⟨c, v⟩ := x
      simp only [setAll_concat, answers_concat, ih, set_eq_ok]

end

/-- What an argument makes of the options so far, where it is accepted. -/
inductive Takes : Progress → Text → Progress → Prop
  | opened {p : Progress} {o : Options} {c : Choice} : p.settle = .ok o →
      Takes p ("--" ++ c.name) ⟨o, some (c, none)⟩
  | joined {p : Progress} {o o' : Options} {c : Choice} {v : Text} : p.settle = .ok o →
      o.set c (some v) = .ok o' → Takes p ("--" ++ (c.name ++ '=' :: v)) ⟨o', none⟩
  | value {o : Options} {c : Choice} {v : Text} : IsValue v →
      Takes ⟨o, some (c, none)⟩ v ⟨o, some (c, some v)⟩

section
variable {p p' : Progress} {o o' : Options} {t : Text}

theorem flag_ne_ok (p : Progress) (stop : Stop) : flag p stop ≠ .ok p' := by
  intro h
  obtain ⟨_, -, ⟨⟩⟩ := bind_eq_ok.mp h

theorem takeLong_name (p : Progress) (c : Choice) :
    takeLong p c.name = p.settle.bind fun o => .ok ⟨o, some (c, none)⟩ := by
  cases c <;> rfl

theorem takeLong_joined (p : Progress) (c : Choice) (v : Text) : takeLong p (c.name ++ '=' :: v) =
    p.settle.bind fun o => (o.set c (some v)).map fun o => ⟨o, none⟩ := by
  cases c <;> rfl

theorem takes_of_takeLong (h : takeLong p t = .ok p') : Takes p ("--" ++ t) p' := by
  cases cut : Text.cutAt? '=' t with
  | none =>
      simp only [takeLong, cut] at h
      split at h
      · exact absurd h (flag_ne_ok p _)
      · split at h
        · exact absurd h (flag_ne_ok p _)
        · split at h
          · cases h
          · next c found =>
              obtain rfl : c.name = t := by simpa using List.find?_some found
              obtain ⟨o, settled, ⟨⟩⟩ := bind_eq_ok.mp h
              exact .opened settled
  | some parts =>
      obtain ⟨name, v⟩ := parts
      obtain ⟨rfl, -⟩ := Text.cutAt?_eq_some.mp cut
      simp only [takeLong, cut] at h
      split at h
      · cases h
      · split at h
        · cases h
        · split at h
          · cases h
          · next c found =>
              obtain rfl : c.name = name := by simpa using List.find?_some found
              obtain ⟨o, settled, h⟩ := bind_eq_ok.mp h
              cases set : o.set c (some v) with
              | error stop =>
                  rw [set] at h
                  cases h
              | ok o' =>
                  rw [set] at h
                  cases h
                  exact .joined settled set

theorem takeShort_ne_ok (p : Progress) (letter : Char) : takeShort p letter ≠ .ok p' := by
  unfold takeShort
  split
  · exact flag_ne_ok p _
  · split
    · exact flag_ne_ok p _
    · nofun

theorem take_eq_ok : take p t = .ok p' ↔ Takes p t p' := by
  constructor
  · intro h
    unfold take at h
    split at h
    · exact takes_of_takeLong h
    · exact absurd h (takeShort_ne_ok p _)
    · next long short =>
        unfold takeValue at h
        split at h
        · next c opened =>
            obtain ⟨o, pending⟩ := p
            cases opened
            cases h
            exact .value short
        · cases h
  · intro h
    cases h with
    | opened settled =>
        refine (takeLong_name p _).trans ?_
        rw [settled]
        rfl
    | joined settled set =>
        refine (takeLong_joined p _ _).trans ?_
        rw [settled, Except.bind, set]
        rfl
    | value plain =>
        unfold take
        split
        · exact absurd rfl (plain _ _)
        · exact absurd rfl (plain _ _)
        · rfl

theorem name_ne_nil (c : Choice) : c.name ≠ [] := by
  cases c <;> nofun

theorem not_takes_hyphens : ¬ Takes p "--" p' := by
  intro h
  generalize hyphens : "--".toList = t at h
  cases h with
  | opened => exact name_ne_nil _ (List.self_eq_append_right.mp hyphens)
  | joined =>
      have nothing := List.self_eq_append_right.mp hyphens
      exact List.cons_ne_nil _ _ (List.append_eq_nil_iff.mp nothing).2
  | value plain => exact plain '-' [] hyphens.symm

theorem readFrom_nil (p : Progress) : readFrom p [] = p.settle := rfl

theorem readFrom_cons_eq_ok {rest : List Text} : readFrom p (t :: rest) = .ok o ↔
    (t = "--".toList ∧ rest = [] ∧ p.settle = .ok o) ∨
      ∃ p', Takes p t p' ∧ readFrom p' rest = .ok o := by
  by_cases hyphens : t = "--".toList
  · subst hyphens
    simp only [readFrom, true_and, not_takes_hyphens, false_and, exists_false, or_false]
    cases rest with
    | nil => simp
    | cons a rest => simp
  · simp only [readFrom, hyphens, if_false, bind_eq_ok, take_eq_ok, false_and, false_or]

/-- An option that has its value may as well be settled before the next argument. -/
theorem takes_settled {c : Choice} {v : Text} :
    Takes ⟨o, some (c, some v)⟩ t p' ↔ ∃ o₁, o.set c (some v) = .ok o₁ ∧ Takes ⟨o₁, none⟩ t p' := by
  constructor
  · intro h
    cases h with
    | opened settled => exact ⟨_, settled, .opened rfl⟩
    | joined settled set => exact ⟨_, settled, .joined rfl set⟩
  · intro h
    obtain ⟨o₁, settled, h⟩ := h
    cases h with
    | opened same =>
        cases same
        exact .opened settled
    | joined same set =>
        cases same
        exact .joined settled set

theorem readFrom_settled {c : Choice} {v : Text} {arguments : List Text} :
    readFrom ⟨o, some (c, some v)⟩ arguments = .ok o' ↔
      ∃ o₁, o.set c (some v) = .ok o₁ ∧ readFrom ⟨o₁, none⟩ arguments = .ok o' := by
  cases arguments with
  | nil => simp [readFrom_nil, Progress.settle]
  | cons t rest =>
      simp only [readFrom_cons_eq_ok, takes_settled]
      constructor
      · intro h
        obtain ⟨hyphens, last, settled⟩ | ⟨p, ⟨o₁, settled, taken⟩, later⟩ := h
        · exact ⟨o', settled, .inl ⟨hyphens, last, rfl⟩⟩
        · exact ⟨o₁, settled, .inr ⟨p, taken, later⟩⟩
      · intro h
        obtain ⟨o₁, settled, ⟨hyphens, last, same⟩ | ⟨p, taken, later⟩⟩ := h
        · cases same
          exact .inl ⟨hyphens, last, settled⟩
        · exact .inr ⟨p, ⟨o₁, settled, taken⟩, later⟩

theorem readFrom_opened {c : Choice} {arguments : List Text}
    (h : readFrom ⟨o, some (c, none)⟩ arguments = .ok o') : ∃ v rest, arguments = v :: rest ∧
      IsValue v ∧ readFrom ⟨o, some (c, some v)⟩ rest = .ok o' := by
  cases arguments with
  | nil => cases h
  | cons t rest =>
      obtain ⟨-, -, ⟨⟩⟩ | ⟨p, taken, h⟩ := readFrom_cons_eq_ok.mp h
      cases taken with
      | opened settled | joined settled => cases settled
      | value plain => exact ⟨t, rest, rfl, plain, h⟩

/-- Arguments are accepted where they spell options that can be set one after another. -/
theorem readFrom_eq_ok {arguments : List Text} : readFrom ⟨o, none⟩ arguments = .ok o' ↔
    ∃ asked, Spelled asked arguments ∧ o.setAll asked = .ok o' := by
  constructor
  · intro h
    -- an option takes one argument or two, so the induction is on how many are left
    induction size : arguments.length using Nat.strong_induction_on generalizing arguments o with
    | h n ih =>
      cases arguments with
      | nil => exact ⟨[], .nothing, h⟩
      | cons t rest =>
          obtain ⟨rfl, rfl, settled⟩ | ⟨p, taken, h⟩ := readFrom_cons_eq_ok.mp h
          · exact ⟨[], .ended, settled⟩
          · cases taken with
            | opened same =>
                cases same
                obtain ⟨v, rest, rfl, plain, h⟩ := readFrom_opened h
                obtain ⟨o₁, first, h⟩ := readFrom_settled.mp h
                have shorter : rest.length < n := by
                  simp only [← size, List.length_cons]
                  omega
                obtain ⟨asked, spelled, later⟩ := ih rest.length shorter h rfl
                exact ⟨_ :: asked, .apart plain spelled, setAll_cons.mpr ⟨o₁, first, later⟩⟩
            | joined same first =>
                cases same
                have shorter : rest.length < n := by
                  simp only [← size, List.length_cons]
                  omega
                obtain ⟨asked, spelled, later⟩ := ih rest.length shorter h rfl
                exact ⟨_ :: asked, .joined spelled, setAll_cons.mpr ⟨_, first, later⟩⟩
  · intro h
    obtain ⟨asked, spelled, set⟩ := h
    induction spelled generalizing o with
    | nothing => exact set
    | ended => exact set
    | apart plain _ ih =>
        obtain ⟨o₁, first, later⟩ := setAll_cons.mp set
        have rest := readFrom_settled.mpr ⟨o₁, first, ih later⟩
        have value := readFrom_cons_eq_ok.mpr (.inr ⟨_, .value plain, rest⟩)
        exact readFrom_cons_eq_ok.mpr (.inr ⟨_, .opened rfl, value⟩)
    | joined _ ih =>
        obtain ⟨o₁, first, later⟩ := setAll_cons.mp set
        exact readFrom_cons_eq_ok.mpr (.inr ⟨_, .joined rfl first, ih later⟩)

/-- What the arguments are read as: the options that have the values that were asked for. -/
theorem readArguments_eq_ok {arguments : List Text} : readArguments arguments = .ok o ↔
    ∃ asked, Spelled asked arguments ∧ o.Answers asked := by
  rw [readArguments, readFrom_eq_ok]
  simp only [setAll_eq_ok]

end
end EndpointProfile.CommandLine
