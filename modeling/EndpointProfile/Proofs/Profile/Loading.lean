import EndpointProfile.Proofs.Dotenv.Value
import EndpointProfile.Proofs.Profile.Dotenv
import EndpointProfile.Proofs.Profile.Transactions

/-! What a profile in variable assignments defines when it is loaded. Values that are plain are
defined as they are, and the first that is not plain is the first that is lost. -/
namespace EndpointProfile.Profile
open Dotenv

theorem bare_named (k : Key) : Text.Bare isBlank (k.name ++ ['=']) := by
  cases k <;> decide

theorem readTarget_named (k : Key) (t : Text) :
    readTarget (k.name ++ '=' :: t) = some (k.name, t) := by
  cases k <;> rfl

/-- The line of a key assigns to its variable, or cannot be read. -/
theorem readLine_line (env : Environment) (kl : Key × Literal) :
    readLine env (line kl) = match readText env kl.2.unquoted with
      | some v => .assignment kl.1.name v
      | none => .unreadable := by
  obtain ⟨k, l⟩ := kl
  have trimmed : Text.trim (line (k, l)) = k.name ++ '=' :: Text.trimEnd l.unquoted := by
    have cut := Text.trim_append (bare_named k) (by simp) l.unquoted
    simpa [line] using cut
  have something : isNothing (k.name ++ '=' :: Text.trimEnd l.unquoted) = false := by
    cases k <;> rfl
  simp only [readLine, trimmed, something, readTarget_named, Text.trimStart_trimEnd, readText,
    Bool.false_eq_true, if_false]
  split <;> rfl

section
variable {env : Environment} {k : Key}

theorem loadLines_line (new : env.lookup k.name = none) (l : Literal) (lines : List Text) :
    loadLines env (line (k, l) :: lines) = match readText env l.unquoted with
      | some v => loadLines (env ++ [(k.name, v)]) lines
      | none => env := by
  rw [loadLines, readLine_line]
  cases readText env l.unquoted with
  | none => rfl
  | some v => simp [define, new]

theorem prefix_loadLines (env : Environment) (lines : List Text) : env <+: loadLines env lines := by
  induction lines generalizing env with
  | nil => exact List.prefix_rfl
  | cons line lines ih =>
      rw [loadLines]
      split
      · exact ih env
      · next name value _ =>
          refine List.IsPrefix.trans ?_ (ih (define env name value))
          rw [define]
          split
          · exact List.prefix_rfl
          · exact List.prefix_append _ _
      · exact List.prefix_rfl

theorem lookup_of_prefix {more : Environment} (longer : env <+: more) {name value : Text}
    (found : env.lookup name = some value) : more.lookup name = some value := by
  obtain ⟨later, rfl⟩ := longer
  rw [List.lookup_append, found]
  rfl

theorem lookup_concat (new : env.lookup k.name = none) (v : Text) :
    (env ++ [(k.name, v)]).lookup k.name = some v := by
  rw [List.lookup_append, new, Option.none_or, List.lookup_cons_self]

theorem lookup_concat_other {ks : List Key} (other : k ∉ ks)
    (new : ∀ j ∈ ks, env.lookup j.name = none) (v : Text) :
    ∀ j ∈ ks, (env ++ [(k.name, v)]).lookup j.name = none := by
  intro j hj
  have names : j.name ≠ k.name := by
    intro same
    have found := Key.ofName?_name j
    rw [same, Key.ofName?_name, Option.some_inj] at found
    exact other (found ▸ hj)
  rw [List.lookup_append, new j hj, Option.none_or, List.lookup_cons, beq_false_of_ne names]
  rfl

theorem quiet_concat (quiet : Quiet env) {v : Text} (plain : Plain v) (name : Text) :
    Quiet (env ++ [(name, v)]) := by
  rw [Quiet, List.forall_mem_append, List.forall_mem_singleton]
  refine ⟨quiet, fun c inside => ?_⟩
  have unmarked := plain.unmarked c inside
  simp only [isMark, Bool.or_eq_false_iff] at unmarked
  exact unmarked.1.1

end

section
variable (p : Profile) {ks : List Key} {env : Environment}

def linesOf (ks : List Key) : List Text :=
  ks.map fun k => line (k, p.get k)

/-- Lines of keys define the variables of the first of them, and nothing else. -/
theorem names_loadLines (distinct : ks.Nodup) (new : ∀ k ∈ ks, env.lookup k.name = none) :
    ∃ n, (loadLines env (p.linesOf ks)).map Prod.fst =
      env.map Prod.fst ++ (ks.take n).map Key.name := by
  induction ks generalizing env with
  | nil => exact ⟨0, by simp [linesOf, loadLines]⟩
  | cons k ks ih =>
      obtain ⟨other, distinct⟩ := List.nodup_cons.mp distinct
      obtain ⟨here, later⟩ := List.forall_mem_cons.mp new
      rw [linesOf, List.map_cons, loadLines_line here]
      cases readText env (p.get k).unquoted with
      | none => exact ⟨0, by simp⟩
      | some v =>
          obtain ⟨n, names⟩ := ih distinct (lookup_concat_other other later v)
          exact ⟨n + 1, by simpa [linesOf] using names⟩

/-- Among quiet variables lines of keys define the values of the first `n` of them just where these
are plain. -/
theorem loadLines_iff (quiet : Quiet env) (distinct : ks.Nodup)
    (new : ∀ k ∈ ks, env.lookup k.name = none) (n : Nat) :
    (∀ k ∈ ks.take n, (loadLines env (p.linesOf ks)).lookup k.name = some (p.get k).unquoted) ↔
      ∀ k ∈ ks.take n, Plain (p.get k).unquoted := by
  induction ks generalizing env n with
  | nil => simp
  | cons k ks ih =>
      cases n with
      | zero => simp
      | succ n =>
          obtain ⟨other, distinct⟩ := List.nodup_cons.mp distinct
          obtain ⟨here, later⟩ := List.forall_mem_cons.mp new
          have own := readText_eq_self_iff quiet (t := (p.get k).unquoted)
          rw [List.take_succ_cons, List.forall_mem_cons, List.forall_mem_cons, linesOf,
            List.map_cons, loadLines_line here]
          cases read : readText env (p.get k).unquoted with
          | none =>
              have lost : ¬ Plain (p.get k).unquoted := fun plain => by
                rw [own.mpr plain] at read
                cases read
              simp [here, lost]
          | some v =>
              have defined := lookup_of_prefix (prefix_loadLines _ (p.linesOf ks)) (lookup_concat here v)
              rw [read] at own
              rw [linesOf] at defined
              simp only [defined, own]
              refine and_congr_right fun plain => ?_
              obtain rfl := Option.some.inj (own.mpr plain)
              exact ih (quiet_concat quiet plain k.name) distinct (lookup_concat_other other later _) n

theorem load_renderDotenv : load [] p.renderDotenv = loadLines [] (p.linesOf Key.all) := by
  have lines : p.entries.map line = p.linesOf Key.all := by
    rw [entries, List.map_map]
    rfl
  have whole : ∀ t ∈ p.linesOf Key.all, Text.dropReturn t = t := by
    refine List.forall_mem_map.mpr fun k _ => ?_
    have none : Text.dropEnd? ['\r'] (line (k, p.get k)) = none := by
      refine Text.dropEnd?_eq_none.mpr fun ends => ?_
      exact (no_break_line (k, p.get k)).2 (ends.subset List.mem_cons_self)
    rw [Text.dropReturn, none, Option.getD_none]
  rw [load, Text.lines, splitOn_renderDotenv, lines]
  simp only [List.dropLast_concat, List.getLast?_concat, Option.getD_some, List.isEmpty_nil, if_true,
    List.append_nil]
  rw [List.map_congr_left whole, List.map_id']

/-- Loading a profile in variable assignments defines the variables of the first keys and no others.
The first `n` values are defined as they are just if they are all plain. -/
theorem load_renderDotenv_iff :
    (∃ n, (load [] p.renderDotenv).map Prod.fst = (Key.all.take n).map Key.name) ∧
      ∀ n, (∀ k ∈ Key.all.take n,
          (load [] p.renderDotenv).lookup k.name = some (p.get k).unquoted) ↔
        ∀ k ∈ Key.all.take n, Plain (p.get k).unquoted := by
  have quiet : Quiet [] := fun _ inside => absurd inside List.not_mem_nil
  have new : ∀ k ∈ Key.all, List.lookup k.name ([] : Environment) = none := fun _ _ => rfl
  rw [load_renderDotenv]
  exact ⟨names_loadLines p Key.nodup_all new, loadLines_iff p quiet Key.nodup_all new⟩

end

/-- In a web address a dollar sign leads to the name of a variable, and an apostrophe to a quotation
that no line ends, where the loading stops. -/
theorem marked_values_lost :
    let dollar := test.withValue .api ⟨"http://a.b/$metadata", by decide⟩
    let apostrophe := test.withValue .api ⟨"http://a.b/it's", by decide⟩
    (dollar.fault? = none ∧
        (load [] dollar.renderDotenv).lookup Key.api.name = some "http://a.b/".toList) ∧
      apostrophe.fault? = none ∧
        load [] apostrophe.renderDotenv = [(Key.environment.name, "test".toList)] := by
  intro dollar apostrophe
  refine ⟨⟨valid_withValue valid_test (by decide +kernel), ?_⟩,
    valid_withValue valid_test (by decide +kernel), ?_⟩
  · decide +kernel
  · decide +kernel

end EndpointProfile.Profile
