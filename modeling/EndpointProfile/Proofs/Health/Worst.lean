import Mathlib.Data.List.Induction
import Mathlib.Order.Lattice
import EndpointProfile.Health

/-! A report has the status of the worst dependency that was added to it, in whatever order. -/
namespace EndpointProfile

namespace Health

def severity : Health → Nat
  | healthy => 0
  | degraded => 1
  | unhealthy => 2

theorem severity_injective : Function.Injective severity := by
  rintro ⟨⟩ ⟨⟩ <;> simp [severity]

instance : LinearOrder Health :=
  LinearOrder.lift' severity severity_injective

theorem healthy_le (h : Health) : healthy ≤ h :=
  Nat.zero_le h.severity

theorem le_unhealthy (h : Health) : h ≤ unhealthy := by
  cases h <;> decide

theorem le_degraded {h : Health} : h ≤ degraded ↔ h ≠ unhealthy := by
  cases h <;> decide

end Health

namespace Report

/-- The status of the worst of some dependencies. Where there are none it is healthy. -/
structure IsWorst (ds : List Dependency) (h : Health) : Prop where
  bound : ∀ d ∈ ds, d.status ≤ h
  attained : ds ≠ [] → ∃ d ∈ ds, d.status = h
  alone : ds = [] → h = .healthy

section
variable {ds es : List Dependency} {g h : Health}

theorem IsWorst.le (hds : IsWorst ds g) (hes : IsWorst es h) (more : ds ⊆ es) : g ≤ h := by
  rcases eq_or_ne ds [] with none | some
  · rw [hds.alone none]
    exact h.healthy_le
  · obtain ⟨d, inside, rfl⟩ := hds.attained some
    exact hes.bound d (more inside)

theorem IsWorst.eq_of_perm (hds : IsWorst ds g) (hes : IsWorst es h) (same : ds.Perm es) : g = h :=
  le_antisymm (hds.le hes same.subset) (hes.le hds same.symm.subset)

theorem isWorst_of_mem {d : Dependency} (inside : d ∈ ds) (bound : ∀ e ∈ ds, e.status ≤ d.status) :
    IsWorst ds d.status where
  bound := bound
  attained _ := ⟨d, inside, rfl⟩
  alone none := by
    rw [none] at inside
    exact absurd inside List.not_mem_nil

end

/-- Each scan asks for the worst status that the scans before it have not found. -/
theorem isWorst_worst (ds : List Dependency) : IsWorst ds (worst ds) := by
  unfold worst
  simp only [List.any_eq_true, decide_eq_true_eq]
  split
  · next found =>
      obtain ⟨d, inside, unhealthy⟩ := found
      rw [← unhealthy]
      exact isWorst_of_mem inside fun e _ => unhealthy ▸ e.status.le_unhealthy
  next sound =>
  simp only [not_exists, not_and] at sound
  split
  · next found =>
      obtain ⟨d, inside, degraded⟩ := found
      rw [← degraded]
      exact isWorst_of_mem inside fun e he => degraded ▸ Health.le_degraded.mpr (sound e he)
  next whole =>
  simp only [not_exists, not_and] at whole
  have healthy : ∀ d ∈ ds, d.status = .healthy := by
    intro d inside
    have one := sound d inside
    have other := whole d inside
    cases status : d.status with
    | healthy => rfl
    | degraded => exact absurd status other
    | unhealthy => exact absurd status one
  refine ⟨fun d inside => (healthy d inside).le, fun some => ?_, fun _ => rfl⟩
  obtain ⟨d, inside⟩ := List.exists_mem_of_ne_nil ds some
  exact ⟨d, inside, healthy d inside⟩

/-- What a report says after some dependencies have been added to the one it started as. -/
structure After (start : Report) (ds : List Dependency) (r : Report) : Prop where
  status : IsWorst ds r.status
  dependencies : r.dependencies = ds
  service : r.service = start.service
  version : r.version = start.version
  environment : r.environment = start.environment
  uptime : r.uptime = start.uptime

theorem After.add {start r : Report} {ds : List Dependency} (after : After start ds r)
    (d : Dependency) : After start (ds ++ [d]) (r.add d) where
  status := after.dependencies ▸ isWorst_worst (r.dependencies ++ [d])
  dependencies := congrArg (· ++ [d]) after.dependencies
  service := after.service
  version := after.version
  environment := after.environment
  uptime := after.uptime

section
variable (service version environment : Text) (startedAgo : Int)

theorem after_fresh : After (fresh service version environment startedAgo) []
    (fresh service version environment startedAgo) :=
  ⟨⟨by simp, by simp, fun _ => rfl⟩, rfl, rfl, rfl, rfl, rfl⟩

theorem after_foldl_add (ds : List Dependency) :
    After (fresh service version environment startedAgo) ds
      (ds.foldl add (fresh service version environment startedAgo)) := by
  induction ds using List.reverseRecOn with
  | nil => exact after_fresh service version environment startedAgo
  | append_singleton ds d ih =>
      rw [List.foldl_append]
      exact ih.add d

/-- While dependencies are added to a fresh report, its status is always that of the worst so far,
and nothing else of it changes. So it never gets better, and the order makes no difference. -/
theorem status_of_run (ds : List Dependency) :
    let start := fresh service version environment startedAgo
    (∀ n, After start (ds.take n) ((ds.take n).foldl add start)) ∧
      (∀ m n, ((ds.take m).foldl add start).status ≤ ((ds.take (m + n)).foldl add start).status) ∧
      ∀ es : List Dependency, ds.Perm es → (ds.foldl add start).status = (es.foldl add start).status := by
  intro start
  have after := after_foldl_add service version environment startedAgo
  refine ⟨fun n => after (ds.take n), fun m n => ?_, fun es same => ?_⟩
  · refine (after (ds.take m)).status.le (after (ds.take (m + n))).status ?_
    exact (List.take_prefix_take_left (Nat.le_add_right m n)).subset
  · exact (after ds).status.eq_of_perm (after es).status same

end
end Report
end EndpointProfile
