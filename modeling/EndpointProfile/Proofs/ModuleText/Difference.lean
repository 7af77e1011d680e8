import EndpointProfile.Proofs.ModuleText.RoundTrip
import EndpointProfile.Proofs.Profile.Provenance

/-! What the comparison of a module with a profile reports. -/
namespace EndpointProfile

namespace Profile

theorem differences_sublist (p q : Profile) : (p.differences q).Sublist Key.all :=
  List.filter_sublist

theorem mem_differences {p q : Profile} {k : Key} : k ∈ p.differences q ↔ p.get k ≠ q.get k := by
  simp [differences]

theorem differences_comm (p q : Profile) : p.differences q = q.differences p :=
  List.filter_congr fun k _ => by simp only [ne_comm]

end Profile

namespace ModuleText

theorem check_of_parse {t : Text} {p : Profile} (read : parse t = .ok p) (q : Profile) :
    check t q = .ok (p.differences q) := by
  rw [check, read, Except.map]

/-- A module that cannot be read is reported with its fault, and otherwise just the keys with other
values than expected are reported, each once and in record order. Of two valid profiles it makes no
difference which one is written as a module and which one is expected. -/
theorem check_reports_differences :
    (∀ (t : Text) (q : Profile),
      match parse t with
      | .error f => check t q = .error f
      | .ok p => ∃ keys, check t q = .ok keys ∧ keys.Sublist Key.all ∧ keys.Nodup ∧
          (∀ k, k ∈ keys ↔ p.get k ≠ q.get k) ∧ (keys = [] ↔ p = q)) ∧
      ∀ p q : Profile, p.fault? = none → q.fault? = none →
        check (render p) q = check (render q) p ∧ (check (render p) q = .ok [] ↔ p = q) := by
  constructor
  · intro t q
    split
    · next f unread => rw [check, unread, Except.map]
    · next p read =>
        have ordered := Profile.differences_sublist p q
        exact ⟨p.differences q, check_of_parse read q, ordered, ordered.nodup Key.nodup_all,
          fun _ => Profile.mem_differences, Profile.differences_eq_nil⟩
  · intro p q validP validQ
    have there := check_of_parse (parse_render_valid validP) q
    have back := check_of_parse (parse_render_valid validQ) p
    constructor
    · rw [there, back, Profile.differences_comm]
    · rw [there, Except.ok.injEq, Profile.differences_eq_nil]

/-- Another valid value of one key is reported from either side. -/
theorem check_reports_changed_value :
    let changed : Profile := ⟨fun k =>
      if k = .ecoApi then ⟨"http://192.168.88.216:5006/", by decide⟩ else Profile.test.get k⟩
    changed.fault? = none ∧ Profile.test.fault? = none ∧
      check (render changed) .test = .ok [.ecoApi] ∧ check (render .test) changed = .ok [.ecoApi] := by
  intro changed
  have valid : changed.fault? = none := by decide +kernel
  have found : changed.differences .test = [.ecoApi] := by decide +kernel
  have here := check_of_parse (parse_render_valid valid) .test
  rw [found] at here
  obtain ⟨same, -⟩ := check_reports_differences.2 changed .test valid Profile.valid_test
  exact ⟨valid, Profile.valid_test, here, same ▸ here⟩

end ModuleText
end EndpointProfile
