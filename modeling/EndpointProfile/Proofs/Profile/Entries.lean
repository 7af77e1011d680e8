import Mathlib.Data.List.Nodup
import EndpointProfile.Profile.Basic

/-! The profile that pairs of keys and values make up, and how a profile comes back from its own
entries. -/
namespace EndpointProfile

namespace Key

theorem nodup_all : all.Nodup := by decide

theorem ofName?_name (k : Key) : ofName? k.name = some k := by cases k <;> decide

theorem ofName?_eq_some {name : Text} {k : Key} : ofName? name = some k ↔ name = k.name := by
  constructor
  · intro h
    have := List.find?_some h
    simpa [eq_comm] using this
  · rintro rfl
    exact ofName?_name k

theorem ofName?_eq_none {name : Text} : ofName? name = none ↔ name ∉ all.map Key.name := by
  rw [Option.eq_none_iff_forall_ne_some, List.mem_map]
  constructor
  · rintro h ⟨k, -, rfl⟩
    exact h k (ofName?_name k)
  · intro h k found
    exact h ⟨k, mem_all k, (ofName?_eq_some.mp found).symm⟩

end Key

namespace Profile

/-- Pairs of which each key is the key of one pair only. -/
abbrev Distinct (pairs : List (Key × Literal)) : Prop := (pairs.map Prod.fst).Nodup

theorem mem_of_lookup {pairs : List (Key × Literal)} {k : Key} {l : Literal}
    (h : pairs.lookup k = some l) : (k, l) ∈ pairs := by
  obtain ⟨before, after, rfl, -⟩ := List.lookup_eq_some_iff.mp h
  simp

theorem isSome_lookup {pairs : List (Key × Literal)} {k : Key} :
    (pairs.lookup k).isSome ↔ k ∈ pairs.map Prod.fst := by
  rw [List.lookup_isSome_iff, List.mem_map]
  simp only [beq_iff_eq, @eq_comm _ k]

theorem isNone_lookup {pairs : List (Key × Literal)} {k : Key} :
    (pairs.lookup k).isNone ↔ k ∉ pairs.map Prod.fst := by
  rw [← isSome_lookup, Option.not_isSome_iff_eq_none, Option.isNone_iff_eq_none]

theorem missing_eq_none {pairs : List (Key × Literal)} :
    Key.all.find? (fun k => (pairs.lookup k).isNone) = none ↔ ∀ k, k ∈ pairs.map Prod.fst := by
  simp only [List.find?_eq_none, isNone_lookup, not_not, Key.mem_all, forall_const]

theorem lookup_of_mem {pairs : List (Key × Literal)} (distinct : Distinct pairs) {k : Key}
    {l : Literal} (h : (k, l) ∈ pairs) : pairs.lookup k = some l := by
  have found := isSome_lookup.mpr (List.mem_map_of_mem h)
  obtain ⟨m, hm⟩ := Option.isSome_iff_exists.mp found
  have same := List.inj_on_of_nodup_map distinct (mem_of_lookup hm) h rfl
  cases same
  exact hm

theorem repeated?_eq_none {n : Nat} {seen : List Key} {pairs : List (Key × Literal)} :
    repeated? n seen pairs = none ↔ Distinct pairs ∧ ∀ k ∈ pairs.map Prod.fst, k ∉ seen := by
  induction pairs generalizing n seen with
  | nil => simp [repeated?, Distinct]
  | cons pair pairs ih =>
      obtain ⟨k, l⟩ := pair
      rw [repeated?]
      split
      · next again => simp [again]
      · next new =>
          rw [ih, Distinct, Distinct, List.map_cons, List.nodup_cons, List.forall_mem_cons]
          constructor
          · rintro ⟨distinct, fresh⟩
            refine ⟨⟨fun again => fresh k again List.mem_cons_self, distinct⟩, new, ?_⟩
            exact fun j hj before => fresh j hj (List.mem_cons_of_mem k before)
          · rintro ⟨⟨other, distinct⟩, -, fresh⟩
            refine ⟨distinct, fun j hj before => ?_⟩
            rcases List.mem_cons.mp before with rfl | before
            · exact other hj
            · exact fresh j hj before

theorem ofEntries_of_perm {pairs : List (Key × Literal)} {p : Profile}
    (keys : (pairs.map Prod.fst).Perm Key.all) (values : ∀ kl ∈ pairs, p.get kl.1 = kl.2) :
    ofEntries pairs = .ok p := by
  have distinct : Distinct pairs := keys.nodup_iff.mpr Key.nodup_all
  have found (k : Key) : pairs.lookup k = some (p.get k) := by
    obtain ⟨⟨j, l⟩, hl, rfl⟩ := List.mem_map.mp (keys.mem_iff.mpr (Key.mem_all k))
    rw [lookup_of_mem distinct hl, values _ hl]
  have none_repeated : repeated? 1 [] pairs = none := repeated?_eq_none.mpr ⟨distinct, by simp⟩
  have none_missing := missing_eq_none.mpr fun k => keys.mem_iff.mpr (Key.mem_all k)
  unfold ofEntries
  rw [none_repeated]
  simp only
  split
  · next k missing => rw [none_missing] at missing; cases missing
  · congr 1
    ext1 k
    simp [found]

theorem ofEntries_eq_ok {pairs : List (Key × Literal)} {p : Profile} :
    ofEntries pairs = .ok p ↔
      (pairs.map Prod.fst).Perm Key.all ∧ ∀ kl ∈ pairs, p.get kl.1 = kl.2 := by
  refine ⟨fun h => ?_, fun ⟨keys, values⟩ => ofEntries_of_perm keys values⟩
  unfold ofEntries at h
  split at h
  · cases h
  · next none_repeated =>
      obtain ⟨distinct, -⟩ := repeated?_eq_none.mp none_repeated
      split at h
      · cases h
      · next none_missing =>
          injection h with h
          subst h
          refine ⟨(List.perm_ext_iff_of_nodup distinct Key.nodup_all).mpr fun k => ?_, ?_⟩
          · exact iff_of_true (missing_eq_none.mp none_missing k) (Key.mem_all k)
          · rintro ⟨k, l⟩ hl
            simp [lookup_of_mem distinct hl]

theorem keys_entries (p : Profile) : p.entries.map Prod.fst = Key.all := by
  simp [entries, Function.comp_def]

theorem ofEntries_entries (p : Profile) : ofEntries p.entries = .ok p := by
  refine ofEntries_of_perm (by rw [keys_entries]) ?_
  rintro ⟨k, l⟩ hl
  obtain ⟨j, -, same⟩ := List.mem_map.mp hl
  cases same
  rfl

theorem validated_eq_ok {p q : Profile} : p.validated = .ok q ↔ p.fault? = none ∧ p = q := by
  unfold validated
  split
  · next found => simp [found]
  · next found => simp [found]

end Profile
end EndpointProfile
