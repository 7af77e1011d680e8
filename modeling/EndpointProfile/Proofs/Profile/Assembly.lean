import EndpointProfile.Proofs.Profile.Entries

/-! Which fault is found in pairs that make up no profile. -/
namespace EndpointProfile.Profile

/-- A fault names a key that came before, and the position of the first pair that repeats one. -/
theorem repeated?_eq_some {n : Nat} {seen : List Key} {pairs : List (Key × Literal)} {f : Fault}
    (h : repeated? n seen pairs = some f) :
    ∃ before k l after, pairs = before ++ (k, l) :: after ∧ f = .duplicateKey k (n + before.length) ∧
      Distinct before ∧ (∀ j ∈ before.map Prod.fst, j ∉ seen) ∧
      (k ∈ before.map Prod.fst ∨ k ∈ seen) := by
  -- the keys seen so far and the position grow from pair to pair
  induction pairs generalizing n seen with
  | nil => cases h
  | cons pair pairs ih =>
      obtain ⟨j, m⟩ := pair
      rw [repeated?] at h
      split at h
      · next again =>
          cases h
          exact ⟨[], j, m, pairs, rfl, rfl, by simp [Distinct], by simp, .inr again⟩
      · next new =>
          obtain ⟨before, k, l, after, rfl, rfl, distinct, fresh, repeats⟩ := ih h
          have other : j ∉ before.map Prod.fst := fun again => fresh j again List.mem_cons_self
          refine ⟨(j, m) :: before, k, l, after, rfl, ?_, List.nodup_cons.mpr ⟨other, distinct⟩, ?_, ?_⟩
          · rw [List.length_cons, Nat.add_right_comm, Nat.add_assoc]
          · refine List.forall_mem_cons.mpr ⟨new, fun i hi earlier => ?_⟩
            exact fresh i hi (List.mem_cons_of_mem j earlier)
          · rw [List.map_cons, List.mem_cons]
            rcases repeats with inside | inside
            · exact .inl (.inr inside)
            · exact (List.mem_cons.mp inside).imp_left .inl

theorem ofEntries_of_repeated {pairs : List (Key × Literal)} (repeats : ¬ Distinct pairs) :
    ∃ before k l after, pairs = before ++ (k, l) :: after ∧ Distinct before ∧
      k ∈ before.map Prod.fst ∧ ofEntries pairs = .error (.duplicateKey k (before.length + 1)) := by
  cases found : repeated? 1 [] pairs with
  | none => exact absurd (repeated?_eq_none.mp found).1 repeats
  | some f =>
      obtain ⟨before, k, l, after, same, rfl, distinct, -, again⟩ := repeated?_eq_some found
      have inside : k ∈ before.map Prod.fst := again.resolve_right List.not_mem_nil
      exact ⟨before, k, l, after, same, distinct, inside, by rw [ofEntries, found, Nat.add_comm]⟩

theorem ofEntries_of_missing {pairs : List (Key × Literal)} (distinct : Distinct pairs) {k : Key}
    (missing : Key.all.find? (fun k => (pairs.lookup k).isNone) = some k) :
    ofEntries pairs = .error (.missingKey k) := by
  have none_repeated : repeated? 1 [] pairs = none := repeated?_eq_none.mpr ⟨distinct, by simp⟩
  unfold ofEntries
  rw [none_repeated]
  simp only
  split
  · next j found => rw [Option.some.inj (found.symm.trans missing)]
  · next found => rw [missing] at found; cases found

theorem ofEntries_of_full {pairs : List (Key × Literal)} (distinct : Distinct pairs)
    (full : ∀ k, k ∈ pairs.map Prod.fst) :
    ∃ p, ofEntries pairs = .ok p ∧ ∀ k, (k, p.get k) ∈ pairs := by
  have found (k : Key) : (pairs.lookup k).isSome := isSome_lookup.mpr (full k)
  have keys : (pairs.map Prod.fst).Perm Key.all :=
    (List.perm_ext_iff_of_nodup distinct Key.nodup_all).mpr fun k => by simp [full k]
  refine ⟨⟨fun k => (pairs.lookup k).get (found k)⟩, ofEntries_of_perm keys ?_, fun k => ?_⟩
  · rintro ⟨k, l⟩ hl
    simp [lookup_of_mem distinct hl]
  · exact mem_of_lookup (Option.some_get (found k)).symm

theorem lookup_perm {pairs other : List (Key × Literal)} (distinct : Distinct pairs)
    (perm : pairs.Perm other) (k : Key) : other.lookup k = pairs.lookup k := by
  have distinct' : Distinct other := (perm.map Prod.fst).nodup_iff.mp distinct
  apply Option.ext
  intro l
  constructor
  · intro h
    exact lookup_of_mem distinct (perm.mem_iff.mpr (mem_of_lookup h))
  · intro h
    exact lookup_of_mem distinct' (perm.mem_iff.mp (mem_of_lookup h))

theorem ofEntries_eq_error {pairs : List (Key × Literal)} (distinct : Distinct pairs) {f : Fault}
    (h : ofEntries pairs = .error f) : ∃ k, f = .missingKey k := by
  cases missing : Key.all.find? fun k => (pairs.lookup k).isNone with
  | some k =>
      rw [ofEntries_of_missing distinct missing] at h
      cases h
      exact ⟨k, rfl⟩
  | none =>
      obtain ⟨p, made, -⟩ := ofEntries_of_full distinct (missing_eq_none.mp missing)
      rw [made] at h
      cases h

theorem ofEntries_perm {pairs other : List (Key × Literal)} (distinct : Distinct pairs)
    (perm : pairs.Perm other) : ofEntries other = ofEntries pairs := by
  have distinct' : Distinct other := (perm.map Prod.fst).nodup_iff.mp distinct
  have same : (fun k => (other.lookup k).isNone) = fun k => (pairs.lookup k).isNone := by
    funext k
    rw [lookup_perm distinct perm]
  cases missing : Key.all.find? fun k => (pairs.lookup k).isNone with
  | some k => rw [ofEntries_of_missing distinct missing, ofEntries_of_missing distinct' (same ▸ missing)]
  | none =>
      obtain ⟨p, made, -⟩ := ofEntries_of_full distinct (missing_eq_none.mp missing)
      obtain ⟨keys, given⟩ := ofEntries_eq_ok.mp made
      rw [made]
      exact ofEntries_of_perm ((perm.map Prod.fst).symm.trans keys)
        fun kl hl => given kl (perm.mem_iff.mpr hl)

/-- The fault of distinct pairs that leave keys out names the first of these in record order. -/
theorem ofEntries_of_lacking {pairs : List (Key × Literal)} (distinct : Distinct pairs)
    (lacking : ∃ k, k ∉ pairs.map Prod.fst) :
    ∃ earlier k later, Key.all = earlier ++ k :: later ∧ k ∉ pairs.map Prod.fst ∧
      (∀ j ∈ earlier, j ∈ pairs.map Prod.fst) ∧ ofEntries pairs = .error (.missingKey k) := by
  cases missing : Key.all.find? fun k => (pairs.lookup k).isNone with
  | some k =>
      obtain ⟨here, earlier, later, order, before⟩ := List.find?_eq_some_iff_append.mp missing
      refine ⟨earlier, k, later, order, isNone_lookup.mp here, fun j hj => ?_,
        ofEntries_of_missing distinct missing⟩
      have held : ¬ (pairs.lookup j).isNone := by simpa using before j hj
      exact not_not.mp (isNone_lookup.not.mp held)
  | none =>
      obtain ⟨k, out⟩ := lacking
      exact absurd (missing_eq_none.mp missing k) out

theorem validated_eq_error {p : Profile} {f : Fault} : p.validated = .error f ↔
    ∃ earlier k later v, Key.all = earlier ++ k :: later ∧
      valueFault? k (p.get k).unquoted = some v ∧
      (∀ j ∈ earlier, valueFault? j (p.get j).unquoted = none) ∧ f = .badValue k v := by
  have first : p.validated = .error f ↔ p.fault? = some f := by
    unfold validated
    cases p.fault? with
    | none => simp
    | some g => simp
  rw [first, fault?, List.findSome?_eq_some_iff]
  simp only [Option.map_eq_some_iff, Option.map_eq_none_iff]
  constructor
  · rintro ⟨earlier, k, later, order, ⟨v, wrong, rfl⟩, before⟩
    exact ⟨earlier, k, later, v, order, wrong, before, rfl⟩
  · rintro ⟨earlier, k, later, v, order, wrong, before, rfl⟩
    exact ⟨earlier, k, later, order, ⟨v, wrong, rfl⟩, before⟩

/-- What comes of distinct pairs: the first key in record order that they leave out, else the first
one whose value does not fit it, else a profile. -/
inductive MadeOf (pairs : List (Key × Literal)) : Except Fault Profile → Prop
  | lacking {earlier later : List Key} {k : Key} : Key.all = earlier ++ k :: later →
      k ∉ pairs.map Prod.fst → (∀ j ∈ earlier, j ∈ pairs.map Prod.fst) →
      MadeOf pairs (.error (.missingKey k))
  | unfit {earlier later : List Key} {k : Key} {l : Literal} {v : ValueFault} :
      (∀ j, j ∈ pairs.map Prod.fst) → Key.all = earlier ++ k :: later → (k, l) ∈ pairs →
      valueFault? k l.unquoted = some v →
      (∀ j ∈ earlier, ∀ m, (j, m) ∈ pairs → valueFault? j m.unquoted = none) →
      MadeOf pairs (.error (.badValue k v))
  | profile {p : Profile} : (∀ k, (k, p.get k) ∈ pairs) →
      (∀ k, valueFault? k (p.get k).unquoted = none) → MadeOf pairs (.ok p)

theorem madeOf_validated {pairs : List (Key × Literal)} (distinct : Distinct pairs) :
    MadeOf pairs (match ofEntries pairs with
      | .error f => .error f
      | .ok p => p.validated) := by
  by_cases full : ∀ k, k ∈ pairs.map Prod.fst
  · obtain ⟨p, made, values⟩ := ofEntries_of_full distinct full
    rw [made]
    simp only
    cases checked : p.validated with
    | ok q =>
        obtain ⟨valid, rfl⟩ := validated_eq_ok.mp checked
        refine .profile values fun k => ?_
        have fits := List.findSome?_eq_none_iff.mp valid k (Key.mem_all k)
        exact Option.map_eq_none_iff.mp fits
    | error f =>
        obtain ⟨earlier, k, later, v, order, wrong, before, rfl⟩ := validated_eq_error.mp checked
        refine .unfit full order (values k) wrong fun j hj m hm => ?_
        have same := (lookup_of_mem distinct hm).symm.trans (lookup_of_mem distinct (values j))
        rw [Option.some.inj same]
        exact before j hj
  · obtain ⟨earlier, k, later, order, out, before, unmade⟩ :=
      ofEntries_of_lacking distinct (not_forall.mp full)
    rw [unmade]
    exact .lacking order out before

/-- What pairs make up: where a key comes twice, the fault names the first pair that repeats one, by
its position, whatever else is wrong; where no key does, the fault names the first key in record
order that is left out; and pairs that hold every key once make up the profile of their values. -/
theorem ofEntries_blames_first (pairs : List (Key × Literal)) :
    (¬ Distinct pairs → ∃ before k l after, pairs = before ++ (k, l) :: after ∧ Distinct before ∧
        k ∈ before.map Prod.fst ∧
        ofEntries pairs = .error (.duplicateKey k (before.length + 1))) ∧
      (Distinct pairs → (∃ k, k ∉ pairs.map Prod.fst) →
        ∃ earlier k later, Key.all = earlier ++ k :: later ∧ k ∉ pairs.map Prod.fst ∧
          (∀ j ∈ earlier, j ∈ pairs.map Prod.fst) ∧ ofEntries pairs = .error (.missingKey k)) ∧
      (Distinct pairs → (∀ k, k ∈ pairs.map Prod.fst) →
        ∃ p, ofEntries pairs = .ok p ∧ ∀ k, (k, p.get k) ∈ pairs) ∧
      (Distinct pairs → ∀ other, pairs.Perm other → ofEntries other = ofEntries pairs) ∧
      ∀ p : Profile, ofEntries p.entries = .ok p := by
  exact ⟨ofEntries_of_repeated, fun distinct lacking => ofEntries_of_lacking distinct lacking,
    ofEntries_of_full, fun distinct _ => ofEntries_perm distinct, ofEntries_entries⟩

/-- Two pairs of one key, and no pair of most keys: the first repetition is what counts. -/
theorem ofEntries_blames_first_at_test :
    let api := (Key.api, test.get .api)
    let eco := (Key.ecoApi, test.get .ecoApi)
    (¬ Distinct [eco, api, eco, api] ∧ ∃ before k l after,
        [eco, api, eco, api] = before ++ (k, l) :: after ∧ Distinct before ∧
          k ∈ before.map Prod.fst ∧
          ofEntries [eco, api, eco, api] = .error (.duplicateKey k (before.length + 1))) ∧
      (Distinct [eco, api] ∧ (∃ k, k ∉ [eco, api].map Prod.fst) ∧
        ∃ earlier k later, Key.all = earlier ++ k :: later ∧ k ∉ [eco, api].map Prod.fst ∧
          (∀ j ∈ earlier, j ∈ [eco, api].map Prod.fst) ∧
          ofEntries [eco, api] = .error (.missingKey k)) ∧
      (Distinct test.entries ∧ (∀ k, k ∈ test.entries.map Prod.fst) ∧
        (∃ p, ofEntries test.entries = .ok p ∧ ∀ k, (k, p.get k) ∈ test.entries) ∧
        test.entries.Perm test.entries.reverse ∧
        ofEntries test.entries.reverse = ofEntries test.entries) := by
  intro api eco
  have repeats : ¬ Distinct [eco, api, eco, api] := by simp [Distinct]
  have distinct : Distinct [eco, api] := by simp [Distinct, eco, api]
  have lacking : ∃ k, k ∉ [eco, api].map Prod.fst := ⟨.environment, by simp [eco, api]⟩
  have whole : Distinct test.entries := by rw [Distinct, keys_entries]; exact Key.nodup_all
  have full (k : Key) : k ∈ test.entries.map Prod.fst := by rw [keys_entries]; exact Key.mem_all k
  have turned := (List.reverse_perm test.entries).symm
  exact ⟨⟨repeats, (ofEntries_blames_first _).1 repeats⟩,
    ⟨distinct, lacking, (ofEntries_blames_first _).2.1 distinct lacking⟩,
    whole, full, (ofEntries_blames_first _).2.2.1 whole full, turned,
    (ofEntries_blames_first _).2.2.2.1 whole _ turned⟩

example : ofEntries (test.entries ++ [(.api, test.get .api)]) = .error (.duplicateKey .api 10) := rfl

end EndpointProfile.Profile
