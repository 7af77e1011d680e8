import EndpointProfile.Proofs.Profile.Json
import EndpointProfile.Proofs.Profile.Provenance

/-! Which texts are read as profiles. -/
namespace EndpointProfile.Profile
open Json (ObjectText ArrayText)

theorem ofJson_iff_unchecked {t : Text} {p : Profile} :
    ofJson t = .ok p ↔ p.fault? = none ∧ ofJsonUnchecked t = .ok p := by
  unfold ofJson
  cases ofJsonUnchecked t with
  | error e => simp
  | ok q =>
      simp only [validated_eq_ok, Except.ok.injEq]
      constructor
      · rintro ⟨valid, rfl⟩
        exact ⟨valid, rfl⟩
      · rintro ⟨valid, rfl⟩
        exact ⟨valid, rfl⟩

/-- A text holds what the literals of a profile are read from: as the members of an object, in any
order, or as the items of an array. -/
def Holds (raw : Key → Text) (t : Text) : Prop :=
  (∃ keys : List Key, keys.Perm Key.all ∧
      ObjectText (keys.map fun k => (k.name, .string (raw k))) t) ∨
    ArrayText (Key.all.map fun k => .string (raw k)) t

theorem ofJson_eq_ok {t : Text} {p : Profile} :
    ofJson t = .ok p ↔ p.fault? = none ∧
      ∃ raw : Key → Text, (∀ k, Literal.parse (raw k) = .ok (p.get k)) ∧ Holds raw t := by
  rw [ofJson_iff_unchecked, ofJsonUnchecked_eq_ok, strings_schema.read_record_eq_ok]
  refine and_congr_right fun _ => ?_
  constructor
  · intro held
    exact ⟨fun k => (p.get k).raw, fun k => Literal.parse_raw _, held⟩
  · rintro ⟨raw, parsed, held⟩
    obtain rfl : raw = fun k => (p.get k).raw := funext fun k => Literal.parse_eq_ok.mp (parsed k)
    exact held

theorem members_of_ofJson {ms : List (Text × Json.Value)} {t : Text} {p : Profile}
    (object : ObjectText ms t) (read : ofJson t = .ok p) :
    ∃ (raw : Key → Text) (keys : List Key), (∀ k, Literal.parse (raw k) = .ok (p.get k)) ∧
      keys.Perm Key.all ∧ ms = keys.map fun k => (k.name, .string (raw k)) := by
  obtain ⟨-, raw, parsed, held⟩ := ofJson_eq_ok.mp read
  rcases held with ⟨keys, all, other⟩ | array
  · exact ⟨raw, keys, parsed, all, object.unique other (by simp)⟩
  · exact absurd array object.not_array

theorem ofJson_permuted {ms others : List (Text × Json.Value)} {s t : Text} {p : Profile}
    (here : ObjectText ms s) (there : ObjectText others t) (perm : ms.Perm others)
    (read : ofJson s = .ok p) : ofJson t = .ok p := by
  obtain ⟨raw, keys, parsed, all, rfl⟩ := members_of_ofJson here read
  obtain ⟨valid, -⟩ := ofJson_eq_ok.mp read
  have moved : ∃ turned : List Key, others = turned.map (fun k => (k.name, .string (raw k))) ∧
      turned.Perm keys := by
    have both := List.eq_map_comp_perm fun k : Key => (k.name, Json.Value.string (raw k))
    exact (congrFun (congrFun both others) keys).mpr perm.symm
  obtain ⟨turned, rfl, same⟩ := moved
  exact ofJson_eq_ok.mpr ⟨valid, raw, parsed, .inl ⟨turned, same.trans all, there⟩⟩

theorem names_of_ofJson {ms : List (Text × Json.Value)} {t : Text} {p : Profile}
    (object : ObjectText ms t) (read : ofJson t = .ok p) :
    (ms.map Prod.fst).Perm (Key.all.map Key.name) := by
  obtain ⟨raw, keys, -, all, rfl⟩ := members_of_ofJson object read
  simpa [Function.comp_def] using all.map Key.name

/-- A text is read as a profile exactly if the profile is valid and the text is an object whose
members are named as the nine keys, in any order and in any spelling, or an array of nine items in
record order, where the values are strings that the literals of the profile are read from. So the
order of members makes no difference, and an object in which a name is repeated, unknown or missing
is refused. -/
theorem ofJson_accepts :
    (∀ (t : Text) (p : Profile), ofJson t = .ok p ↔ p.fault? = none ∧
      ∃ raw : Key → Text, (∀ k, Literal.parse (raw k) = .ok (p.get k)) ∧ Holds raw t) ∧
    (∀ (ms others : List (Text × Json.Value)) (s t : Text), ObjectText ms s → ObjectText others t →
      ms.Perm others → ∀ p, ofJson s = .ok p ↔ ofJson t = .ok p) ∧
    ∀ (ms : List (Text × Json.Value)) (t : Text), ObjectText ms t →
      (¬ (ms.map Prod.fst).Nodup ∨ (∃ name ∈ ms.map Prod.fst, name ∉ Key.all.map Key.name) ∨
        ∃ k : Key, k.name ∉ ms.map Prod.fst) → ∃ f, ofJson t = .error f := by
  refine ⟨fun _ _ => ofJson_eq_ok, fun ms others s t here there perm p => ?_, fun ms t object odd => ?_⟩
  · exact ⟨ofJson_permuted here there perm, ofJson_permuted there here perm.symm⟩
  · cases read : ofJson t with
    | error f => exact ⟨f, rfl⟩
    | ok p =>
        have names := names_of_ofJson object read
        rcases odd with repeated | ⟨name, inside, unknown⟩ | ⟨k, missing⟩
        · exact absurd (names.nodup_iff.mpr (by decide)) repeated
        · exact absurd (names.mem_iff.mp inside) unknown
        · exact absurd (names.mem_iff.mpr (List.mem_map_of_mem (Key.mem_all k))) missing

/-- The members that pairs of keys and literals are written as. -/
def pairMembers (pairs : List (Key × Literal)) : List (Text × Json.Value) :=
  pairs.map fun kl => (kl.1.name, kl.2.toJson)

theorem object_compact (pairs : List (Key × Literal)) :
    ObjectText (pairMembers pairs) (Json.Value.object (pairMembers pairs)).compact := by
  have members := Json.members_compact (pairMembers pairs)
  have decoded : Json.Decoded (pairMembers pairs)
      ((pairMembers pairs).map fun m => (m.1, m.2.compact)) := by
    rw [Json.Decoded, pairMembers, List.map_map, List.forall₂_map_left_iff,
      List.forall₂_map_right_iff, List.forall₂_same]
    intro kl _
    exact ⟨rfl, .string (Text.only_nil _) (Json.spells_escaped kl.2.raw)⟩
  have object := ObjectText.intro (Text.only_nil _) members decoded (Text.only_nil _)
  simpa [Json.Value.compact] using object

/-- The test profile with its members turned around, and with one of them repeated. -/
theorem ofJson_accepts_turned :
    ofJson (Json.Value.object (pairMembers test.entries.reverse)).compact = .ok test ∧
      ∃ f, ofJson (Json.Value.object
        (pairMembers ((.api, test.get .api) :: test.entries))).compact = .error f := by
  have straight : ofJson (Json.Value.object (pairMembers test.entries)).compact = .ok test :=
    ofJson_iff_unchecked.mpr ⟨valid_test, ofJsonUnchecked_compact test⟩
  have turned : (pairMembers test.entries).Perm (pairMembers test.entries.reverse) :=
    (List.reverse_perm test.entries).symm.map _
  have repeated : ¬ ((pairMembers ((.api, test.get .api) :: test.entries)).map Prod.fst).Nodup := by
    decide
  have here := object_compact test.entries
  have there := object_compact test.entries.reverse
  have again := object_compact ((.api, test.get .api) :: test.entries)
  exact ⟨(ofJson_accepts.2.1 _ _ _ _ here there turned test).mp straight,
    ofJson_accepts.2.2 _ _ again (.inl repeated)⟩

end EndpointProfile.Profile
