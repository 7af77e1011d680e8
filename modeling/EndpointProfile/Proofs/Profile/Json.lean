import EndpointProfile.Proofs.Json.Layout
import EndpointProfile.Proofs.Json.Records
import EndpointProfile.Proofs.Literal
import EndpointProfile.Proofs.Profile.Entries
import EndpointProfile.Render

/-! A profile that is written as JSON is read back, in either layout. -/
namespace EndpointProfile
open Text (Only)
open Json (Members Written)

theorem Literal.reader_eq_ok {depth : Nat} {t rest : Text} {l : Literal} :
    reader depth t = .ok (l, rest) ↔ ∃ one, Written (.string l.raw) one ∧ t = one ++ rest := by
  unfold reader
  rw [Json.converted_eq_ok]
  simp only [Json.string, Json.stringAs_eq_ok]
  constructor
  · rintro ⟨raw, written, parsed⟩
    cases read : parse raw with
    | error e =>
        rw [read] at parsed
        cases parsed
    | ok m =>
        rw [read] at parsed
        cases parsed
        exact parse_eq_ok.mp read ▸ written
  · intro written
    exact ⟨l.raw, written, by rw [parse_raw]⟩

namespace Profile

theorem strings_schema : schema.OfStrings (fun _ l => l.raw) where
  closed := rfl
  required _ := rfl
  distinct := Key.nodup_all
  found := Key.ofName?_name
  reads := Literal.reader_eq_ok

theorem ofJsonUnchecked_eq_ok {t : Text} {p : Profile} :
    ofJsonUnchecked t = .ok p ↔ Json.read schema.record t = .ok p.get := by
  simp only [ofJsonUnchecked, Json.read_eq_ok, reader]
  refine exists_congr fun tail => and_congr_left fun _ => ?_
  cases schema.record Json.depthLimit t with
  | error stop => simp [Except.map]
  | ok r =>
      obtain ⟨get, rest⟩ := r
      simp [Except.map, Profile.ext_iff, funext_iff]

/-- The members of a profile, with the same blanks before each value. -/
def members (gap : Text) (p : Profile) : List Json.Member :=
  Key.all.map fun k => (k.name, gap ++ Json.quote (p.get k).raw)

theorem ofJsonUnchecked_members {gap text tail : Text} (blank : Only Json.isBlank gap) {p : Profile}
    (written : Members true (p.members gap) text) (ends : Only Json.isBlank tail) :
    ofJsonUnchecked ('\x7b' :: (text ++ '\x7d' :: tail)) = .ok p := by
  have decoded : Json.Decoded (schema.members (fun _ l => l.raw) p.get Key.all) (p.members gap) := by
    refine List.forall₂_map_left_iff.mpr (List.forall₂_map_right_iff.mpr ?_)
    refine List.forall₂_same.mpr fun k _ => ⟨rfl, ?_⟩
    exact .string blank (Json.spells_escaped (p.get k).raw)
  have object := Json.ObjectText.intro (Text.only_nil _) written decoded ends
  exact ofJsonUnchecked_eq_ok.mpr
    (strings_schema.read_record_eq_ok.mpr (.inl ⟨Key.all, .refl _, object⟩))

theorem ofJsonUnchecked_compact (p : Profile) : ofJsonUnchecked p.toJson.compact = .ok p := by
  have written := Json.members_compact (p.entries.map fun kl => (kl.1.name, kl.2.toJson))
  have same : (p.entries.map fun kl => (kl.1.name, kl.2.toJson)).map
      (fun m => (m.1, m.2.compact)) = p.members [] := by
    simp [entries, members, Literal.toJson, Json.Value.compact]
  rw [same] at written
  have read := ofJsonUnchecked_members (Text.only_nil _) written (Text.only_nil _)
  simpa [toJson, Json.Value.compact] using read

theorem ofJsonUnchecked_pretty (p : Profile) {tail : Text} (ends : Only Json.isBlank tail) :
    ofJsonUnchecked (p.toJson.pretty ++ tail) = .ok p := by
  have some : (p.entries.map fun kl => (kl.1.name, kl.2.toJson)) ≠ [] := by simp [entries, Key.all]
  have written := Json.members_pretty 0 some
  have same : (p.entries.map fun kl => (kl.1.name, kl.2.toJson)).map
      (fun m => (m.1, ' ' :: m.2.prettyAt 1)) = p.members [' '] := by
    simp [entries, members, Literal.toJson, Json.Value.prettyAt, Json.Value.compact]
  rw [same] at written
  have space : Only Json.isBlank [' '] := Text.only_cons.mpr ⟨rfl, Text.only_nil _⟩
  have read := ofJsonUnchecked_members space written ends
  have text : p.toJson.pretty = '\x7b' :: ('\n' :: (Json.prettyMembers 1
      (p.entries.map fun kl => (kl.1.name, kl.2.toJson)) ++ '\n' :: Json.indent 0) ++ ['\x7d']) := by
    simp [toJson, Json.Value.pretty, Json.Value.prettyAt]
  rw [text]
  simpa using read

/-- A profile that is written as JSON, in either layout, or rendered as JSON, is read back. Where a
value does not fit its key, that is the only fault. -/
theorem ofJson_toJson (p : Profile) :
    match p.fault? with
    | none => ofJson p.toJson.pretty = .ok p ∧ ofJson p.toJson.compact = .ok p ∧
        ofJson (p.render .json) = .ok p
    | some f => ofJson p.toJson.pretty = .error f ∧ ofJson p.toJson.compact = .error f ∧
        ofJson (p.render .json) = .error f := by
  have pretty : ofJsonUnchecked p.toJson.pretty = .ok p := by
    simpa using ofJsonUnchecked_pretty p (Text.only_nil _)
  have rendered : ofJsonUnchecked (p.render .json) = .ok p :=
    ofJsonUnchecked_pretty p (Text.only_cons.mpr ⟨rfl, Text.only_nil _⟩)
  have compact := ofJsonUnchecked_compact p
  split
  · next valid => simp only [ofJson, pretty, compact, rendered, validated, valid, and_self]
  · next f invalid => simp only [ofJson, pretty, compact, rendered, validated, invalid, and_self]

end Profile
end EndpointProfile
