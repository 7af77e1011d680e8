import EndpointProfile.ModuleText
import EndpointProfile.Profile.Json
import EndpointProfile.Proofs.Json.Objects
import EndpointProfile.Proofs.Literal
import EndpointProfile.Proofs.Profile.Entries
import EndpointProfile.Proofs.Text.Bytes

/-! Where literals and profiles come from, and what holds of them wherever they come from. -/
namespace EndpointProfile

/-- The profiles that are built in, and those that are looked at before they are given out. -/
inductive Profile.Vetted : Profile → Prop
  | test : Vetted test
  | stage {s : Stage} {p : Profile} : forStage s = .ok p → Vetted p
  | name {t : Text} {p : Profile} : forName t = .ok p → Vetted p
  | json {t : Text} {p : Profile} : ofJson t = .ok p → Vetted p
  | module {t : Text} {p : Profile} : ModuleText.parse t = .ok p → Vetted p

/-- The profiles that come about in any way. -/
inductive Profile.Made : Profile → Prop
  | vetted {p : Profile} : Vetted p → Made p
  | entries {pairs : List (Key × Literal)} {p : Profile} : ofEntries pairs = .ok p → Made p
  | unchecked {t : Text} {p : Profile} : ofJsonUnchecked t = .ok p → Made p

namespace Literal

/-- The literals that come about in any way, with the raw texts that they are made of: texts with
quotes, texts that quotes are put around, strings of JSON, and the values of profiles. -/
inductive Obtained : Text → Literal → Prop
  | parsed {raw : Text} {l : Literal} : parse raw = .ok l → Obtained raw l
  | quoted {t : Text} {l : Literal} : quote t = .ok l → Obtained ('"' :: t ++ ['"']) l
  | json {t raw : Text} {l : Literal} : Json.read Json.string t = .ok raw →
      Json.read reader t = .ok l → Obtained raw l
  | value {p : Profile} (k : Key) : p.Made → Obtained (p.get k).raw (p.get k)

/-- A literal is the one of its raw text, and what stands between the quotes is that text without
its first and its last byte. -/
structure Sound (raw : Text) (l : Literal) : Prop where
  parses : parse raw = .ok l
  wrapped : raw = '"' :: l.unquoted ++ ['"']
  long : 2 ≤ raw.byteCount
  slice : raw.slice? 1 (raw.byteCount - 1) = some l.unquoted
  quotes : quote l.unquoted = .ok l

theorem byteCount_raw (l : Literal) : l.raw.byteCount = l.unquoted.byteCount + 2 := by
  have quote : '"'.utf8Size = 1 := rfl
  simp only [raw, Text.byteCount, Text.byteCount_append, List.cons_append, quote]
  omega

theorem sound_raw (l : Literal) : Sound l.raw l where
  parses := parse_raw l
  wrapped := rfl
  long := by rw [byteCount_raw]; omega
  slice := by
    have quote : '"'.utf8Size = 1 := rfl
    refine Text.slice?_eq_some.mpr ⟨['"'], ['"'], rfl, rfl, ?_⟩
    simp only [byteCount_raw, Text.byteCount, Text.byteCount_append, quote]
    omega
  quotes := quote_eq_ok.mpr rfl

theorem sound_of_parse {raw : Text} {l : Literal} (read : parse raw = .ok l) : Sound raw l := by
  obtain rfl := parse_eq_ok.mp read
  exact sound_raw l

theorem read_reader {t : Text} {l : Literal} : Json.read reader t = .ok l ↔
    ∃ raw, Json.read Json.string t = .ok raw ∧ parse raw = .ok l := by
  unfold reader
  rw [Json.read_converted]
  refine exists_congr fun raw => and_congr_right fun _ => ?_
  cases parse raw with
  | ok m => simp only [Except.ok.injEq]
  | error e => constructor <;> rintro ⟨⟩

theorem Obtained.sound {raw : Text} {l : Literal} (h : Obtained raw l) : Sound raw l := by
  cases h with
  | parsed read => exact sound_of_parse read
  | quoted read => exact sound_of_parse read
  | json string read =>
      obtain ⟨other, same, parsed⟩ := read_reader.mp read
      cases string.symm.trans same
      exact sound_of_parse parsed
  | value k _ => exact sound_raw _

end Literal

theorem Stage.ofName?_eq_test {name : Text} :
    Stage.ofName? name = some .test ↔ name.trim.lowerAscii = "test".toList := by
  unfold Stage.ofName?
  constructor
  · intro found
    simp only at found
    split at found
    · cases found
    · split at found
      · next same => exact same
      · split at found <;> cases found
  · intro same
    rw [same]
    decide

namespace Profile

theorem valid_test : test.fault? = none := by decide +kernel

theorem forStage_eq_ok {s : Stage} {p : Profile} : forStage s = .ok p ↔ s = .test ∧ p = test := by
  cases s <;> simp [forStage, eq_comm]

theorem forName_eq_ok {name : Text} {p : Profile} :
    forName name = .ok p ↔ name.trim.lowerAscii = "test".toList ∧ p = test := by
  rw [← Stage.ofName?_eq_test, forName]
  cases Stage.ofName? name with
  | none => exact iff_of_false nofun nofun
  | some s => simp only [forStage_eq_ok, Option.some_inj]

theorem Vetted.valid {p : Profile} (h : p.Vetted) : p.fault? = none := by
  cases h with
  | test => exact valid_test
  | stage given =>
      obtain ⟨-, rfl⟩ := forStage_eq_ok.mp given
      exact valid_test
  | name given =>
      unfold forName at given
      split at given
      · obtain ⟨-, rfl⟩ := forStage_eq_ok.mp given
        exact valid_test
      · cases given
  | json read =>
      unfold ofJson at read
      split at read
      · obtain ⟨valid, rfl⟩ := validated_eq_ok.mp read
        exact valid
      · cases read
  | module read =>
      unfold ModuleText.parse at read
      split at read
      · cases read
      split at read
      · cases read
      obtain ⟨valid, rfl⟩ := validated_eq_ok.mp read
      exact valid

end Profile

theorem Literal.read_quote (raw : Text) (l : Literal) :
    Json.read reader (Json.quote raw) = .ok l ↔ parse raw = .ok l := by
  have taken := Json.takes_string (Text.only_nil _) Json.depthLimit raw [] (by simp [Json.Follows])
  rw [List.nil_append, List.append_nil] at taken
  have string := Json.read_of_ok taken (Text.only_nil _)
  simp [read_reader, string]

/-- Whatever way a literal comes about, it is the literal of its raw text, and what it holds between
its quotes can be cut out of that text and quoted again. JSON gives the literals of just the strings
that are raw texts of literals. The profiles that are built in or looked at have only values that
fit their keys. -/
theorem obtained_sound_and_vetted_valid :
    (∀ raw l, Literal.Obtained raw l → Literal.Sound raw l) ∧
      (∀ t l, Json.read Literal.reader t = .ok l ↔
        ∃ raw, Json.read Json.string t = .ok raw ∧ Literal.parse raw = .ok l) ∧
      (∀ raw l, Json.read Literal.reader (Json.quote raw) = .ok l ↔ Literal.parse raw = .ok l) ∧
      ∀ p : Profile, p.Vetted → p.fault? = none :=
  ⟨fun _ _ obtained => obtained.sound, fun _ _ => Literal.read_reader, Literal.read_quote,
    fun _ vetted => vetted.valid⟩

/-- A literal with an escaped quote that is read from JSON, and the profile of a name. -/
theorem sound_escapedQuote :
    Literal.Sound "\"a\\\"b\"" ⟨"a\\\"b", by decide⟩ ∧ Profile.test.fault? = none := by
  have obtained : Literal.Obtained "\"a\\\"b\"" ⟨"a\\\"b", by decide⟩ :=
    .json (t := "\"\\\"a\\\\\\\"b\\\"\"") rfl rfl
  have vetted : Profile.test.Vetted := .name (t := " Test ") rfl
  exact ⟨obtained_sound_and_vetted_valid.1 _ _ obtained, obtained_sound_and_vetted_valid.2.2.2 _ vetted⟩

end EndpointProfile
