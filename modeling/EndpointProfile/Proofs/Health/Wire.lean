import EndpointProfile.Health
import EndpointProfile.Proofs.Json.OpenRecords

/-! A health report is read back from its text, and from any other text that says the same. -/
namespace EndpointProfile
open Text (Only)
open Json (Takes Takable Written Padded OrNull Items Valid depthLimit largestWord)

theorem Health.takes_name {h : Health} (depth : Nat) {one : Text}
    (written : Written (.string h.name) one) : Takes (Health.reader depth) one h := by
  have found : Health.all.find? (fun g => g.name = h.name) = some h := by cases h <;> rfl
  exact Json.takes_name depth found written

namespace Dependency

def get (d : Dependency) : (f : Field) → Slot f
  | .name => d.name
  | .status => d.status
  | .latency => d.latency
  | .message => d.message

def writes : (f : Field) → Slot f → Text → Prop
  | .name, t => Written (.string t)
  | .status, h => Written (.string h.name)
  | .latency, o => OrNull (fun n => Padded (Text.ofNat n)) o
  | .message, o => OrNull (fun t => Written (.string t)) o

/-- An object that says what a dependency is, whatever else it says. -/
def IsText (d : Dependency) (text : Text) : Prop :=
  schema.Writes writes d.get text

/-- A latency is a number of 64 bits. -/
def Fits (d : Dependency) : Prop :=
  ∀ n ∈ d.latency, n ≤ largestWord

section
variable {d : Dependency} {text : Text}

theorem takes_field (fits : d.Fits) (depth : Nat) (f : Field) (one : Text)
    (h : writes f (d.get f) one) : Takes (schema.reader f depth) one (d.get f) := by
  cases f with
  | name => exact Json.takes_written depth h
  | status => exact Health.takes_name depth h
  | latency => exact Json.takes_word_or_null depth fits h
  | message => exact Json.takes_string_or_null depth h

theorem takes_text (fits : d.Fits) (depth : Nat) (h : d.IsText text) :
    Takes (reader (depth + 1)) text d := by
  intro rest follows
  have taken : schema.record (depth + 1) (text ++ rest) = .ok (d.get, rest) :=
    Json.Schema.takes_record rfl (takes_field fits depth) h rest follows
  rw [reader, taken]
  rfl

-- a member that is no field, and two fields that are left out
example : Json.read reader "\x7b\"name\":\"a\",\"zone\":[1.5],\"status\":\"degraded\"\x7d" =
    .ok ⟨"a", .degraded, none, none⟩ := by
  rfl

theorem takable_text (fits : d.Fits) (depth : Nat) (h : d.IsText text) :
    Takable (reader (depth + 1)) text d := by
  obtain ⟨blank, members, holds⟩ := h
  have bare := takes_text fits depth (.intro (Text.only_nil _) members holds)
  exact .intro blank rfl (by decide) bare

end

/-- The text of a field, as it is written. -/
def text (d : Dependency) : Field → Text
  | .name => Json.quote d.name
  | .status => Json.quote d.status.name
  | .latency => d.latency.elim "null" Text.ofNat
  | .message => d.message.elim "null" Json.quote

theorem writes_text (d : Dependency) (f : Field) : writes f (d.get f) (d.text f) := by
  obtain ⟨name, status, latency, message⟩ := d
  cases f with
  | name => exact Json.written_quote name
  | status => exact Json.written_quote status.name
  | latency => cases latency <;> exact .intro (Text.only_nil _)
  | message =>
      cases message with
      | none => exact .intro (Text.only_nil _)
      | some t => exact Json.written_quote t

theorem toJson_eq (d : Dependency) : ∃ ms, d.toJson = .object ms ∧
    ms.map (fun m => (m.1, m.2.compact)) = schema.fields.map fun f => (schema.label f, d.text f) := by
  obtain ⟨name, status, latency, message⟩ := d
  cases latency <;> cases message <;> exact ⟨_, rfl, rfl⟩

theorem holds_text (d : Dependency) :
    schema.Holds writes d.get (schema.fields.map fun f => (schema.label f, d.text f)) := by
  have found : ∀ f, schema.field? (schema.label f) = some f := by rintro ⟨⟩ <;> rfl
  exact Json.Schema.holds_fields found (by decide) (fun f _ => d.writes_text f)
    (fun f left => absurd (schema.complete f) left)

theorem isText_compact (d : Dependency) : d.IsText d.toJson.compact := by
  obtain ⟨ms, same, members⟩ := d.toJson_eq
  have holds := d.holds_text
  rw [← members] at holds
  rw [same]
  exact holds.writes_compact

end Dependency

namespace Report

def get (r : Report) : (f : Field) → Slot f
  | .status => r.status
  | .service => r.service
  | .version => r.version
  | .environment => r.environment
  | .uptime => r.uptime
  | .dependencies => r.dependencies

/-- An array of dependencies, with blanks before it. -/
inductive ListText (ds : List Dependency) : Text → Prop
  | intro {gap inside : Text} {raw : List Text} : Only Json.isBlank gap → Items true raw inside →
      List.Forall₂ Dependency.IsText ds raw → ListText ds (gap ++ '[' :: (inside ++ [']']))

def writes : (f : Field) → Slot f → Text → Prop
  | .status, h => Written (.string h.name)
  | .service, t | .version, t | .environment, t => Written (.string t)
  | .uptime, n => Padded (Text.ofNat n)
  | .dependencies, ds => ListText ds

/-- An object that says what a report is, whatever else it says, with blanks around it. -/
inductive IsText (r : Report) : Text → Prop
  | intro {text tail : Text} : schema.Writes writes r.get text → Only Json.isBlank tail →
      IsText r (text ++ tail)

/-- All numbers of a report have 64 bits. -/
structure Fits (r : Report) : Prop where
  uptime : r.uptime ≤ largestWord
  dependencies : ∀ d ∈ r.dependencies, d.Fits

theorem takes_listText {ds : List Dependency} (fits : ∀ d ∈ ds, d.Fits) (depth : Nat) {text : Text}
    (h : ListText ds text) : Takes (Json.list Dependency.reader (depth + 2)) text ds := by
  obtain ⟨blank, items, texts⟩ := h
  refine Json.takes_list blank ?_ items
  clear items
  induction texts with
  | nil => exact .nil
  | cons one _ ih =>
      obtain ⟨first, others⟩ := List.forall_mem_cons.mp fits
      exact .cons (Dependency.takable_text first depth one) (ih others)

theorem takes_field {r : Report} (fits : r.Fits) (depth : Nat) (f : Field) (one : Text)
    (h : writes f (r.get f) one) : Takes (schema.reader f (depth + 2)) one (r.get f) := by
  cases f with
  | status => exact Health.takes_name (depth + 2) h
  | service => exact Json.takes_written (depth + 2) h
  | version => exact Json.takes_written (depth + 2) h
  | environment => exact Json.takes_written (depth + 2) h
  | uptime => exact Json.takes_padded (depth + 2) fits.uptime h
  | dependencies => exact takes_listText fits.dependencies depth h

/-- The text of a field, as it is written, where the dependencies are given by a text of their own. -/
def text (r : Report) (list : Text) : Field → Text
  | .status => Json.quote r.status.name
  | .service => Json.quote r.service
  | .version => Json.quote r.version
  | .environment => Json.quote r.environment
  | .uptime => Text.ofNat r.uptime
  | .dependencies => list

section
variable {r : Report} {list : Text}

theorem writes_text (h : ListText r.dependencies list) (f : Field) :
    writes f (r.get f) (r.text list f) := by
  cases f with
  | status => exact Json.written_quote r.status.name
  | service => exact Json.written_quote r.service
  | version => exact Json.written_quote r.version
  | environment => exact Json.written_quote r.environment
  | uptime => exact .intro (Text.only_nil _)
  | dependencies => exact h

theorem holds_text (h : ListText r.dependencies list) :
    schema.Holds writes r.get (schema.fields.map fun f => (schema.label f, r.text list f)) := by
  have found : ∀ f, schema.field? (schema.label f) = some f := by rintro ⟨⟩ <;> rfl
  exact Json.Schema.holds_fields found (by decide) (fun f _ => writes_text h f)
    (fun f left => absurd (schema.complete f) left)

end

theorem listText_compact {ds : List Dependency} {vs : List Json.Value}
    (texts : List.Forall₂ Dependency.IsText ds (vs.map Json.Value.compact)) :
    ListText ds (Json.Value.array vs).compact :=
  .intro (Text.only_nil _) (Json.items_compact vs) texts

theorem toJson_eq (r : Report) : ∃ ms, r.toJson = .object ms ∧
    ms.map (fun m => (m.1, m.2.compact)) = schema.fields.map fun f => (schema.label f,
      r.text (Json.Value.array (r.dependencies.map Dependency.toJson)).compact f) :=
  ⟨_, rfl, rfl⟩

theorem isText_of_holds {r : Report} {ms : List (Text × Json.Value)}
    (holds : schema.Holds writes r.get (ms.map fun m => (m.1, m.2.compact))) :
    r.IsText (Json.Value.object ms).compact := by
  rw [← List.append_nil (Json.Value.object ms).compact]
  exact .intro holds.writes_compact (Text.only_nil _)

theorem isText_compact (r : Report) : r.IsText r.toJson.compact := by
  have texts : List.Forall₂ Dependency.IsText r.dependencies
      ((r.dependencies.map Dependency.toJson).map Json.Value.compact) := by
    simp only [List.forall₂_map_right_iff]
    exact List.forall₂_same.mpr fun d _ => d.isText_compact
  obtain ⟨ms, same, members⟩ := r.toJson_eq
  have holds := holds_text (listText_compact texts)
  rw [← members] at holds
  rw [same]
  exact isText_of_holds holds

/-- A report is read back from the text that it is written in, and from any other one that says of
each field what the report says, or nothing where nothing is to be said. Whatever else is in such a
text makes no difference, in the report itself and in its dependencies. -/
theorem read_texts (r : Report) (fits : r.Fits) :
    Json.read reader r.toJson.compact = .ok r ∧
      ∀ text, r.IsText text → Json.read reader text = .ok r := by
  have every : ∀ text, r.IsText text → Json.read reader text = .ok r := by
    rintro _ @⟨text, tail, written, ends⟩
    have taken : schema.record depthLimit (text ++ tail) = .ok (r.get, tail) :=
      Json.Schema.takes_record rfl (takes_field fits 124) written tail (Json.follows_of_blank ends)
    refine Json.read_of_ok ?_ ends
    rw [reader, taken]
    rfl
  exact ⟨every _ r.isText_compact, every⟩

/-- An unknown member in the report, and a dependency without the member of its absent message. -/
theorem read_texts_edited :
    let d : Dependency := ⟨"BASE_API", .degraded, some 0, none⟩
    let r : Report := ⟨.degraded, "env", "1.0", "\"test\"", 18446744073709551615, [d]⟩
    let one : Json.Value := .object [("name", .string "BASE_API"), ("status", .string "degraded"),
      ("latency_ms", .number (.integer 0))]
    let edited : Json.Value := .object [("zone", .array [.null]), ("status", .string "degraded"),
      ("service", .string "env"), ("version", .string "1.0"), ("environment", .string "\"test\""),
      ("uptime_seconds", .number (.integer 18446744073709551615)), ("dependencies", .array [one])]
    r.Fits ∧ Json.read reader r.toJson.compact = .ok r ∧
      r.IsText edited.compact ∧ Json.read reader edited.compact = .ok r := by
  intro d r one edited
  have fits : r.Fits := ⟨by decide, by simp [r, d, Dependency.Fits]⟩
  have zone : Valid .value "[null]" := by
    have items : Items true ["null"] "null" := .first (.nil (Text.only_nil _))
    have null : Valid .value "null" := .word (Text.only_nil _) (by decide)
    exact .container .array (Text.only_nil _) items (List.forall_mem_singleton.mpr null)
  have dropped : Dependency.schema.Holds Dependency.writes d.get
      (([("name", d.text .name), ("status", d.text .status), ("latency_ms", d.text .latency)] :
        List Json.Member) ++ []) :=
    Json.Schema.Holds.drop (f := .message) d.holds_text rfl rfl
  have item : d.IsText one.compact := dropped.writes_compact
  have listed : ListText [d] (Json.Value.array [one]).compact := listText_compact (.cons item .nil)
  have inserted : schema.Holds writes r.get (([] : List Json.Member) ++
      (("zone", "[null]") : Json.Member) :: schema.fields.map fun f => (schema.label f, r.text _ f)) :=
    (holds_text (r := r) listed).insert rfl zone
  have isText : r.IsText edited.compact := isText_of_holds inserted
  exact ⟨fits, (read_texts r fits).1, isText, (read_texts r fits).2 edited.compact isText⟩

end Report
end EndpointProfile
