import EndpointProfile.ErrorReply
import EndpointProfile.Proofs.Json.OpenRecords
import EndpointProfile.Proofs.Json.Values

/-! An error answer is read back from its text. -/
namespace EndpointProfile.ErrorReply
open Json (Takes Value depthLimit)

/-- An answer as it is read back: details that are `null` count as absent. -/
def received (r : ErrorReply) : ErrorReply :=
  { r with details := r.details.bind Value.nonNull? }

def get (r : ErrorReply) : (f : Field) → Slot f
  | .error => r.error
  | .code => r.code
  | .message => r.message
  | .details => r.details
  | .requestId => r.requestId

def present (r : ErrorReply) : List Field :=
  [.error, .code, .message] ++ (if r.details.isSome then [.details] else []) ++
    (if r.requestId.isSome then [.requestId] else [])

def text (r : ErrorReply) : Field → Text
  | .error => Json.quote r.error
  | .code => Json.quote r.code
  | .message => Json.quote r.message
  | .details => r.details.elim [] Value.compact
  | .requestId => r.requestId.elim [] Json.quote

theorem field?_label (f : Field) : schema.field? (schema.label f) = some f := by
  cases f <;> rfl

theorem nodup_present (r : ErrorReply) : r.present.Nodup := by
  cases details : r.details <;> cases id : r.requestId <;> simp [present, details, id]

theorem toJson_eq (r : ErrorReply) : ∃ ms, r.toJson = .object ms ∧
    ms.map (fun m => (m.1, m.2.compact)) = r.present.map fun f => (schema.label f, r.text f) := by
  obtain ⟨error, code, message, details, id⟩ := r
  cases details <;> cases id <;> exact ⟨_, rfl, rfl⟩

theorem absent_eq (r : ErrorReply) (f : Field) (left : f ∉ r.present) :
    schema.absent f = some (r.received.get f) := by
  obtain ⟨error, code, message, details, id⟩ := r
  cases f with
  | details =>
      cases details with
      | none => rfl
      | some v => simp [present] at left
  | requestId =>
      cases id with
      | none => rfl
      | some t => simp [present] at left
  | _ => simp [present] at left

theorem takes_field (r : ErrorReply) {depth limit : Nat} (plain : ∀ v ∈ r.details, v.Exact depth)
    (fits : depth ≤ limit) (f : Field) (present : f ∈ r.present) :
    Takes (schema.reader f limit) (r.text f) (r.received.get f) := by
  have quoted (t : Text) : Takes (Json.string limit) (Json.quote t) t :=
    Json.takes_string (Text.only_nil _) limit t
  obtain ⟨error, code, message, details, id⟩ := r
  cases f with
  | error => exact quoted error
  | code => exact quoted code
  | message => exact quoted message
  | details =>
      cases details with
      | none => cases id <;> simp [ErrorReply.present] at present
      | some v => exact Json.takes_nonNull (plain v rfl) fits
  | requestId =>
      cases id with
      | none => cases details <;> simp [ErrorReply.present] at present
      | some t => exact Json.takes_string_or_null limit (o := some t) (Json.written_quote t)

/-- An answer comes back from its text, whatever its details are, if these hold no floating point
numbers. Only details that are `null` come back as absent. -/
theorem read_toJson (r : ErrorReply) {depth : Nat} (shallow : depth < depthLimit)
    (plain : ∀ v ∈ r.details, v.Exact depth) :
    Json.read reader r.toJson.compact = .ok r.received := by
  have fits : depth ≤ depthLimit - 1 := by omega
  obtain ⟨ms, same, members⟩ := r.toJson_eq
  have holds : schema.Holds (fun f a one => Takes (schema.reader f (depthLimit - 1)) one a)
      r.received.get (ms.map fun m => (m.1, m.2.compact)) := by
    rw [members]
    exact Json.Schema.holds_fields field?_label r.nodup_present (r.takes_field plain fits) r.absent_eq
  have taken : schema.record depthLimit (r.toJson.compact ++ []) = .ok (r.received.get, []) := by
    rw [same]
    exact Json.Schema.takes_record rfl (fun _ _ takes => takes) holds.writes_compact []
      (by simp [Json.Follows])
  rw [List.append_nil] at taken
  refine Json.read_of_ok ?_ (Text.only_nil _)
  rw [reader, taken]
  rfl

theorem read_toJson_nested :
    let details : Value := .object [("retries", .number (.integer (-3))),
      ("supported", .array [.string "mainnet", .null])]
    let r : ErrorReply :=
      ⟨"Unknown network: x", "bad_request", "Unknown \"network\"", some details, some "7f"⟩
    2 < depthLimit ∧ (∀ v ∈ r.details, v.Exact 2) ∧ Json.read reader r.toJson.compact = .ok r := by
  intro details r
  have plain : ∀ v ∈ r.details, v.Exact 2 := by
    rintro v ⟨⟩
    refine .object ?_ (by decide)
    simp only [List.forall_mem_cons, List.not_mem_nil, false_implies, implies_true, and_true]
    refine ⟨.integer (by decide) (by decide), .array ?_⟩
    simp only [List.forall_mem_cons, List.not_mem_nil, false_implies, implies_true, and_true]
    exact ⟨.string _, .null⟩
  exact ⟨by decide, plain, read_toJson r (by decide) plain⟩

/-- Details that are `null` do not come back. -/
theorem null_details_lost : ¬ ∀ r : ErrorReply, (∀ v ∈ r.details, v.Exact 99) →
    Json.read reader r.toJson.compact = .ok r := by
  intro all
  have same := all ⟨"Not found", "not_found", "Not found", some .null, none⟩
    (by rintro v ⟨⟩; exact .null)
  have read : Json.read reader
      (ErrorReply.mk "Not found" "not_found" "Not found" (some .null) none).toJson.compact =
        .ok ⟨"Not found", "not_found", "Not found", none, none⟩ := by
    rfl
  rw [read] at same
  cases same

end EndpointProfile.ErrorReply
