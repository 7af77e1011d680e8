import EndpointProfile.Proofs.Profile.Entries
import EndpointProfile.Service.Answer

/-! What is logged of a name that is refused. The name is shortened where it is logged as a value,
but the reason that is logged with it holds it as it came. -/
namespace EndpointProfile

namespace Log

theorem length_shorten (t : Text) : (shorten t).length ≤ 100 := by
  unfold shorten
  split
  · next long =>
      rw [List.length_append, List.length_take]
      have mark : "...[TRUNCATED]".toList.length = 14 := rfl
      omega
  · next short => omega

theorem fields_refused (ctx : Context) (field value reason : Text) :
    (refused ctx field value reason).fields =
      [("request_id".toList, .text ctx.requestId), ("environment", .text (shown ctx.environment)),
        ("ip_address", .text (shown ctx.address)), ("field", .text field),
        ("value", .text (shorten value)), ("reason", .text reason)] := rfl

/-- A length that the texts of a context keep to, and values that are logged as they are. -/
def Context.limit (ctx : Context) : Nat :=
  max (max 100 ctx.requestId.length) (max (shown ctx.environment).length (shown ctx.address).length)

/-- Whatever the value is, only the reason can be longer than the limit. -/
theorem length_field {ctx : Context} {field value reason label t : Text} (short : field.length ≤ 100)
    (h : (label, .text t) ∈ (refused ctx field value reason).fields) (other : label ≠ "reason") :
    t.length ≤ ctx.limit := by
  have kept := length_shorten value
  rw [fields_refused] at h
  simp only [List.mem_cons, Prod.mk.injEq, Datum.text.injEq, List.not_mem_nil, or_false] at h
  unfold Context.limit
  rcases h with ⟨-, rfl⟩ | ⟨-, rfl⟩ | ⟨-, rfl⟩ | ⟨-, rfl⟩ | ⟨-, rfl⟩ | ⟨rfl, -⟩
  · omega
  · omega
  · omega
  · omega
  · omega
  · exact absurd rfl other

theorem reason_field {ctx : Context} {field value reason t : Text} :
    ("reason".toList, .text t) ∈ (refused ctx field value reason).fields ↔ t = reason := by
  rw [fields_refused]
  simp

end Log

namespace Service

/-- A route whose parameter names nothing, with this name and the fault of it. -/
inductive Refuses : Route → Text → Fault → Prop
  | key {name : Text} : Key.ofName? name = none → Refuses (.key name) name (.unknownKey name)
  | network {name : Text} : Network.ofName? name = none →
      Refuses (.network name) name (.unknownNetwork name)

section
variable {route : Route} {name : Text} {f : Fault}

theorem Refuses.message (h : Refuses route name f) : name <:+ f.message := by
  cases h with
  | key => exact List.suffix_append _ _
  | network => exact List.suffix_append _ _

theorem Refuses.events (h : Refuses route name f) (s : State) (m : Moment) (r : Http.Request) :
    ∃ kind : Text, kind.length ≤ 100 ∧
      (answer s m r route).events = [Log.refused (context s m r) kind name f.message] := by
  cases h with
  | key unknown =>
      refine ⟨"key", by decide, ?_⟩
      rw [answer, answerKey, unknown]
  | network unknown =>
      refine ⟨"network", by decide, ?_⟩
      rw [answer, answerNetwork, unknown]

/-- Of a name that is refused one event is logged. All its fields but the reason are short, whatever
the name is. A longer name is in full in the reason and in no other field. -/
theorem refusal_fields (h : Refuses route name f) (s : State) (m : Moment) (r : Http.Request) :
    let limit := (context s m r).limit
    ∃ e, (answer s m r route).events = [e] ∧ ∀ label t, (label, .text t) ∈ e.fields →
      (label ≠ "reason" → t.length ≤ limit) ∧
        (limit < name.length → (name <:+: t ↔ label = "reason")) := by
  intro limit
  obtain ⟨kind, short, logged⟩ := h.events s m r
  refine ⟨_, logged, fun label t field => ?_⟩
  have bounded : label ≠ "reason" → t.length ≤ limit := Log.length_field short field
  refine ⟨bounded, fun long => ⟨fun inside => ?_, ?_⟩⟩
  · by_contra other
    exact absurd (Nat.lt_of_lt_of_le long inside.length_le) (Nat.not_lt.mpr (bounded other))
  · rintro rfl
    rw [Log.reason_field.mp field]
    exact h.message.isInfix

end

/-- Where a name that repeats the letter B is refused. -/
theorem refuses_replicate (n : Nat) :
    Refuses (.key (List.replicate n 'B')) (List.replicate n 'B')
      (.unknownKey (List.replicate n 'B')) := by
  refine .key (Key.ofName?_eq_none.mpr fun named => ?_)
  obtain ⟨k, -, same⟩ := List.mem_map.mp named
  have joined : '_' ∈ k.name := by cases k <;> decide
  rw [same] at joined
  exact absurd (List.eq_of_mem_replicate joined) (by decide)

/-- The longest name that could be logged as it is, and one letter more. -/
theorem refusal_fields_at_limit :
    let s : State := ⟨.test, .test, false, .empty, .empty⟩
    let m : Moment := ⟨0, List.replicate 36 '0', fun _ => .failed []⟩
    let name : Text := List.replicate 101 'B'
    let r : Http.Request := ⟨"GET", "/env/" ++ name, [], none⟩
    (context s m r).limit = 100 ∧ Refuses (.key name) name (.unknownKey name) ∧
      ∃ e, (answer s m r (.key name)).events = [e] ∧ ∀ label t, (label, .text t) ∈ e.fields →
        (label ≠ "reason" → t.length ≤ 100) ∧ (name <:+: t ↔ label = "reason") := by
  intro s m name r
  have limit : (context s m r).limit = 100 := by decide
  have refused := refuses_replicate 101
  have long : 100 < name.length := by decide
  obtain ⟨e, logged, fields⟩ := refusal_fields refused s m r
  rw [limit] at fields
  exact ⟨limit, refused, e, logged, fun label t field =>
    ⟨(fields label t field).1, (fields label t field).2 long⟩⟩

/-- No length bounds what is logged of names that are refused. -/
theorem not_bounded_refusals (s : State) (m : Moment) (r : Http.Request) :
    ¬ ∃ limit, ∀ route name f, Refuses route name f → ∀ e ∈ (answer s m r route).events,
      ∀ label t, (label, .text t) ∈ e.fields → t.length ≤ limit := by
  rintro ⟨limit, bounded⟩
  have refused := refuses_replicate (limit + 1)
  obtain ⟨kind, -, logged⟩ := refused.events s m r
  have short := bounded _ _ _ refused _ (logged ▸ List.mem_singleton_self _) _ _
    (Log.reason_field.mpr rfl)
  have part := refused.message.length_le
  rw [List.length_replicate] at part
  omega

/-- A name of 101 letters is logged in full, and no length bounds what is logged of names. -/
theorem long_names_logged_in_full :
    let s : State := ⟨.test, .test, false, .empty, .empty⟩
    let m : Moment := ⟨0, List.replicate 36 '0', fun _ => .failed []⟩
    let name : Text := List.replicate 101 'B'
    let r : Http.Request := ⟨"GET", "/env/" ++ name, [], none⟩
    (∃ e ∈ (dispatch s m r).events,
        ("reason".toList, .text ("Unknown key: " ++ name)) ∈ e.fields) ∧
      ¬ ∃ limit, ∀ route name f, Refuses route name f →
        ∀ e ∈ (answer s m r route).events, ∀ label t, (label, .text t) ∈ e.fields →
          t.length ≤ limit := by
  intro s m name r
  refine ⟨⟨Log.refused (context s m r) "key" name (Fault.unknownKey name).message, ?_, ?_⟩, ?_⟩
  · have routed : route? r = some (.key name) := by decide +kernel
    have unknown : Key.ofName? name = none := by decide
    rw [dispatch, routed]
    simp only [r, if_true, answer, answerKey, unknown, List.mem_singleton]
  · exact Log.reason_field.mpr rfl
  · exact not_bounded_refusals s m r

end Service
end EndpointProfile
