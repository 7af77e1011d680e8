import EndpointProfile.Metrics.Basic

/-! Which labels there are series for. Recording something adds the labels that it is recorded
under, and no others. -/
namespace EndpointProfile.Metrics

theorem Series.labels_update_subset {L α : Type} [DecidableEq L] {s : Series L α} {known : List L}
    {l : L} (old : s.labels ⊆ known) (new : l ∈ known) (start : α) (f : α → α) :
    (s.update start l f).labels ⊆ known := by
  intro m hm
  rcases (mem_labels_update s start l m f).mp hm with rfl | hm
  · exact new
  · exact old hm

/-- A finite set of labels for each of the six families. -/
structure Vocabulary where
  requests : List RequestLabels
  routes : List RouteLabels
  methods : List Text
  errors : List ErrorLabels
  lookups : List LookupLabels
  formats : List Text

variable {v : Vocabulary}

namespace Traffic

structure Within (v : Vocabulary) (t : Traffic) : Prop where
  requests : t.requests.labels ⊆ v.requests
  durations : t.durations.labels ⊆ v.routes
  inProgress : t.inProgress.labels ⊆ v.methods
  errors : t.errors.labels ⊆ v.errors

theorem within_empty : empty.Within v :=
  ⟨List.nil_subset _, List.nil_subset _, List.nil_subset _, List.nil_subset _⟩

variable {t : Traffic}

theorem Within.record (h : t.Within v) {method endpoint : Text} {status : Nat}
    (request : ⟨method, endpoint, status⟩ ∈ v.requests) (route : ⟨method, endpoint⟩ ∈ v.routes)
    (seconds : Float) : (t.record method endpoint status seconds).Within v :=
  { h with
    requests := Series.labels_update_subset h.requests request 0 _
    durations := Series.labels_update_subset h.durations route .empty _ }

theorem Within.recordError (h : t.Within v) {kind operation : Text}
    (error : ⟨kind, operation⟩ ∈ v.errors) : (t.recordError kind operation).Within v :=
  { h with errors := Series.labels_update_subset h.errors error 0 _ }

theorem Within.shift (h : t.Within v) {method : Text} (known : method ∈ v.methods)
    (change : Int64) : (t.shift method change).Within v :=
  { h with inProgress := Series.labels_update_subset h.inProgress known 0 _ }

end Traffic

namespace Usage

structure Within (v : Vocabulary) (u : Usage) : Prop where
  lookups : u.lookups.labels ⊆ v.lookups
  renders : u.renders.labels ⊆ v.formats

theorem within_empty : empty.Within v :=
  ⟨List.nil_subset _, List.nil_subset _⟩

variable {u : Usage}

theorem Within.recordFound (h : u.Within v) {key : Text} (known : ⟨key, "found"⟩ ∈ v.lookups) :
    (u.recordLookup key true).Within v :=
  { h with lookups := Series.labels_update_subset h.lookups known 0 _ }

theorem Within.recordMissing (h : u.Within v) (known : ⟨"unknown", "not_found"⟩ ∈ v.lookups)
    (name : Text) : (u.recordLookup name false).Within v :=
  { h with lookups := Series.labels_update_subset h.lookups known 0 _ }

theorem Within.recordRender (h : u.Within v) {format : Text} (known : format ∈ v.formats) :
    (u.recordRender format).Within v :=
  { h with renders := Series.labels_update_subset h.renders known 0 _ }

end Usage
end EndpointProfile.Metrics
