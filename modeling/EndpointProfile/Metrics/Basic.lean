import EndpointProfile.Metrics.Series

/-! What the service counts: requests and their durations, errors, lookups and renders. -/
namespace EndpointProfile.Metrics

structure RequestLabels where
  method : Text
  endpoint : Text
  status : Nat
  deriving DecidableEq, Repr

structure RouteLabels where
  method : Text
  endpoint : Text
  deriving DecidableEq, Repr

structure ErrorLabels where
  kind : Text
  operation : Text
  deriving DecidableEq, Repr

structure LookupLabels where
  key : Text
  status : Text
  deriving DecidableEq, Repr

/-- The upper ends of the ranges that durations are counted in, in seconds. -/
def bounds : List Float :=
  [0.001, 0.005, 0.01, 0.05, 0.1, 0.5, 1, 5]

/-- How many durations fell in each range, their sum, and how many there were. -/
structure Histogram where
  counts : List Nat
  sum : Float
  count : Nat

namespace Histogram

def empty : Histogram :=
  ⟨bounds.map fun _ => 0, 0, 0⟩

/-- Counts a value in the first range that holds it. -/
def countIn (x : Float) : List Float → List Nat → List Nat
  | b :: bounds, n :: counts => if x ≤ b then (n + 1) :: counts else n :: countIn x bounds counts
  | _, counts => counts

def observe (h : Histogram) (x : Float) : Histogram :=
  ⟨countIn x bounds h.counts, h.sum + x, h.count + 1⟩

end Histogram

structure Traffic where
  requests : Series RequestLabels Nat
  durations : Series RouteLabels Histogram
  inProgress : Series Text Int64
  errors : Series ErrorLabels Nat

namespace Traffic

def empty : Traffic :=
  ⟨[], [], [], []⟩

def record (t : Traffic) (method endpoint : Text) (status : Nat) (seconds : Float) : Traffic :=
  { t with
    requests := t.requests.update 0 ⟨method, endpoint, status⟩ (· + 1)
    durations := t.durations.update .empty ⟨method, endpoint⟩ (·.observe seconds) }

def recordError (t : Traffic) (kind operation : Text) : Traffic :=
  { t with errors := t.errors.update 0 ⟨kind, operation⟩ (· + 1) }

/-- Changes the number of requests of a method that are in progress. -/
def shift (t : Traffic) (method : Text) (change : Int64) : Traffic :=
  { t with inProgress := t.inProgress.update 0 method (· + change) }

end Traffic

/-- Lookups of keys and renders of whole profiles. -/
structure Usage where
  lookups : Series LookupLabels Nat
  renders : Series Text Nat

namespace Usage

def empty : Usage :=
  ⟨[], []⟩

/-- Names that are no keys are counted together, whatever they are. -/
def recordLookup (u : Usage) (key : Text) (found : Bool) : Usage :=
  let labels : LookupLabels := if found then ⟨key, "found"⟩ else ⟨"unknown", "not_found"⟩
  { u with lookups := u.lookups.update 0 labels (· + 1) }

def recordRender (u : Usage) (format : Text) : Usage :=
  { u with renders := u.renders.update 0 format (· + 1) }

end Usage
end EndpointProfile.Metrics
