import EndpointProfile.Json.Record

/-! Health reports of the service and of what it depends on. -/
namespace EndpointProfile

/-- How well something is, from best to worst. -/
inductive Health where
  | healthy
  | degraded
  | unhealthy
  deriving DecidableEq, Repr

namespace Health

def all : List Health :=
  [.healthy, .degraded, .unhealthy]

def name : Health → Text
  | healthy => "healthy"
  | degraded => "degraded"
  | unhealthy => "unhealthy"

def toJson (h : Health) : Json.Value :=
  .string h.name

def reader : Json.Reader Health :=
  Json.choice all name

end Health

structure Dependency where
  name : Text
  status : Health
  latency : Option Nat
  message : Option Text
  deriving DecidableEq, Repr

namespace Dependency

def orNull {α : Type} (f : α → Json.Value) : Option α → Json.Value
  | some a => f a
  | none => .null

def toJson (d : Dependency) : Json.Value :=
  .object [
    ("name", .string d.name),
    ("status", d.status.toJson),
    ("latency_ms", orNull (fun (n : Nat) => .number (.integer n)) d.latency),
    ("message", orNull .string d.message)]

inductive Field where
  | name
  | status
  | latency
  | message
  deriving DecidableEq

abbrev Slot : Field → Type
  | .name => Text
  | .status => Health
  | .latency => Option Nat
  | .message => Option Text

def schema : Json.Schema Field Slot where
  title := "DependencyHealth"
  fields := [.name, .status, .latency, .message]
  complete := fun f => by cases f <;> simp
  label
    | .name => "name"
    | .status => "status"
    | .latency => "latency_ms"
    | .message => "message"
  reader
    | .name => Json.string
    | .status => Health.reader
    | .latency => Json.optional Json.word
    | .message => Json.optional Json.string
  absent
    | .name | .status => none
    | .latency | .message => some none

def reader : Json.Reader Dependency := fun depth t =>
  (schema.record depth t).map fun (get, rest) =>
    (⟨get .name, get .status, get .latency, get .message⟩, rest)

end Dependency

structure Report where
  status : Health
  service : Text
  version : Text
  environment : Text
  uptime : Nat
  dependencies : List Dependency
  deriving DecidableEq, Repr

namespace Report

/-- A report of a service that started some seconds ago. One that starts in the future has just
started. -/
def fresh (service version environment : Text) (startedAgo : Int) : Report :=
  ⟨.healthy, service, version, environment, startedAgo.toNat, []⟩

def worst (dependencies : List Dependency) : Health :=
  if dependencies.any (·.status = .unhealthy) then .unhealthy
  else if dependencies.any (·.status = .degraded) then .degraded
  else .healthy

def add (r : Report) (d : Dependency) : Report :=
  let dependencies := r.dependencies ++ [d]
  { r with dependencies, status := worst dependencies }

def toJson (r : Report) : Json.Value :=
  .object [
    ("status", r.status.toJson),
    ("service", .string r.service),
    ("version", .string r.version),
    ("environment", .string r.environment),
    ("uptime_seconds", .number (.integer r.uptime)),
    ("dependencies", .array (r.dependencies.map Dependency.toJson))]

inductive Field where
  | status
  | service
  | version
  | environment
  | uptime
  | dependencies
  deriving DecidableEq

abbrev Slot : Field → Type
  | .status => Health
  | .service | .version | .environment => Text
  | .uptime => Nat
  | .dependencies => List Dependency

def schema : Json.Schema Field Slot where
  title := "HealthResponse"
  fields := [.status, .service, .version, .environment, .uptime, .dependencies]
  complete := fun f => by cases f <;> simp
  label
    | .status => "status"
    | .service => "service"
    | .version => "version"
    | .environment => "environment"
    | .uptime => "uptime_seconds"
    | .dependencies => "dependencies"
  reader
    | .status => Health.reader
    | .service | .version | .environment => Json.string
    | .uptime => Json.word
    | .dependencies => Json.list Dependency.reader

def reader : Json.Reader Report := fun depth t =>
  (schema.record depth t).map fun (get, rest) =>
    (⟨get .status, get .service, get .version, get .environment, get .uptime, get .dependencies⟩,
      rest)

end Report
end EndpointProfile
