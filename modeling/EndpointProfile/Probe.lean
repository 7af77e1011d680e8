import EndpointProfile.Client
import EndpointProfile.Health

/-! Probing the origins that a profile names. An origin is well if it answers in time, whatever it
answers short of a failure of its own. -/
namespace EndpointProfile.Probe

inductive Outcome where
  | answered (status milliseconds : Nat)
  | failed (message : Text)
  deriving DecidableEq, Repr

/-- An answer that takes longer, in milliseconds, is slow. -/
def slowAfter : Nat := 2000

private def failure (name message : Text) : Dependency :=
  ⟨name, .unhealthy, none, some ("API error: " ++ message)⟩

/-- The health of an origin, given by its name and address. `ask` makes the request. -/
def check (ask : Url → Outcome) (name address : Text) : Dependency :=
  match Client.requestAddress address with
  | .error f => failure name f.message
  | .ok u =>
    match ask u with
    | .failed message => failure name message
    | .answered status milliseconds =>
      let health : Health :=
        if Http.isServerError status then .unhealthy
        else if slowAfter < milliseconds then .degraded
        else .healthy
      ⟨name, health, some milliseconds, some ("HTTP " ++ Http.statusText status)⟩

def checkAll (ask : Url → Outcome) (origins : List (Text × Text)) : List Dependency :=
  origins.map fun (name, address) => check ask name address

end EndpointProfile.Probe
