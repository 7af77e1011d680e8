import EndpointProfile.Profile.Basic

/-! Addresses built from a profile: explorers, payment gateways, and pages of transactions. -/
namespace EndpointProfile

/-- Joins two parts of an address with one slash. An empty part is left out. -/
def joinPath (base path : Text) : Text :=
  if path.isEmpty then base
  else if base.isEmpty then path
  else Text.dropEndWhile (· = '/') base ++ "/" ++ path.dropWhile (· = '/')

namespace Profile

def explorerBase (p : Profile) (n : Network) : Text :=
  (p.get n.explorerKey).unquoted

def paymentGateway (p : Profile) (n : Network) : Except Fault Text :=
  match n.paymentGatewayKey? with
  | some k => .ok (p.get k).unquoted
  | none => .error (.noPaymentGateway n)

theorem paymentGateway_eq_error {p : Profile} {n : Network} {f : Fault} :
    p.paymentGateway n = .error f ↔ n.paymentGatewayKey? = none ∧ f = .noPaymentGateway n := by
  unfold paymentGateway
  cases n.paymentGatewayKey? with
  | some k => simp
  | none => simp [eq_comm]

/-- The page of a transaction, on networks that have such pages. -/
def transactionAddress (p : Profile) (n : Network) (hash : Text) : Except Fault Text :=
  if n.isEvm then
    match Check.transactionHash? hash with
    | some v => .error (.violation v)
    | none => .ok (joinPath (p.explorerBase n) ("tx/" ++ hash))
  else .error (.noTransactionExplorer n)

end Profile
end EndpointProfile
