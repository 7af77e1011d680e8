import EndpointProfile.Text.Basic

/-! The nine keys of a profile, in record order. -/
namespace EndpointProfile

inductive Key where
  | environment
  | api
  | paymentGateway
  | paymentGatewayBsc
  | mainnetExplorer
  | calibrationExplorer
  | polygonExplorer
  | bscExplorer
  | ecoApi
  deriving DecidableEq, Repr

namespace Key

/-- What the value of a key stands for. -/
inductive Kind where
  | environmentName
  | serviceOrigin
  | explorerAddress
  deriving DecidableEq, Repr

def all : List Key :=
  [.environment, .api, .paymentGateway, .paymentGatewayBsc, .mainnetExplorer,
    .calibrationExplorer, .polygonExplorer, .bscExplorer, .ecoApi]

@[simp] theorem mem_all (k : Key) : k ∈ all := by
  cases k <;> decide

def name : Key → Text
  | environment => "NODE_ENV"
  | api => "BASE_API"
  | paymentGateway => "BASE_PAYMENT_GATEWAY_API"
  | paymentGatewayBsc => "BASE_PAYMENT_GATEWAY_BSC_API"
  | mainnetExplorer => "BASE_MAINNET_ADDRESS"
  | calibrationExplorer => "BASE_CALIBRATION_ADDRESS"
  | polygonExplorer => "BASE_POLYGON_ADDRESS"
  | bscExplorer => "BASE_BSC_ADDRESS"
  | ecoApi => "BASE_ECO_API"

def kind : Key → Kind
  | environment => .environmentName
  | api | paymentGateway | paymentGatewayBsc | ecoApi => .serviceOrigin
  | mainnetExplorer | calibrationExplorer | polygonExplorer | bscExplorer => .explorerAddress

def index (k : Key) : Nat :=
  all.idxOf k

def ofName? (name : Text) : Option Key :=
  all.find? fun k => k.name = name

end Key
end EndpointProfile
