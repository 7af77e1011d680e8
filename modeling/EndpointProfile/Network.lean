import EndpointProfile.Key
import EndpointProfile.Text.Blank

/-! The networks whose explorers and payment gateways a profile names. -/
namespace EndpointProfile

inductive Network where
  | mainnet
  | calibration
  | polygon
  | bsc
  deriving DecidableEq, Repr

namespace Network

def all : List Network :=
  [.mainnet, .calibration, .polygon, .bsc]

def name : Network → Text
  | mainnet => "mainnet"
  | calibration => "calibration"
  | polygon => "polygon"
  | bsc => "bsc"

/-- A network goes by its name in any ASCII case and with white space around it. -/
def ofName? (name : Text) : Option Network :=
  let wanted := name.trim.lowerAscii
  all.find? fun n => n.name = wanted

def explorerKey : Network → Key
  | mainnet => .mainnetExplorer
  | calibration => .calibrationExplorer
  | polygon => .polygonExplorer
  | bsc => .bscExplorer

def paymentGatewayKey? : Network → Option Key
  | polygon => some .paymentGateway
  | bsc => some .paymentGatewayBsc
  | mainnet | calibration => none

/-- Whether transactions of the network have hashes that its explorer can look up. -/
def isEvm : Network → Bool
  | polygon | bsc => true
  | mainnet | calibration => false

end Network
end EndpointProfile
