import EndpointProfile.Json.Fault
import EndpointProfile.Network
import EndpointProfile.Stage
import EndpointProfile.Violation

/-! Why a profile could not be found, read or used. -/
namespace EndpointProfile

inductive ValueFault where
  | unknownStage (name : Text)
  | otherStage (wanted : Stage)
  | violation (v : Violation)
  deriving DecidableEq, Repr

private def unknownStageText (name : Text) : Text :=
  "Unknown environment variant: " ++ name

def ValueFault.message : ValueFault → Text
  | unknownStage name => unknownStageText name
  | otherStage wanted => "profile declares a different environment than " ++ wanted.name
  | violation v => v.message

inductive Malformation where
  | afterClosing
  | noOpening
  | missingOpening
  | missingClosing
  | missingComma
  | noEntry
  | notQuoted
  | badEscape
  deriving DecidableEq, Repr

def Malformation.message : Malformation → Text
  | afterClosing => "content after the closing brace"
  | noOpening => "expected \u0060module.exports = \x7b\u0060"
  | missingOpening => "missing \u0060module.exports = \x7b\u0060"
  | missingClosing => "missing closing brace"
  | missingComma => "missing comma between entries"
  | noEntry => "expected \u0060KEY: 'value'\u0060"
  | notQuoted => "value must be a single-quoted string"
  | badEscape => "bad escape sequence"

inductive Fault where
  | unknownKey (name : Text)
  | unknownStage (name : Text)
  | unavailable (stage : Stage)
  | unknownNetwork (name : Text)
  | noPaymentGateway (network : Network)
  | noTransactionExplorer (network : Network)
  | violation (v : Violation)
  | badValue (key : Key) (fault : ValueFault)
  | missingKey (key : Key)
  | duplicateKey (key : Key) (line : Nat)
  | malformed (line : Nat) (what : Malformation)
  | badJson (error : Json.Error)

def Fault.message : Fault → Text
  | unknownKey name => "Unknown key: " ++ name
  | unknownStage name => unknownStageText name
  | unavailable stage => "No profile is defined for the " ++ stage.name ++ " environment"
  | unknownNetwork name => "Unknown network: " ++ name
  | noPaymentGateway n => "No payment gateway is configured for " ++ n.name
  | noTransactionExplorer n => "No transaction explorer is configured for " ++ n.name
  | violation v => "Validation failed: " ++ v.message
  | badValue key f => "Invalid value for " ++ key.name ++ ": " ++ f.message
  | missingKey key => "Missing key: " ++ key.name
  | duplicateKey key line =>
    "Duplicate key " ++ key.name ++ " on line " ++ Text.ofNat line
  | malformed line what =>
    "Malformed module on line " ++ Text.ofNat line ++ ": " ++ what.message
  | badJson e => "Serialization error: " ++ e.message

end EndpointProfile
