import EndpointProfile.Literal
import EndpointProfile.Text.Lower
import EndpointProfile.Url.Parser

/-! What is checked of texts from outside: web addresses, transaction hashes, lengths, scripts. -/
namespace EndpointProfile

/-- What a web address lacks. -/
inductive AddressFault where
  | unreadable (fault : Url.Fault)
  | otherScheme
  | noHost
  deriving DecidableEq, Repr

def AddressFault.message : AddressFault → Text
  | unreadable f => f.message
  | otherScheme => "scheme must be http or https"
  | noHost => "missing host"

inductive Violation where
  | badAddress (text : Text) (fault : AddressFault)
  | badLiteral (fault : Literal.Fault)
  | badTransactionHash
  | tooLong (limit : Nat)
  | script
  deriving DecidableEq, Repr

namespace Violation

def message : Violation → Text
  | badAddress t f => "Invalid URL format: " ++ t ++ ": " ++ f.message
  | badLiteral f => "Invalid quoted literal: " ++ f.message
  | badTransactionHash =>
    "Invalid transaction hash: must be 0x followed by 64 hexadecimal characters"
  | tooLong limit =>
    "Input exceeds maximum length of " ++ Text.ofNat limit ++ " characters"
  | script => "XSS attempt detected: potentially dangerous content found"

end Violation

namespace Check

/-- Texts that a page could run, in lower case. -/
def dangerous : List Text :=
  ["<script", "javascript:", "onerror=", "onclick=", "onload=", "<iframe", "document.cookie", "eval("]

/-- A text with a dangerous piece in any letter case is refused. -/
def script? (t : Text) : Option Violation :=
  let lowered := t.lower
  if dangerous.any (Text.includes · lowered) then some .script else none

/-- The limit counts bytes. -/
def length? (limit : Nat) (t : Text) : Option Violation :=
  if limit < t.byteCount then some (.tooLong limit) else none

def addressLimit : Nat := 2048

def hasHost (u : Url) : Bool :=
  match u.host? with
  | none | some (.name []) => false
  | some _ => true

def addressFault? (t : Text) : Option AddressFault :=
  match Url.parse t with
  | .error f => some (.unreadable f)
  | .ok u =>
    if u.scheme ≠ "http" ∧ u.scheme ≠ "https" then some .otherScheme
    else if hasHost u then none
    else some .noHost

/-- A web address is short, harmless and absolute, has a web scheme, and names a host. -/
def address? (t : Text) : Option Violation :=
  length? addressLimit t <|> script? t <|> (addressFault? t).map (.badAddress t)

def isHexDigit (c : Char) : Bool :=
  c.isDigit || ('a' ≤ c && c ≤ 'f') || ('A' ≤ c && c ≤ 'F')

def isTransactionHash (t : Text) : Bool :=
  match t with
  | '0' :: 'x' :: digits => digits.length = 64 && digits.all isHexDigit
  | _ => false

def transactionHash? (t : Text) : Option Violation :=
  if isTransactionHash t then none else some .badTransactionHash

end Check
end EndpointProfile
