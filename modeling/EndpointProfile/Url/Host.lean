import EndpointProfile.Url.Basic
import EndpointProfile.Url.Domain.Basic
import EndpointProfile.Url.Percent

/-! Hosts: domain names, numbers that stand for addresses, and addresses between brackets. -/
namespace EndpointProfile.Url

inductive Fault where
  | noBase
  | emptyHost
  | badPort
  | badIpv4
  | badIpv6
  | badDomain
  | badDomainCharacter
  deriving DecidableEq, Repr

def Fault.message : Fault → Text
  | noBase => "relative URL without a base"
  | emptyHost => "empty host"
  | badPort => "invalid port number"
  | badIpv4 => "invalid IPv4 address"
  | badIpv6 => "invalid IPv6 address"
  | badDomain => "invalid international domain name"
  | badDomainCharacter => "invalid domain character"

namespace Host

/-- A part of an address: decimal, octal after a zero, hexadecimal after `0x`. -/
def partNumber? (t : Text) : Option Nat :=
  match t with
  | [] => none
  | '0' :: x :: digits =>
    if x = 'x' ∨ x = 'X' then if digits.isEmpty then some 0 else Text.digits? 16 digits
    else Text.digits? 8 (x :: digits)
  | digits => Text.digits? 10 digits

/-- The parts of a dotted name, without the empty one after a final dot. -/
def dottedParts (name : Text) : List Text :=
  let parts := name.splitOn '.'
  if 1 < parts.length ∧ parts.getLast? = some [] then parts.dropLast else parts

/-- Whether a domain name has to be an address, because its last part is a number. -/
def endsInNumber (name : Text) : Bool :=
  match (dottedParts name).getLast? with
  | none => false
  | some last => (!last.isEmpty && last.all Char.isDigit) || (partNumber? last).isSome

private def octetsOf (n : Nat) : List UInt8 :=
  [24, 16, 8, 0].map fun shift => UInt8.ofNat (n >>> shift)

/-- One to four parts. Each but the last is an octet, and the last fills all that is left. -/
def ipv4? (name : Text) : Option IpAddress :=
  let parts := dottedParts name
  if 4 < parts.length then none
  else
    (parts.mapM partNumber?).bind fun numbers =>
      let lead := numbers.dropLast
      let last := numbers.getLast?.getD 0
      let room := Nat.pow 256 (4 - lead.length)
      if lead.any (255 < ·) ∨ room ≤ last then none
      else
        let leading := lead.foldl (fun n part => 256 * n + part) 0
        IpAddress.ofOctets? (octetsOf (leading * room + last))

/-- What has been read of an address between brackets: its groups, and how many of them came
before the gap. -/
structure Groups where
  read : List UInt16
  gap : Option Nat

private def decimals? (t : Text) : Option Nat :=
  if t.isEmpty ∨ (1 < t.length ∧ t.head? = some '0') then none
  else (Text.digits? 10 t).filter (· ≤ 255)

/-- The two groups that four octets fill. -/
private def octetGroups? (t : Text) : Option (List UInt16) :=
  match (t.splitOn '.').mapM decimals? with
  | some [a, b, c, d] => some [UInt16.ofNat (256 * a + b), UInt16.ofNat (256 * c + d)]
  | _ => none

/-- Reads the groups that follow. One of up to four digits is followed by a colon and more, by a
second colon at most once, or by the end; one before a dot starts the octets that end it all. -/
def groupsAfter? : Nat → Groups → Text → Option Groups
  | _, g, [] => some g
  | 0, _, _ :: _ => none
  | fuel + 1, g, t =>
    if g.read.length + (if g.gap.isSome then 1 else 0) = 8 then none
    else if t.head? = some ':' then
      if g.gap.isSome then none
      else groupsAfter? fuel { g with gap := some g.read.length } (t.drop 1)
    else
      let digits := (t.take 4).takeWhile fun c => (Text.digits?.digit? 16 c).isSome
      let group := UInt16.ofNat ((Text.digits? 16 digits).getD 0)
      match t.drop digits.length with
      | [] => some { g with read := g.read ++ [group] }
      | '.' :: _ =>
        if digits.isEmpty then none
        else (octetGroups? t).map fun pair => { g with read := g.read ++ pair }
      | ':' :: rest =>
        if rest.isEmpty then none
        else groupsAfter? fuel { g with read := g.read ++ [group] } rest
      | _ :: _ => none

/-- Fills the gap with zeros. Without one there have to be eight groups. -/
def Groups.fill? (g : Groups) : Option IpAddress :=
  match g.gap with
  | none => IpAddress.ofGroups? g.read
  | some start =>
    if 7 < g.read.length then none
    else
      IpAddress.ofGroups?
        (g.read.take start ++ List.replicate (8 - g.read.length) 0 ++ g.read.drop start)

/-- The address between brackets. -/
def ipv6? (t : Text) : Option IpAddress :=
  if t.length < 2 then none
  else
    match t with
    | ':' :: ':' :: rest => (groupsAfter? rest.length ⟨[], some 0⟩ rest).bind Groups.fill?
    | ':' :: _ => none
    | _ => (groupsAfter? t.length ⟨[], none⟩ t).bind Groups.fill?

/-- The text between brackets, if it opens with one. -/
def bracketed? (t : Text) : Option (Except Fault Host) :=
  match t with
  | '[' :: inner =>
    some <|
      match (Text.dropEnd? [']'] inner).bind ipv6? with
      | some a => .ok (.ip a)
      | none => .error .badIpv6
  | _ => none

def parse (t : Text) : Except Fault Host :=
  match bracketed? t with
  | some r => r
  | none =>
    match (Utf8.decode? (Percent.decode t)).bind Domain.toAscii? with
    | none => .error .badDomain
    | some [] => .error .emptyHost
    | some domain =>
      if endsInNumber domain then
        match ipv4? domain with
        | some a => .ok (.ip a)
        | none => .error .badIpv4
      else .ok (.name domain)

private def barsFreeHost (c : Char) : Bool :=
  "\x00\t\n\r #/:<>?@[\\]^|".toList.contains c

/-- The host of an address with a scheme of its own kind, which is hardly looked at. -/
def parseFree (t : Text) : Except Fault Host :=
  match bracketed? t with
  | some r => r
  | none =>
    if t.any barsFreeHost then .error .badDomainCharacter
    else .ok (.name (Percent.encode (fun _ => false) t))

end Host
end EndpointProfile.Url
