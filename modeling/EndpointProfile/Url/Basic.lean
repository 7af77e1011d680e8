import EndpointProfile.IpAddress

/-! Absolute addresses, taken apart, and their text. -/
namespace EndpointProfile

namespace Url

inductive Host where
  | name (text : Text)
  | ip (address : IpAddress)
  deriving DecidableEq

/-- The text of a host. The groups of an address stand between brackets, and none of them is
written as octets. -/
def Host.text : Host → Text
  | name t => t
  | ip (.v4 octets) => IpAddress.octetsText octets.toList
  | ip (.v6 groups) => "[" ++ IpAddress.groupsText groups.toList ++ "]"

structure Authority where
  username : Text
  password : Text
  host : Host
  port : Option Nat
  deriving DecidableEq

def Authority.text (a : Authority) : Text :=
  let login :=
    a.username ++ (if a.password.isEmpty then [] else ':' :: a.password)
  (if login.isEmpty then [] else login ++ ['@']) ++ a.host.text ++
    match a.port with
    | some n => ':' :: Text.ofNat n
    | none => []

/-- A path is a list of segments, or for a scheme of its own kind a text without structure. -/
inductive Path where
  | segments (list : List Text)
  | free (text : Text)
  deriving DecidableEq

def Path.text : Path → Text
  | segments l => l.flatMap ('/' :: ·)
  | free t => t

end Url

structure Url where
  scheme : Text
  authority : Option Url.Authority
  path : Url.Path
  query : Option Text
  fragment : Option Text
  deriving DecidableEq

namespace Url

/-- The schemes whose addresses name a host. -/
def isSpecialScheme (scheme : Text) : Bool :=
  scheme = "http" || scheme = "https" || scheme = "ws" || scheme = "wss" || scheme = "ftp" ||
    scheme = "file"

def defaultPort? (scheme : Text) : Option Nat :=
  if scheme = "http" ∨ scheme = "ws" then some 80
  else if scheme = "https" ∨ scheme = "wss" then some 443
  else if scheme = "ftp" then some 21
  else none

def host? (u : Url) : Option Host :=
  u.authority.map (·.host)

def port? (u : Url) : Option Nat :=
  u.authority.bind (·.port)

/-- The path and the query, as a request line names them. -/
def target (u : Url) : Text :=
  u.path.text ++
    match u.query with
    | some q => '?' :: q
    | none => []

/-- The text of an address. A path that begins like an authority is kept from being one. -/
def text (u : Url) : Text :=
  u.scheme ++ ":" ++
    (match u.authority with
      | some a => "//" ++ a.text
      | none => if (Text.dropStart? "//" u.path.text).isSome then "/." else []) ++
    u.target ++
    match u.fragment with
    | some f => '#' :: f
    | none => []

end Url
end EndpointProfile
