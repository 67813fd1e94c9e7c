import WatchedStore.Error
import WatchedStore.Session.HostName
import WatchedStore.Text.Split

/-! # Hosts

What a machine answers when a program on it listens at an address or dials one, and which names it
knows. Two machines are described: one whose network is down altogether, so that listening works
and dialing does not, not even to the machine itself; and one that reaches itself, where dialing
succeeds at the addresses that somebody listens at.
-/

namespace WatchedStore

open WatchedStore.Text

/-- How a machine answers to listening, dialing and names; none stands for success of the former
two. -/
structure Host where
  listen : SocketAddress → Option IoFailure
  dial : SocketAddress → Option IoFailure
  lookUp : String → Except IoFailure HostAddress

namespace HostAddress

/-- An address of version 4 written as one of version 6. -/
def isMapped : HostAddress → Bool
  | v4 .. => false
  | v6 groups _ => groups.take 6 = [0, 0, 0, 0, 0, 0xFFFF]

/-- The number of the link that an address names. -/
def zone : HostAddress → Nat
  | v4 .. => 0
  | v6 _ zone => zone

/-- The address that stands for every address of a machine. -/
def isUnspecified : HostAddress → Bool
  | v4 a b c d => a + b + c + d = 0
  | v6 groups _ => groups.all (· = 0)

/-- An address by which a machine reaches itself. -/
def isLoopback : HostAddress → Bool
  | v4 a .. => a = 127
  | v6 groups _ => groups = [0, 0, 0, 0, 0, 0, 0, 1]

end HostAddress

namespace Host

/-- The link that an address names does not exist. -/
def noSuchLink : IoFailure := .os 19

/-- The address makes no sense here. -/
def invalidAddress : IoFailure := .os 22

/-- No interface of the machine has the address. -/
def notAvailable : IoFailure := .os 99

/-- No route leads to the address. -/
def unreachable : IoFailure := .os 101

/-- Nobody listens at the address. -/
def refused : IoFailure := .os 111

/-- The link of a machine that is always there. -/
def ownLink : Nat := 1

/-- The links that a machine knows by name. -/
def links : List (String × Nat) := [("lo", ownLink)]

/-- A name could not be looked up. -/
def lookUpFailed (reason : String) : IoFailure :=
  .stated .other ("failed to lookup address information: " ++ reason)

/-- The name of a machine for itself, in capitals or not. -/
def ownName : String := "localhost"

/-- Finds a machine where nobody can be asked: by its address, or because it is the own one. -/
def lookUpAlone (name : String) : Except IoFailure HostAddress :=
  if name.toList.contains '\x00' then .error .nulInName
  else
    match HostName.address? links name.toList with
    | some address => .ok address
    | none =>
      if name.toLower = ownName then .ok (.v4 127 0 0 1)
      else if HostName.isWellFormed name.toList then
        .error (lookUpFailed "Temporary failure in name resolution")
      else .error (lookUpFailed "Name or service not known")

/-- A machine whose network is down, its own loop included. -/
def isolated : Host where
  listen address :=
    match address.host with
    | .v4 .. => none
    | host@(.v6 ..) =>
      if host.isMapped || host.isUnspecified then none
      else if host.isGroup then some invalidAddress
      else if host.isLinkLocal && host.zone = 0 then some invalidAddress
      else if host.isLinkLocal && host.zone ≠ ownLink then some noSuchLink
      else some notAvailable
  dial address :=
    match address.host with
    | .v4 .. => some unreachable
    | host@(.v6 ..) =>
      if host.isMapped || host.isGroup then some unreachable
      else if host.isLinkLocal && host.zone = 0 then some invalidAddress
      else some notAvailable
  lookUp := lookUpAlone

/-- A machine that reaches itself, with somebody listening at the given addresses. -/
def loopback (listening : List SocketAddress) : Host where
  listen address :=
    if address.host.isLoopback || address.host.isUnspecified then none else some notAvailable
  dial address := if address ∈ listening then none else some refused
  lookUp := lookUpAlone

/-- The address that a text names: spelled out, or as a name and a service behind the last colon. -/
def resolve (host : Host) (text : String) : Except IoFailure SocketAddress :=
  match SocketAddress.parse? text with
  | some address => .ok address
  | none =>
    match splitLast? (· = ':') text.toList with
    | none => .error (.stated .other "invalid socket address")
    | some (name, service) =>
      match parseUnsigned? shortBound service with
      | none => .error (.stated .other "invalid port value")
      | some service => (host.lookUp (String.ofList name)).map fun machine => ⟨machine, service⟩

/-- Listens at the address that a text names. -/
def listenAt (host : Host) (text : String) : Option IoFailure :=
  match host.resolve text with
  | .ok address => host.listen address
  | .error failure => some failure

/-- Dials the address that a text names. -/
def dialAt (host : Host) (text : String) : Option IoFailure :=
  match host.resolve text with
  | .ok address => host.dial address
  | .error failure => some failure

end Host

end WatchedStore
