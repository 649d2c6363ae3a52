import Smoltcp.Time
import Smoltcp.Wire.Address

/-!
# The routing table

Of the routes that match and have not expired the one with the longest prefix is taken, and of
several of them the last one.
-/

namespace Smoltcp

/-- A prefix of addresses that should be routed via a router. -/
structure Route where
  cidr : IpCidr
  viaRouter : IpAddress
  /-- `none` means "forever". -/
  preferredUntil : Option Instant
  /-- `none` means "forever". -/
  expiresAt : Option Instant
  deriving DecidableEq

namespace Route

/-- The route is there for an address at an instant. -/
def matching (route : Route) (addr : IpAddress) (timestamp : Instant) : Prop :=
  (∀ expiresAt ∈ route.expiresAt, ¬ expiresAt < timestamp) ∧ route.cidr.containsAddr addr

-- not decided by trying all instants
instance (route : Route) (addr : IpAddress) (timestamp : Instant) :
    Decidable (route.matching addr timestamp) :=
  @instDecidableAnd _ _ (Option.decidableForallMem _) inferInstance

end Route

/-- A routing table. -/
structure Routes where
  storage : List Route
  deriving DecidableEq

namespace Routes

def new : Routes := ⟨[]⟩

def lookup (routes : Routes) (addr : IpAddress) (timestamp : Instant) :
    Checked (Option IpAddress) := do
  Checked.assert addr.isUnicast
  let matching := routes.storage.filter fun route => route.matching addr timestamp
  return (matching.reverse.maxOn? fun route => route.cidr.prefixLen).map Route.viaRouter

end Routes

end Smoltcp
