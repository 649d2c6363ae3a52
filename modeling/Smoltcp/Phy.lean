import Mathlib

/-!
# Capabilities of a device

What kind of packets a device carries, and which checksums it takes over.
-/

namespace Smoltcp

inductive Medium where
  | ethernet
  | ip
  | ieee802154
  deriving DecidableEq, Repr

/-- A description of checksum behavior for a particular protocol. -/
inductive Checksum.Behavior where
  /-- Verify checksum when receiving and compute checksum when sending. -/
  | both
  /-- Verify checksum when receiving. -/
  | rx
  /-- Compute checksum before sending. -/
  | tx
  /-- Ignore checksum completely. -/
  | none
  deriving DecidableEq, Repr

namespace Checksum.Behavior

/-- Returns whether checksum should be verified when receiving. -/
def verifies : Behavior → Bool
  | .both => true
  | .rx => true
  | .tx => false
  | .none => false

/-- Returns whether checksum should be computed when sending. -/
def computes : Behavior → Bool
  | .both => true
  | .rx => false
  | .tx => true
  | .none => false

end Checksum.Behavior

/-- A description of checksum behavior for every supported protocol. -/
structure ChecksumCapabilities where
  ipv4 : Checksum.Behavior := .both
  udp : Checksum.Behavior := .both
  tcp : Checksum.Behavior := .both
  icmpv4 : Checksum.Behavior := .both
  icmpv6 : Checksum.Behavior := .both
  deriving DecidableEq, Repr

end Smoltcp
