import Smoltcp.Iface.Dispatch
import Smoltcp.Iface.Neighbor
import Smoltcp.Iface.Route
import Smoltcp.Wire.Icmpv6.Ndisc
import Smoltcp.Wire.Igmp

/-!
# The interface

The device independent part of an interface, and what it says about addresses: which ones are its
own, which groups it is in, which addresses are broadcast addresses, where a packet is routed and
which source address it gets.
-/

namespace Smoltcp

/-- The compile-time choices that an interface depends on. -/
structure IfaceConfig where
  maxAddrCount : ℕ
  maxMulticastGroupCount : ℕ
  neighborCacheCount : ℕ
  neighborCacheCount_pos : 0 < neighborCacheCount
  ipv6HbhMaxOptions : ℕ
  protoRpl : Bool
  hardware : HardwareConfig

/-- The choices of the default features. -/
def IfaceConfig.default : IfaceConfig where
  maxAddrCount := 2
  maxMulticastGroupCount := 4
  neighborCacheCount := 8
  neighborCacheCount_pos := by decide
  ipv6HbhMaxOptions := 4
  protoRpl := false
  hardware := ⟨8, .inr rfl⟩

/-! ### Multicast groups -/

inductive GroupState where
  /-- Joining group, we have to send the join packet. -/
  | joining
  /-- We've already sent the join packet, we have nothing to do. -/
  | joined
  /-- We want to leave the group, we have to send a leave packet. -/
  | leaving
  deriving DecidableEq, Repr

inductive IgmpReportState where
  | inactive
  | toGeneralQuery (version : IgmpVersion) (timeout : Instant) (interval : Duration)
      (nextIndex : ℕ)
  | toSpecificQuery (version : IgmpVersion) (timeout : Instant) (group : Ipv4.Address)
  deriving DecidableEq, Repr

inductive MldReportState where
  | inactive
  | toGeneralQuery (timeout : Instant)
  | toSpecificQuery (group : Ipv6.Address) (timeout : Instant)
  deriving DecidableEq, Repr

namespace Multicast

structure State (cfg : IfaceConfig) where
  groups : Heapless.LinearMap IpAddress GroupState cfg.maxMulticastGroupCount
  /-- When to report for (all or) the next multicast group membership via IGMP. -/
  igmpReportState : IgmpReportState
  mldReportState : MldReportState

variable {cfg : IfaceConfig}

def State.new : State cfg := ⟨.new _, .inactive, .inactive⟩

/-- Whether the group is in the table, and not about to be left. -/
def State.hasMulticastGroup (state : State cfg) (addr : IpAddress) : Prop :=
  match state.groups.get addr with
  | none => False
  | some .joining => True
  | some .joined => True
  | some .leaving => False

instance (state : State cfg) (addr : IpAddress) : Decidable (state.hasMulticastGroup addr) := by
  unfold State.hasMulticastGroup
  split <;> infer_instance

end Multicast

/-! ### The interface -/

/-- The device independent part of an interface. -/
structure InterfaceInner (cfg : IfaceConfig) where
  medium : Medium
  maxTransmissionUnit : ℕ
  checksum : ChecksumCapabilities
  now : Instant
  neighborCache : NeighborCache cfg.neighborCacheCount
  hardwareAddr : HardwareAddress
  /-- The identification of the next IPv4 packet that is fragmented. -/
  ipv4Id : UInt16
  /-- The tag of the next datagram that is fragmented for 6LoWPAN. -/
  tag : UInt16
  ipAddrs : List IpCidr
  anyIp : Bool
  routes : Routes
  multicast : Multicast.State cfg

namespace InterfaceInner

variable {cfg : IfaceConfig} (iface : InterfaceInner cfg)

/-- An interface for a device that has the medium of the hardware address. The identification and
the tag are random. -/
def new (maxTransmissionUnit : ℕ) (checksum : ChecksumCapabilities)
    (hardwareAddr : HardwareAddress) (now : Instant) (ipv4Id tag : UInt16) :
    InterfaceInner cfg where
  medium := hardwareAddr.medium
  maxTransmissionUnit
  checksum
  now
  neighborCache := .new _
  hardwareAddr
  ipv4Id
  tag
  ipAddrs := []
  anyIp := false
  routes := .new
  multicast := .new

/-- The address 10.0.0.1/8. -/
def exampleIpv4Cidr : IpCidr := .ipv4 ⟨0x0a000001, 8, by decide⟩

/-- The address fe80::1/64. -/
def exampleIpv6Cidr : IpCidr := .ipv6 ⟨0xfe80 <<< 112 ||| 1, 64, by decide⟩

def caps : DeviceCapabilities where
  medium := iface.medium
  maxTransmissionUnit := iface.maxTransmissionUnit
  checksumIpv4Tx := iface.checksum.ipv4.computes

def ipMtu : ℕ := iface.caps.ipMtu

/-! ### Own addresses -/

def ipv4Cidrs : List Ipv4.Cidr := iface.ipAddrs.filterMap fun
  | .ipv4 cidr => some cidr
  | .ipv6 _ => none

def ipv6Cidrs : List Ipv6.Cidr := iface.ipAddrs.filterMap fun
  | .ipv4 _ => none
  | .ipv6 cidr => some cidr

/-- Get the first IPv4 address of the interface. -/
def ipv4Addr : Option Ipv4.Address := iface.ipv4Cidrs.head?.map Ipv4.Cidr.address

/-- Get the first link-local IPv6 address of the interface, if present. -/
def linkLocalIpv6Address : Option Ipv6.Address :=
  (iface.ipv6Cidrs.map Ipv6.Cidr.address).find? fun addr => Ipv6.isLinkLocal addr

/-- Check whether the interface has the given IP address assigned. -/
def hasIpAddr (addr : IpAddress) : Prop := ∃ probe ∈ iface.ipAddrs, probe.address = addr

instance (addr : IpAddress) : Decidable (iface.hasIpAddr addr) :=
  inferInstanceAs (Decidable (∃ _ ∈ _, _))

/-- Determine if the given address is the solicited node multicast address for an IPv6 address
assigned to the interface. -/
def hasSolicitedNode (addr : Ipv6.Address) : Prop :=
  ∃ cidr ∈ iface.ipv6Cidrs, cidr.address ≠ Ipv6.localhost ∧
    (Ipv6.octets addr).drop 14 = (Ipv6.octets cidr.address).drop 14

instance (addr : Ipv6.Address) : Decidable (iface.hasSolicitedNode addr) :=
  inferInstanceAs (Decidable (∃ _ ∈ _, _))

/-- Check whether the interface listens to given destination multicast IP address. -/
def hasMulticastGroup (addr : IpAddress) : Prop :=
  iface.multicast.hasMulticastGroup addr ∨
    match addr with
    | .ipv4 key => key = Ipv4.multicastAllSystems
    | .ipv6 key =>
      cfg.protoRpl ∧ key = Ipv6.linkLocalAllRplNodes ∨
        key = Ipv6.linkLocalAllNodes ∨ iface.hasSolicitedNode key

instance : (addr : IpAddress) → Decidable (iface.hasMulticastGroup addr)
  | .ipv4 _ => inferInstanceAs (Decidable (_ ∨ _ = _))
  | .ipv6 _ => inferInstanceAs (Decidable (_ ∨ (_ ∧ _) ∨ _ ∨ _))

/-! ### Broadcast addresses -/

/-- Checks if an address is broadcast, taking into account IPv4 subnet-local broadcast
addresses. -/
def isBroadcastV4 (address : Ipv4.Address) : Prop :=
  Ipv4.isBroadcast address ∨ ∃ cidr ∈ iface.ipv4Cidrs, cidr.broadcast = some address

instance (address : Ipv4.Address) : Decidable (iface.isBroadcastV4 address) :=
  inferInstanceAs (Decidable (_ ∨ ∃ _ ∈ _, _))

/-- Checks if an IPv4 address is unicast, taking into account subnet broadcast addresses. -/
def isUnicastV4 (address : Ipv4.Address) : Prop :=
  Ipv4.isUnicast address ∧ ¬ iface.isBroadcastV4 address

instance (address : Ipv4.Address) : Decidable (iface.isUnicastV4 address) :=
  inferInstanceAs (Decidable (_ ∧ ¬ _))

def isBroadcast : IpAddress → Prop
  | .ipv4 address => iface.isBroadcastV4 address
  | .ipv6 _ => False

instance : (addr : IpAddress) → Decidable (iface.isBroadcast addr)
  | .ipv4 address => inferInstanceAs (Decidable (iface.isBroadcastV4 address))
  | .ipv6 _ => inferInstanceAs (Decidable False)

/-! ### Routing -/

def inSameNetwork (addr : IpAddress) : Prop := ∃ cidr ∈ iface.ipAddrs, cidr.containsAddr addr

instance (addr : IpAddress) : Decidable (iface.inSameNetwork addr) :=
  inferInstanceAs (Decidable (∃ _ ∈ _, _))

def route (addr : IpAddress) (timestamp : Instant) : Checked (Option IpAddress) :=
  -- Send directly.
  if iface.inSameNetwork addr ∨ addr.isBroadcast then .ok (some addr)
  -- Route via a router.
  else iface.routes.lookup addr timestamp

def hasNeighbor (addr : IpAddress) : Checked Bool := do
  match ← iface.route addr iface.now with
  | some routedAddr =>
    match iface.medium with
    | .ip => return true
    | .ethernet | .ieee802154 =>
      return (← iface.neighborCache.lookup routedAddr iface.now).isFound
  | none => return false

/-! ### Source addresses -/

/-- Get an IPv4 source address: the first address, whatever the destination is. -/
def getSourceAddressIpv4 (_ : Ipv4.Address) : Option Ipv4.Address := iface.ipv4Addr

/-- Whether an address may be a source address for a destination at all. -/
def isCandidateSourceAddress (dstAddr srcAddr : Ipv6.Address) : Prop :=
  ¬ (Ipv6.isLinkLocal dstAddr ∧ ¬ Ipv6.isLinkLocal srcAddr) ∧
    ¬ (Ipv6.isMulticast dstAddr ∧ Ipv6.multicastScope dstAddr = .linkLocal ∧
      Ipv6.isMulticast srcAddr ∧ Ipv6.multicastScope srcAddr ≠ .linkLocal) ∧
    ¬ (Ipv6.isUnspecified srcAddr ∨ Ipv6.isMulticast srcAddr)

instance (dstAddr srcAddr : Ipv6.Address) : Decidable (isCandidateSourceAddress dstAddr srcAddr) :=
  inferInstanceAs (Decidable (_ ∧ _ ∧ _))

/-- The leading bits that two sequences of octets have in common. -/
def commonBits : List UInt8 → List UInt8 → ℕ
  | l :: ls, r :: rs => if l = r then 8 + commonBits ls rs else 8 - (l ^^^ r).toNat.size
  | _, _ => 0

def commonPrefixLength (cidr : Ipv6.Cidr) (addr : Ipv6.Address) : ℕ :=
  min (commonBits (Ipv6.octets cidr.address) (Ipv6.octets addr)) cidr.prefixLen

/-- The scope of an address, as a number. -/
def scope (addr : Ipv6.Address) : ℕ := (Ipv6.multicastScope addr).toByte.toNat

/-- The better of a candidate and another address. -/
def prefer (dstAddr : Ipv6.Address) (candidate addr : Ipv6.Cidr) : Ipv6.Cidr :=
  if ¬ isCandidateSourceAddress dstAddr addr.address then candidate
  else
    -- Rule 1: prefer the address that is the same as the output destination address.
    let candidate :=
      if candidate.address ≠ dstAddr ∧ addr.address = dstAddr then addr else candidate
    -- Rule 2: prefer appropriate scope.
    let candidate :=
      if scope candidate.address < scope addr.address then
        if scope candidate.address < scope dstAddr then addr else candidate
      else if scope dstAddr < scope addr.address then addr
      else candidate
    -- Rule 8: use longest matching prefix.
    if commonPrefixLength candidate dstAddr < commonPrefixLength addr dstAddr then addr
    else candidate

/-- Return the IPv6 address that is a candidate source address for the given destination address.
Panics if the destination address is unspecified. -/
def getSourceAddressIpv6 (dstAddr : Ipv6.Address) : Checked Ipv6.Address := do
  Checked.assert (¬ Ipv6.isUnspecified dstAddr)
  match iface.ipv6Cidrs with
  | [] => return Ipv6.localhost
  | first :: rest =>
    if Ipv6.isLoopback dstAddr then return Ipv6.localhost
    else return ((first :: rest).foldl (prefer dstAddr) first).address

def getSourceAddress : IpAddress → Checked (Option IpAddress)
  | .ipv4 addr => .ok ((iface.getSourceAddressIpv4 addr).map .ipv4)
  | .ipv6 addr => do return some (.ipv6 (← iface.getSourceAddressIpv6 addr))

/-! ### Facts -/

variable {iface}

lemma mem_ipv6Cidrs {cidr : Ipv6.Cidr} : cidr ∈ iface.ipv6Cidrs ↔ .ipv6 cidr ∈ iface.ipAddrs := by
  rw [ipv6Cidrs, List.mem_filterMap]
  constructor
  · rintro ⟨c, hc, h⟩
    cases c <;> cases h
    exact hc
  · exact fun h => ⟨_, h, rfl⟩

lemma prefer_eq (dstAddr : Ipv6.Address) (candidate addr : Ipv6.Cidr) :
    prefer dstAddr candidate addr = candidate ∨ prefer dstAddr candidate addr = addr := by
  unfold prefer
  grind

lemma foldl_prefer_mem (dstAddr : Ipv6.Address) (cidrs : List Ipv6.Cidr) (candidate : Ipv6.Cidr) :
    cidrs.foldl (prefer dstAddr) candidate = candidate ∨
      cidrs.foldl (prefer dstAddr) candidate ∈ cidrs := by
  induction cidrs generalizing candidate with
  | nil => exact .inl rfl
  | cons cidr cidrs ih =>
    rw [List.foldl_cons]
    rcases ih (prefer dstAddr candidate cidr) with h | h
    · rw [h]
      rcases prefer_eq dstAddr candidate cidr with h | h
      · exact .inl h
      · right
        rw [h]
        exact List.mem_cons_self
    · exact .inr (List.mem_cons_of_mem _ h)

lemma exists_getSourceAddressIpv6 {dstAddr : Ipv6.Address} (h : ¬ Ipv6.isUnspecified dstAddr) :
    ∃ srcAddr, iface.getSourceAddressIpv6 dstAddr = .ok srcAddr := by
  rw [getSourceAddressIpv6, Checked.assert_of h, Checked.ok_bind]
  cases iface.ipv6Cidrs with
  | nil => exact ⟨_, rfl⟩
  | cons first rest =>
    dsimp only
    split_ifs
    · exact ⟨_, rfl⟩
    · exact ⟨_, rfl⟩

/-- There is an answer for every destination that is specified, and it has its version. -/
lemma exists_getSourceAddress {dstAddr : IpAddress} (h : ¬ dstAddr.isUnspecified) :
    ∃ srcAddr, iface.getSourceAddress dstAddr = .ok srcAddr ∧
      ∀ addr ∈ srcAddr, addr.version = dstAddr.version := by
  cases dstAddr with
  | ipv4 dstAddr =>
    refine ⟨_, rfl, fun addr haddr => ?_⟩
    obtain ⟨src, -, rfl⟩ := Option.map_eq_some_iff.mp haddr
    rfl
  | ipv6 dstAddr =>
    obtain ⟨src, hsrc⟩ := @exists_getSourceAddressIpv6 _ iface dstAddr
      fun hzero => h (beq_iff_eq.mpr hzero)
    refine ⟨some (.ipv6 src), ?_, fun addr haddr => ?_⟩
    · rw [getSourceAddress, hsrc]
      rfl
    · cases haddr
      rfl

end InterfaceInner

end Smoltcp
