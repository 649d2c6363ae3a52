import Smoltcp.Iface.Lookup

/-!
# Multicast groups

Groups are joined and left by calls. What has to be announced for it is sent when the interface is
polled for egress, as far as the device gives tokens. Reports that queries asked for are sent there
as well, once their time has come.
-/

namespace Smoltcp

/-- Error type for `joinMulticastGroup`, `leaveMulticastGroup`. -/
inductive MulticastError where
  /-- The table of joined multicast groups is already full. -/
  | groupTableFull
  /-- Cannot join/leave the given multicast group. -/
  | unaddressable
  deriving DecidableEq, Repr

namespace InterfaceInner

variable {cfg : IfaceConfig}

abbrev Groups (cfg : IfaceConfig) :=
  Heapless.LinearMap IpAddress GroupState cfg.maxMulticastGroupCount

section Calls

variable (iface : InterfaceInner cfg)

def groups : Groups cfg := iface.multicast.groups

def setGroups (groups : Groups cfg) : InterfaceInner cfg :=
  { iface with multicast := { iface.multicast with groups } }

/-- Add an address to a list of subscribed multicast IP addresses. -/
def joinMulticastGroup (addr : IpAddress) : InterfaceInner cfg × Except MulticastError Unit :=
  if ¬ addr.isMulticast then (iface, .error .unaddressable)
  else
    match iface.groups.get addr with
    | some state =>
      let state := match state with
        | .joining => .joining
        | .joined => .joined
        | .leaving => .joined
      (iface.setGroups (iface.groups.replace addr state), .ok ())
    | none =>
      match iface.groups.insert addr .joining with
      | some (groups, _) => (iface.setGroups groups, .ok ())
      | none => (iface, .error .groupTableFull)

/-- Remove an address from the subscribed multicast IP addresses. -/
def leaveMulticastGroup (addr : IpAddress) : InterfaceInner cfg × Except MulticastError Unit :=
  if ¬ addr.isMulticast then (iface, .error .unaddressable)
  else
    match iface.groups.get addr with
    | some .joining => (iface.setGroups ((iface.groups.replace addr .joined).remove addr), .ok ())
    | some .joined => (iface.setGroups (iface.groups.replace addr .leaving), .ok ())
    | some .leaving => (iface.setGroups (iface.groups.replace addr .leaving), .ok ())
    | none => (iface, .ok ())

/-- The solicited-node groups that no address of the interface belongs to any more. -/
def oldSolicitedNodeGroups : List IpAddress :=
  iface.groups.keys.filter fun
    | .ipv6 addr => Ipv6.isSolicitedNodeMulticast addr ∧ ¬ iface.hasSolicitedNode addr
    | .ipv4 _ => false

def leaveAll : List IpAddress → InterfaceInner cfg → InterfaceInner cfg
  | [], iface => iface
  | addr :: addrs, iface => leaveAll addrs (iface.leaveMulticastGroup addr).1

/-- Join the solicited-node groups of addresses. -/
def joinSolicited : List Ipv6.Cidr → InterfaceInner cfg → Checked (InterfaceInner cfg)
  | [], iface => .ok iface
  | cidr :: cidrs, iface => do
    let addr ← Ipv6.solicitedNode cidr.address
    joinSolicited cidrs (iface.joinMulticastGroup (.ipv6 addr)).1

def updateSolicitedNodeGroups : Checked (InterfaceInner cfg) :=
  let iface := leaveAll iface.oldSolicitedNodeGroups iface
  joinSolicited iface.ipv6Cidrs iface

/-- Update the IP addresses of the interface. Panics if any of the addresses are not unicast. -/
def updateIpAddrs (ipAddrs : List IpCidr) : Checked (InterfaceInner cfg) := do
  let iface := { iface with ipAddrs, neighborCache := iface.neighborCache.flush }
  Checked.assert (∀ cidr ∈ ipAddrs, cidr.address.isUnicast ∨ cidr.address.isUnspecified = true)
  if iface.medium = .ethernet then iface.updateSolicitedNodeGroups else return iface

/-! ### Packets -/

def igmpReportPacket (version : IgmpVersion) (groupAddr : Ipv4.Address) : Option Packet :=
  iface.ipv4Addr.map fun ifaceAddr =>
    let repr : IgmpRepr := .membershipReport groupAddr version
    -- Send to the group being reported.
    .ipv4 ⟨ifaceAddr, groupAddr, .igmp, repr.bufferLen, 1⟩ (.igmp repr)

def igmpLeavePacket (groupAddr : Ipv4.Address) : Option Packet :=
  iface.ipv4Addr.map fun ifaceAddr =>
    let repr : IgmpRepr := .leaveGroup groupAddr
    .ipv4 ⟨ifaceAddr, Ipv4.multicastAllRouters, .igmp, repr.bufferLen, 1⟩ (.igmp repr)

def mldv2ReportPacket (records : List MldAddressRecordRepr) : Packet :=
  -- Source addresses must be link-local, falling back to the unspecified address.
  let srcAddr := iface.linkLocalIpv6Address.getD 0
  let hbh := Ipv6HopByHopRepr.mldv2RouterAlert.pushPadnOption 0
  let repr : MldRepr := .reportRecordReprs records
  let recordsLen := (records.map MldAddressRecordRepr.bufferLen).sum
  .ipv6 {
    srcAddr
    dstAddr := Ipv6.linkLocalAllMldv2Routers
    nextHeader := .hopByHop
    payloadLen := 2 + hbh.bufferLen + repr.bufferLen + recordsLen
    hopLimit := 1 } (.hopByHopIcmpv6 hbh (.mld repr))

/-- The packet that announces that a group is joined. -/
def joinPacket : IpAddress → Option Packet
  | .ipv4 addr => iface.igmpReportPacket .version2 addr
  | .ipv6 addr => some (iface.mldv2ReportPacket [.new .changeToInclude addr])

/-- The packet that announces that a group is left. -/
def leavePacket : IpAddress → Option Packet
  | .ipv4 addr => iface.igmpLeavePacket addr
  | .ipv6 addr => some (iface.mldv2ReportPacket [.new .changeToExclude addr])

/-- The first group in a state. -/
def findGroup (state : GroupState) : Option IpAddress :=
  (iface.groups.entries.find? fun e => e.2 = state).map Prod.fst

end Calls

/-! ### Egress -/

/-- The interface while it is polled for egress: what the device answers to the next requests for a
token, and what was sent. -/
structure Egress (cfg : IfaceConfig) where
  iface : InterfaceInner cfg
  fragmenter : Fragmenter
  device : List Bool
  sent : List Transmission

namespace Egress

variable (emit : Packet → Emission) (s : Egress cfg)

def setMulticast (multicast : Multicast.State cfg) : Egress cfg :=
  { s with iface := { s.iface with multicast } }

/-- Send a packet if the device gives a token, and tell whether it did. -/
def offer (packet : Packet) : Checked (Egress cfg × Bool) :=
  match s.device with
  | [] => .ok (s, false)
  | false :: device => .ok ({ s with device }, false)
  | true :: device => do
    let r ← s.iface.dispatchIp emit packet s.fragmenter
    match r.result with
    | .ok () => return (⟨r.iface, r.fragmenter, device, s.sent ++ r.sent⟩, true)
    | .error _ => .error .unwrapNone

/-- As `offer`; what has no packet is done without one. -/
def announce : Option Packet → Checked (Egress cfg × Bool)
  | none => .ok (s, true)
  | some packet => s.offer emit packet

/-- The loop over the groups in a state, for at most `n` of them. It ends when the device gives no
token. `settle` is what becomes of a group that is announced. -/
def drain (state : GroupState) (packet : InterfaceInner cfg → IpAddress → Option Packet)
    (settle : Groups cfg → IpAddress → Checked (Groups cfg)) : ℕ → Egress cfg → Checked (Egress cfg)
  | 0, s => .ok s
  | n + 1, s =>
    match s.iface.findGroup state with
    | none => .ok s
    | some addr => do
      let (s, taken) ← s.announce emit (packet s.iface addr)
      if taken then
        let groups ← settle s.iface.groups addr
        drain state packet settle n { s with iface := s.iface.setGroups groups }
      else return s

/-- This is always replacing an existing entry. -/
def settleJoin (groups : Groups cfg) (addr : IpAddress) : Checked (Groups cfg) :=
  Checked.unwrap ((groups.insert addr .joined).map Prod.fst)

def settleLeave (groups : Groups cfg) (addr : IpAddress) : Checked (Groups cfg) :=
  .ok (groups.remove addr)

/-- Process multicast joins. -/
def joins : Checked (Egress cfg) :=
  drain emit .joining joinPacket settleJoin s.iface.groups.entries.length s

/-- Process multicast leaves. -/
def leaves : Checked (Egress cfg) :=
  drain emit .leaving leavePacket settleLeave s.iface.groups.entries.length s

def setIgmpReportState (igmpReportState : IgmpReportState) : Egress cfg :=
  s.setMulticast { s.iface.multicast with igmpReportState }

def setMldReportState (mldReportState : MldReportState) : Egress cfg :=
  s.setMulticast { s.iface.multicast with mldReportState }

/-- Send a packet, if there is one and the device gives a token, and then set the state. -/
def report (packet : Option Packet) (next : IgmpReportState) : Checked (Egress cfg) :=
  match packet with
  | none => .ok s
  | some packet => do
    let (s, taken) ← s.offer emit packet
    return if taken then s.setIgmpReportState next else s

/-- The IPv4 groups of the table. -/
def ipv4Groups : List Ipv4.Address := s.iface.groups.keys.filterMap fun
  | .ipv4 addr => some addr
  | .ipv6 _ => none

/-- The IPv6 groups of the table. -/
def ipv6Groups : List Ipv6.Address := s.iface.groups.keys.filterMap fun
  | .ipv4 _ => none
  | .ipv6 addr => some addr

def igmpReports : Checked (Egress cfg) :=
  match s.iface.multicast.igmpReportState with
  | .toSpecificQuery version timeout group =>
    if timeout ≤ s.iface.now then
      s.report emit (s.iface.igmpReportPacket version group) .inactive
    else .ok s
  | .toGeneralQuery version timeout interval nextIndex =>
    if timeout ≤ s.iface.now then
      match s.ipv4Groups[nextIndex]? with
      | some addr =>
        let nextTimeout := max (timeout.add interval) s.iface.now
        s.report emit (s.iface.igmpReportPacket version addr)
          (.toGeneralQuery version nextTimeout interval (nextIndex + 1))
      | none => .ok (s.setIgmpReportState .inactive)
    else .ok s
  | .inactive => .ok s

def mldReports : Checked (Egress cfg) :=
  match s.iface.multicast.mldReportState with
  | .toGeneralQuery timeout =>
    if timeout ≤ s.iface.now then do
      let records := s.ipv6Groups.map (MldAddressRecordRepr.new .modeIsExclude)
      let (s, _) ← s.offer emit (s.iface.mldv2ReportPacket records)
      return s.setMldReportState .inactive
    else .ok s
  | .toSpecificQuery group timeout =>
    if timeout ≤ s.iface.now then do
      let (s, _) ← s.offer emit (s.iface.mldv2ReportPacket [.new .modeIsExclude group])
      return s.setMldReportState .inactive
    else .ok s
  | .inactive => .ok s

/-- Send join and leave packets according to the multicast group state, and reports according to the
report states and their timeouts. -/
def multicastEgress : Checked (Egress cfg) := do
  let s ← s.joins emit
  let s ← s.leaves emit
  let s ← s.igmpReports emit
  s.mldReports emit

end Egress

end InterfaceInner

end Smoltcp
