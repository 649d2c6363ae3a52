import Smoltcp.Iface.Discovery
import Smoltcp.Iface.Multicast
import Smoltcp.Iface.RoundTrip
import Smoltcp.Iface.SocketSet

/-!
# Received packets

What an interface does with a packet that it received. A packet is parsed, reassembled and offered
to the raw sockets, and if it is addressed to the host its payload is given to the handler of its
protocol, which may answer it.
-/

namespace Smoltcp

/-! ### Replies -/

namespace InterfaceInner

variable {cfg : IfaceConfig} (iface : InterfaceInner cfg)

def icmpv4Reply (ipv4Repr : Ipv4.Repr) (icmpRepr : Icmpv4Repr) : Option Packet :=
  let reply (srcAddr : Ipv4.Address) : Packet := .ipv4 {
    srcAddr
    dstAddr := ipv4Repr.srcAddr
    nextHeader := .icmp
    payloadLen := icmpRepr.bufferLen
    hopLimit := 64 } (.icmpv4 icmpRepr)
  -- Do not send ICMP replies to non-unicast sources.
  if ¬ iface.isUnicastV4 ipv4Repr.srcAddr then none
  else if iface.isUnicastV4 ipv4Repr.dstAddr then some (reply ipv4Repr.dstAddr)
  else if iface.isBroadcastV4 ipv4Repr.dstAddr then
    -- Only reply to broadcasts for echo replies and not other ICMP messages.
    match icmpRepr with
    | .echoReply .. => iface.ipv4Addr.map reply
    | _ => none
  else none

def icmpv6Reply (ipv6Repr : Ipv6Repr) (icmpRepr : Icmpv6Repr) : Checked Packet := do
  let srcAddr ←
    if Ipv6.isUnicast ipv6Repr.dstAddr then .ok ipv6Repr.dstAddr
    else iface.getSourceAddressIpv6 ipv6Repr.srcAddr
  return .ipv6 {
    srcAddr
    dstAddr := ipv6Repr.srcAddr
    nextHeader := .icmpv6
    payloadLen := icmpRepr.bufferLen
    hopLimit := 64 } (.icmpv6 icmpRepr)

/-! ### Group management -/

/-- The number of IPv4 groups in the table. -/
def ipv4GroupCount : ℕ := (iface.groups.keys.filter fun
  | .ipv4 _ => true
  | .ipv6 _ => false).length

/-- The number of IPv6 groups in the table. -/
def ipv6GroupCount : ℕ := (iface.groups.keys.filter fun
  | .ipv4 _ => false
  | .ipv6 _ => true).length

def setIgmpReportState (igmpReportState : IgmpReportState) : InterfaceInner cfg :=
  { iface with multicast := { iface.multicast with igmpReportState } }

def setMldReportState (mldReportState : MldReportState) : InterfaceInner cfg :=
  { iface with multicast := { iface.multicast with mldReportState } }

/-- Sets up the report state for responding to a membership query. Other messages are ignored. -/
def processIgmp (ipv4Repr : Ipv4.Repr) (ipPayload : List UInt8) : InterfaceInner cfg :=
  match IgmpRepr.parse ipPayload with
  | .ok (.membershipQuery maxRespTime groupAddr version) =>
    if Ipv4.isUnspecified groupAddr ∧ ipv4Repr.dstAddr = Ipv4.multicastAllSystems then
      -- Are we member in any groups?
      if iface.ipv4GroupCount ≠ 0 then
        let interval : Duration := match version with
          | .version1 => .fromMillis 100
          | .version2 => maxRespTime / (UInt32.ofNat (iface.ipv4GroupCount + 1)).toUInt64
        iface.setIgmpReportState (.toGeneralQuery version (iface.now.add interval) interval 0)
      else iface
    else if iface.hasMulticastGroup (.ipv4 groupAddr) ∧ ipv4Repr.dstAddr = groupAddr then
      iface.setIgmpReportState
      (.toSpecificQuery version (iface.now.add (maxRespTime / 4)) groupAddr)
    else iface
  | _ => iface

/-- Sets up the report state for responding to a query, after a random delay. -/
def processMldv2 (rand : UInt16) (ipRepr : Ipv6Repr) (maxRespCode : UInt16)
    (mcastAddr : Ipv6.Address) : InterfaceInner cfg :=
  let delay : Duration := .fromMillis (if 0 < maxRespCode then (rand % maxRespCode).toUInt64 else 0)
  let general : InterfaceInner cfg :=
    if Ipv6.isUnspecified mcastAddr ∧ (ipRepr.dstAddr = Ipv6.linkLocalAllNodes ∨
        iface.hasIpAddr (.ipv6 ipRepr.dstAddr)) ∧ iface.ipv6GroupCount ≠ 0 then
      iface.setMldReportState (.toGeneralQuery (iface.now.add delay))
    else iface
  if iface.hasMulticastGroup (.ipv6 mcastAddr) ∧ ipRepr.dstAddr = mcastAddr then
    general.setMldReportState (.toSpecificQuery mcastAddr (iface.now.add delay))
  else general

/-! ### Hop-by-hop headers -/

/-- What becomes of a packet with a hop-by-hop header. -/
inductive HopByHopResponse where
  /-- Continue processing the packet. -/
  | next (nextHeader : IpProtocol) (payload : List UInt8)
  /-- Discard the packet and maybe send back an answer. -/
  | discard (packet : Option Packet)

/-- The error that answers an option that is not known. -/
def optionProblem (ipv6Repr : Ipv6Repr) (ipPayload : List UInt8) : Checked Packet :=
  let payloadLen := icmpReplyPayloadLen ipPayload.length Icmpv6.ipv6MinMtu ipv6Repr.bufferLen
  iface.icmpv6Reply ipv6Repr (.paramProblem Icmpv6.unrecognizedOption (.ofNat 32 ipv6Repr.bufferLen)
    ipv6Repr (ipPayload.take payloadLen))

/-- The loop over the options: the answer of the first one that discards the packet. -/
def discardedBy (ipv6Repr : Ipv6Repr) (ipPayload : List UInt8) :
    List Ipv6OptionRepr → Checked (Option (Option Packet))
  | [] => .ok none
  | .unknown type _ _ :: options =>
    match Ipv6OptionFailureType.ofByte type with
    | .skip => discardedBy ipv6Repr ipPayload options
    | .discard => .ok (some none)
    | .discardSendAll => do return some (some (← iface.optionProblem ipv6Repr ipPayload))
    | .discardSendUnicast =>
      if ¬ Ipv6.isMulticast ipv6Repr.dstAddr then do
        return some (some (← iface.optionProblem ipv6Repr ipPayload))
      else .ok (some none)
  | _ :: options => discardedBy ipv6Repr ipPayload options

/-- The extension header of a payload, and the hop-by-hop header in it. -/
def parseHopbyhop (cfg : IfaceConfig) (ipPayload : List UInt8) :
    Outcome (Ipv6ExtHeaderRepr × Ipv6HopByHopRepr) := do
  let extRepr ← Ipv6ExtHeaderRepr.parse ipPayload
  return (extRepr, ← Ipv6HopByHopRepr.parse cfg.protoRpl cfg.ipv6HbhMaxOptions extRepr.data)

def processHopbyhop (ipv6Repr : Ipv6Repr) (ipPayload : List UInt8) : Checked HopByHopResponse :=
  match parseHopbyhop cfg ipPayload with
  | .error .malformed => .ok (.discard none)
  | .error (.panic p) => .error p
  | .ok (extRepr, hbhRepr) => do
    match ← iface.discardedBy ipv6Repr ipPayload hbhRepr.options with
    | some answer => return .discard answer
    | none =>
      let payload ← Checked.slice ipPayload (extRepr.headerLen + extRepr.data.length)
        ipPayload.length
      return .next extRepr.nextHeader payload

/-! ### Destinations -/

/-- With AnyIP, a packet for another address is taken if it is routed to ourselves. -/
def routedLocally (dstAddr : IpAddress) : Checked Bool :=
  if ¬ iface.anyIp then .ok false
  else if ¬ dstAddr.isUnicast then .ok false
  else do
    match ← iface.routes.lookup dstAddr iface.now with
    | none => return false
    | some routerAddr => return decide (iface.hasIpAddr routerAddr)

/-- The destination is an address that the host receives packets for. -/
def isDestination : IpAddress → Prop
  | .ipv4 addr => iface.hasIpAddr (.ipv4 addr) ∨ iface.hasMulticastGroup (.ipv4 addr) ∨
      iface.isBroadcastV4 addr
  | .ipv6 addr => iface.hasIpAddr (.ipv6 addr) ∨ iface.hasMulticastGroup (.ipv6 addr) ∨
      Ipv6.isLoopback addr

instance : (addr : IpAddress) → Decidable (iface.isDestination addr)
  | .ipv4 _ => inferInstanceAs (Decidable (_ ∨ _ ∨ _))
  | .ipv6 _ => inferInstanceAs (Decidable (_ ∨ _ ∨ _))

/-- The check of the destination: the packet is processed further. -/
def takesFor (dstAddr : IpAddress) : Checked Bool :=
  if iface.isDestination dstAddr then .ok true else iface.routedLocally dstAddr

def resetExpiryIfExisting (protocolAddr : IpAddress) (sourceHardwareAddr : HardwareAddress) :
    InterfaceInner cfg :=
  { iface with neighborCache :=
      iface.neighborCache.resetExpiryIfExisting protocolAddr sourceHardwareAddr iface.now }

/-- The source of a packet for a unicast address is still there. -/
def refreshIpv4 (sourceHardwareAddr : HardwareAddress) (ipv4Repr : Ipv4.Repr) :
    InterfaceInner cfg :=
  if iface.isUnicastV4 ipv4Repr.dstAddr then
    iface.resetExpiryIfExisting (.ipv4 ipv4Repr.srcAddr) sourceHardwareAddr
  else iface

/-- The source of a packet for a unicast address is still there. -/
def refreshIpv6 (sourceHardwareAddr : HardwareAddress) (ipv6Repr : Ipv6Repr) : InterfaceInner cfg :=
  if Ipv6.isUnicast ipv6Repr.dstAddr then
    iface.resetExpiryIfExisting (.ipv6 ipv6Repr.srcAddr) sourceHardwareAddr
  else iface

end InterfaceInner

end Smoltcp
