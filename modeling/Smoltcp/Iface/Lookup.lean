import Smoltcp.Iface.Interface
import Smoltcp.Iface.Packet
import Smoltcp.Wire.Arp

/-!
# Hardware addresses and dispatching

A packet for a unicast address goes to the next hop. If the hardware address of the next hop is not
known, it is asked for, and the packet is not sent. The next request is not sent before some time
has passed, whatever it asks for.
-/

namespace Smoltcp

/-- What the device is given to transmit. -/
inductive Transmission where
  | packet (dst : HardwareAddress) (packet : Packet)
  /-- The first fragment of an IPv4 packet. -/
  | fragment (frame : Frame)
  /-- The first fragment of an IPv6 packet on an IEEE 802.15.4 medium. -/
  | sixlowpanFragment (frame : SixlowpanFrame)
  | arp (repr : ArpRepr)

inductive DispatchError where
  /-- No route to dispatch this packet. Retrying won't help unless configuration is changed. -/
  | noRoute
  /-- We do have a route to dispatch this packet, but we haven't discovered the neighbor for it
  yet. -/
  | neighborPending
  deriving DecidableEq, Repr

/-- What is written for a packet: the payload behind an IP header, or the whole of it compressed. -/
structure Emission where
  payload : Emitter
  sixlowpan : SixlowpanPacket

/-- An emission that leaves everything as it is. -/
def Emission.nothing (_ : Packet) : Emission where
  payload := .ofWriter .keep
  sixlowpan := ⟨0, 0, 0, 0, .keep⟩

/-- What stands after a packet was dispatched. -/
structure Dispatched (cfg : IfaceConfig) where
  iface : InterfaceInner cfg
  fragmenter : Fragmenter
  sent : List Transmission
  result : Except DispatchError Unit

namespace InterfaceInner

variable {cfg : IfaceConfig} (iface : InterfaceInner cfg)

/-- The hardware address of a broadcast address. -/
def broadcastHardwareAddr : Checked HardwareAddress :=
  match iface.medium with
  | .ethernet => .ok (.ethernet .broadcast)
  | .ieee802154 => .ok (.ieee802154 .broadcast)
  | .ip => .error .unreachable

/-- The hardware address of a multicast address. -/
def multicastHardwareAddr (addr : IpAddress) : Checked HardwareAddress :=
  match addr, iface.medium with
  | .ipv4 addr, .ethernet =>
    let b := Ipv4.octets addr
    .ok (.ethernet (.fromBytes [0x01, 0x00, 0x5e, Octets.get b 1 &&& (0x7f : UInt8),
      Octets.get b 2, Octets.get b 3]))
  | .ipv6 addr,
      .ethernet => .ok (.ethernet (.fromBytes ([0x33, 0x33] ++ (Ipv6.octets addr).drop 12)))
  | .ipv6 _, .ieee802154 => .ok (.ieee802154 .broadcast)
  | _, _ => .error .unreachable

/-- The address in the link-layer header, which frames of an IP medium do not have. -/
def frameAddr : HardwareAddress → Checked EthernetAddress
  | .ethernet addr => .ok addr
  | .ip => .ok 0
  | .ieee802154 _ => .error .unreachable

/-- The part of `dispatch_ip` behind the lookup of the hardware address. -/
def dispatchTo (dst : HardwareAddress) (ipv4Id : UInt16) (packet : Packet) (emission : Emission)
    (frag : Fragmenter) : Checked (Dispatched cfg) :=
  match iface.medium, packet with
  | .ieee802154, .ipv4 .. => .error .unreachable
  | .ieee802154, .ipv6 _ payload =>
    match dst, iface.hardwareAddr with
    | .ieee802154 dst, .ieee802154 src =>
      if ¬ payload.hasSixlowpanNextHeader then .error .unreachable
      else if emission.sixlowpan.totalSize + ieee802154Len dst src ≤ 125 then
        .ok ⟨iface, frag, [.packet (.ieee802154 dst) packet], .ok ()⟩
      else do
        let (frag, frame) ← dispatchSixlowpan src dst iface.tag emission.sixlowpan frag
        let iface := if frame.isSome then { iface with tag := iface.tag + 1 } else iface
        return ⟨iface, frag, frame.toList.map .sixlowpanFragment, .ok ()⟩
    | _, _ => .error .unreachable
  | _, .ipv4 header _ => do
    let dstHardwareAddr ← frameAddr dst
    let (frag, frame) ← dispatchIpv4 iface.caps ipv4Id dstHardwareAddr header emission.payload frag
    let sent := frame.toList.map fun frame =>
      if iface.ipMtu < packet.bufferLen then .fragment frame else .packet dst packet
    return ⟨iface, frag, sent, .ok ()⟩
  | _, .ipv6 header _ => do
    -- IPv6 fragmentation support is unimplemented.
    if iface.ipMtu < packet.bufferLen then return ⟨iface, frag, [], .ok ()⟩
    else
      let _ ← emission.payload (List.replicate header.payloadLen 0)
      return ⟨iface, frag, [.packet dst packet], .ok ()⟩

/-- The interface after the identification of a packet is taken. -/
def nextIpv4FragIdent : InterfaceInner cfg :=
  if iface.medium = .ieee802154 then iface else { iface with ipv4Id := iface.ipv4Id + 1 }

/-- Ask for the hardware address of a next hop. -/
def request (emit : Packet → Emission) (nextHop : IpAddress) (frag : Fragmenter) :
    Checked (Dispatched cfg) := do
  match nextHop, iface.medium with
  | .ipv4 addr, .ethernet =>
    let sourceHardwareAddr ← iface.hardwareAddr.ethernetOrPanic
    match iface.getSourceAddressIpv4 addr with
    | none => return ⟨iface, frag, [], .error .noRoute⟩
    | some sourceProtocolAddr =>
      let repr : ArpRepr := {
        operation := .request
        sourceHardwareAddr
        sourceProtocolAddr
        targetHardwareAddr := .broadcast
        targetProtocolAddr := addr }
      return ⟨iface, frag, [.arp repr], .ok ()⟩
  | .ipv4 _, _ => return ⟨iface, frag, [], .ok ()⟩
  | .ipv6 addr, _ =>
    let repr : NdiscRepr := .neighborSolicit addr (some ⟨← iface.hardwareAddr.asBytes⟩)
    let header : Ipv6Repr := {
      srcAddr := ← iface.getSourceAddressIpv6 addr
      dstAddr := ← Ipv6.solicitedNode addr
      nextHeader := .icmpv6
      payloadLen := repr.bufferLen
      hopLimit := 0xff }
    let dst ← iface.multicastHardwareAddr (.ipv6 header.dstAddr)
    let packet : Packet := .ipv6 header (.icmpv6 (.ndisc repr))
    iface.nextIpv4FragIdent.dispatchTo dst iface.ipv4Id packet (emit packet) frag

/-- The hardware address that a packet is sent to. If it is not known, what stands after it was
asked for. -/
def lookupHardwareAddr (emit : Packet → Emission) (dstAddr : IpAddress) (frag : Fragmenter) :
    Checked (Except (Dispatched cfg) HardwareAddress) := do
  if iface.isBroadcast dstAddr then return .ok (← iface.broadcastHardwareAddr)
  else if dstAddr.isMulticast then return .ok (← iface.multicastHardwareAddr dstAddr)
  else
    match ← iface.route dstAddr iface.now with
    | none => return .error ⟨iface, frag, [], .error .noRoute⟩
    | some nextHop =>
      match ← iface.neighborCache.lookup nextHop iface.now with
      | .found hardwareAddr => return .ok hardwareAddr
      | .rateLimited => return .error ⟨iface, frag, [], .error .neighborPending⟩
      | .notFound =>
        let requested ← iface.request emit nextHop frag
        match requested.result with
        | .error e => return .error { requested with result := .error e }
        | .ok () =>
          -- The request got dispatched, limit the rate on the cache.
          let iface := { requested.iface with
            neighborCache := requested.iface.neighborCache.limitRate iface.now }
          return .error { requested with iface, result := .error .neighborPending }

/-- As `lookupHardwareAddr`; without a link layer there is nothing to look up. -/
def resolve (emit : Packet → Emission) (dstAddr : IpAddress) (frag : Fragmenter) :
    Checked (Except (Dispatched cfg) HardwareAddress) :=
  match iface.medium with
  | .ip => .ok (.ok .ip)
  | .ethernet | .ieee802154 => iface.lookupHardwareAddr emit dstAddr frag

/-- Send a packet. `emit` is what is written for a packet. -/
def dispatchIp (emit : Packet → Emission) (packet : Packet) (frag : Fragmenter) :
    Checked (Dispatched cfg) := do
  Checked.assert (packet.dstAddr.isUnspecified = false)
  match ← iface.nextIpv4FragIdent.resolve emit packet.dstAddr frag with
  | .ok dst => iface.nextIpv4FragIdent.dispatchTo dst iface.ipv4Id packet (emit packet) frag
  | .error pending => return pending

/-! ### Multicast destinations -/

variable {iface} {packet : Packet} {emit : Packet → Emission} {frag : Fragmenter}
  {dst : HardwareAddress} {ipv4Id : UInt16} {sent : Dispatched cfg}

/-- A packet that fits in the MTU is sent as a whole. -/
lemma dispatchTo_sent (hlen : packet.bufferLen ≤ iface.ipMtu)
    (hnext : packet.payload.hasSixlowpanNextHeader = false) {emission : Emission}
    (h : iface.dispatchTo dst ipv4Id packet emission frag = .ok sent) :
    sent.iface = iface ∧ sent.sent = [.packet dst packet] ∧ sent.result = .ok () := by
  have hmtu : ¬ iface.ipMtu < packet.bufferLen := not_lt.mpr hlen
  unfold dispatchTo at h
  split at h
  · cases h
  · next header payload hmedium =>
    split at h
    · simp only [Packet.payload] at hnext
      rw [if_pos (by simp [hnext])] at h
      cases h
    · cases h
  · next header payload hmedium =>
    obtain ⟨addr, -, h⟩ := Checked.bind_eq_ok.mp h
    obtain ⟨⟨frag', frame⟩, hdispatch, h⟩ := Checked.bind_eq_ok.mp h
    obtain ⟨u, -, hdispatch⟩ := Checked.bind_eq_ok.mp hdispatch
    have hmtu' : ¬ iface.caps.ipMtu < header.bufferLen + header.payloadLen := hmtu
    dsimp only at hdispatch
    rw [if_neg hmtu'] at hdispatch
    obtain ⟨octets, -, hdispatch⟩ := Checked.bind_eq_ok.mp hdispatch
    cases hdispatch
    cases h
    simp only [Option.toList_some, List.map_cons, List.map_nil, if_neg hmtu, and_self]
  · next header payload hmedium =>
    rw [if_neg hmtu] at h
    obtain ⟨octets, -, h⟩ := Checked.bind_eq_ok.mp h
    cases h
    exact ⟨rfl, rfl, rfl⟩

/-- The neighbor of a multicast address need not be discovered. -/
lemma lookupHardwareAddr_multicast {addr : IpAddress} (haddr : addr.isMulticast)
    {r : Except (Dispatched cfg) HardwareAddress}
    (h : iface.lookupHardwareAddr emit addr frag = .ok r) : ∃ dst, r = .ok dst := by
  unfold lookupHardwareAddr at h
  split_ifs at h
  all_goals
    obtain ⟨dst, -, h⟩ := Checked.bind_eq_ok.mp h
    cases h
    exact ⟨dst, rfl⟩

lemma nextIpv4FragIdent_eq (iface : InterfaceInner cfg) :
    ∃ ipv4Id, iface.nextIpv4FragIdent = { iface with ipv4Id } := by
  unfold nextIpv4FragIdent
  split_ifs
  · exact ⟨iface.ipv4Id, rfl⟩
  · exact ⟨_, rfl⟩

/-- What stays of the interface when a packet is sent. -/
lemma dispatchIp_multicast (hdst : packet.dstAddr.isMulticast)
    (hlen : packet.bufferLen ≤ iface.ipMtu)
    (hnext : packet.payload.hasSixlowpanNextHeader = false)
    (h : iface.dispatchIp emit packet frag = .ok sent) :
    (∃ ipv4Id, sent.iface = { iface with ipv4Id }) ∧
      (∃ dst, sent.sent = [.packet dst packet]) ∧ sent.result = .ok () := by
  obtain ⟨u, -, h⟩ := Checked.bind_eq_ok.mp h
  obtain ⟨r, hlookup, h⟩ := Checked.bind_eq_ok.mp h
  have hid := nextIpv4FragIdent_eq iface
  have hmtu : packet.bufferLen ≤ iface.nextIpv4FragIdent.ipMtu := by
    obtain ⟨ipv4Id, heq⟩ := hid
    rw [heq]
    exact hlen
  have hr : ∃ dst, r = .ok dst := by
    unfold resolve at hlookup
    split at hlookup
    · cases hlookup
      exact ⟨_, rfl⟩
    all_goals exact lookupHardwareAddr_multicast hdst hlookup
  obtain ⟨dst, rfl⟩ := hr
  obtain ⟨hiface, hsent, hres⟩ := dispatchTo_sent hmtu hnext h
  rw [hiface]
  exact ⟨hid, ⟨dst, hsent⟩, hres⟩

end InterfaceInner

end Smoltcp
