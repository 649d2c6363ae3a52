import Smoltcp.Iface.Ingress
import Smoltcp.Wire.TcpPacket

/-!
# Handlers

The handlers of the protocols: a packet is given to the sockets that accept it, and is answered if
no socket does or if its protocol has an answer of its own. `receiveIpv4` and `receiveIpv6` are the
parts of the source that come before the handlers, and a `Delivery` is what a handler is given.
-/

namespace Smoltcp

/-- An interface with its buffers and its sockets. -/
structure Stack (cfg : StackConfig) where
  inner : InterfaceInner cfg.iface
  fragments : FragmentsBuffer
  fragmenter : Fragmenter
  sockets : SocketSet

/-- What processing a packet takes from elsewhere: random numbers and a clock for timestamps. -/
structure Chance where
  rand32 : BitVec 32
  rand16 : UInt16
  clock : ℕ

/-- What is given to a handler. -/
structure Delivery where
  ipRepr : IpRepr
  /-- The protocol of the payload, which is not that of the header if there is an extension header
  in between. -/
  nextHeader : IpProtocol
  handledByRawSocket : Bool
  payload : List UInt8

namespace Stack

variable {cfg : StackConfig} (st : Stack cfg)

def setInner (inner : InterfaceInner cfg.iface) : Stack cfg := { st with inner }

/-! ### Handlers -/

/-- Give a datagram to the first UDP socket that accepts it. -/
def offerUdp (packetMeta : PacketMeta) (ipRepr : IpRepr) (udpRepr : UdpRepr)
    (payload : List UInt8) :
    Checked (SocketSet × Option Unit) :=
  st.sockets.offerFirst fun
    | .udp s => do
      if s.accepts st.inner ipRepr udpRepr then
        return some (.udp (← s.process st.inner packetMeta ipRepr udpRepr payload), ())
      else return none
    | _ => .ok none

/-- Give a datagram to the first DNS socket that accepts it. -/
def offerDns (ipRepr : IpRepr) (udpRepr : UdpRepr) (payload : List UInt8) :
    Checked (SocketSet × Option Unit) :=
  st.sockets.offerFirst fun
    | .dns s => do
      if s.accepts ipRepr udpRepr then
        return some (.dns (← s.process cfg.dns ipRepr udpRepr payload), ())
      else return none
    | _ => .ok none

/-- The answer to a datagram that no socket takes. -/
def portUnreachable (ipRepr : IpRepr) (ipPayload : List UInt8) : Checked (Option Packet) :=
  match ipRepr with
  | .ipv4 ipv4Repr =>
    let payloadLen := icmpReplyPayloadLen ipPayload.length ipv4MinMtu ipv4HeaderLen
    .ok (st.inner.icmpv4Reply ipv4Repr
      (.dstUnreachable Icmpv4.portUnreachable ipv4Repr (ipPayload.take payloadLen)))
  | .ipv6 header => do
    let ipv6Repr := Ipv6Repr.ofHeader header
    let payloadLen := icmpReplyPayloadLen ipPayload.length Icmpv6.ipv6MinMtu ipv6Repr.bufferLen
    return some (← st.inner.icmpv6Reply ipv6Repr
      (.dstUnreachable Icmpv6.portUnreachable ipv6Repr (ipPayload.take payloadLen)))

def processUdp (packetMeta : PacketMeta) (handledByRawSocket : Bool) (ipRepr : IpRepr)
    (ipPayload : List UInt8) : Checked (Stack cfg × Option Packet) :=
  check st (UdpRepr.parse st.inner.checksum.udp.verifies ipPayload ipRepr.srcAddr ipRepr.dstAddr)
    fun udpRepr =>
  check st (UdpPacket.payload ipPayload) fun payload => do
    match ← st.offerUdp packetMeta ipRepr udpRepr payload with
    | (sockets, some ()) => return ({ st with sockets }, none)
    | (_, none) =>
      match ← st.offerDns ipRepr udpRepr payload with
      | (sockets, some ()) => return ({ st with sockets }, none)
      | (_, none) =>
        -- The packet wasn't handled by a socket, send an ICMP port unreachable packet.
        if handledByRawSocket then return (st, none)
        else return (st, ← st.portUnreachable ipRepr ipPayload)

def tcpContext (chance : Chance) : Tcp.Context where
  now := st.inner.now
  ipMtu := st.inner.ipMtu
  rand := chance.rand32
  getSourceAddress := fun addr => (st.inner.getSourceAddress addr).toOption.join
  clock := chance.clock

/-- Give a segment to the first TCP socket that accepts it. -/
def offerTcp (chance : Chance) (ipRepr : IpRepr) (tcpRepr : TcpRepr) :
    Checked (SocketSet × Option (Option Tcp.Packet)) :=
  st.sockets.offerFirst fun
    | .tcp s => do
      if s.accepts ipRepr tcpRepr then
        let (s, reply) ← s.process (st.tcpContext chance) ipRepr tcpRepr
        return some (.tcp s, reply)
      else return none
    | _ => .ok none

/-- A segment as a packet. -/
def tcpPacket (packet : Tcp.Packet) : Packet := .new packet.1 (.tcp packet.2)

def processTcp (chance : Chance) (ipRepr : IpRepr) (ipPayload : List UInt8) :
    Checked (Stack cfg × Option Packet) :=
  check st (TcpRepr.parse st.inner.checksum.tcp.verifies ipPayload ipRepr.srcAddr ipRepr.dstAddr)
    fun tcpRepr => do
    match ← st.offerTcp chance ipRepr tcpRepr with
    | (sockets, some reply) => return ({ st with sockets }, reply.map tcpPacket)
    | (_, none) =>
      -- Never reply to a reset with a reset, nor from or to an unspecified address.
      if tcpRepr.control = .rst ∨ ipRepr.dstAddr.isUnspecified ∨ ipRepr.srcAddr.isUnspecified then
        return (st, none)
      else return (st, some (tcpPacket (← Tcp.Socket.rstReply ipRepr tcpRepr)))

/-- Give a message to all ICMP sockets that accept it. -/
def offerIcmpv4 (ipRepr : Ipv4.Repr) (icmpRepr : Icmpv4Repr) : Checked (SocketSet × Bool) :=
  st.sockets.offerAll fun
    | .icmp s => do
      if ← s.acceptsV4 st.inner.checksum ipRepr icmpRepr then
        return some (.icmp (← s.processV4 ipRepr icmpRepr))
      else return none
    | _ => .ok none

def processIcmpv4 (ipRepr : Ipv4.Repr) (ipPayload : List UInt8) :
    Checked (Stack cfg × Option Packet) :=
  check st (.ofResult (Icmpv4Repr.parse st.inner.checksum.icmpv4.verifies ipPayload))
    fun icmpRepr => do
    let (sockets, _) ← st.offerIcmpv4 ipRepr icmpRepr
    let st := { st with sockets }
    match icmpRepr with
    -- Respond to echo requests.
    | .echoRequest ident seqNo data =>
      return (st, st.inner.icmpv4Reply ipRepr (.echoReply ident seqNo data))
    | _ => return (st, none)

/-- Give a message to all ICMP sockets that accept it. -/
def offerIcmpv6 (ipRepr : Ipv6Repr) (icmpRepr : Icmpv6Repr) : Checked (SocketSet × Bool) :=
  st.sockets.offerAll fun
    | .icmp s => do
      if ← s.acceptsV6 st.inner.checksum ipRepr icmpRepr then
        return some (.icmp (← s.processV6 ipRepr icmpRepr))
      else return none
    | _ => .ok none

/-- What the host itself does with a message. -/
def answerIcmpv6 (chance : Chance) (ipRepr : Ipv6Repr) (icmpRepr : Icmpv6Repr) :
    Checked (Stack cfg × Option Packet) :=
  match icmpRepr with
  -- Respond to echo requests.
  | .echoRequest ident seqNo data => do
    return (st, some (← st.inner.icmpv6Reply ipRepr (.echoReply ident seqNo data)))
  | .ndisc repr =>
    if ipRepr.hopLimit = 0xff ∧ st.inner.medium ≠ .ip then do
      let (inner, reply) ← st.inner.processNdisc ipRepr repr
      return (st.setInner inner, reply)
    else .ok (st, none)
  | .mld (.query maxRespCode mcastAddr _ _ _ _ _) =>
    if ipRepr.hopLimit = 1 ∧ Ipv6.isLinkLocal ipRepr.srcAddr then
      .ok (st.setInner (st.inner.processMldv2 chance.rand16 ipRepr maxRespCode mcastAddr), none)
    else .ok (st, none)
  | _ => .ok (st, none)

def processIcmpv6 (chance : Chance) (ipRepr : Ipv6Repr) (ipPayload : List UInt8) :
    Checked (Stack cfg × Option Packet) :=
  check st (Icmpv6Repr.parse cfg.iface.hardware st.inner.checksum.icmpv6.verifies ipRepr.srcAddr
    ipRepr.dstAddr ipPayload) fun icmpRepr => do
    let (sockets, _) ← st.offerIcmpv6 ipRepr icmpRepr
    answerIcmpv6 { st with sockets } chance ipRepr icmpRepr

/-- The answer to a protocol that the host does not know. -/
def protoUnreachable (ipv4Repr : Ipv4.Repr) (ipPayload : List UInt8) : Option Packet :=
  let payloadLen := icmpReplyPayloadLen ipPayload.length ipv4MinMtu ipv4Repr.bufferLen
  st.inner.icmpv4Reply ipv4Repr
    (.dstUnreachable Icmpv4.protoUnreachable ipv4Repr (ipPayload.take payloadLen))

/-- The answer to a next header that the host does not know. -/
def headerProblem (ipv6Repr : Ipv6Repr) (ipPayload : List UInt8) : Checked Packet :=
  let payloadLen := icmpReplyPayloadLen ipPayload.length Icmpv6.ipv6MinMtu ipv6Repr.bufferLen
  st.inner.icmpv6Reply ipv6Repr (.paramProblem Icmpv6.unrecognizedNxtHdr
    (.ofNat 32 ipv6Repr.bufferLen) ipv6Repr (ipPayload.take payloadLen))

/-- The handler of an IPv4 packet. -/
def deliverIpv4 (chance : Chance) (packetMeta : PacketMeta) (ipv4Repr : Ipv4.Repr)
    (handledByRawSocket : Bool) (ipPayload : List UInt8) : Checked (Stack cfg × Option Packet) :=
  match ipv4Repr.nextHeader with
  | .icmp => st.processIcmpv4 ipv4Repr ipPayload
  | .igmp => .ok (st.setInner (st.inner.processIgmp ipv4Repr ipPayload), none)
  | .udp => st.processUdp packetMeta handledByRawSocket (.ipv4 ipv4Repr) ipPayload
  | .tcp => st.processTcp chance (.ipv4 ipv4Repr) ipPayload
  | _ =>
    if handledByRawSocket then .ok (st, none)
    else .ok (st, st.protoUnreachable ipv4Repr ipPayload)

/-- The handler of an IPv6 packet. -/
def processNxtHdr (chance : Chance) (packetMeta : PacketMeta) (ipv6Repr : Ipv6Repr)
    (nxtHdr : IpProtocol) (handledByRawSocket : Bool) (ipPayload : List UInt8) :
    Checked (Stack cfg × Option Packet) :=
  match nxtHdr with
  | .icmpv6 => st.processIcmpv6 chance ipv6Repr ipPayload
  | .udp => st.processUdp packetMeta handledByRawSocket (.ipv6 ipv6Repr.toHeader) ipPayload
  | .tcp => st.processTcp chance (.ipv6 ipv6Repr.toHeader) ipPayload
  | _ =>
    if handledByRawSocket then .ok (st, none)
    else do return (st, some (← st.headerProblem ipv6Repr ipPayload))

def deliver (chance : Chance) (packetMeta : PacketMeta) (d : Delivery) :
    Checked (Stack cfg × Option Packet) :=
  match d.ipRepr with
  | .ipv4 ipv4Repr => st.deliverIpv4 chance packetMeta ipv4Repr d.handledByRawSocket d.payload
  | .ipv6 header =>
    st.processNxtHdr chance packetMeta (.ofHeader header) d.nextHeader d.handledByRawSocket
      d.payload

/-! ### IPv4 -/

/-- The payload of a packet, unless fragments of it are missing. -/
def reassemble (buf : List UInt8) : Checked (Stack cfg × Option (List UInt8)) :=
  if Ipv4.moreFrags buf ∨ Ipv4.fragOffset buf ≠ 0 then do
    let frag ← ipv4Fragment buf
    let expiresAt := st.inner.now.add st.fragments.reassemblyTimeout
    let (assembler, r) ← st.fragments.assembler.receive cfg.reassembly expiresAt
      ⟨.ipv4 frag.key, frag.totalSize, frag.data⟩
    let st := { st with fragments := { st.fragments with assembler } }
    match r with
    | .complete payload => return (st, some payload)
    | _ => return (st, none)
  else .ok (st, some (Ipv4.payload buf))

/-- Pass a packet to all raw sockets. -/
def rawSocketFilter (ipRepr : IpRepr) (ipPayload : List UInt8) : Checked (SocketSet × Bool) :=
  st.sockets.offerAll fun
    | .raw s => do
      if s.accepts ipRepr then return some (.raw (← s.process st.inner.checksum ipRepr ipPayload))
      else return none
    | _ => .ok none

/-- Give a DHCP message to the first DHCP socket, if it has the ports of the socket. -/
def offerDhcpv4 (ipv4Repr : Ipv4.Repr) (udpPacket : List UInt8) (srcPort dstPort : UInt16)
    (payload : List UInt8) : Checked (SocketSet × Option Bool) :=
  st.sockets.offerFirst fun
    | .dhcpv4 s =>
      if srcPort = s.serverPort ∧ dstPort = s.clientPort then
        match UdpRepr.parse st.inner.checksum.udp.verifies udpPacket (.ipv4 ipv4Repr.srcAddr)
            (.ipv4 ipv4Repr.dstAddr) with
        | .error .malformed => .ok (some (.dhcpv4 s, true))
        | .error (.panic p) => .error p
        | .ok udpRepr => do
          return some (.dhcpv4 (← s.process st.inner ipv4Repr udpRepr payload), true)
      else .ok (some (.dhcpv4 s, false))
    | _ => .ok none

/-- The ports and the payload of a datagram whose checksum is not verified. -/
def udpFields (udpPacket : List UInt8) : Outcome (UInt16 × UInt16 × List UInt8) := do
  UdpPacket.checkLen udpPacket
  return (← UdpPacket.srcPort udpPacket, ← UdpPacket.dstPort udpPacket,
    ← UdpPacket.payload udpPacket)

/-- On an Ethernet medium, a DHCP socket comes before everything else. Returned is whether the
packet is done with. -/
def filterDhcpv4 (ipv4Repr : Ipv4.Repr) (ipPayload : List UInt8) : Checked (Stack cfg × Bool) :=
  if ipv4Repr.nextHeader = .udp ∧ st.inner.medium = .ethernet then
    match udpFields ipPayload with
    | .error .malformed => .ok (st, true)
    | .error (.panic p) => .error p
    | .ok (srcPort, dstPort, payload) => do
      let (sockets, done) ← st.offerDhcpv4 ipv4Repr ipPayload srcPort dstPort payload
      return ({ st with sockets }, done.getD false)
  else .ok (st, false)

/-- The part of `process_ipv4` behind the reassembly and before the handlers. -/
def filterIpv4 (sourceHardwareAddr : HardwareAddress) (ipv4Repr : Ipv4.Repr)
    (ipPayload : List UInt8) : Checked (Stack cfg × Option Delivery) := do
  let (sockets, handledByRawSocket) ← st.rawSocketFilter (.ipv4 ipv4Repr) ipPayload
  let (st, done) ← filterDhcpv4 { st with sockets } ipv4Repr ipPayload
  if done then return (st, none)
  else if ← st.inner.takesFor (.ipv4 ipv4Repr.dstAddr) then
    return (st.setInner (st.inner.refreshIpv4 sourceHardwareAddr ipv4Repr),
      some ⟨.ipv4 ipv4Repr, ipv4Repr.nextHeader, handledByRawSocket, ipPayload⟩)
  else return (st, none)

/-- The part of `process_ipv4` before the handlers. -/
def receiveIpv4 (sourceHardwareAddr : HardwareAddress) (buf : List UInt8) :
    Checked (Stack cfg × Option Delivery) :=
  check st (.ofResult (Ipv4.Repr.parse st.inner.checksum.ipv4.verifies buf)) fun ipv4Repr =>
    -- Discard packets with non-unicast source addresses but allow unspecified.
    if ¬ st.inner.isUnicastV4 ipv4Repr.srcAddr ∧ ¬ Ipv4.isUnspecified ipv4Repr.srcAddr then
      .ok (st, none)
    else do
      match ← st.reassemble buf with
      | (st, none) => return (st, none)
      | (st, some ipPayload) => st.filterIpv4 sourceHardwareAddr ipv4Repr ipPayload

def processIpv4 (chance : Chance) (packetMeta : PacketMeta) (sourceHardwareAddr : HardwareAddress)
    (buf : List UInt8) : Checked (Stack cfg × Option Packet) := do
  match ← st.receiveIpv4 sourceHardwareAddr buf with
  | (st, none) => return (st, none)
  | (st, some d) => st.deliver chance packetMeta d

/-! ### IPv6 -/

/-- What the handlers are given, or what the packet is answered with before. -/
abbrev Received := Except (Option Packet) Delivery

/-- The part of `process_ipv6` behind the extension header and before the handlers. -/
def filterIpv6 (sourceHardwareAddr : HardwareAddress) (ipv6Repr : Ipv6Repr)
    (nextHeader : IpProtocol) (ipPayload : List UInt8) : Checked (Stack cfg × Received) := do
  if ← st.inner.takesFor (.ipv6 ipv6Repr.dstAddr) then
    let ipRepr : IpRepr := .ipv6 ipv6Repr.toHeader
    let (sockets, handledByRawSocket) ← st.rawSocketFilter ipRepr ipPayload
    let inner := st.inner.refreshIpv6 sourceHardwareAddr ipv6Repr
    return ({ st with inner, sockets }, .ok ⟨ipRepr, nextHeader, handledByRawSocket, ipPayload⟩)
  else return (st, .error none)

/-- The next header and the payload, behind a hop-by-hop header. -/
def skipHopbyhop (ipv6Repr : Ipv6Repr) (payload : List UInt8) :
    Checked InterfaceInner.HopByHopResponse :=
  if ipv6Repr.nextHeader = .hopByHop then st.inner.processHopbyhop ipv6Repr payload
  else .ok (.next ipv6Repr.nextHeader payload)

/-- `check!`, where nothing is answered to what is malformed. -/
def checkReceived {α : Type} (x : Outcome α) (k : α → Checked (Stack cfg × Received)) :
    Checked (Stack cfg × Received) :=
  match x with
  | .ok a => k a
  | .error .malformed => .ok (st, .error none)
  | .error (.panic p) => .error p

/-- The part of `process_ipv6` before the handlers. -/
def receiveIpv6 (sourceHardwareAddr : HardwareAddress) (buf : List UInt8) :
    Checked (Stack cfg × Received) :=
  st.checkReceived (Ipv6Repr.parse buf) fun ipv6Repr =>
    -- Discard packets with non-unicast source addresses.
    if ¬ Ipv6.isUnicast ipv6Repr.srcAddr then .ok (st, .error none)
    else
      st.checkReceived (Ipv6Packet.payload buf) fun payload => do
        match ← st.skipHopbyhop ipv6Repr payload with
        | .discard answer => return (st, .error answer)
        | .next nextHeader ipPayload =>
          st.filterIpv6 sourceHardwareAddr ipv6Repr nextHeader ipPayload

def processIpv6 (chance : Chance) (packetMeta : PacketMeta) (sourceHardwareAddr : HardwareAddress)
    (buf : List UInt8) : Checked (Stack cfg × Option Packet) := do
  match ← st.receiveIpv6 sourceHardwareAddr buf with
  | (st, .error answer) => return (st, answer)
  | (st, .ok d) => st.deliver chance packetMeta d

/-- Process a packet of a medium without link layer. -/
def processIp (chance : Chance) (packetMeta : PacketMeta) (ipPayload : List UInt8) :
    Checked (Stack cfg × Option Packet) :=
  match IpVersion.ofPacket ipPayload with
  | .ok .ipv4 => st.processIpv4 chance packetMeta .ip ipPayload
  | .ok .ipv6 => st.processIpv6 chance packetMeta .ip ipPayload
  -- Drop all other traffic.
  | .error _ => .ok (st, none)

end Stack

end Smoltcp
