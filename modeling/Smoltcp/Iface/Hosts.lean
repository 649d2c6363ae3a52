import Smoltcp.Iface.Demux
import Smoltcp.Iface.TcpPackets
import Smoltcp.Socket.Tcp.Link

/-!
# Two hosts and a network

Two hosts exchange octets over a medium without link layer. Each has a stack with any number of
sockets, and the network brings any octets to it, late, twice or never. Only what a certain TCP
socket of one host accepts was sent by a certain TCP socket of the other one. Then the two sockets
are the parties of `Link`: what they tell each other survives headers, checksums and parsers.
-/

namespace Smoltcp

open Outcome Duplex

/-! ### Whole packets -/

namespace Stack

variable {cfg : StackConfig} {st : Stack cfg} {buf : List UInt8} {packet packet' : Tcp.Packet}

lemma segment_eq_some {d : Delivery} {checksum : ChecksumCapabilities}
    (h : d.segment checksum = some packet) : d.nextHeader = .tcp ∧ packet.1 = d.ipRepr ∧
      TcpRepr.parse checksum.tcp.verifies d.payload d.ipRepr.srcAddr d.ipRepr.dstAddr =
        .ok packet.2 := by
  unfold Delivery.segment at h
  split_ifs at h with hnext
  cases hparse : TcpRepr.parse checksum.tcp.verifies d.payload d.ipRepr.srcAddr
      d.ipRepr.dstAddr with
  | error e =>
    rw [hparse] at h
    cases h
  | ok repr =>
    rw [hparse] at h
    cases h
    exact ⟨hnext, rfl, rfl⟩

lemma segment_of_receiveIpv4 (hversion : IpVersion.ofPacket buf = .ok .ipv4)
    (h : st.segment buf = some packet) : ∃ st' d, st.receiveIpv4 .ip buf = .ok (st', some d) ∧
      d.segment st.inner.checksum = some packet := by
  unfold segment at h
  rw [hversion] at h
  simp only at h
  split at h
  · exact ⟨_, _, by assumption, h⟩
  · cases h

lemma segment_of_receiveIpv6 (hversion : IpVersion.ofPacket buf = .ok .ipv6)
    (h : st.segment buf = some packet) : ∃ st' d, st.receiveIpv6 .ip buf = .ok (st', .ok d) ∧
      d.segment st.inner.checksum = some packet := by
  unfold segment at h
  rw [hversion] at h
  simp only at h
  split at h
  · exact ⟨_, _, by assumption, h⟩
  · cases h

/-- In a packet that is not a fragment and has no extension header the sockets are offered the
segment that is read. -/
lemma segment_eq_of_readIp (h : st.segment buf = some packet)
    (hread : Tcp.readIp st.inner.checksum buf = .ok packet') : packet = packet' := by
  unfold Tcp.readIp at hread
  cases hversion : IpVersion.ofPacket buf with
  | error e =>
    rw [hversion] at hread
    cases hread
  | ok version =>
    rw [hversion] at hread
    cases version with
    | ipv4 =>
      obtain ⟨st', d, hreceive, hsegment⟩ := segment_of_receiveIpv4 hversion h
      obtain ⟨-, hip, hparse⟩ := segment_eq_some hsegment
      obtain ⟨repr, hrepr, hread⟩ := bind_eq_ok.mp hread
      obtain ⟨_, hwhole, hread⟩ := bind_eq_ok.mp hread
      obtain ⟨tcpRepr, htcp, hread⟩ := bind_eq_ok.mp hread
      cases hread
      obtain ⟨ipv4Repr, hr⟩ := receivedIpv4 hreceive
      obtain rfl := Except.ok.inj (hr.parse.symm.trans (ofResult_eq_ok.mp hrepr))
      obtain ⟨st₁, hreassemble, -⟩ := hr.reassemble
      have hwhole := reject_eq_ok.mp hwhole
      rw [not_or, not_or] at hwhole
      unfold reassemble at hreassemble
      rw [if_neg (not_or.mpr ⟨hwhole.1, hwhole.2.1⟩)] at hreassemble
      obtain ⟨-, hpayload⟩ := Prod.mk.inj (Except.ok.inj hreassemble)
      have hpayload : d.payload = Ipv4.payload buf := (Option.some.inj hpayload).symm
      rw [hpayload, hr.ipRepr] at hparse
      rw [hr.ipRepr] at hip
      exact Prod.ext hip (Except.ok.inj (hparse.symm.trans htcp))
    | ipv6 =>
      obtain ⟨st', d, hreceive, hsegment⟩ := segment_of_receiveIpv6 hversion h
      obtain ⟨-, hip, hparse⟩ := segment_eq_some hsegment
      obtain ⟨repr, hrepr, hread⟩ := bind_eq_ok.mp hread
      obtain ⟨payload, hpayload, hread⟩ := bind_eq_ok.mp hread
      obtain ⟨_, hnext, hread⟩ := bind_eq_ok.mp hread
      obtain ⟨tcpRepr, htcp, hread⟩ := bind_eq_ok.mp hread
      cases hread
      obtain ⟨ipv6Repr, payload', hr⟩ := receivedIpv6 hreceive
      obtain rfl := Except.ok.inj (hr.parse.symm.trans hrepr)
      obtain rfl := Except.ok.inj (hr.payload_eq.symm.trans hpayload)
      have hnext : ipv6Repr.nextHeader = .tcp := not_not.mp (reject_eq_ok.mp hnext)
      have hskip := hr.skip
      unfold skipHopbyhop at hskip
      rw [if_neg (by simp [hnext])] at hskip
      obtain ⟨-, hpayload⟩ := InterfaceInner.HopByHopResponse.next.inj (Except.ok.inj hskip)
      rw [← hpayload, hr.ipRepr] at hparse
      rw [hr.ipRepr] at hip
      exact Prod.ext hip (Except.ok.inj (hparse.symm.trans htcp))

end Stack

/-! ### Hosts -/

/-- A stack of which one TCP socket is looked at, with the record of its connection. -/
structure Host (cfg : StackConfig) where
  stack : Stack cfg
  maxBurstSize : Option ℕ
  handle : ℕ
  sys : Tcp.Sys
  holds : stack.sockets.tcps[handle]? = some (some sys.socket)

/-- What a host does. Both may send a packet, for which the device gives a buffer. -/
inductive HostOp where
  /-- A call of the application to the socket, or of the interface to its `dispatch`. -/
  | call (op : Tcp.Op) (txBuffer : List UInt8)
  /-- Octets arrive. -/
  | receive (chance : Chance) (packetMeta : PacketMeta) (octets txBuffer : List UInt8)

def HostOp.txBuffer : HostOp → List UInt8
  | call _ txBuffer => txBuffer
  | receive _ _ _ txBuffer => txBuffer

namespace Host

variable {cfg : StackConfig} (h : Host cfg)

def caps : Tcp.TxCapabilities where
  maxTransmissionUnit := h.stack.inner.maxTransmissionUnit
  maxBurstSize := h.maxBurstSize
  checksum := h.stack.inner.checksum

/-- The segment in a packet, if the socket is the one that takes it. -/
def hears (octets : List UInt8) : Option Tcp.Packet :=
  (h.stack.segment octets).filter fun packet => h.stack.sockets.taker packet = some h.handle

/-- What an operation is to the socket. -/
def socketOp : HostOp → Tcp.Op
  | .call op _ => op
  | .receive chance _ octets _ =>
    match h.hears octets with
    | some packet => .process (h.stack.tcpContext chance) packet.1 packet.2
    | none => .peek 0

/-- The parts of a host that have nothing to do with the socket may change at a call, but are as
`processIp` leaves them when octets arrive. -/
def Step (h : Host cfg) (o : HostOp) (h' : Host cfg) : Prop :=
  Tcp.Sys.Step h.sys (h.socketOp o) h'.sys ∧
    match o with
    | .call op _ => ∀ cx ipRepr repr, op ≠ .process cx ipRepr repr
    | .receive chance packetMeta octets _ => h'.handle = h.handle ∧
        ∃ reply, h.stack.processIp chance packetMeta octets = .ok (h'.stack, reply)

variable {h}

lemma hears_eq_some_iff {octets : List UInt8} {packet : Tcp.Packet} :
    h.hears octets = some packet ↔ h.stack.segment octets = some packet ∧
      h.stack.sockets.Takes h.handle h.sys.socket packet := by
  unfold hears
  rw [Option.filter_eq_some_iff, decide_eq_true_eq, SocketSet.taker_eq_some_iff]
  refine and_congr_right fun _ => ⟨?_, fun htakes => ⟨_, htakes⟩⟩
  rintro ⟨s, htakes⟩
  have hs := htakes.get.symm.trans h.holds
  cases hs
  exact htakes

/-- Whatever the stack does with a packet, it is a step of the host. -/
lemma exists_receive {chance : Chance} {packetMeta : PacketMeta} {octets : List UInt8}
    {st' : Stack cfg} {reply : Option Packet}
    (hp : h.stack.processIp chance packetMeta octets = .ok (st', reply)) (txBuffer : List UInt8) :
    ∃ y', Tcp.Sys.Step h.sys (h.socketOp (.receive chance packetMeta octets txBuffer)) y' ∧
      st'.sockets.tcps[h.handle]? = some (some y'.socket) := by
  have hstay : h.hears octets = none →
      st'.sockets.tcps[h.handle]? = h.stack.sockets.tcps[h.handle]? → ∃ y',
      Tcp.Sys.Step h.sys (h.socketOp (.receive chance packetMeta octets txBuffer)) y' ∧
        st'.sockets.tcps[h.handle]? = some (some y'.socket) := by
    intro hears hget
    refine ⟨h.sys, ?_, hget.trans h.holds⟩
    rw [socketOp, hears]
    rfl
  have hserves := Stack.processIp_serves hp
  have hears := @hears_eq_some_iff _ h octets
  generalize hseg : h.stack.segment octets = segment at hserves hears
  cases hserves with
  | passed hnone htcps =>
    refine hstay (Option.eq_none_iff_forall_ne_some.mpr fun packet heq => ?_) (by rw [htcps])
    obtain ⟨rfl, htakes⟩ := hears.mp heq
    rw [Option.bind_some, SocketSet.taker_eq_some_iff.mpr ⟨_, htakes⟩] at hnone
    cases hnone
  | @taken packet handle s s' reply _ htakes hprocess htcps =>
    by_cases hhandle : handle = h.handle
    · subst hhandle
      have hs := htakes.get.symm.trans h.holds
      cases hs
      have hheard : h.hears octets = some packet := hears.mpr ⟨rfl, htakes⟩
      obtain ⟨hlt, -⟩ := List.getElem?_eq_some_iff.mp h.holds
      refine ⟨⟨s', h.sys.conn.process h.sys.socket s'⟩, ?_, ?_⟩
      · rw [socketOp, hheard]
        change h.sys.step _ = _
        rw [Tcp.Sys.step, hprocess]
        rfl
      · rw [htcps, List.getElem?_set_self hlt]
    · refine hstay (Option.eq_none_iff_forall_ne_some.mpr fun packet' heq => ?_) ?_
      · obtain ⟨heq, htakes'⟩ := hears.mp heq
        cases heq
        exact hhandle (htakes.unique htakes').1
      · rw [htcps, List.getElem?_set_ne hhandle]

end Host

/-! ### The network -/

/-- A segment that was sent, the device it was sent with, and the octets of the frame, if it fits in
one. -/
structure SentFrame where
  carried : Tcp.Carried
  caps : Tcp.TxCapabilities
  octets : Option (List UInt8)

/-- The frame holds the segment. -/
def SentFrame.Reads (t : SentFrame) : Prop :=
  ∀ octets, t.octets = some octets → ∃ ipRepr repr, t.carried.Arrives repr ∧
    ∀ checksum, Tcp.Agree t.caps checksum → Tcp.readIp checksum octets = .ok (ipRepr, repr)

/-- A host at the network, with everything that its socket has sent. -/
abbrev HostPeer (cfg : StackConfig) := Party (Host cfg) SentFrame

/-- The socket at the network. -/
def HostPeer.peer {cfg : StackConfig} (p : HostPeer cfg) : Tcp.Peer :=
  ⟨p.state.sys, p.sent.map SentFrame.carried⟩

namespace Host

variable {cfg : StackConfig} {p q p' : HostPeer cfg} {o : HostOp}

def sentFrame (h h' : Host cfg) (txBuffer : List UInt8) (packet : Tcp.Packet) : SentFrame where
  carried := h'.sys.carried packet.2
  caps := h.caps
  octets :=
    if packet.1.headerLen + packet.2.bufferLen ≤ h.stack.inner.ipMtu then
      (Tcp.emitIp h.caps packet txBuffer).toOption
    else none

def machine : Machine (Host cfg) HostOp SentFrame where
  step := Step
  sends h o h' := (h.sys.packet (h.socketOp o)).toList.map (h.sentFrame h' o.txBuffer)

/-- The guard of `Link`, with octets in place of segments. -/
def Heeds (p q : HostPeer cfg) : HostOp → Prop
  | .call (.set (.keepAlive interval)) _ => interval = none
  | .call (.recv f) _ => f.KeepsRest
  | .call _ _ => True
  | .receive _ _ octets _ => ∀ packet, p.state.hears octets = some packet →
      ∃ t ∈ q.sent, t.octets = some octets ∧
        Tcp.Agree t.caps p.state.stack.inner.checksum ∧ t.carried.Timely p.state.sys

structure Ok (p q : HostPeer cfg) (o : HostOp) : Prop where
  opens : p.state.sys.Restarts (p.state.socketOp o) → Tcp.Silent p.peer
  closes : p.state.sys.NoEarlyClose (p.state.socketOp o)
  heeds : Heeds p q o
  mtu : p.state.stack.inner.ipMtu < 2 ^ 16
  txBuffer : ∀ packet ∈ p.state.sys.packet (p.state.socketOp o),
    o.txBuffer.length = packet.1.headerLen + packet.2.bufferLen

structure Inv (p : HostPeer cfg) : Prop where
  reachable : p.state.sys.ReachableBy Tcp.Sys.Heard
  capacity : p.state.sys.socket.rxBuffer.capacity < 2 ^ 30
  reads : ∀ t ∈ p.sent, t.Reads

/-- What the socket hears is what its peer has sent. -/
lemma heard_of_ok (hq : Inv q) (hok : Ok p q o) {chance : Chance} {packetMeta : PacketMeta}
    {octets txBuffer : List UInt8} (ho : o = .receive chance packetMeta octets txBuffer)
    {packet : Tcp.Packet} (hears : p.state.hears octets = some packet) :
    packet.2.Parsed ∧ ∃ c ∈ q.peer.sent, c.Arrives packet.2 ∧ c.Timely p.state.sys := by
  subst ho
  obtain ⟨t, ht, hoctets, hagree, htimely⟩ := hok.heeds packet hears
  obtain ⟨ipRepr, repr, harrives, hreads⟩ := hq.reads t ht octets hoctets
  have hread := hreads _ hagree
  obtain rfl := Stack.segment_eq_of_readIp (hears_eq_some_iff.mp hears).1 hread
  exact ⟨Tcp.parsed_of_readIp hread, t.carried, List.mem_map_of_mem ht, harrives, htimely⟩

lemma peer_moves (hmove : machine.Moves p o p') :
    Tcp.machine.Moves p.peer (p.state.socketOp o) p'.peer := by
  refine ⟨hmove.step.1, ?_⟩
  change p'.sent.map _ = ((p.state.sys.transmits _).toList.map _) ++ p.sent.map _
  rw [hmove.sent, List.map_append, ← Tcp.Sys.packet_transmits]
  congr 1
  change ((p.state.sys.packet (p.state.socketOp o)).toList.map _).map _ = _
  cases p.state.sys.packet (p.state.socketOp o) <;> rfl

lemma heard_socketOp (hq : Inv q) (hok : Ok p q o) (hstep : p.state.Step o p'.state) :
    p.state.sys.Heard (p.state.socketOp o) := by
  cases o with
  | call op txBuffer =>
    cases op with
    | process cx ipRepr repr => exact absurd rfl (hstep.2 cx ipRepr repr)
    | _ => trivial
  | receive chance packetMeta octets txBuffer =>
    cases hears : p.state.hears octets with
    | none =>
      rw [socketOp, hears]
      trivial
    | some packet =>
      rw [socketOp, hears]
      exact (heard_of_ok hq hok rfl hears).1

lemma peer_ok (hq : Inv q) (hok : Ok p q o) (hstep : p.state.Step o p'.state) :
    Tcp.Link.Ok p.peer q.peer (p.state.socketOp o) := by
  refine ⟨hok.opens, hok.closes, ?_⟩
  cases o with
  | call op txBuffer =>
    have hheeds := hok.heeds
    cases op with
    | process cx ipRepr repr => exact absurd rfl (hstep.2 cx ipRepr repr)
    | set x => cases x <;> exact hheeds
    | recv f => exact hheeds
    | _ => trivial
  | receive chance packetMeta octets txBuffer =>
    cases hears : p.state.hears octets with
    | none =>
      rw [socketOp, hears]
      trivial
    | some packet =>
      rw [socketOp, hears]
      exact (heard_of_ok hq hok rfl hears).2

/-- What fits in a frame is read by the other host. -/
lemma sentFrame_reads {h h' : Host cfg} {txBuffer : List UInt8} {op : Tcp.Op}
    {packet : Tcp.Packet} (hreach : h.sys.ReachableBy Tcp.Sys.Heard)
    (hcap : h.sys.socket.rxBuffer.capacity < 2 ^ 30) (hop : h.sys.Heard op)
    (hmtu : h.stack.inner.ipMtu < 2 ^ 16) (hp : h.sys.packet op = some packet)
    (hbuf : txBuffer.length = packet.1.headerLen + packet.2.bufferLen) :
    (h.sentFrame h' txBuffer packet).Reads := by
  intro octets hoctets
  unfold sentFrame at hoctets
  simp only at hoctets
  split_ifs at hoctets with hlen
  obtain ⟨hprepared, hscale⟩ := Tcp.Sys.prepared_of_packet hreach.writable hop hp
  have hemittable := hprepared.emittable (hscale hcap)
  have hfits : Tcp.Fits packet := ⟨hprepared.nextHeader, hprepared.payloadLen, by omega⟩
  cases hemit : Tcp.emitIp h.caps packet txBuffer with
  | error e =>
    rw [hemit] at hoctets
    cases hoctets
  | ok out =>
    rw [hemit] at hoctets
    cases hoctets
    obtain ⟨r, hr⟩ := Tcp.exists_limitWindow_of_emitIp hemit
    obtain ⟨w, hw, rfl⟩ := Tcp.limitWindow_eq_ok hr
    refine ⟨packet.1, _, ⟨w, hw, rfl⟩, fun checksum hagree => ?_⟩
    obtain ⟨out', hout', hread⟩ := Tcp.emitIp_reads hagree hfits hemittable hr hbuf
    obtain rfl := Except.ok.inj (hemit.symm.trans hout')
    exact hread

lemma Inv.move (h : Inv p) (hq : Inv q) (hok : Ok p q o) (hmove : machine.Moves p o p') :
    Inv p' := by
  have hheard := heard_socketOp hq hok hmove.step
  refine ⟨h.reachable.trans (.tail _ .refl hheard hmove.step.1), ?_, ?_⟩
  · rw [Tcp.Sys.capacity_step (.of_step hmove.step.1)]
    exact h.capacity
  · intro t ht
    rw [hmove.sent, List.mem_append] at ht
    rcases ht with ht | ht
    · obtain ⟨packet, hpacket, rfl⟩ := List.mem_map.mp ht
      have hp := Option.mem_toList.mp hpacket
      exact sentFrame_reads h.reachable h.capacity hheard hok.mtu hp (hok.txBuffer packet hp)
    · exact h.reads t ht

/-- Two new sockets in two stacks, whose receive buffers are empty and not too large for a window
scale. -/
structure Starts (p : HostPeer cfg) : Prop where
  peer : Tcp.Link.Starts p.peer
  capacity : p.state.sys.socket.rxBuffer.capacity < 2 ^ 30
  sent : p.sent = []

def Reachable (l : Pair (Host cfg) SentFrame) : Prop :=
  ∃ l₀, (∀ i, Starts (l₀ i)) ∧ Run machine Ok l₀ l

/-- The octets on the network are the segments of a conversation of two sockets. -/
theorem Reachable.link {l : Pair (Host cfg) SentFrame} (h : Reachable l) :
    Tcp.Link.Reachable (HostPeer.peer ∘ l) := by
  obtain ⟨l₀, hstarts, hrun⟩ := h
  refine ⟨HostPeer.peer ∘ l₀, fun i => (hstarts i).peer, ?_⟩
  refine hrun.map (I := fun p _ => Inv p) HostPeer.peer ?_ ?_ ?_ fun i => ?_
  · exact fun p q o p' h hq hok hmove => h.move hq hok hmove
  · exact fun p q o p' h hq hok hmove => hq
  · exact fun p q o p' h hq hok hmove => ⟨_, peer_ok hq hok hmove.step, peer_moves hmove⟩
  · obtain ⟨⟨hinit, hempty, -⟩, hcap, hsent⟩ := hstarts i
    refine ⟨⟨_, hinit, .refl⟩, hcap, ?_⟩
    rw [hsent]
    rintro t ⟨⟩

/-! ### Sample conversations -/

/-- An act of a host: a call, or the receipt of the `k`-th latest frame of the peer. -/
inductive Act where
  | call (op : Tcp.Op)
  | receive (chance : Chance) (k : ℕ)

/-- A buffer of zeros for the packet that an operation sends. -/
def zeros (h : Host cfg) (op : Tcp.Op) : List UInt8 :=
  List.replicate ((h.sys.packet op).elim 0 fun packet =>
    packet.1.headerLen + packet.2.bufferLen) 0

def Act.toOp (p q : HostPeer cfg) : Act → Option HostOp
  | .call op => if Tcp.Link.Plain op then some (.call op (p.state.zeros op)) else none
  | .receive chance k => do
    let octets ← (← q.sent[k]?).octets
    return .receive chance 0 octets (p.state.zeros (p.state.socketOp (.receive chance 0 octets [])))

lemma holds_set (h : Host cfg) {item : Item} (hitem : h.stack.sockets[h.handle]? = some item)
    (y : Tcp.Sys) : (SocketSet.tcps (h.stack.sockets.set h.handle
      { item with socket := .tcp y.socket }))[h.handle]? = some (some y.socket) := by
  obtain ⟨hlt, -⟩ := List.getElem?_eq_some_iff.mp hitem
  rw [SocketSet.tcps, List.getElem?_map, List.getElem?_set_self hlt]
  rfl

/-- The host after a call. -/
def put (h : Host cfg) (y : Tcp.Sys) : Option (Host cfg) :=
  match hitem : h.stack.sockets[h.handle]? with
  | none => none
  | some item => some { h with
      stack := { h.stack with
        sockets := h.stack.sockets.set h.handle { item with socket := .tcp y.socket } }
      sys := y
      holds := h.holds_set hitem y }

lemma holds_receive {h : Host cfg} {chance : Chance} {packetMeta : PacketMeta}
    {octets txBuffer : List UInt8} {st' : Stack cfg} {reply : Option Packet} {y' : Tcp.Sys}
    (hp : h.stack.processIp chance packetMeta octets = .ok (st', reply))
    (hy : h.sys.step (h.socketOp (.receive chance packetMeta octets txBuffer)) = .ok y') :
    st'.sockets.tcps[h.handle]? = some (some y'.socket) := by
  obtain ⟨y, hstep, hget⟩ := exists_receive hp txBuffer
  obtain rfl := Except.ok.inj (hstep.symm.trans hy)
  exact hget

/-- The host after an operation. -/
def next (h : Host cfg) : HostOp → Option (Host cfg)
  | .call op _ => (h.sys.step op).toOption.bind h.put
  | .receive chance packetMeta octets txBuffer =>
    match hp : h.stack.processIp chance packetMeta octets with
    | .error _ => none
    | .ok (st', _) =>
      match hy : h.sys.step (h.socketOp (.receive chance packetMeta octets txBuffer)) with
      | .error _ => none
      | .ok y' => some { h with stack := st', sys := y', holds := holds_receive hp hy }

lemma sys_of_put {h h' : Host cfg} {y : Tcp.Sys} (hput : h.put y = some h') : h'.sys = y := by
  unfold put at hput
  split at hput
  · cases hput
  · cases hput
    rfl

lemma step_of_next {h h' : Host cfg}
    (hop : ∀ op txBuffer, o = .call op txBuffer → Tcp.Link.Plain op)
    (hnext : h.next o = some h') : h.Step o h' := by
  cases o with
  | call op txBuffer =>
    obtain ⟨y, hstep, hput⟩ := Option.bind_eq_some_iff.mp hnext
    refine ⟨?_, ?_⟩
    · rw [sys_of_put hput]
      exact Tcp.Sys.step_of_toOption hstep
    · rintro cx ipRepr repr rfl
      cases hop _ _ rfl
  | receive chance packetMeta octets txBuffer =>
    simp only [next] at hnext
    split at hnext
    · cases hnext
    · rename_i st' reply hp
      split at hnext
      · cases hnext
      · rename_i y' hy
        cases hnext
        exact ⟨hy, rfl, reply, hp⟩

instance (caps : Tcp.TxCapabilities) (checksum : ChecksumCapabilities) :
    Decidable (Tcp.Agree caps checksum) :=
  decidable_of_iff (_ ∧ _) ⟨fun ⟨hipv4, htcp⟩ => ⟨hipv4, htcp⟩, fun ⟨hipv4, htcp⟩ => ⟨hipv4, htcp⟩⟩

/-- `Ok` as a test of an act. -/
def Act.ok (p q : HostPeer cfg) (a : Act) (o : HostOp) : Bool :=
  (!decide (p.state.sys.Restarts (p.state.socketOp o)) ||
      p.sent.all fun t => t.carried.repr.control = .rst) &&
    decide (p.state.sys.NoEarlyClose (p.state.socketOp o)) &&
    decide (p.state.stack.inner.ipMtu < 2 ^ 16) &&
    match a, o with
    | .receive _ k, .receive _ _ octets _ => (p.state.hears octets).all fun _ =>
        (q.sent[k]?).any fun t =>
          Tcp.Agree t.caps p.state.stack.inner.checksum ∧ t.carried.Timely p.state.sys
    | _, _ => true

def Act.next (p q : HostPeer cfg) (a : Act) : Option (HostPeer cfg) :=
  (a.toOp p q).bind fun o =>
    if a.ok p q o then
      (p.state.next o).map fun h' => ⟨h', machine.sends p.state o h' ++ p.sent⟩
    else none

lemma length_zeros {h : Host cfg} {op : Tcp.Op} {packet : Tcp.Packet}
    (hp : h.sys.packet op = some packet) :
    (h.zeros op).length = packet.1.headerLen + packet.2.bufferLen := by
  rw [zeros, List.length_replicate, hp]
  rfl

lemma Act.moves_of_next {a : Act} (h : a.next p q = some p') :
    ∃ o, Ok p q o ∧ machine.Moves p o p' := by
  unfold next at h
  obtain ⟨o, ho, h⟩ := Option.bind_eq_some_iff.mp h
  split_ifs at h with hok
  obtain ⟨h', hnext, rfl⟩ := Option.map_eq_some_iff.mp h
  simp only [ok, Bool.and_eq_true, Bool.or_eq_true, Bool.not_eq_true', decide_eq_false_iff_not,
    decide_eq_true_eq, List.all_eq_true] at hok
  obtain ⟨⟨⟨hopens, hcloses⟩, hmtu⟩, hheeds⟩ := hok
  have hsilent : (∀ t ∈ p.sent, t.carried.repr.control = .rst) → Tcp.Silent p.peer := by
    intro hall c hc
    obtain ⟨t, ht, rfl⟩ := List.mem_map.mp hc
    exact hall t ht
  have hopens : p.state.sys.Restarts (p.state.socketOp o) → Tcp.Silent p.peer :=
    fun hr => hsilent (hopens.resolve_left (not_not_intro hr))
  cases a with
  | call op =>
    simp only [toOp] at ho
    split_ifs at ho with hplain
    cases ho
    refine ⟨_, ⟨hopens, hcloses, ?_, hmtu, fun packet hp => length_zeros hp⟩, step_of_next ?_ hnext,
      rfl⟩
    · cases op with
      | set | recv | process | send | peek | abort => cases hplain
      | _ => trivial
    · rintro op' txBuffer ⟨⟩
      exact hplain
  | receive chance k =>
    obtain ⟨t, ht, ho⟩ := Option.bind_eq_some_iff.mp ho
    obtain ⟨octets, hoctets, ho⟩ := Option.bind_eq_some_iff.mp ho
    cases ho
    refine ⟨_, ⟨hopens, hcloses, ?_, hmtu, fun packet hp => length_zeros hp⟩, step_of_next ?_ hnext,
      rfl⟩
    · intro packet hears
      simp only [hears, ht, Option.all_some, Option.any_some, decide_eq_true_eq] at hheeds
      obtain ⟨hagree, htimely⟩ := hheeds
      exact ⟨t, List.mem_of_getElem? ht, hoctets, hagree, htimely⟩
    · rintro op txBuffer ⟨⟩

namespace Sample

lemma prefixLen_le : 8 ≤ 32 := by decide

/-- A host with the address 10.0.0.`n` and one socket with buffers of 8 octets. -/
def host (n : UInt8) : Option (Host .default) :=
  (Tcp.Sys.start Tcp.Sample.config (Tcp.Sample.buffer 8) (Tcp.Sample.buffer 8)).map fun y =>
    { stack := {
        inner := { InterfaceInner.new 1500 {} .ip 0 1 1 with
          ipAddrs := [.ipv4 ⟨.ofNat 32 (0x0a000000 + n.toNat), 8, prefixLen_le⟩] }
        fragments := .new StackConfig.default.reassembly
        fragmenter := .new 0
        sockets := SocketSet.add [] (.tcp y.socket) }
      maxBurstSize := some 2
      handle := 0
      sys := y
      holds := rfl }

def chance : Chance := ⟨10000, 0, 0⟩

/-- The left host listens, and the right one connects. -/
def handshake : List (Side × Act) :=
  [(.left, .call (.listen ⟨none, 80⟩)),
    (.right, .call (.connect (Tcp.Sample.context 0) ⟨.ipv4 0x0a000001, 80⟩
      ⟨some (.ipv4 0x0a000002), 49500⟩)),
    (.right, .call (Tcp.Sample.dispatch 0)), (.left, .receive chance 0),
    (.left, .call (Tcp.Sample.dispatch 0)), (.right, .receive chance 0),
    (.right, .call (Tcp.Sample.dispatch 0)), (.left, .receive chance 0)]

/-- The left host sends three octets and closes. The frame with the octets comes twice, the second
time behind the FIN. -/
def greeting : List (Side × Act) :=
  handshake ++
    [(.left, .call (.sendSlice [1, 2, 3])), (.left, .call (Tcp.Sample.dispatch 0)),
      (.right, .receive chance 0), (.right, .call (.recvSlice 2)), (.left, .call .close),
      (.left, .call (Tcp.Sample.dispatch 0)), (.right, .receive chance 0),
      (.right, .receive chance 1), (.right, .call (.recvSlice 2))]

end Sample

/-- Two hosts hold the given conversation, and come to a state with a given property. -/
lemma exists_talk (acts : List (Side × Act)) (P : Host .default → Host .default → Bool)
    (h : ((Sample.host 1).bind fun h₁ => (Sample.host 2).bind fun h₂ =>
      exec Act.next acts ⟨h₁, []⟩ ⟨h₂, []⟩).any (fun l => P l.1.state l.2.state) = true) :
    ∃ l, Reachable l ∧ P (l .left).state (l .right).state = true := by
  obtain ⟨⟨p, q⟩, hexec, hP⟩ := (Option.any_eq_true _ _).mp h
  obtain ⟨h₁, hh₁, hexec⟩ := Option.bind_eq_some_iff.mp hexec
  obtain ⟨h₂, hh₂, hexec⟩ := Option.bind_eq_some_iff.mp hexec
  refine ⟨pair p q, ⟨_, ?_, .of_exec (fun p q a p' => Act.moves_of_next) hexec⟩, hP⟩
  have hstarts : ∀ {n : UInt8} {h : Host .default}, Sample.host n = some h → Starts ⟨h, []⟩ := by
    intro n h hh
    obtain ⟨y, hy, rfl⟩ := Option.map_eq_some_iff.mp hh
    have hinit := Tcp.Sys.initial_of_start hy
    unfold Tcp.Sys.start Tcp.Socket.new at hy
    split_ifs at hy
    · cases hy
    · cases hy
      exact ⟨⟨hinit, rfl, rfl⟩, (by decide : 8 < 2 ^ 30), rfl⟩
  intro i
  cases i
  · exact hstarts hh₁
  · exact hstarts hh₂

/-! ### Results -/

variable {l : Pair (Host cfg) SentFrame}

end Host

end Smoltcp
