import Smoltcp.Iface.StackRules

/-!
# What is answered

For each handler, when it answers a packet and with what.
-/

namespace Smoltcp

/-! ### Neighbors -/

namespace InterfaceInner

variable {cfg : IfaceConfig} {iface after : InterfaceInner cfg} {ipRepr : Ipv6Repr}
  {targetAddr : Ipv6.Address} {packet : Packet}

/-- An advertisement of one of our addresses. -/
def IsAdvert (iface : InterfaceInner cfg) (packet : Packet) : Prop :=
  ∃ header repr, packet = .ipv6 header (.icmpv6 (.ndisc repr)) ∧
    iface.hasIpAddr (.ipv6 header.srcAddr)

lemma neighborAdvert_eq_some (h : iface.neighborAdvert ipRepr targetAddr = .ok (some packet)) :
    iface.IsAdvert packet := by
  unfold neighborAdvert at h
  split_ifs at h with hours
  · obtain ⟨octets, -, h⟩ := Checked.bind_eq_ok.mp h
    cases h
    exact ⟨_, _, rfl, hours.2⟩
  · cases h

lemma fillNeighbor_eq_ok {protocolAddr : IpAddress} {hw : HardwareAddress} {timestamp : Instant}
    (h : iface.fillNeighbor protocolAddr hw timestamp = .ok after) :
    ∃ neighborCache, after = { iface with neighborCache } := by
  obtain ⟨neighborCache, -, h⟩ := Checked.bind_eq_ok.mp h
  cases h
  exact ⟨_, rfl⟩

lemma processNeighborAdvert_ne_some {flags : NeighborFlags} {lladdr : Option RawHardwareAddress} :
    iface.processNeighborAdvert ipRepr flags targetAddr lladdr ≠ .ok (after, some packet) := by
  intro h
  cases lladdr with
  | none => cases h
  | some lladdr =>
    obtain ⟨hw, -, h⟩ := check_eq_some.mp h
    obtain ⟨unicast, -, h⟩ := Checked.bind_eq_ok.mp h
    split_ifs at h
    · cases h
    · obtain ⟨replaces, -, h⟩ := Checked.bind_eq_ok.mp h
      split_ifs at h
      · obtain ⟨iface', -, h⟩ := Checked.bind_eq_ok.mp h
        cases h
      · cases h

lemma processNeighborSolicit_eq_some {lladdr : Option RawHardwareAddress}
    (h : iface.processNeighborSolicit ipRepr targetAddr lladdr = .ok (after, some packet)) :
    iface.IsAdvert packet := by
  cases lladdr with
  | none =>
    obtain ⟨advert, hadvert, h⟩ := Checked.bind_eq_ok.mp h
    cases h
    exact neighborAdvert_eq_some hadvert
  | some lladdr =>
    obtain ⟨hw, -, h⟩ := check_eq_some.mp h
    obtain ⟨unicast, -, h⟩ := Checked.bind_eq_ok.mp h
    split_ifs at h
    · cases h
    · obtain ⟨filled, hfill, h⟩ := Checked.bind_eq_ok.mp h
      obtain ⟨advert, hadvert, h⟩ := Checked.bind_eq_ok.mp h
      obtain ⟨neighborCache, rfl⟩ := fillNeighbor_eq_ok hfill
      cases h
      exact neighborAdvert_eq_some hadvert

/-- Only solicitations are answered, with an advertisement. -/
lemma processNdisc_eq_some {repr : NdiscRepr}
    (h : iface.processNdisc ipRepr repr = .ok (after, some packet)) : iface.IsAdvert packet := by
  cases repr with
  | neighborAdvert flags targetAddr lladdr => exact absurd h processNeighborAdvert_ne_some
  | neighborSolicit targetAddr lladdr => exact processNeighborSolicit_eq_some h
  | _ => cases h

end InterfaceInner

/-! ### Handlers -/

/-- The socket takes a datagram. -/
def AnySocket.takesUdp {cfg : IfaceConfig} (inner : InterfaceInner cfg) (ipRepr : IpRepr)
    (udpRepr : UdpRepr) : AnySocket → Prop
  | .udp s => s.accepts inner ipRepr udpRepr
  | .dns s => s.accepts ipRepr udpRepr
  | _ => False

instance {cfg : IfaceConfig} (inner : InterfaceInner cfg) (ipRepr : IpRepr) (udpRepr : UdpRepr) :
    DecidablePred (AnySocket.takesUdp inner ipRepr udpRepr)
  | .udp _ => inferInstanceAs (Decidable (Udp.Socket.accepts ..))
  | .dns _ => inferInstanceAs (Decidable (Dns.Socket.accepts ..))
  | .raw _ | .icmp _ | .tcp _ | .dhcpv4 _ => inferInstanceAs (Decidable False)

namespace Stack

variable {cfg : StackConfig} {st st' : Stack cfg} {chance : Chance} {packetMeta : PacketMeta}
  {handled : Bool} {ipRepr : IpRepr} {ipPayload : List UInt8} {packet : Packet}

/-- A datagram that no socket takes. -/
def Unclaimed (st : Stack cfg) (ipRepr : IpRepr) (ipPayload : List UInt8) : Prop :=
  ∃ udpRepr payload, UdpRepr.parse st.inner.checksum.udp.verifies ipPayload ipRepr.srcAddr
      ipRepr.dstAddr = .ok udpRepr ∧ UdpPacket.payload ipPayload = .ok payload ∧
    ∀ item ∈ st.sockets, ¬ item.socket.takesUdp st.inner ipRepr udpRepr

lemma offerUdp_eq_none {udpRepr : UdpRepr} {payload : List UInt8} {sockets : SocketSet} :
    st.offerUdp packetMeta ipRepr udpRepr payload = .ok (sockets, none) ↔
      sockets = st.sockets ∧ ∀ item ∈ st.sockets, ∀ s, item.socket = .udp s →
        ¬ s.accepts st.inner ipRepr udpRepr := by
  rw [offerUdp, SocketSet.offerFirst_eq_none]
  refine and_congr_right' (forall₂_congr fun item _ => ?_)
  cases item.socket with
  | udp s =>
    dsimp only
    split_ifs with haccepts
    · simp [haccepts, Checked.bind_eq_ok]
    · simp [haccepts]
  | _ => simp

lemma offerDns_eq_none {udpRepr : UdpRepr} {payload : List UInt8} {sockets : SocketSet} :
    st.offerDns ipRepr udpRepr payload = .ok (sockets, none) ↔
      sockets = st.sockets ∧ ∀ item ∈ st.sockets, ∀ s, item.socket = .dns s →
        ¬ s.accepts ipRepr udpRepr := by
  rw [offerDns, SocketSet.offerFirst_eq_none]
  refine and_congr_right' (forall₂_congr fun item _ => ?_)
  cases item.socket with
  | dns s =>
    dsimp only
    split_ifs with haccepts
    · simp [haccepts, Checked.bind_eq_ok]
    · simp [haccepts]
  | _ => simp

/-- A datagram is answered if and only if no socket takes it. -/
lemma processUdp_eq_some :
    st.processUdp packetMeta handled ipRepr ipPayload = .ok (st', some packet) ↔
      st' = st ∧ handled = false ∧ st.Unclaimed ipRepr ipPayload ∧
        st.portUnreachable ipRepr ipPayload = .ok (some packet) := by
  constructor
  · intro h
    obtain ⟨udpRepr, hparse, h⟩ := check_eq_some.mp h
    obtain ⟨payload, hpayload, h⟩ := check_eq_some.mp h
    obtain ⟨⟨sockets, r⟩, hudp, h⟩ := Checked.bind_eq_ok.mp h
    cases r with
    | some u => cases h
    | none =>
      obtain ⟨⟨sockets', r⟩, hdns, h⟩ := Checked.bind_eq_ok.mp h
      cases r with
      | some u => cases h
      | none =>
        dsimp only at h
        split_ifs at h with hhandled
        · cases h
        · obtain ⟨answer, hanswer, h⟩ := Checked.bind_eq_ok.mp h
          cases h
          refine ⟨rfl, by simpa using hhandled, ⟨udpRepr, payload, hparse, hpayload, ?_⟩, hanswer⟩
          intro item hitem htakes
          cases hsocket : item.socket with
          | udp s =>
            rw [hsocket] at htakes
            exact (offerUdp_eq_none.mp hudp).2 item hitem s hsocket htakes
          | dns s =>
            rw [hsocket] at htakes
            exact (offerDns_eq_none.mp hdns).2 item hitem s hsocket htakes
          | _ =>
            rw [hsocket] at htakes
            exact htakes
  · rintro ⟨rfl, rfl, ⟨udpRepr, payload, hparse, hpayload, hall⟩, hanswer⟩
    have hudp : st'.offerUdp packetMeta ipRepr udpRepr payload = .ok (st'.sockets, none) :=
      offerUdp_eq_none.mpr
        ⟨rfl, fun item hitem s hsocket haccepts => hall item hitem (by rwa [hsocket])⟩
    have hdns : st'.offerDns ipRepr udpRepr payload = .ok (st'.sockets, none) :=
      offerDns_eq_none.mpr
        ⟨rfl, fun item hitem s hsocket haccepts => hall item hitem (by rwa [hsocket])⟩
    refine check_eq_some.mpr ⟨udpRepr, hparse, check_eq_some.mpr ⟨payload, hpayload, ?_⟩⟩
    rw [hudp, Checked.ok_bind]
    dsimp only
    rw [hdns, Checked.ok_bind]
    dsimp only
    rw [if_neg nofun, hanswer]
    rfl

@[simp] lemma tcpPacket_payload (reply : Tcp.Packet) :
    (tcpPacket reply).payload = .tcp reply.2 := by
  obtain ⟨ipRepr, tcpRepr⟩ := reply
  cases ipRepr with
  | ipv4 header => rfl
  | ipv6 header => rfl

@[simp] lemma tcpPacket_srcAddr (reply : Tcp.Packet) :
    (tcpPacket reply).srcAddr = reply.1.srcAddr := by
  obtain ⟨ipRepr, tcpRepr⟩ := reply
  cases ipRepr with
  | ipv4 header => rfl
  | ipv6 header => rfl

/-- A segment is answered by the socket that accepts it, or with a reset. -/
lemma processTcp_eq_some
    (h : st.processTcp chance ipRepr ipPayload = .ok (st', some packet)) :
    ∃ tcpRepr reply, packet = tcpPacket reply ∧
      TcpRepr.parse st.inner.checksum.tcp.verifies ipPayload ipRepr.srcAddr ipRepr.dstAddr =
        .ok tcpRepr ∧
      (st.offerTcp chance ipRepr tcpRepr = .ok (st'.sockets, some (some reply)) ∨
        Tcp.Socket.rstReply ipRepr tcpRepr = .ok reply) := by
  obtain ⟨tcpRepr, hparse, h⟩ := check_eq_some.mp h
  obtain ⟨⟨sockets, r⟩, htcp, h⟩ := Checked.bind_eq_ok.mp h
  cases r with
  | some reply =>
    cases reply with
    | some reply =>
      cases h
      exact ⟨tcpRepr, reply, rfl, hparse, .inl htcp⟩
    | none => cases h
  | none =>
    dsimp only at h
    split_ifs at h
    · cases h
    · obtain ⟨reply, hreply, h⟩ := Checked.bind_eq_ok.mp h
      cases h
      exact ⟨tcpRepr, reply, rfl, hparse, .inr hreply⟩

/-- Of the messages only echo requests are answered. -/
lemma processIcmpv4_eq_some {ipv4Repr : Ipv4.Repr}
    (h : st.processIcmpv4 ipv4Repr ipPayload = .ok (st', some packet)) :
    ∃ ident seqNo data,
      Icmpv4Repr.parse st.inner.checksum.icmpv4.verifies ipPayload =
        .ok (.echoRequest ident seqNo data) ∧
      st.inner.icmpv4Reply ipv4Repr (.echoReply ident seqNo data) = some packet := by
  obtain ⟨icmpRepr, hparse, h⟩ := check_eq_some.mp h
  obtain ⟨⟨sockets, handled⟩, -, h⟩ := Checked.bind_eq_ok.mp h
  cases icmpRepr with
  | echoRequest ident seqNo data =>
    obtain ⟨-, hreply⟩ := Prod.mk.inj (Except.ok.inj h)
    exact ⟨ident, seqNo, data, Outcome.ofResult_eq_ok.mp hparse, hreply⟩
  | _ => cases h

/-- Of the messages only echo requests and solicitations are answered. -/
lemma processIcmpv6_eq_some {ipv6Repr : Ipv6Repr}
    (h : st.processIcmpv6 chance ipv6Repr ipPayload = .ok (st', some packet)) :
    ∃ icmpRepr, Icmpv6Repr.parse cfg.iface.hardware st.inner.checksum.icmpv6.verifies
        ipv6Repr.srcAddr ipv6Repr.dstAddr ipPayload = .ok icmpRepr ∧
      ((∃ ident seqNo data, icmpRepr = .echoRequest ident seqNo data ∧
        st.inner.icmpv6Reply ipv6Repr (.echoReply ident seqNo data) = .ok packet) ∨
      ∃ repr, icmpRepr = .ndisc repr ∧ st.inner.IsAdvert packet) := by
  obtain ⟨icmpRepr, hparse, h⟩ := check_eq_some.mp h
  obtain ⟨⟨sockets, handled⟩, -, h⟩ := Checked.bind_eq_ok.mp h
  refine ⟨icmpRepr, hparse, ?_⟩
  dsimp only at h
  cases icmpRepr with
  | echoRequest ident seqNo data =>
    obtain ⟨reply, hreply, h⟩ := Checked.bind_eq_ok.mp h
    cases h
    exact .inl ⟨ident, seqNo, data, rfl, hreply⟩
  | ndisc repr =>
    dsimp only [answerIcmpv6] at h
    split_ifs at h
    · obtain ⟨⟨inner, reply⟩, hndisc, h⟩ := Checked.bind_eq_ok.mp h
      cases h
      exact .inr ⟨repr, rfl, InterfaceInner.processNdisc_eq_some hndisc⟩
    · cases h
  | mld repr =>
    cases repr with
    | query =>
      dsimp only [answerIcmpv6] at h
      split_ifs at h
      · cases h
      · cases h
    | _ => cases h
  | _ => cases h

end Stack

end Smoltcp
