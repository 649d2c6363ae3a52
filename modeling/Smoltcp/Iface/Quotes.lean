import Smoltcp.Iface.Errors
import Smoltcp.Wire.IcmpRoundTrip
import Smoltcp.Wire.UdpRoundTrip

/-!
# Errors about our datagrams

An error quotes the IP header of a datagram and some octets behind it. The datagram is looked at
with the parsers of whole packets, so a socket that waits for the error gets it if and only if all
of the datagram is quoted.
-/

namespace Smoltcp

open UdpPacket (IsDatagram)

/-- What the length field of the IP header counts: for IPv4 the header too. -/
def IpAddress.lengthField : IpAddress → ℕ → ℕ
  | .ipv4 _, len => ipv4HeaderLen + len
  | .ipv6 _, len => len

/-- A UDP datagram that is sent in one IP packet. -/
structure SentDatagram where
  srcAddr : IpAddress
  dstAddr : IpAddress
  version_eq : srcAddr.version = dstAddr.version
  repr : UdpRepr
  dstPort_ne : repr.dstPort ≠ 0
  payload : List UInt8
  fits : srcAddr.lengthField (udpHeaderLen + payload.length) < 2 ^ 16

namespace SentDatagram

variable (d : SentDatagram)

/-- The length of the datagram. -/
def length : ℕ := udpHeaderLen + d.payload.length

/-- The octets of the datagram, with the checksum that the sender fills in, if it does. -/
def WrittenAs (octets : List UInt8) : Prop :=
  ∃ tx buf, buf.length = d.length ∧
    d.repr.emit tx d.srcAddr d.dstAddr d.payload buf = .ok octets

variable {d} {octets : List UInt8}

lemma length_lt : d.length < 2 ^ 16 := by
  refine lt_of_le_of_lt ?_ d.fits
  cases d.srcAddr with
  | ipv4 addr => exact Nat.le_add_left _ _
  | ipv6 addr => exact le_rfl

lemma WrittenAs.isDatagram (h : d.WrittenAs octets) :
    octets.length = d.length ∧ IsDatagram octets d.srcAddr d.dstAddr d.repr := by
  obtain ⟨tx, buf, hbuf, hemit⟩ := h
  obtain ⟨out, hout, hlen, hdatagram⟩ :=
    @UdpRepr.emit_isDatagram _ _ _ _ _ tx d.version_eq d.dstPort_ne length_lt hbuf
  obtain rfl := Except.ok.inj (hemit.symm.trans hout)
  exact ⟨hlen.trans hbuf, hdatagram⟩

end SentDatagram

/-! ### Quotations -/

/-- What is quoted by an error: the IPv4 header of a datagram, and the first `n` octets of it. -/
structure QuotedV4 (srcAddr dstAddr : Ipv4.Address) (octets : List UInt8) (n : ℕ)
    (quoted : List UInt8) : Prop where
  length_eq : quoted.length = ipv4HeaderLen + n
  headerLen_eq : Ipv4.headerLen quoted = ipv4HeaderLen
  totalLen_eq : (Ipv4.totalLen quoted).toNat = ipv4HeaderLen + octets.length
  nextHeader_eq : Ipv4.nextHeader quoted = .udp
  srcAddr_eq : Ipv4.srcAddr quoted = srcAddr
  dstAddr_eq : Ipv4.dstAddr quoted = dstAddr
  datagram_eq : quoted.drop ipv4HeaderLen = octets.take n

/-- What is quoted by an error: the IPv6 header of a datagram, and the first `n` octets of it. -/
structure QuotedV6 (srcAddr dstAddr : Ipv6.Address) (octets : List UInt8) (n : ℕ)
    (quoted : List UInt8) : Prop where
  length_eq : quoted.length = ipv6HeaderLen + n
  payloadLen_eq : (Ipv6Repr.ofOctets quoted).payloadLen = octets.length
  nextHeader_eq : (Ipv6Repr.ofOctets quoted).nextHeader = .udp
  srcAddr_eq : (Ipv6Repr.ofOctets quoted).srcAddr = srcAddr
  dstAddr_eq : (Ipv6Repr.ofOctets quoted).dstAddr = dstAddr
  datagram_eq : quoted.drop ipv6HeaderLen = octets.take n

/-- A message that reports a destination unreachable or a time exceeded, in a packet with the header
`carrier`. It quotes the datagram with the `octets` up to `n`. -/
def Reports (checksum : ChecksumCapabilities) (d : SentDatagram) (octets : List UInt8) (n : ℕ)
    (message : List UInt8) : IpRepr → Prop
  | .ipv4 _ => Icmpv4.headerEnd ≤ message.length ∧
      (Icmpv4.msgType message = .dstUnreachable ∨ Icmpv4.msgType message = .timeExceeded) ∧
      (checksum.icmpv4.verifies → Icmpv4.verifyChecksum message) ∧
      ∃ srcAddr dstAddr, d.srcAddr = .ipv4 srcAddr ∧ d.dstAddr = .ipv4 dstAddr ∧
        QuotedV4 srcAddr dstAddr octets n (Icmpv4.data message)
  | .ipv6 carrier => Icmpv6Packet.headerEnd ≤ message.length ∧
      (Icmpv6.Message.ofByte (Octets.get message 0) = .dstUnreachable ∨
        Icmpv6.Message.ofByte (Octets.get message 0) = .timeExceeded) ∧
      (checksum.icmpv6.verifies →
        Icmpv6Packet.verifyChecksum message carrier.srcAddr carrier.dstAddr) ∧
      ∃ srcAddr dstAddr, d.srcAddr = .ipv6 srcAddr ∧ d.dstAddr = .ipv6 dstAddr ∧
        QuotedV6 srcAddr dstAddr octets n (message.drop Icmpv6Packet.headerEnd)

namespace Icmp

/-- The message is parsed, and the socket accepts it. -/
def Socket.Hears (s : Socket) (hardware : HardwareConfig) (checksum : ChecksumCapabilities)
    (message : List UInt8) : IpRepr → Prop
  | .ipv4 carrier => ∃ repr, Icmpv4Repr.parse checksum.icmpv4.verifies message = .ok repr ∧
      s.acceptsV4 checksum carrier repr = .ok true
  | .ipv6 carrier => ∃ repr, Icmpv6Repr.parse hardware checksum.icmpv6.verifies carrier.srcAddr
      carrier.dstAddr message = .ok repr ∧ s.acceptsV6 checksum (.ofHeader carrier) repr = .ok true

/-- The socket is bound to errors about the datagrams of a port, at the address that the errors are
sent to. -/
def Socket.WaitsFor (s : Socket) (port : UInt16) (carrier : IpRepr) : Prop :=
  ∃ addr : Option IpAddress, s.endpoint = .udp ⟨addr, port⟩ ∧
    addr.all (fun addr => addr = carrier.dstAddr)

end Icmp

section Quotations

variable {octets quoted message : List UInt8} {n : ℕ} {checksum : ChecksumCapabilities}
  {d : SentDatagram} {s : Icmp.Socket} {carrier : IpRepr} {hardware : HardwareConfig}

/-- A datagram whose beginning is quoted is from the port if and only if it is quoted whole. -/
lemma quotesPort_take (checksum : ChecksumCapabilities)
    {srcAddr dstAddr : IpAddress} {repr : UdpRepr}
    (h : IsDatagram octets srcAddr dstAddr repr) (h8 : 8 ≤ n) (hn : n ≤ octets.length) :
    Icmp.quotesPort checksum repr.srcPort srcAddr dstAddr (octets.take n) =
      .ok (decide (n = octets.length)) := by
  unfold Icmp.quotesPort
  rcases hn.lt_or_eq with hlt | rfl
  · rw [h.parse_take h8 hlt, decide_eq_false hlt.ne]
    rfl
  · rw [List.take_length, h.parse]
    simp

/-- The quoted packet is refused, unless the datagram is quoted whole. -/
lemma QuotedV4.parseQuoted {srcAddr dstAddr : Ipv4.Address}
    (h : QuotedV4 srcAddr dstAddr octets n quoted) (h8 : 8 ≤ n) (hn : n ≤ octets.length) :
    Icmpv4Repr.parseQuoted quoted = if n < octets.length then .error .mk else
      .ok (⟨srcAddr, dstAddr, .udp, n, Ipv4.hopLimit quoted⟩, octets.take n) := by
  obtain ⟨hlen, hheader, htotal, hnext, hsrc, hdst, hdata⟩ := h
  have hcheck : Ipv4.checkLen quoted = if n < octets.length then .error .mk else .ok () := by
    rw [Ipv4.checkLen, if_neg (by rw [hlen, ipv4HeaderLen]; omega), if_neg (by omega),
      if_neg (by omega), hlen, htotal]
    simp
  have htake : (octets.take n).length = n := List.length_take_of_le hn
  rw [Icmpv4Repr.parseQuoted, hcheck]
  split_ifs with hlt
  · rfl
  · rw [hheader, hdata, hnext, hsrc, hdst]
    dsimp only
    rw [htake]
    exact if_neg (not_lt.mpr h8)

lemma QuotedV6.createPacketFromPayload {srcAddr dstAddr : Ipv6.Address}
    (h : QuotedV6 srcAddr dstAddr octets n quoted)
    (hpayload : Icmpv6Packet.payload message = .ok quoted) :
    Icmpv6Repr.createPacketFromPayload message =
      .ok (octets.take n, ⟨srcAddr, dstAddr, .udp, octets.length, Octets.get quoted 7⟩) := by
  obtain ⟨hlen, hlength, hnext, hsrc, hdst, hdata⟩ := h
  rw [ipv6HeaderLen] at hlen
  rw [Icmpv6Repr.createPacketFromPayload, hpayload, Outcome.ok_bind,
    if_pos (by rw [hlen, ipv6HeaderLen]; omega),
    Outcome.sliceFrom_of (by rw [hlen, ipv6HeaderLen]; omega), Outcome.ok_bind, hdata,
    Ipv6Packet.srcAddr, Ipv6Packet.fromBytes_slice rfl (by omega), Outcome.ok_bind,
    Ipv6Packet.dstAddr, Ipv6Packet.fromBytes_slice rfl (by omega), Outcome.ok_bind,
    Ipv6Packet.nextHeader, Outcome.index_get (by omega), Outcome.ok_bind, Outcome.pure_eq_ok,
    Outcome.ok_bind, Ipv6Packet.payloadLen, Outcome.readU16_of (by omega), Outcome.ok_bind,
    Ipv6Packet.hopLimit, Outcome.index_get (by omega)]
  rw [← hsrc, ← hdst, ← hnext, ← hlength]
  rfl

namespace Icmp.Socket.WaitsFor

/-- Of both kinds of errors the socket looks at what they quote. -/
lemma acceptsV4 {port : UInt16} {carrier header : Ipv4.Repr} (h : s.WaitsFor port (.ipv4 carrier))
    (reason : UInt8) (data : List UInt8) :
    s.acceptsV4 checksum carrier (.dstUnreachable reason header data) =
        quotesPort checksum port (.ipv4 header.srcAddr) (.ipv4 header.dstAddr) data ∧
      s.acceptsV4 checksum carrier (.timeExceeded reason header data) =
        quotesPort checksum port (.ipv4 header.srcAddr) (.ipv4 header.dstAddr) data := by
  obtain ⟨addr, hendpoint, haddr⟩ := h
  rw [IpRepr.dstAddr] at haddr
  unfold Socket.acceptsV4
  rw [hendpoint]
  exact ⟨if_pos haddr, if_pos haddr⟩

lemma acceptsV6 {port : UInt16} {carrier : IpHeader 128} {header : Ipv6Repr}
    (h : s.WaitsFor port (.ipv6 carrier)) (reason : UInt8) (data : List UInt8) :
    s.acceptsV6 checksum (.ofHeader carrier) (.dstUnreachable reason header data) =
        quotesPort checksum port (.ipv6 header.srcAddr) (.ipv6 header.dstAddr) data ∧
      s.acceptsV6 checksum (.ofHeader carrier) (.timeExceeded reason header data) =
        quotesPort checksum port (.ipv6 header.srcAddr) (.ipv6 header.dstAddr) data := by
  obtain ⟨addr, hendpoint, haddr⟩ := h
  rw [IpRepr.dstAddr] at haddr
  unfold Socket.acceptsV6
  rw [hendpoint]
  exact ⟨if_pos haddr, if_pos haddr⟩

end Icmp.Socket.WaitsFor

/-- A report over IPv4 that quotes less than the datagram is malformed. -/
lemma Reports.hears_ipv4 {carrier : IpHeader 32}
    (h : Reports checksum d octets n message (.ipv4 carrier))
    (hd : IsDatagram octets d.srcAddr d.dstAddr d.repr)
    (hwaits : s.WaitsFor d.repr.srcPort (.ipv4 carrier)) (h8 : 8 ≤ n) (hn : n ≤ octets.length) :
    s.Hears hardware checksum message (.ipv4 carrier) ↔ n = octets.length := by
  obtain ⟨hlen, htype, hverify, srcAddr, dstAddr, hsrc, hdst, hquoted⟩ := h
  have hquoted := hquoted.parseQuoted h8 hn
  have hport := quotesPort_take checksum hd h8 hn
  rw [hsrc, hdst] at hport
  have hverify : ¬ (checksum.icmpv4.verifies = true ∧ ¬ Icmpv4.verifyChecksum message) :=
    fun hbad => hbad.2 (hverify hbad.1)
  rcases hn.lt_or_eq with hlt | heq
  · rw [if_pos hlt] at hquoted
    refine iff_of_false ?_ hlt.ne
    rintro ⟨repr, hparse, -⟩
    rw [Icmpv4Repr.parse, if_neg (not_lt.mpr hlen), if_neg hverify] at hparse
    rcases htype with htype | htype
    · rw [htype] at hparse
      dsimp only at hparse
      rw [hquoted] at hparse
      cases hparse
    · rw [htype] at hparse
      dsimp only at hparse
      rw [hquoted] at hparse
      cases hparse
  · rw [if_neg heq.not_lt] at hquoted
    refine iff_of_true ?_ heq
    unfold Icmp.Socket.Hears
    simp only [Icmpv4Repr.parse, if_neg (not_lt.mpr hlen), if_neg hverify]
    rcases htype with htype | htype
    · simp only [htype, hquoted]
      refine ⟨_, rfl, (hwaits.acceptsV4 _ _).1.trans ?_⟩
      rw [hport, decide_eq_true heq]
    · simp only [htype, hquoted]
      refine ⟨_, rfl, (hwaits.acceptsV4 _ _).2.trans ?_⟩
      rw [hport, decide_eq_true heq]

/-- A report over IPv6 is parsed, whatever it quotes of the datagram. -/
lemma Reports.parse_ipv6 (hardware : HardwareConfig) {carrier : IpHeader 128}
    (h : Reports checksum d octets n message (.ipv6 carrier)) :
    ∃ (reason : UInt8) (header : Ipv6Repr), d.srcAddr = .ipv6 header.srcAddr ∧
      d.dstAddr = .ipv6 header.dstAddr ∧ ∃ repr, Icmpv6Repr.parse hardware checksum.icmpv6.verifies
        carrier.srcAddr carrier.dstAddr message = .ok repr ∧
      (repr = .dstUnreachable reason header (octets.take n) ∨
        repr = .timeExceeded reason header (octets.take n)) := by
  obtain ⟨hlen, htype, hverify, srcAddr, dstAddr, hsrc, hdst, hquoted⟩ := h
  rw [Icmpv6Packet.headerEnd] at hlen
  have hverify : ¬ (checksum.icmpv6.verifies = true ∧
      ¬ Icmpv6Packet.verifyChecksum message carrier.srcAddr carrier.dstAddr) :=
    fun hbad => hbad.2 (hverify hbad.1)
  have hlong : Icmpv6Packet.Long message := by
    rcases htype with htype | htype
    · exact .header _ htype (by simp) (by simp) hlen hlen
    · exact .header _ htype (by simp) (by simp) hlen hlen
  have hcheck : Icmpv6Packet.checkLen message = .ok () := by
    rw [Icmpv6Packet.checkLen, Outcome.reject_of_not (by omega), Outcome.ok_bind, hlong.msgType_eq,
      Outcome.ok_bind]
    rcases htype with htype | htype
    all_goals
      rw [htype]
      exact Outcome.reject_of_not
        (by simp only [Icmpv6Packet.headerEnd, Icmpv6.Message.headerLen]; omega)
  have hpayload : Icmpv6Packet.payload message = .ok (message.drop 8) := by
    rw [hlong.payload_eq]
    rcases htype with htype | htype <;> rw [htype] <;> rfl
  refine ⟨Octets.get message 1,
    ⟨srcAddr, dstAddr, .udp, octets.length, Octets.get (message.drop 8) 7⟩, hsrc, hdst, ?_⟩
  unfold Icmpv6Repr.parse
  rw [hcheck, Outcome.ok_bind, Outcome.reject_of_not hverify, Outcome.ok_bind, hlong.msgCode_eq,
    Outcome.ok_bind, hlong.msgType_eq, Outcome.ok_bind]
  rcases htype with htype | htype
  · rw [htype]
    dsimp only
    rw [hquoted.createPacketFromPayload hpayload]
    exact ⟨_, rfl, .inl rfl⟩
  · rw [htype]
    dsimp only
    rw [hquoted.createPacketFromPayload hpayload]
    exact ⟨_, rfl, .inr rfl⟩

/-- A report over IPv6 is parsed, and what it quotes is refused if it is not the whole datagram. -/
lemma Reports.hears_ipv6 {carrier : IpHeader 128}
    (h : Reports checksum d octets n message (.ipv6 carrier))
    (hd : IsDatagram octets d.srcAddr d.dstAddr d.repr)
    (hwaits : s.WaitsFor d.repr.srcPort (.ipv6 carrier)) (h8 : 8 ≤ n) (hn : n ≤ octets.length) :
    s.Hears hardware checksum message (.ipv6 carrier) ↔ n = octets.length := by
  obtain ⟨reason, header, hsrc, hdst, repr, hparse, hrepr⟩ := h.parse_ipv6 hardware
  have hport := quotesPort_take checksum hd h8 hn
  rw [hsrc, hdst] at hport
  have haccepts : s.acceptsV6 checksum (.ofHeader carrier) repr =
      .ok (decide (n = octets.length)) := by
    rw [← hport]
    rcases hrepr with rfl | rfl
    · exact (hwaits.acceptsV6 _ _).1
    · exact (hwaits.acceptsV6 _ _).2
  constructor
  · rintro ⟨repr', hparse', haccepts'⟩
    obtain rfl := Except.ok.inj (hparse.symm.trans hparse')
    exact of_decide_eq_true (Except.ok.inj (haccepts.symm.trans haccepts'))
  · intro heq
    exact ⟨repr, hparse, by rw [haccepts, decide_eq_true heq]⟩

/-- A report reaches the socket that waits for it if and only if it quotes the whole datagram. -/
lemma Reports.hears_iff (h : Reports checksum d octets n message carrier)
    (hd : IsDatagram octets d.srcAddr d.dstAddr d.repr) (hwaits : s.WaitsFor d.repr.srcPort carrier)
    (h8 : 8 ≤ n) (hn : n ≤ octets.length) :
    s.Hears hardware checksum message carrier ↔ n = octets.length := by
  cases carrier with
  | ipv4 carrier => exact h.hears_ipv4 hd hwaits h8 hn
  | ipv6 carrier => exact h.hears_ipv6 hd hwaits h8 hn

end Quotations

/-! ### Answers of our own -/

/-- A message that is written for a packet. -/
def Packet.Writes (checksum : ChecksumCapabilities) (message : List UInt8) : Packet → Prop
  | .ipv4 _ (.icmpv4 repr) =>
    ∃ buf, buf.length = repr.bufferLen ∧ repr.emit checksum buf = message
  | .ipv6 header (.icmpv6 repr) =>
    ∃ buf, buf.length = repr.bufferLen ∧
      repr.emit checksum header.srcAddr header.dstAddr buf = some message
  | _ => False

/-- How much of a datagram an answer to it quotes at most. -/
def IpAddress.quoteLen : IpAddress → ℕ
  | .ipv4 _ => ipv4MinMtu - ipv4HeaderLen * 2 - 8
  | .ipv6 _ => Icmpv6.ipv6MinMtu - ipv6HeaderLen * 2 - 8

/-- The message is what a stack answers to the datagram, for whose port it has no socket. -/
def Stack.Returns {cfg : StackConfig} (st : Stack cfg) (d : SentDatagram)
    (octets message : List UInt8)
    (carrier : IpRepr) : Prop :=
  ∃ hopLimit ipRepr packetMeta handled st' packet,
    IpRepr.new d.srcAddr d.dstAddr .udp octets.length hopLimit = .ok ipRepr ∧
    st.processUdp packetMeta handled ipRepr octets = .ok (st', some packet) ∧
    packet.ipRepr = carrier ∧ packet.Writes st.inner.checksum message

section Answers

variable {octets message : List UInt8} {n : ℕ} {checksum : ChecksumCapabilities} {d : SentDatagram}
  {carrier : IpRepr} {cfg : StackConfig} {st : Stack cfg}

lemma quotedV4_emitted {repr : Ipv4.Repr} (tx : Bool) (hnext : repr.nextHeader = .udp)
    (hlen : repr.payloadLen = octets.length) (hfits : ipv4HeaderLen + octets.length < 2 ^ 16)
    (hn : n ≤ octets.length) :
    QuotedV4 repr.srcAddr repr.dstAddr octets n ((repr.emitted tx).octets ++ octets.take n) := by
  have hplain : (repr.emitted tx).Plain := ⟨rfl⟩
  rw [ipv4HeaderLen] at hfits
  refine ⟨?_, hplain.headerLen _, ?_, ?_, Octets.toU32_ofNat _, Octets.toU32_ofNat _, ?_⟩
  · rw [List.length_append, Ipv4.Header.length_octets, List.length_take_of_le hn, ipv4HeaderLen]
  · rw [Ipv4.toNat_totalLen_emitted, hlen, Nat.mod_eq_of_lt hfits, ipv4HeaderLen]
  · rw [Ipv4.nextHeader_emitted, hnext]
    rfl
  · exact List.drop_left' (Ipv4.Header.length_octets _)

lemma quotedV6_octets {repr : Ipv6Repr} (hnext : repr.nextHeader = .udp)
    (hlen : repr.payloadLen = octets.length) (hfits : octets.length < 2 ^ 16)
    (hn : n ≤ octets.length) :
    QuotedV6 repr.srcAddr repr.dstAddr octets n (repr.octets ++ octets.take n) := by
  have heq := repr.ofOctets_octets (octets.take n) (hlen.trans_lt hfits)
  refine ⟨?_, ?_, ?_, ?_, ?_, List.drop_left' (Ipv6Repr.length_octets _)⟩
  · rw [List.length_append, Ipv6Repr.length_octets, List.length_take_of_le hn]
  · rw [heq]
    exact hlen
  · rw [heq, hnext]
    rfl
  · rw [heq]
  · rw [heq]

/-- The answer over IPv4 quotes as much of the datagram as the minimum MTU allows. -/
lemma reports_ipv4 {srcAddr dstAddr : Ipv4.Address} {header carrier : Ipv4.Repr} {buf : List UInt8}
    (hsrc : d.srcAddr = .ipv4 srcAddr) (hdst : d.dstAddr = .ipv4 dstAddr)
    (hfits : ipv4HeaderLen + octets.length < 2 ^ 16)
    (hheader : header = ⟨srcAddr, dstAddr, .udp, octets.length, header.hopLimit⟩)
    (hn : n = min octets.length (IpAddress.ipv4 srcAddr).quoteLen) {sender : ChecksumCapabilities}
    (hbuf : buf.length =
      (Icmpv4Repr.dstUnreachable Icmpv4.portUnreachable header (octets.take n)).bufferLen)
    (hsum : checksum.icmpv4.verifies → sender.icmpv4.computes) :
    Reports checksum d octets n
      ((Icmpv4Repr.dstUnreachable Icmpv4.portUnreachable header (octets.take n)).emit sender buf)
      (.ipv4 carrier) := by
  have hle : n ≤ octets.length := hn.le.trans (Nat.min_le_left _ _)
  have htake : (octets.take n).length ≤ 2 ^ 16 := by
    rw [List.length_take_of_le hle]
    omega
  obtain ⟨a, b, c, d, e, f, message, hemit, hmessage, hverify⟩ :=
    Icmpv4Repr.emit_dstUnreachable sender hbuf htake
  have hquoted := @quotedV4_emitted octets n header sender.ipv4.computes
    (by rw [hheader]) (by rw [hheader]) hfits hle
  rw [hemit]
  refine ⟨?_, .inl ?_, fun h => hverify (hsum h), srcAddr, dstAddr, hsrc, hdst, ?_⟩
  · rw [hmessage, Icmpv4.headerEnd]
    simp
  · rw [hmessage]
    rfl
  · rw [hheader] at hquoted
    rw [hmessage, hheader]
    exact hquoted

lemma reports_ipv6 {srcAddr dstAddr : Ipv6.Address} {header : Ipv6Repr} {carrier : IpHeader 128}
    {buf message : List UInt8} (hsrc : d.srcAddr = .ipv6 srcAddr) (hdst : d.dstAddr = .ipv6 dstAddr)
    (hfits : octets.length < 2 ^ 16)
    (hheader : header = ⟨srcAddr, dstAddr, .udp, octets.length, header.hopLimit⟩)
    (hn : n = min octets.length (IpAddress.ipv6 srcAddr).quoteLen) {sender : ChecksumCapabilities}
    (hbuf : buf.length =
      (Icmpv6Repr.dstUnreachable Icmpv6.portUnreachable header (octets.take n)).bufferLen)
    (hsum : checksum.icmpv6.verifies → sender.icmpv6.computes)
    (hmessage : (Icmpv6Repr.dstUnreachable Icmpv6.portUnreachable header (octets.take n)).emit
      sender
      carrier.srcAddr carrier.dstAddr buf = some message) :
    Reports checksum d octets n message (.ipv6 carrier) := by
  have hle : n ≤ octets.length := hn.le.trans (Nat.min_le_left _ _)
  have hlen : Icmpv6Packet.headerEnd + ipv6HeaderLen + (octets.take n).length ≤
      Icmpv6.maxErrorPacketLen := by
    have hquote : n ≤ (IpAddress.ipv6 srcAddr).quoteLen := hn.le.trans (Nat.min_le_right _ _)
    rw [IpAddress.quoteLen, Icmpv6.ipv6MinMtu, ipv6HeaderLen] at hquote
    rw [List.length_take_of_le hle, Icmpv6.maxErrorPacketLen, Icmpv6.ipv6MinMtu, ipv6HeaderLen,
      Icmpv6Packet.headerEnd]
    omega
  obtain ⟨a, b, c, d, e, f, message', hemit, heq, hverify⟩ :=
    Icmpv6Repr.emit_dstUnreachable sender carrier.srcAddr carrier.dstAddr hlen hbuf
  obtain rfl := Option.some.inj (hmessage.symm.trans hemit)
  have hquoted := @quotedV6_octets octets n header (by rw [hheader]) (by rw [hheader]) hfits hle
  refine ⟨?_, .inl ?_, fun h => hverify (hsum h), srcAddr, dstAddr, hsrc, hdst, ?_⟩
  · rw [heq, Icmpv6Packet.headerEnd]
    simp
  · rw [heq]
    rfl
  · rw [hheader] at hquoted
    rw [heq, hheader]
    exact hquoted

/-- The answer to a datagram reports about it. -/
lemma Stack.Returns.reports (h : st.Returns d octets message carrier)
    (hlen : octets.length = d.length)
    (hv4 : checksum.icmpv4.verifies → st.inner.checksum.icmpv4.computes)
    (hv6 : checksum.icmpv6.verifies → st.inner.checksum.icmpv6.computes) :
    Reports checksum d octets (min octets.length d.srcAddr.quoteLen) message carrier := by
  obtain ⟨hopLimit, ipRepr, packetMeta, handled, st', packet, hnew, hprocess, rfl, hwrites⟩ := h
  obtain ⟨-, -, -, hanswer⟩ := Stack.processUdp_eq_some.mp hprocess
  have hfits := d.fits
  change d.srcAddr.lengthField d.length < 2 ^ 16 at hfits
  rw [← hlen] at hfits
  cases hsrc : d.srcAddr with
  | ipv4 srcAddr =>
    rw [hsrc] at hnew hfits
    cases hdst : d.dstAddr with
    | ipv6 dstAddr =>
      rw [hdst] at hnew
      cases hnew
    | ipv4 dstAddr =>
      rw [hdst] at hnew
      cases hnew
      obtain ⟨hpayload, -⟩ := InterfaceInner.icmpv4Reply_eq_some (Except.ok.inj hanswer)
      cases packet with
      | ipv6 header payload =>
        cases hpayload
        exact hwrites.elim
      | ipv4 header payload =>
        cases hpayload
        obtain ⟨buf, hbuf, rfl⟩ := hwrites
        exact reports_ipv4 hsrc hdst hfits rfl rfl hbuf hv4
  | ipv6 srcAddr =>
    rw [hsrc] at hnew hfits
    cases hdst : d.dstAddr with
    | ipv4 dstAddr =>
      rw [hdst] at hnew
      cases hnew
    | ipv6 dstAddr =>
      rw [hdst] at hnew
      cases hnew
      obtain ⟨answer, hreply, hanswer⟩ := Checked.bind_eq_ok.mp hanswer
      cases hanswer
      have hpayload := InterfaceInner.icmpv6Reply_eq_ok hreply
      cases packet with
      | ipv4 header payload =>
        cases hpayload
        exact hwrites.elim
      | ipv6 header payload =>
        cases hpayload
        obtain ⟨buf, hbuf, hmessage⟩ := hwrites
        exact reports_ipv6 hsrc hdst hfits rfl rfl hbuf hv6 hmessage

end Answers

/-! ### The result -/

/-- An error about a datagram reaches the socket that waits for it if and only if it quotes the
whole datagram. So an answer of our own does if and only if the datagram fits in what it quotes at
most.
-/
theorem reports_reach_iff {d : SentDatagram} {octets : List UInt8} (hwritten : d.WrittenAs octets) :
    (∀ (hardware : HardwareConfig) (checksum : ChecksumCapabilities) (s : Icmp.Socket)
      (carrier : IpRepr) (message : List UInt8) (n : ℕ), 8 ≤ n → n ≤ octets.length →
      Reports checksum d octets n message carrier → s.WaitsFor d.repr.srcPort carrier →
      (s.Hears hardware checksum message carrier ↔ n = octets.length)) ∧
    ∀ (cfg : StackConfig) (st : Stack cfg) (hardware : HardwareConfig)
      (checksum : ChecksumCapabilities) (s : Icmp.Socket) (carrier : IpRepr) (message : List UInt8),
      (checksum.icmpv4.verifies → st.inner.checksum.icmpv4.computes) →
      (checksum.icmpv6.verifies → st.inner.checksum.icmpv6.computes) →
      st.Returns d octets message carrier → s.WaitsFor d.repr.srcPort carrier →
      (s.Hears hardware checksum message carrier ↔ octets.length ≤ d.srcAddr.quoteLen) := by
  obtain ⟨hlen, hdatagram⟩ := hwritten.isDatagram
  refine ⟨fun hardware checksum s carrier message n h8 hn h hwaits =>
    h.hears_iff hdatagram hwaits h8 hn, ?_⟩
  intro cfg st hardware checksum s carrier message hv4 hv6 h hwaits
  have hreports := h.reports hlen hv4 hv6
  have h8 : 8 ≤ d.srcAddr.quoteLen := by
    cases d.srcAddr with
    | ipv4 addr => exact show 8 ≤ 528 by decide
    | ipv6 addr => exact show 8 ≤ 1192 by decide
  have hlength := hdatagram.length_ge
  rw [hreports.hears_iff hdatagram hwaits (le_min hlength h8) (Nat.min_le_left _ _)]
  exact min_eq_left_iff

/-- A datagram with four octets from port 5000. -/
def exampleSent : SentDatagram where
  srcAddr := .ipv4 0x0a000001
  dstAddr := .ipv4 0x0a000002
  version_eq := rfl
  repr := ⟨5000, 9⟩
  dstPort_ne := by decide
  payload := [1, 2, 3, 4]
  fits := by decide

def exampleSentOctets : List UInt8 := [19, 136, 0, 9, 0, 12, 212, 60, 1, 2, 3, 4]

/-- The report that the port is unreachable, which quotes the header and `n` octets behind it. -/
def exampleReport (n : ℕ) : List UInt8 :=
  Icmpv4.fillChecksum ([3, 3, 0, 0, 0, 0, 0, 0] ++
    (Ipv4.Repr.emitted true ⟨0x0a000001, 0x0a000002, .udp, 12, 63⟩).octets ++
    exampleSentOctets.take n)

def exampleListener : Icmp.Socket := ⟨.new [] [], .new [] [], .udp ⟨none, 5000⟩, none⟩

lemma exampleSent_writtenAs : exampleSent.WrittenAs exampleSentOctets :=
  ⟨true, List.replicate 12 0, rfl, by decide +kernel⟩

lemma reports_exampleReport {n : ℕ} (hn : n = 8 ∨ n = 12) :
    Reports {} exampleSent exampleSentOctets n (exampleReport n)
      (.ipv4 ⟨0x0a000002, 0x0a000001, .icmp, 28 + n, 64⟩) := by
  rcases hn with rfl | rfl
  · exact ⟨by decide, .inl (by decide +kernel), fun _ => by decide +kernel, _, _, rfl, rfl,
      ⟨by decide, by decide, by decide, by decide,
        by decide, by decide, by decide⟩⟩
  · exact ⟨by decide, .inl (by decide), fun _ => by decide, _, _, rfl, rfl,
      ⟨by decide, by decide, by decide, by decide,
        by decide, by decide, by decide⟩⟩

/-- The report that quotes all twelve octets is heard. -/
theorem reports_reach_whole : exampleListener.Hears ⟨8, .inr rfl⟩ {} (exampleReport 12)
    (.ipv4 ⟨0x0a000002, 0x0a000001, .icmp, 40, 64⟩) :=
  ((reports_reach_iff exampleSent_writtenAs).1 _ _ _ _ _ 12 (by decide) (by decide)
    (reports_exampleReport (.inr rfl)) ⟨none, rfl, rfl⟩).mpr rfl

/-- The report that quotes eight octets, as many as have to be quoted, is not heard. -/
theorem reports_reach_not_short :
    Reports {} exampleSent exampleSentOctets 8 (exampleReport 8)
        (.ipv4 ⟨0x0a000002, 0x0a000001, .icmp, 36, 64⟩) ∧
      exampleListener.WaitsFor exampleSent.repr.srcPort
        (.ipv4 ⟨0x0a000002, 0x0a000001, .icmp, 36, 64⟩) ∧
      ¬ exampleListener.Hears ⟨8, .inr rfl⟩ {} (exampleReport 8)
        (.ipv4 ⟨0x0a000002, 0x0a000001, .icmp, 36, 64⟩) := by
  obtain ⟨-, hdatagram⟩ := exampleSent_writtenAs.isDatagram
  have hreports := reports_exampleReport (.inl rfl)
  have hwaits : exampleListener.WaitsFor exampleSent.repr.srcPort
      (.ipv4 ⟨0x0a000002, 0x0a000001, .icmp, 36, 64⟩) := ⟨none, rfl, rfl⟩
  refine ⟨hreports, hwaits, fun hhears => ?_⟩
  have heq := (hreports.hears_iff hdatagram hwaits le_rfl (by decide)).mp hhears
  exact absurd heq (by decide)

end Smoltcp
