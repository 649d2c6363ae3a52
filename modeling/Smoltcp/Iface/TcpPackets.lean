import Smoltcp.Iface.Packet
import Smoltcp.Socket.Tcp.Progress
import Smoltcp.Socket.Tcp.Sizes
import Smoltcp.Socket.Tcp.Transmits
import Smoltcp.Wire.IpRoundTrip
import Smoltcp.Wire.TcpRoundTrip

/-!
# The octets of a segment

A segment leaves a socket with an IP header, and both are written into the transmit buffer of the
device. What the other side reads of the octets is the packet that the socket sent, except for its
window, which the device may lower. The one thing that is not read back is a window scale of 15,
that a socket offers whose receive buffer has exactly `2 ^ 30` octets.
-/

namespace Smoltcp

open Outcome

namespace Tcp

/-! ### Emitting and reading -/

/-- What is read of the capabilities of a device when a segment is emitted. -/
structure TxCapabilities where
  maxTransmissionUnit : ℕ
  maxBurstSize : Option ℕ
  checksum : ChecksumCapabilities

/-- The window on the wire is limited to what the device takes in one burst. -/
def limitWindow (caps : TxCapabilities) (ipRepr : IpRepr) (repr : TcpRepr) : Checked TcpRepr :=
  match caps.maxBurstSize with
  | none => .ok repr
  | some maxBurstSize => do
    let maxSegmentSize ← Checked.sub caps.maxTransmissionUnit ipRepr.headerLen
    let maxSegmentSize ← Checked.sub maxSegmentSize repr.headerLen
    let maxWindowSize := maxBurstSize * maxSegmentSize % 2 ^ 64
    if maxWindowSize < repr.windowLen.toNat then
      return { repr with windowLen := .ofNat maxWindowSize }
    else return repr

/-- Emit a header to the front of a packet. -/
def emitHeader (checksum : ChecksumCapabilities) (ipRepr : IpRepr) (buffer : List UInt8) :
    Outcome (List UInt8) :=
  match ipRepr with
  | .ipv4 repr => .ok (Ipv4.Repr.emit checksum.ipv4.computes repr buffer)
  | .ipv6 repr => (Ipv6Repr.ofHeader repr).emit buffer

/-- The closure `emit_ip`, for a packet that carries a segment and is not fragmented. -/
def emitIp (caps : TxCapabilities) (packet : Packet) (txBuffer : List UInt8) :
    Outcome (List UInt8) := do
  let (ipRepr, repr) := packet
  let txBuffer ← emitHeader caps.checksum ipRepr txBuffer
  let payload ← sliceFrom txBuffer ipRepr.headerLen
  let repr ← ofChecked (limitWindow caps ipRepr repr)
  let payload ← repr.emit caps.checksum.tcp.computes payload ipRepr.srcAddr ipRepr.dstAddr
  return txBuffer.take ipRepr.headerLen ++ payload

/-- The segment in a packet that is not a fragment, as `process_ip` hands it to the sockets. -/
def readIp (checksum : ChecksumCapabilities) (buf : List UInt8) : Outcome Packet :=
  match IpVersion.ofPacket buf with
  | .ok .ipv4 => do
    let repr ← ofResult (Ipv4.Repr.parse checksum.ipv4.verifies buf)
    reject (Ipv4.moreFrags buf ∨ Ipv4.fragOffset buf ≠ 0 ∨ repr.nextHeader ≠ .tcp)
    let tcpRepr ← TcpRepr.parse checksum.tcp.verifies (Ipv4.payload buf)
      (.ipv4 repr.srcAddr) (.ipv4 repr.dstAddr)
    return (.ipv4 repr, tcpRepr)
  | .ok .ipv6 => do
    let repr ← Ipv6Repr.parse buf
    let payload ← Ipv6Packet.payload buf
    reject (repr.nextHeader ≠ .tcp)
    let tcpRepr ← TcpRepr.parse checksum.tcp.verifies payload
      (.ipv6 repr.srcAddr) (.ipv6 repr.dstAddr)
    return (.ipv6 repr.toHeader, tcpRepr)
  | .error _ => fail

end Tcp

/-! ### What is read -/

namespace TcpRepr

lemma Options.take_windowScale_le {acc : Options} (option : TcpOption)
    (h : ∀ k ∈ acc.windowScale, k ≤ 14) : ∀ k ∈ (acc.take option).windowScale, k ≤ 14 := by
  cases option with
  | windowScale value =>
    intro k hk
    have hk : (if 14 < value then 14 else value) = k := Option.mem_some_iff.mp hk
    by_cases hlt : 14 < value
    · rw [if_pos hlt] at hk
      exact hk ▸ UInt8.le_refl 14
    · rw [if_neg hlt] at hk
      exact hk ▸ UInt8.not_lt.mp hlt
  | _ => exact h

/-- The scale in the options is cut to 14. -/
lemma parseOptions_windowScale_le {options : List UInt8} {acc r : Options}
    (hr : parseOptions options acc = .ok r) (h : ∀ k ∈ acc.windowScale, k ≤ 14) :
    ∀ k ∈ r.windowScale, k ≤ 14 := by
  induction hn : options.length using Nat.strong_induction_on generalizing options acc with
  | _ n ih =>
    subst hn
    rw [parseOptions] at hr
    split_ifs at hr with hnil
    · cases hr
      exact h
    · split at hr
      · cases hr
      · rename_i rest option hparse
        split_ifs at hr
        · cases hr
          exact h
        · exact ih _ (parse_rest_lt hparse) hr (Options.take_windowScale_le option h) rfl

/-- What the parser guarantees of a segment in a packet of an IP layer. -/
lemma parsed_of_parse {rx : Bool} {buf : List UInt8} {srcAddr dstAddr : IpAddress} {repr : TcpRepr}
    (hlen : buf.length < 2 ^ 16) (h : parse rx buf srcAddr dstAddr = .ok repr) : repr.Parsed := by
  obtain ⟨_, -, h⟩ := bind_eq_ok.mp h
  obtain ⟨src, hsrc, h⟩ := bind_eq_ok.mp h
  obtain ⟨_, hsrc0, h⟩ := bind_eq_ok.mp h
  obtain ⟨dst, hdst, h⟩ := bind_eq_ok.mp h
  obtain ⟨_, hdst0, h⟩ := bind_eq_ok.mp h
  obtain ⟨_, -, h⟩ := bind_eq_ok.mp h
  obtain ⟨control, -, h⟩ := bind_eq_ok.mp h
  obtain ⟨ack, -, h⟩ := bind_eq_ok.mp h
  obtain ⟨area, -, h⟩ := bind_eq_ok.mp h
  obtain ⟨options, hoptions, h⟩ := bind_eq_ok.mp h
  rw [hsrc, ok_bind, hdst, ok_bind] at h
  obtain ⟨seq, -, h⟩ := bind_eq_ok.mp h
  obtain ⟨win, -, h⟩ := bind_eq_ok.mp h
  obtain ⟨payload, hpayload, h⟩ := bind_eq_ok.mp h
  cases h
  refine ⟨(reject_eq_ok.mp hsrc0), (reject_eq_ok.mp hdst0), ?_, ?_⟩
  · exact parseOptions_windowScale_le hoptions (by simp)
  · obtain ⟨n, -, hslice⟩ := bind_eq_ok.mp hpayload
    obtain ⟨-, -, rfl⟩ := slice_eq_ok.mp hslice
    rw [List.length_drop, List.length_take]
    omega

variable {repr : TcpRepr}

instance : Decidable repr.Parsed :=
  decidable_of_iff (repr.srcPort ≠ 0 ∧ repr.dstPort ≠ 0 ∧ (∀ k ∈ repr.windowScale, k ≤ 14) ∧
      repr.payload.length < 2 ^ 16)
    ⟨fun ⟨hsrc, hdst, hscale, hlen⟩ => ⟨hsrc, hdst, hscale, hlen⟩,
      fun h => ⟨h.srcPort_ne, h.dstPort_ne, h.windowScale_le, h.length_payload_lt⟩⟩

/-- The options do not depend on the window. -/
lemma Emittable.setWindowLen (h : Emittable repr) (windowLen : UInt16) :
    Emittable { repr with windowLen := windowLen } :=
  ⟨h.srcPort_ne, h.dstPort_ne, h.windowScale_le, h.packed, h.acked, h.optionsLen_le⟩

/-- A segment with at most one selective acknowledgement has room for all its options. -/
lemma emittable_of_first {range : Option (UInt32 × UInt32)} (hsrc : repr.srcPort ≠ 0)
    (hdst : repr.dstPort ≠ 0) (hscale : ∀ k ∈ repr.windowScale, k ≤ 14)
    (hranges : repr.sackRanges = #v[range, none, none])
    (hack : range.isSome → repr.ackNumber.isSome ∧ repr.sackPermitted = false) :
    Emittable repr where
  srcPort_ne := hsrc
  dstPort_ne := hdst
  windowScale_le := hscale
  packed := by
    rw [hranges]
    intro i j hij hj
    fin_cases j
    · rwa [show i = 0 from Fin.le_zero_iff.mp hij]
    · cases hj
    · cases hj
  acked := by
    rw [hranges]
    intro i hi
    fin_cases i
    · exact hack hi
    · cases hi
    · cases hi
  optionsLen_le := by
    have hsack : repr.sackOption.elim 0 TcpOption.bufferLen ≤ 10 := by
      unfold sackOption
      split_ifs
      · decide
      · rw [hranges]
        cases range with
        | none => decide
        | some range => exact Nat.le_refl 10
      · decide
    rw [optionsLen_eq]
    split_ifs <;> omega

lemma Emittable.headerLen_le (h : Emittable repr) : repr.headerLen ≤ 60 := by
  obtain ⟨k, -, hk, -⟩ := h.exists_units
  have hlt := k.isLt
  omega

/-- The octets have the header with a checksum that will do, and the body behind it. -/
lemma Emittable.exists_emit (h : Emittable repr) {buf : List UInt8}
    (hbuf : buf.length = repr.bufferLen) {tx rx : Bool} {srcAddr dstAddr : IpAddress}
    (htx : rx → tx) (hversion : srcAddr.version = dstAddr.version)
    (hmax : repr.bufferLen ≤ 2 ^ 17) : ∃ out, repr.emit tx buf srcAddr dstAddr = .ok out ∧
      out.length = buf.length ∧ parse rx out srcAddr dstAddr = .ok repr := by
  obtain ⟨k, hk5, hk, hunits⟩ := h.exists_units
  have hbody := length_body h
  have hlen : ∀ v, ((repr.header k v).octets ++ repr.body).length = buf.length := by
    intro v
    rw [List.length_append, TcpHeader.length_octets, hbody, hbuf, bufferLen]
    simp only [tcpHeaderLen]
    omega
  have hge : 20 ≤ buf.length := by
    rw [← hlen 0, List.length_append, TcpHeader.length_octets]
    omega
  obtain ⟨hdr, hhdr⟩ := TcpHeader.exists_octets hge
  have hemit := @emit_eq repr h k hk hunits hdr (buf.drop 20) (by
    rw [← hbuf, List.length_drop, tcpHeaderLen]
    omega) tx srcAddr dstAddr
  rw [← hhdr] at hemit
  cases tx with
  | false =>
    have hrx : ¬ rx := fun hrx => Bool.false_ne_true (htx hrx)
    exact ⟨_, hemit, hlen 0, parse_eq h hk fun h => absurd h hrx⟩
  | true =>
    obtain ⟨v, hv⟩ := fillChecksum_octets (repr.header k hdr.checksum) repr.body hversion
    obtain ⟨w, hw, hverify, -⟩ := @TcpPacket.fillChecksum_protects
      ((repr.header k hdr.checksum).octets ++ repr.body) _ _ hversion
      (by rw [hlen]; exact hge) (by rw [hlen, hbuf]; exact hmax)
    rw [if_pos rfl] at hemit
    rw [hv] at hw
    rw [← Except.ok.inj hw] at hverify
    exact ⟨_, hemit.trans hv, hlen v, parse_eq h hk fun _ => hverify⟩

end TcpRepr

/-- A header that carries a segment is read with its protocol. -/
lemma IpHeader.ofByte_toByte {w : ℕ} (header : IpHeader w) (h : header.nextHeader = .tcp) :
    { header with nextHeader := .ofByte header.nextHeader.toByte } = header := by
  rw [h]
  exact congrArg (fun next => { header with nextHeader := next }) h.symm

lemma IpRepr.headerLen_le (ipRepr : IpRepr) : ipRepr.headerLen ≤ 40 := by
  cases ipRepr <;> simp [IpRepr.headerLen, ipv4HeaderLen, ipv6HeaderLen]

namespace Tcp

section Octets

variable {caps : TxCapabilities} {checksum : ChecksumCapabilities} {packet : Packet}
  {buf : List UInt8}

lemma parsed_of_readIp (h : readIp checksum buf = .ok packet) : packet.2.Parsed := by
  unfold readIp at h
  split at h
  · obtain ⟨repr, -, h⟩ := bind_eq_ok.mp h
    obtain ⟨_, -, h⟩ := bind_eq_ok.mp h
    obtain ⟨tcpRepr, htcp, h⟩ := bind_eq_ok.mp h
    cases h
    refine TcpRepr.parsed_of_parse ?_ htcp
    have hlt := (Ipv4.totalLen buf).toNat_lt
    rw [Ipv4.payload, List.length_drop, List.length_take]
    omega
  · obtain ⟨repr, hrepr, h⟩ := bind_eq_ok.mp h
    obtain ⟨payload, hpayload, h⟩ := bind_eq_ok.mp h
    obtain ⟨_, -, h⟩ := bind_eq_ok.mp h
    obtain ⟨tcpRepr, htcp, h⟩ := bind_eq_ok.mp h
    cases h
    refine TcpRepr.parsed_of_parse ?_ htcp
    have hframed := (Ipv6Repr.parse_eq_ok_iff.mp hrepr).1
    have hlt := (Octets.readU16 buf 4).toNat_lt
    rw [hframed.payload_eq] at hpayload
    cases hpayload
    rw [List.length_take]
    omega
  · cases h

/-! ### What is emitted is read -/

lemma ofChecked_eq_ok {α : Type} {x : Checked α} {a : α} : ofChecked x = .ok a ↔ x = .ok a := by
  cases x <;> simp [ofChecked]

/-- What is emitted has a window that the device lets through. -/
lemma exists_limitWindow_of_emitIp {out : List UInt8} (h : emitIp caps packet buf = .ok out) :
    ∃ r, limitWindow caps packet.1 packet.2 = .ok r := by
  obtain ⟨_, -, h⟩ := bind_eq_ok.mp h
  obtain ⟨_, -, h⟩ := bind_eq_ok.mp h
  obtain ⟨r, hr, h⟩ := bind_eq_ok.mp h
  exact ⟨r, ofChecked_eq_ok.mp hr⟩

/-- Only the window is changed. -/
lemma limitWindow_eq_ok {ipRepr : IpRepr} {repr r : TcpRepr}
    (h : limitWindow caps ipRepr repr = .ok r) :
    ∃ windowLen ≤ repr.windowLen, r = { repr with windowLen := windowLen } := by
  unfold limitWindow at h
  split at h
  · cases h
    exact ⟨_, UInt16.le_refl _, rfl⟩
  · obtain ⟨_, -, h⟩ := Checked.bind_eq_ok.mp h
    obtain ⟨_, -, h⟩ := Checked.bind_eq_ok.mp h
    simp only at h
    split_ifs at h with hlt
    · cases h
      refine ⟨_, ?_, rfl⟩
      rw [UInt16.le_iff_toNat_le, UInt16.toNat_ofNat']
      exact (Nat.mod_le _ _).trans hlt.le
    · cases h
      exact ⟨_, UInt16.le_refl _, rfl⟩

lemma exists_limitWindow {ipRepr : IpRepr} {repr : TcpRepr} (hburst : caps.maxBurstSize.isSome →
    ipRepr.headerLen + repr.headerLen ≤ caps.maxTransmissionUnit) :
    ∃ r, limitWindow caps ipRepr repr = .ok r := by
  unfold limitWindow
  cases hsize : caps.maxBurstSize with
  | none => exact ⟨_, rfl⟩
  | some maxBurstSize =>
    rw [hsize] at hburst
    have hle := hburst rfl
    simp only
    rw [Checked.sub_of_le (by omega), Checked.ok_bind, Checked.sub_of_le (by omega),
      Checked.ok_bind]
    split_ifs <;> exact ⟨_, rfl⟩

/-- What is asked of two devices: checksums that are verified were computed. -/
structure Agree (caps : TxCapabilities) (checksum : ChecksumCapabilities) : Prop where
  ipv4 : checksum.ipv4.verifies → caps.checksum.ipv4.computes
  tcp : checksum.tcp.verifies → caps.checksum.tcp.computes

/-- A packet that fits the length fields of its header. -/
structure Fits (packet : Packet) : Prop where
  nextHeader : packet.1.nextHeader = .tcp
  payloadLen : packet.1.payloadLen = packet.2.bufferLen
  len_lt : packet.1.headerLen + packet.2.bufferLen < 2 ^ 16

/-- The segment in the part of the buffer behind the IP header. -/
lemma exists_segment {ipRepr : IpRepr} {repr r : TcpRepr} {rest : List UInt8}
    (hagree : Agree caps checksum) (hfits : Fits (ipRepr, repr)) (hrepr : repr.Emittable)
    (hr : limitWindow caps ipRepr repr = .ok r) (hrest : rest.length = repr.bufferLen) :
    ∃ out, r.emit caps.checksum.tcp.computes rest ipRepr.srcAddr ipRepr.dstAddr = .ok out ∧
      out.length = rest.length ∧
      TcpRepr.parse checksum.tcp.verifies out ipRepr.srcAddr ipRepr.dstAddr = .ok r := by
  obtain ⟨w, -, rfl⟩ := limitWindow_eq_ok hr
  have hlt : ipRepr.headerLen + repr.bufferLen < 2 ^ 16 := hfits.len_lt
  obtain ⟨out, hout, hlen, hparse⟩ := @TcpRepr.Emittable.exists_emit _ (hrepr.setWindowLen w) rest
    hrest _ _ ipRepr.srcAddr ipRepr.dstAddr hagree.tcp ipRepr.version_srcAddr_eq
    (show repr.bufferLen ≤ 2 ^ 17 by omega)
  exact ⟨out, hout, hlen, hparse⟩

lemma emitIp_reads_ipv4 {header : IpHeader 32} {repr r : TcpRepr} (hagree : Agree caps checksum)
    (hfits : Fits (.ipv4 header, repr)) (hrepr : repr.Emittable)
    (hr : limitWindow caps (.ipv4 header) repr = .ok r)
    (hbuf : buf.length = ipv4HeaderLen + repr.bufferLen) :
    ∃ out, emitIp caps (.ipv4 header, repr) buf = .ok out ∧
      readIp checksum out = .ok (.ipv4 header, r) := by
  have hnext : header.nextHeader = .tcp := hfits.nextHeader
  have hpay : header.payloadLen = repr.bufferLen := hfits.payloadLen
  have hlt : 20 + repr.bufferLen < 2 ^ 16 := hfits.len_lt
  rw [ipv4HeaderLen] at hbuf
  obtain ⟨h, hh⟩ := Ipv4.Header.exists_octets (show 20 ≤ buf.length by omega)
  have hrest : (buf.drop 20).length = repr.bufferLen := by
    rw [List.length_drop]
    omega
  obtain ⟨out, hout, hlen, hparse⟩ := exists_segment hagree hfits hrepr hr hrest
  set tx := caps.checksum.ipv4.computes with htx
  have hheader : emitHeader caps.checksum (.ipv4 header) buf =
      .ok ((Ipv4.Repr.emitted tx header).octets ++ buf.drop 20) := by
    rw [emitHeader, hh, Ipv4.Repr.emit_eq, ← hh]
    rfl
  refine ⟨(Ipv4.Repr.emitted tx header).octets ++ out, ?_, ?_⟩
  · simp only [emitIp]
    rw [hheader, ok_bind, IpRepr.headerLen, ipv4HeaderLen, sliceFrom_of (by simp), ok_bind,
      List.drop_left' (Ipv4.Header.length_octets _), hr]
    simp only [ofChecked, ok_bind]
    rw [hout, ok_bind, List.take_left' (Ipv4.Header.length_octets _)]
    rfl
  · have hle : header.payloadLen ≤ out.length := by omega
    have hlen' : 20 + header.payloadLen < 2 ^ 16 := by omega
    have hversion : IpVersion.ofPacket ((Ipv4.Repr.emitted tx header).octets ++ out) =
      .ok .ipv4 := by
      rw [IpVersion.ofPacket, if_neg (by simp), if_pos]
      change (0x45 : UInt8) >>> 4 = 4
      decide
    have hheader : Ipv4.Repr.parse checksum.ipv4.verifies
        ((Ipv4.Repr.emitted tx header).octets ++ out) = .ok header := by
      rw [Ipv4.parse_emitted _ _ _ _ hlen' hle, if_pos fun hrx => .inl (hagree.ipv4 hrx),
        header.ofByte_toByte hnext]
    have hword : Octets.readU16 ((Ipv4.Repr.emitted tx header).octets ++ out) 6 = 0x4000 := by
      rw [Ipv4.Header.readFlgOff]
      rfl
    have hwhole : ¬ (Ipv4.moreFrags ((Ipv4.Repr.emitted tx header).octets ++ out) ∨
        Ipv4.fragOffset ((Ipv4.Repr.emitted tx header).octets ++ out) ≠ 0 ∨
        header.nextHeader ≠ .tcp) := by
      rw [Ipv4.moreFrags, Ipv4.fragOffset, hword, hnext]
      decide
    have hparse : TcpRepr.parse checksum.tcp.verifies out (.ipv4 header.srcAddr)
      (.ipv4 header.dstAddr) = .ok r := hparse
    rw [readIp, hversion]
    simp only
    rw [hheader]
    simp only [ofResult, ok_bind]
    rw [reject_of_not hwhole, ok_bind, Ipv4.payload_emitted _ _ _ hlen',
      List.take_of_length_le (by omega), hparse]
    rfl

lemma emitIp_reads_ipv6 {header : IpHeader 128} {repr r : TcpRepr} (hagree : Agree caps checksum)
    (hfits : Fits (.ipv6 header, repr)) (hrepr : repr.Emittable)
    (hr : limitWindow caps (.ipv6 header) repr = .ok r)
    (hbuf : buf.length = ipv6HeaderLen + repr.bufferLen) :
    ∃ out, emitIp caps (.ipv6 header, repr) buf = .ok out ∧
      readIp checksum out = .ok (.ipv6 header, r) := by
  have hnext : header.nextHeader = .tcp := hfits.nextHeader
  have hpay : header.payloadLen = repr.bufferLen := hfits.payloadLen
  have hlt : 40 + repr.bufferLen < 2 ^ 16 := hfits.len_lt
  rw [ipv6HeaderLen] at hbuf
  have hrest : (buf.drop 40).length = repr.bufferLen := by
    rw [List.length_drop]
    omega
  obtain ⟨out, hout, hlen, hparse⟩ := exists_segment hagree hfits hrepr hr hrest
  set ipv6 := Ipv6Repr.ofHeader header with hipv6
  have hheader : emitHeader caps.checksum (.ipv6 header) buf =
    .ok (ipv6.octets ++ buf.drop 40) := by
    have happend := ipv6.emit_append (show (buf.take 40).length = ipv6HeaderLen by
      rw [List.length_take, ipv6HeaderLen]
      omega) (buf.drop 40)
    rw [List.take_append_drop] at happend
    exact happend
  have hlen40 : ipv6.octets.length = 40 := ipv6.length_octets
  refine ⟨ipv6.octets ++ out, ?_, ?_⟩
  · simp only [emitIp]
    rw [hheader, ok_bind, IpRepr.headerLen, ipv6HeaderLen, sliceFrom_of (by simp [hlen40]), ok_bind,
      List.drop_left' hlen40, hr]
    simp only [ofChecked, ok_bind]
    rw [hout, ok_bind, List.take_left' hlen40]
    rfl
  · have hpayload : ipv6.payloadLen = repr.bufferLen := hpay
    have hprotocol : ¬ ipv6.nextHeader ≠ .tcp := not_not.mpr hnext
    have hparse : TcpRepr.parse checksum.tcp.verifies out (.ipv6 ipv6.srcAddr)
      (.ipv6 ipv6.dstAddr) = .ok r := hparse
    have hversion : IpVersion.ofPacket (ipv6.octets ++ out) = .ok .ipv6 := by
      have hfirst : Octets.get (ipv6.octets ++ out) 0 = 0x60 := rfl
      rw [IpVersion.ofPacket, if_neg (by simp [hlen40]), hfirst]
      rfl
    have hheader : Ipv6Repr.parse (ipv6.octets ++ out) = .ok ipv6 := by
      rw [Ipv6Repr.parse_octets _ _ (by omega) (by omega)]
      exact congrArg (fun h => Except.ok (Ipv6Repr.ofHeader h)) (header.ofByte_toByte hnext)
    rw [readIp, hversion]
    simp only
    rw [hheader, ok_bind, Ipv6Repr.payload_octets _ _ (by omega) (by omega), ok_bind,
      reject_of_not hprotocol, ok_bind, List.take_of_length_le (by omega), hparse]
    rfl

/-- What is emitted is read, with the window that the device lets through. -/
lemma emitIp_reads {r : TcpRepr} (hagree : Agree caps checksum) (hfits : Fits packet)
    (hrepr : packet.2.Emittable) (hr : limitWindow caps packet.1 packet.2 = .ok r)
    (hbuf : buf.length = packet.1.headerLen + packet.2.bufferLen) :
    ∃ out, emitIp caps packet buf = .ok out ∧ readIp checksum out = .ok (packet.1, r) := by
  obtain ⟨header | header, repr⟩ := packet
  · exact emitIp_reads_ipv4 hagree hfits hrepr hr hbuf
  · exact emitIp_reads_ipv6 hagree hfits hrepr hr hbuf

end Octets

/-! ### What a socket writes -/

namespace Socket

variable {s s' : Socket} {cx : Context} {ipRepr : IpRepr} {repr : TcpRepr}

/-- The ports of a connection are there, and the window scale is one for the wire unless the buffer
is as large as it may be. -/
structure Writable (s : Socket) : Prop where
  ports : ∀ t ∈ s.tuple, t.localEnd.port ≠ 0 ∧ t.remoteEnd.port ≠ 0
  scale : s.rxBuffer.capacity < 2 ^ 30 → s.remoteWinShift ≤ 14

lemma winShift_le_of_lt {n : ℕ} (h : n < 2 ^ 30) : Smoltcp.Tcp.winShift n ≤ 14 := by
  have hlog : n ≠ 0 → Nat.log2 n < 30 := fun hn => (Nat.log2_lt hn).mpr h
  rw [UInt8.le_iff_toNat_le, Smoltcp.Tcp.winShift, UInt8.toNat_ofNat']
  refine (Nat.mod_le _ _).trans ?_
  split_ifs with hn
  · omega
  · have := hlog hn
    change _ ≤ 14
    omega

namespace Writable

lemma congr (h : s.Writable) (htuple : s'.tuple = none ∨ s'.tuple = s.tuple)
    (hcap : s'.rxBuffer.capacity = s.rxBuffer.capacity)
    (hshift : s'.remoteWinShift = s.remoteWinShift) : s'.Writable := by
  constructor
  · rcases htuple with htuple | htuple
    · rw [htuple]
      rintro t ⟨⟩
    · rw [htuple]
      exact h.ports
  · rw [hcap, hshift]
    exact h.scale

lemma reset (s : Socket) : s.reset.Writable := by
  constructor
  · rintro t ⟨⟩
  · intro hcap
    exact winShift_le_of_lt ((RingBuffer.capacity_clear _).symm.trans_lt hcap)

lemma connect {remote : IpEndpoint} {endpoint : IpListenEndpoint}
    (h : s.connect cx remote endpoint = .ok s') : s'.Writable := by
  obtain ⟨-, tuple, -, rfl⟩ := connect_eq_ok h
  refine ⟨?_, (reset s).scale⟩
  intro t ht
  cases ht
  unfold Socket.connect at h
  split_ifs at h with hopen hremote hlocal
  rw [not_or] at hremote
  cases hfrom : connectFrom cx remote.addr endpoint with
  | error err =>
    rw [hfrom] at h
    cases h
  | ok localEnd =>
    rw [hfrom] at h
    have hport : localEnd.port = endpoint.port := by
      unfold connectFrom at hfrom
      split at hfrom
      · split_ifs at hfrom
        cases hfrom
        rfl
      · split at hfrom <;> cases hfrom
        rfl
    by_cases hver : localEnd.addr.version = remote.addr.version
    · simp only [bind, Except.bind, hver, ne_eq, not_true, if_false] at h
      cases h
      exact ⟨hport ▸ hlocal, hremote.1⟩
    · simp only [bind, Except.bind, hver, ne_eq, not_false_iff, if_true] at h
      cases h

lemma quiet (h : s.Writable) (hq : Quiet s s') : s'.Writable := by
  obtain ⟨_, _, _, _, _, s₁, -, -, -, rfl, rfl | rfl⟩ := hq <;> exact h.congr (.inr rfl) rfl rfl

lemma process (h : s.Writable) (hrepr : repr.Parsed) (hp : ProcessRule s cx ipRepr repr s') :
    s'.Writable := by
  cases hp with
  | quiet hq => exact h.quiet hq
  | reset st hctl hlisten hq hst => exact (h.quiet hq).congr (.inl rfl) rfl rfl
  | @accepted _ _ _ _ _ s₂ s₃ _ ha =>
    have h₂ : s₂.Writable := by
      have ht := ha.transits
      obtain ⟨_, _, _, -, -, rfl⟩ := ha.noted
      have hshift : s.rxBuffer.capacity < 2 ^ 30 →
          (if repr.windowScale.isNone then 0 else s.remoteWinShift) ≤ 14 := by
        intro hcap
        split_ifs
        · exact UInt8.zero_le
        · exact h.scale hcap
      cases ht with
      | synListen =>
        refine ⟨?_, hshift⟩
        intro t ht
        cases ht
        exact ⟨hrepr.dstPort_ne, hrepr.srcPort_ne⟩
      | synSent => exact ⟨h.ports, hshift⟩
      | moved => exact h.congr (ite_eq_or_eq _ _ _) rfl rfl
    have h₃ : s₃.Writable := by
      cases ha.acked
      exact h₂.congr (.inr rfl) rfl rfl
    cases ha.received with
    | dropped => exact h₃
    | stored asm rx n t _ hstore => exact h₃.congr (.inr rfl) hstore.capacity rfl
    | acked asm rx n t _ hstore => exact h₃.congr (.inr rfl) hstore.capacity rfl

lemma timed (h : s.Writable) (ht : Timed s cx s') : s'.Writable := by
  cases ht <;> exact h.congr (.inr rfl) rfl rfl

lemma dispatch {e : Option Emission} (h : s.Writable) (hd : DispatchRule s cx s' e) :
    s'.Writable := by
  cases hd with
  | noTuple => exact h
  | idle _ htimed => exact h.timed htimed
  | reset => exact reset _
  | failed _ htimed => exact h.timed htimed
  | sent _ htimed _ _ hsends =>
    have h₁ := h.timed htimed
    cases hsends with
    | probe => exact h₁.congr (.inr rfl) rfl rfl
    | keepAlive => exact h₁.congr (.inr rfl) rfl rfl
    | segment => exact h₁.congr (ite_eq_or_eq _ _ _) rfl rfl

end Writable

end Socket

/-! ### Packets of `process` -/

section Replies

variable {s s' : Socket} {cx : Context} {ipRepr : IpRepr} {repr : TcpRepr} {q : Packet}

lemma nextHeader_of_new {src dst : IpAddress} {len : ℕ} {hop : UInt8} {ipRepr : IpRepr}
    (h : IpRepr.new src dst .tcp len hop = .ok ipRepr) : ipRepr.nextHeader = .tcp := by
  cases src <;> cases dst <;> cases h <;> rfl

lemma payloadLen_of_new {src dst : IpAddress} {len : ℕ} {hop : UInt8} {ipRepr : IpRepr}
    (h : IpRepr.new src dst .tcp len hop = .ok ipRepr) : ipRepr.payloadLen = len := by
  cases src <;> cases dst <;> cases h <;> rfl

/-- The reply that the others are made from. -/
structure IsReply (repr : TcpRepr) (q : Packet) : Prop where
  nextHeader : q.1.nextHeader = .tcp
  payloadLen : q.1.payloadLen = q.2.bufferLen
  srcPort : q.2.srcPort = repr.dstPort
  dstPort : q.2.dstPort = repr.srcPort
  windowScale : q.2.windowScale = none
  sackPermitted : q.2.sackPermitted = false
  sackRanges : q.2.sackRanges = #v[none, none, none]
  payload : q.2.payload = []

lemma IsReply.windowScale_le (h : IsReply repr q) : ∀ k ∈ q.2.windowScale, k ≤ 14 := by
  rw [h.windowScale]
  rintro k ⟨⟩

lemma isReply (h : Socket.reply ipRepr repr = .ok q) : IsReply repr q := by
  unfold Socket.reply at h
  obtain ⟨ip, hip, h⟩ := Checked.bind_eq_ok.mp h
  cases h
  exact ⟨nextHeader_of_new hip, payloadLen_of_new hip, rfl, rfl, rfl, rfl, rfl, rfl⟩

/-- A segment without data fits any packet. -/
lemma fits_of_empty (hr : q.2.Emittable) (hnext : q.1.nextHeader = .tcp)
    (hpay : q.1.payloadLen = q.2.bufferLen) (hnil : q.2.payload = []) : Fits q := by
  refine ⟨hnext, hpay, ?_⟩
  have hip := q.1.headerLen_le
  have htcp := hr.headerLen_le
  rw [TcpRepr.bufferLen, hnil, List.length_nil]
  omega

lemma rstReply_packet (hrepr : repr.Parsed) (h : Socket.rstReply ipRepr repr = .ok q) :
    q.2.Emittable ∧ Fits q := by
  unfold Socket.rstReply at h
  obtain ⟨_, -, h⟩ := Checked.bind_eq_ok.mp h
  obtain ⟨⟨ip, r⟩, hreply, h⟩ := Checked.bind_eq_ok.mp h
  obtain ⟨ack, -, h⟩ := Checked.bind_eq_ok.mp h
  cases h
  have hr := isReply hreply
  have hemittable : TcpRepr.Emittable
      { r with control := .rst, seqNumber := repr.ackNumber.getD 0, ackNumber := ack } := by
    refine TcpRepr.emittable_of_first ?_ ?_ ?_ hr.sackRanges (by simp)
    · exact hr.srcPort ▸ hrepr.dstPort_ne
    · exact hr.dstPort ▸ hrepr.srcPort_ne
    · exact hr.windowScale_le
  exact ⟨hemittable, fits_of_empty hemittable hr.nextHeader hr.payloadLen hr.payload⟩

lemma ackReply_packet (hrepr : repr.Parsed) (h : s.ackReply cx ipRepr repr = .ok (s', q)) :
    q.2.Emittable ∧ Fits q := by
  unfold Socket.ackReply at h
  obtain ⟨⟨ip, r⟩, hreply, h⟩ := Checked.bind_eq_ok.mp h
  obtain ⟨ack, -, h⟩ := Checked.bind_eq_ok.mp h
  have hr := isReply hreply
  have hranges : r.sackRanges = #v[none, none, none] := hr.sackRanges
  have hemittable : q.2.Emittable := by
    cases h
    refine @TcpRepr.emittable_of_first _
      (if s.remoteHasSack then s.sackRange ack else none) ?_ ?_ ?_ ?_ ?_
    · exact hr.srcPort ▸ hrepr.dstPort_ne
    · exact hr.dstPort ▸ hrepr.srcPort_ne
    · exact hr.windowScale_le
    · simp only [hranges]
      split_ifs <;> rfl
    · exact fun _ => ⟨rfl, hr.sackPermitted⟩
  refine ⟨hemittable, fits_of_empty hemittable ?_ ?_ ?_⟩
  · cases h
    cases ip <;> exact hr.nextHeader
  · cases h
    cases ip <;> rfl
  · cases h
    exact hr.payload

lemma process_packet (hrepr : repr.Parsed)
    (h : s.process cx ipRepr repr = .ok (s', some q)) : q.2.Emittable ∧ Fits q := by
  cases Socket.process_replies h with
  | ack hack => exact ackReply_packet hrepr hack
  | rst hctl hrst => exact rstReply_packet hrepr hrst

end Replies

/-! ### Packets of `dispatch` -/

namespace Socket

variable {s : Socket} {cx : Context} {e : Emission}

lemma stateSegment_fields {tuple : Tuple} {ack : SeqNumber} {mss : Checked ℕ} {r : TcpRepr}
    {zwp : Bool} (h : s.stateSegment cx mss (s.emptyAck cx tuple ack) = .ok (some (r, zwp))) :
    r.srcPort = tuple.localEnd.port ∧ r.dstPort = tuple.remoteEnd.port ∧
      r.sackRanges = #v[none, none, none] ∧ ∀ k ∈ r.windowScale, k = s.remoteWinShift := by
  unfold stateSegment at h
  cases hstate : s.state <;> simp only [hstate] at h
  case listen => cases h
  case synSent =>
    cases h
    unfold synSegment
    rw [if_pos hstate]
    refine ⟨rfl, rfl, rfl, ?_⟩
    rintro k ⟨⟩
    rfl
  case synReceived =>
    cases h
    unfold synSegment
    rw [if_neg (by simp [hstate])]
    refine ⟨rfl, rfl, rfl, ?_⟩
    intro k hk
    obtain ⟨_, _, rfl⟩ := Option.mem_map.mp hk
    rfl
  case closed | finWait2 | timeWait =>
    cases h
    exact ⟨rfl, rfl, rfl, by rintro k ⟨⟩⟩
  all_goals
    obtain ⟨q, hq, h⟩ := Checked.bind_eq_ok.mp h
    cases h
    obtain ⟨offset, room, m, -, -, -, -, -, rfl⟩ := dataSegment_eq_ok hq
    exact ⟨rfl, rfl, rfl, by rintro k ⟨⟩⟩

lemma setPayloadLen_fields (ipRepr : IpRepr) (len : ℕ) :
    (ipRepr.setPayloadLen len).nextHeader = ipRepr.nextHeader ∧
      (ipRepr.setPayloadLen len).payloadLen = len := by
  cases ipRepr <;> exact ⟨rfl, rfl⟩

/-- All of a packet but for its length is as it has to be. -/
lemma segment_packet (hw : s.Writable) (h : s.segment cx = .ok (some e)) :
    e.ipRepr.nextHeader = .tcp ∧ e.ipRepr.payloadLen = e.repr.bufferLen ∧
      (∀ k ∈ e.repr.windowScale, k = s.remoteWinShift) ∧
        ((∀ k ∈ e.repr.windowScale, k ≤ 14) → e.repr.Emittable) := by
  unfold segment at h
  obtain ⟨tuple, htuple, h⟩ := Checked.bind_eq_ok.mp h
  obtain ⟨ipRepr, hip, h⟩ := Checked.bind_eq_ok.mp h
  obtain ⟨ack, -, h⟩ := Checked.bind_eq_ok.mp h
  obtain ⟨o, ho, h⟩ := Checked.bind_eq_ok.mp h
  have htuple : tuple ∈ s.tuple := by
    cases ht : s.tuple <;> rw [ht] at htuple <;> cases htuple
    rfl
  cases o with
  | none => cases h
  | some q =>
    obtain ⟨r, zwp⟩ := q
    obtain ⟨hsrc, hdst, hranges, hscale⟩ := stateSegment_fields ho
    obtain ⟨mss, -, h⟩ := Checked.bind_eq_ok.mp h
    -- a keep-alive has the fields of the segment that it takes the place of
    obtain ⟨r', hr', hsrc', hdst', hranges', hscale'⟩ : ∃ r',
        r' = (if s.timer.shouldKeepAlive cx.now ∧ r.isEmpty then keepAliveSegment r else r) ∧
          r'.srcPort = r.srcPort ∧ r'.dstPort = r.dstPort ∧ r'.sackRanges = r.sackRanges ∧
            r'.windowScale = r.windowScale := by
      refine ⟨_, rfl, ?_⟩
      split_ifs
      · unfold keepAliveSegment
        exact ⟨rfl, rfl, rfl, rfl⟩
      · exact ⟨rfl, rfl, rfl, rfl⟩
    rw [← hr'] at h
    cases h
    obtain ⟨hnext, hpay⟩ := setPayloadLen_fields ipRepr { r' with maxSegSize := mss }.bufferLen
    refine ⟨hnext.trans (nextHeader_of_new hip), hpay, ?_, fun hle => ?_⟩
    · exact fun k hk => hscale k (hscale' ▸ hk)
    · obtain ⟨hlocal, hremote⟩ := hw.ports tuple htuple
      refine TcpRepr.emittable_of_first ?_ ?_ hle (hranges'.trans hranges) (by simp)
      · exact (hsrc'.trans hsrc) ▸ hlocal
      · exact (hdst'.trans hdst) ▸ hremote

lemma segment_fits (hw : s.Writable) (hflight : s.Flight) (hmin : 68 ≤ cx.ipMtu)
    (hmax : cx.ipMtu + 40 < 2 ^ 16) (h : s.segment cx = .ok (some e)) (he : e.repr.Emittable) :
    Tcp.Fits (e.ipRepr, e.repr) := by
  obtain ⟨hnext, hpay, -⟩ := segment_packet hw h
  refine ⟨hnext, hpay, ?_⟩
  obtain ⟨⟨tuple, htuple, hip, -⟩, -⟩ := segment_headers h
  have hle := IpRepr.headerLenOf_le tuple.localEnd.addr
  have hhdr := he.headerLen_le
  have hmss : localMss cx (IpRepr.headerLenOf tuple.localEnd.addr) =
      .ok (cx.ipMtu - IpRepr.headerLenOf tuple.localEnd.addr - tcpHeaderLen) := by
    unfold localMss tcpHeaderLen
    rw [Checked.sub_of_le (by omega), Checked.ok_bind, Checked.sub_of_le (by omega)]
  have hlen := segment_payload hflight htuple hmss (by unfold tcpHeaderLen; omega) h
  change e.ipRepr.headerLen + (e.repr.headerLen + e.repr.payload.length) < 2 ^ 16
  rw [hip, hlen]
  unfold tcpHeaderLen
  omega

end Socket

namespace Sys

variable {y y' : Sys} {op : Op}

/-- What is processed comes from the parser. -/
def Heard (_ : Sys) : Op → Prop
  | .process _ _ repr => repr.Parsed
  | _ => True

instance (y : Sys) : (op : Op) → Decidable (y.Heard op)
  | .process _ _ _ => inferInstanceAs (Decidable (TcpRepr.Parsed _))
  | .listen _ | .connect _ _ _ | .close | .abort | .set _ | .send _ | .sendSlice _ | .recv _
  | .recvSlice _ | .peek _ | .dispatch _ _ => .isTrue trivial

lemma writable_step (h : y.socket.Writable) (hok : y.Heard op) (hstep : Step y op y') :
    y'.socket.Writable := by
  have hrule := StepRule.of_step hstep
  cases hrule with
  | same => exact h
  | listen => exact (Socket.Writable.reset _).congr (.inl rfl) rfl rfl
  | connect cx remote endpoint tuple hopen hversion =>
    simp only [Step, step] at hstep
    cases hconnect : y.socket.connect cx remote endpoint with
    | error e =>
      rw [hconnect] at hstep
      rw [← Except.ok.inj hstep]
      exact h
    | ok s =>
      rw [hconnect] at hstep
      rw [← Except.ok.inj hstep]
      exact .connect hconnect
  | close =>
    obtain ⟨st, heq, -⟩ := y.socket.close_eq
    rw [heq]
    exact h.congr (.inr rfl) rfl rfl
  | abort => exact h.congr (.inr rfl) rfl rfl
  | set x s' hset =>
    obtain ⟨_, _, _, _, _, _, _, _, timer, -, -, rfl⟩ := Socket.set_eq_ok hset
    exact h.congr (.inr rfl) rfl rfl
  | send op s' data hsend =>
    obtain ⟨-, tx, ts, -, -, -, rfl⟩ := hsend
    exact h.congr (.inr rfl) rfl rfl
  | recv op s' n hrecv =>
    obtain ⟨-, rx, hshrinks, -, rfl⟩ := hrecv
    exact h.congr (.inr rfl) hshrinks.capacity rfl
  | process cx ipRepr repr s' hp => exact h.process hok hp
  | dispatch cx emit s' e hd => exact h.dispatch hd

/-- The receive buffer keeps its size. -/
lemma capacity_step (hs : StepRule y op y') :
    y'.socket.rxBuffer.capacity = y.socket.rxBuffer.capacity := by
  cases hs with
  | same => rfl
  | listen => exact RingBuffer.capacity_clear _
  | connect => exact RingBuffer.capacity_clear _
  | close =>
    obtain ⟨st, heq, -⟩ := y.socket.close_eq
    rw [heq]
    rfl
  | abort => rfl
  | set x s' hset =>
    obtain ⟨_, _, _, _, _, _, _, _, timer, -, -, rfl⟩ := Socket.set_eq_ok hset
    rfl
  | send op s' data hsend =>
    obtain ⟨-, tx, ts, -, -, -, rfl⟩ := hsend
    rfl
  | recv op s' n hrecv =>
    obtain ⟨-, rx, hshrinks, -, rfl⟩ := hrecv
    exact hshrinks.capacity
  | process cx ipRepr repr s' hp =>
    cases hp with
    | quiet hq =>
      obtain ⟨_, _, _, _, _, s₁, -, -, -, rfl, rfl | rfl⟩ := hq <;> rfl
    | reset st hctl hlisten hq =>
      obtain ⟨_, _, _, _, _, s₁, -, -, -, rfl, rfl | rfl⟩ := hq <;> rfl
    | accepted ha =>
      rw [← ha.rx_eq.1]
      cases ha.received with
      | dropped => rfl
      | stored asm rx n t _ hstore => exact hstore.capacity
      | acked asm rx n t _ hstore => exact hstore.capacity
  | dispatch cx emit s' e hd =>
    cases hd with
    | noTuple => rfl
    | idle _ htimed => exact congrArg RingBuffer.capacity htimed.rx_eq.1
    | reset _ htimed =>
      exact (RingBuffer.capacity_clear _).trans (congrArg RingBuffer.capacity htimed.rx_eq.1)
    | failed _ htimed => exact congrArg RingBuffer.capacity htimed.rx_eq.1
    | sent _ htimed _ _ hsends =>
      exact congrArg RingBuffer.capacity (hsends.rx_eq.1.trans htimed.rx_eq.1)

lemma ReachableBy.writable (h : ReachableBy Heard y) : y.socket.Writable := by
  refine h.invariant (I := fun y => y.socket.Writable) ?_ ?_
  · rintro y ⟨cfg, rx, tx, hnew, -⟩
    unfold Socket.new at hnew
    split_ifs at hnew
    rw [← Except.ok.inj hnew]
    exact ⟨by rintro t ⟨⟩, Socket.winShift_le_of_lt⟩
  · exact fun y op y' h hok hstep => writable_step h hok hstep

end Sys

/-! ### Packets of a run -/

/-- The packet that a step puts on the wire. -/
def Sys.packet (y : Sys) : Op → Option Packet
  | .process cx ipRepr repr =>
    match y.socket.process cx ipRepr repr with
    | .ok (_, p) => p
    | .error _ => none
  | .dispatch cx emit =>
    match y.socket.dispatch cx emit with
    | .ok (_, some e) => if e.sent then some (e.ipRepr, e.repr) else none
    | _ => none
  | _ => none

lemma Sys.packet_transmits (y : Sys) (op : Op) : (y.packet op).map Prod.snd = y.transmits op := by
  unfold Sys.packet transmits
  cases op with
  | process cx ipRepr repr =>
    simp only
    rcases y.socket.process cx ipRepr repr with _ | ⟨s, _ | p⟩ <;> rfl
  | dispatch cx emit =>
    simp only
    rcases y.socket.dispatch cx emit with _ | ⟨s, _ | e⟩
    · rfl
    · rfl
    · simp only
      split_ifs <;> rfl
  | _ => rfl

/-- The MTU has room for the headers, and a packet with options on top of it can still tell its
length. -/
def Op.Sized : Op → Prop
  | .dispatch cx _ => 68 ≤ cx.ipMtu ∧ cx.ipMtu + 40 < 2 ^ 16
  | _ => True

namespace Sys

variable {y : Sys} {op : Op} {p : Packet}

/-- The header of a packet is for its segment, which can be emitted if its window scale can. -/
structure Prepared (p : Packet) : Prop where
  nextHeader : p.1.nextHeader = .tcp
  payloadLen : p.1.payloadLen = p.2.bufferLen
  emittable : (∀ k ∈ p.2.windowScale, k ≤ 14) → p.2.Emittable

lemma prepared_of_packet (hw : y.socket.Writable) (hop : y.Heard op) (hp : y.packet op = some p) :
    Prepared p ∧ (y.socket.rxBuffer.capacity < 2 ^ 30 → ∀ k ∈ p.2.windowScale, k ≤ 14) := by
  unfold Sys.packet at hp
  cases op with
  | process cx ipRepr repr =>
    simp only at hp
    split at hp
    · rename_i s' o hprocess
      subst hp
      obtain ⟨hemittable, hfits⟩ := process_packet hop hprocess
      exact ⟨⟨hfits.nextHeader, hfits.payloadLen, fun _ => hemittable⟩,
        fun _ => hemittable.windowScale_le⟩
    · cases hp
  | dispatch cx emit =>
    simp only at hp
    split at hp
    · rename_i s' e hdispatch
      split_ifs at hp
      cases hp
      obtain ⟨htimed, -, e₀, sent, hsegment, rfl⟩ := Socket.dispatch_segment hdispatch
      have hw : (y.socket.due cx).Writable := hw.timed htimed
      obtain ⟨hnext, hpay, hscale, hemittable⟩ := Socket.segment_packet hw hsegment
      refine ⟨⟨hnext, hpay, hemittable⟩, fun hcap k hk => ?_⟩
      rw [hscale k hk]
      exact hw.scale (htimed.rx_eq.1 ▸ hcap)
    · cases hp
  | _ => cases hp

lemma fits_of_packet (h : ReachableBy Heard y) (hop : y.Heard op) (hsized : op.Sized)
    (hp : y.packet op = some p) (he : p.2.Emittable) : Fits p := by
  unfold Sys.packet at hp
  cases op with
  | process cx ipRepr repr =>
    simp only at hp
    split at hp
    · rename_i s' o hprocess
      subst hp
      exact (process_packet hop hprocess).2
    · cases hp
  | dispatch cx emit =>
    simp only at hp
    split at hp
    · rename_i s' e hdispatch
      split_ifs at hp
      cases hp
      obtain ⟨htimed, -, e₀, sent, hsegment, rfl⟩ := Socket.dispatch_segment hdispatch
      exact @Socket.segment_fits _ cx e₀ (h.writable.timed htimed)
        (h.reachable.flight.timed htimed) hsized.1 hsized.2 hsegment he
    · cases hp
  | _ => cases hp

/-- What a socket puts on the wire is read by the other side as it was sent, with the window that
the device lets through, unless it offers a window scale that the other side cuts to 14. A device
that limits bursts has room for the headers. -/
theorem packet_reads_back_iff {caps : TxCapabilities} {checksum : ChecksumCapabilities}
    {buf : List UInt8} (h : ReachableBy Heard y) (hop : y.Heard op) (hsized : op.Sized)
    (hp : y.packet op = some p) (hagree : Agree caps checksum)
    (hburst : caps.maxBurstSize.isSome → 100 ≤ caps.maxTransmissionUnit)
    (hbuf : buf.length = p.1.headerLen + p.2.bufferLen) :
    ((∃ r out, limitWindow caps p.1 p.2 = .ok r ∧ emitIp caps p buf = .ok out ∧
        readIp checksum out = .ok (p.1, r)) ↔ ∀ k ∈ p.2.windowScale, k ≤ 14) ∧
      (y.socket.rxBuffer.capacity < 2 ^ 30 → ∀ k ∈ p.2.windowScale, k ≤ 14) := by
  obtain ⟨hprepared, hcap⟩ := prepared_of_packet h.writable hop hp
  refine ⟨⟨?_, fun hle => ?_⟩, hcap⟩
  · rintro ⟨r, out, hr, -, hread⟩
    have hparsed := parsed_of_readIp hread
    obtain ⟨windowLen, -, rfl⟩ := limitWindow_eq_ok hr
    exact hparsed.windowScale_le
  · have hemittable := hprepared.emittable hle
    have hfits := fits_of_packet h hop hsized hp hemittable
    have hip := p.1.headerLen_le
    have htcp := hemittable.headerLen_le
    obtain ⟨r, hr⟩ := @exists_limitWindow caps p.1 p.2 fun h => by
      have := hburst h
      omega
    obtain ⟨out, hout, hread⟩ := emitIp_reads hagree hfits hemittable hr hbuf
    exact ⟨r, out, hr, hout, hread⟩

/-- A SYN is answered, with a buffer that holds the octets of another packet and a device that takes
two segments at a time. -/
theorem packet_reads_back_iff_synack : ∃ y p out r, ReachableBy Heard y ∧
    y.packet (Sample.dispatch 1) = some p ∧ p.2.windowScale = some 0 ∧
    emitIp ⟨1500, some 2, {}⟩ p (List.replicate (p.1.headerLen + p.2.bufferLen) 0xff) = .ok out ∧
    readIp {} out = .ok (p.1, r) := by
  obtain ⟨y, hreach, hP⟩ := exists_sample Heard (fun y op => decide (y.Heard op)) 4
    [.listen ⟨none, 80⟩,
      Sample.process 0 { Sample.segment .syn 100 none 1000 [] with windowScale := some 7 }]
    (fun y => (y.packet (Sample.dispatch 1)).any fun p => p.2.windowScale = some 0)
    (fun _ _ h => of_decide_eq_true h) (by decide +kernel)
  obtain ⟨p, hp, hscale⟩ := (Option.any_eq_true _ _).mp hP
  have hscale : p.2.windowScale = some 0 := of_decide_eq_true hscale
  have hop : y.Heard (Sample.dispatch 1) := trivial
  have hsized : Op.Sized (Sample.dispatch 1) := ⟨by decide, by decide⟩
  have hagree : Agree ⟨1500, some 2, {}⟩ {} := ⟨fun h => h, fun h => h⟩
  obtain ⟨hiff, -⟩ := packet_reads_back_iff hreach hop hsized hp hagree (fun _ => by decide)
    List.length_replicate
  obtain ⟨r, out, -, hout, hread⟩ := hiff.mpr (by rw [hscale]; simp)
  exact ⟨y, p, out, r, hreach, hp, hscale, hout, hread⟩

end Sys

end Tcp

end Smoltcp
