import Smoltcp.Wire.Ipv6
import Smoltcp.Wire.Sixlowpan.Safety

/-!
# Decompression of 6LoWPAN packets

The headers of a compressed packet are decompressed into a buffer, one after the other, and what is
behind them is copied. A slice of the buffer is the list of its octets; a function that writes to a
slice returns what is then in it, also when it fails.
-/

namespace Smoltcp

open Outcome Sixlowpan

/-- What a function leaves in its buffer, and what it returns. -/
abbrev Written (α : Type) := List UInt8 × Except WireError α

namespace Written

variable {α β : Type}

/-- `?` on an error, with the buffer as it is. -/
def stop (buffer : List UInt8) : Fault → Checked (Written α)
  | .malformed => .ok (buffer, .error .mk)
  | .panic p => .error p

/-- `let a = x?`, with the buffer as it is. -/
def attempt (buffer : List UInt8) (x : Outcome α) (k : α → Checked (Written β)) :
    Checked (Written β) :=
  match x with
  | .ok a => k a
  | .error e => stop buffer e

/-- What was written to the slice behind `front`. -/
def behind (front : List UInt8) (x : Checked (Written α)) : Checked (Written α) := do
  let (buffer, result) ← x
  return (front ++ buffer, result)

end Written

open Written

/-- Convert a 6LoWPAN next header to an IPv6 next header. -/
def decompressNextHeader (nextHeader : NextHeader) (payload : List UInt8) : Outcome IpProtocol :=
  match nextHeader with
  | .compressed => do
    match ← SixlowpanNhcPacket.dispatch payload with
    | .extHeader =>
      ExtHeaderPacket.newChecked payload
      return (← ExtHeaderPacket.extensionHeaderId payload).toProtocol
    | .udpHeader => return .udp
  | .uncompressed proto => return proto

/-- An extension header, decompressed: what follows it, the octets written, what is then in the rest
of the buffer, and the data behind it. -/
structure DecompressedExtHdr where
  nextHeader : NextHeader
  written : List UInt8
  buffer : List UInt8
  data : List UInt8

def decompressExtHdr (data buffer : List UInt8) : Outcome DecompressedExtHdr := do
  ExtHeaderPacket.newChecked data
  let extRepr ← ExtHeaderRepr.parse data
  let rest ← sliceFrom data (extRepr.length.toNat + extRepr.bufferLen)
  let nh ← decompressNextHeader extRepr.nextHeader rest
  let payload ← ExtHeaderPacket.payload data
  reject (2 + payload.length > buffer.length)
  let buffer ← write buffer 0 [nh.toByte, extRepr.length / 8]
  let buffer ← write buffer 2 payload
  return { nextHeader := extRepr.nextHeader
           written := ← slice buffer 0 (2 + payload.length)
           buffer := ← sliceFrom buffer (2 + payload.length)
           data := ← sliceFrom data (extRepr.bufferLen + extRepr.length.toNat) }

/-- The length of the payload of a UDP datagram. That of a fragmented one follows from the length of
the whole packet. -/
def udpPayloadLen (totalLen : Option ℕ) (payloadLen : ℕ) (payload : List UInt8) : Outcome ℕ :=
  match totalLen with
  | some totalLen => do sub (← sub totalLen payloadLen) 8
  | none => return payload.length

/-- A UDP datagram, decompressed: what is then in the buffer, and both lengths. -/
structure DecompressedUdp where
  buffer : List UInt8
  payloadLen : ℕ
  decompressedLen : ℕ

def decompressUdp (data : List UInt8) (iphcRepr : IphcRepr) (buffer : List UInt8)
    (totalLen : Option ℕ) (payloadLen decompressedLen : ℕ) : Outcome DecompressedUdp := do
  UdpNhcPacket.checkLen data
  let payload ← UdpNhcPacket.payload data
  let udpRepr ← UdpNhcRepr.parse false data iphcRepr.srcAddr iphcRepr.dstAddr
  reject (udpRepr.headerLen + payload.length > buffer.length)
  let udpLen ← udpPayloadLen totalLen payloadLen payload
  let udp ← slice buffer 0 (payload.length + 8)
  let udp ← udpRepr.udp.emitHeader udp udpLen
  let buffer := udp ++ buffer.drop (payload.length + 8)
  return { buffer := ← write buffer 8 payload
           payloadLen := payloadLen + (udpLen + 8)
           decompressedLen := decompressedLen + (udpRepr.udp.headerLen + payload.length) }

/-! ### Extension headers -/

lemma decompressNextHeader_safe (nextHeader : NextHeader) (payload : List UInt8) :
    Safe (decompressNextHeader nextHeader payload) fun _ => True := by
  cases nextHeader with
  | uncompressed proto => exact Safe.pure trivial
  | compressed =>
    apply (SixlowpanNhcPacket.dispatch_safe payload).bind
    rintro nhc -
    cases nhc with
    | udpHeader => exact Safe.pure trivial
    | extHeader =>
      apply (ExtHeaderPacket.newChecked_safe payload).bind
      intro _ h
      obtain ⟨id, hid⟩ := h.extensionHeaderId
      rw [hid]
      exact Safe.pure trivial

namespace ExtHeaderPacket

/-- The length of an extension header without what it carries. -/
def headerLen (data : List UInt8) : ℕ := 2 + announced (Octets.get data 0)

/-- How many octets an extension header says that it carries. -/
def carried (data : List UInt8) : ℕ :=
  (Octets.get data (1 + announced (Octets.get data 0))).toNat

end ExtHeaderPacket

open ExtHeaderPacket in
/-- What comes of an extension header: it is incomplete, or is to be refused for its next header or
for the room in the buffer; it says that it carries more than there is; or it is decompressed. -/
inductive ExtHdrRule (data buffer : List UInt8) : Outcome DecompressedExtHdr → Prop where
  | refused (h : ¬ (newChecked data = .ok () ∧
      (data.length < headerLen data + carried data ∨ ∃ nh proto, nextHeader data = .ok nh ∧
        decompressNextHeader nh (data.drop (headerLen data + carried data)) = .ok proto ∧
        2 + carried data ≤ buffer.length))) : ExtHdrRule data buffer fail
  | overrun (p : Panic) (hcheck : newChecked data = .ok ())
      (hlen : data.length < headerLen data + carried data) :
      ExtHdrRule data buffer (.error (.panic p))
  | done {nh : NextHeader} {proto : IpProtocol} {written : List UInt8}
      (hcheck : newChecked data = .ok ()) (hlen : headerLen data + carried data ≤ data.length)
      (hnh : nextHeader data = .ok nh)
      (hproto : decompressNextHeader nh (data.drop (headerLen data + carried data)) = .ok proto)
      (hroom : 2 + carried data ≤ buffer.length)
      (hwritten : written.length = 2 + carried data) :
      ExtHdrRule data buffer (.ok ⟨nh, written, buffer.drop (2 + carried data),
        data.drop (headerLen data + carried data)⟩)

lemma slice_short {α : Type} {l : List α} {a b : ℕ} (h : l.length < b ∨ b < a) :
    slice l a b = .error (.panic .sliceOutOfRange) := by
  rw [slice, Checked.slice, if_neg (by omega)]
  rfl

open ExtHeaderPacket in
lemma decompressExtHdr_rule {data : List UInt8} (buffer : List UInt8)
    (hdispatch : Octets.get data 0 >>> 4 = dispatchExtHeader) :
    ExtHdrRule data buffer (decompressExtHdr data buffer) := by
  have hsafe := newChecked_safe data
  unfold decompressExtHdr
  cases hcheck : newChecked data with
  | error e =>
    rw [hcheck] at hsafe
    cases e with
    | panic p => exact hsafe.elim
    | malformed => exact .refused fun h => nomatch hcheck.symm.trans h.1
  | ok u =>
    rw [hcheck] at hsafe
    have hcomplete : Complete data := hsafe
    obtain ⟨repr, hparse, hnh, hlength, hbuflen⟩ := hcomplete.parse hdispatch
    have hsize : repr.length.toNat + repr.bufferLen = headerLen data + carried data := by
      rw [hlength, hbuflen, headerLen, carried, Nat.add_comm]
    have hsize' : repr.bufferLen + repr.length.toNat = headerLen data + carried data := by
      rw [Nat.add_comm, hsize]
    rw [ok_bind, hparse, ok_bind, hsize, hsize']
    by_cases hlen : headerLen data + carried data ≤ data.length
    · rw [sliceFrom_of hlen, ok_bind]
      have hproto := decompressNextHeader_safe repr.nextHeader
        (data.drop (headerLen data + carried data))
      cases hnext : decompressNextHeader repr.nextHeader
          (data.drop (headerLen data + carried data)) with
      | error e =>
        rw [hnext] at hproto
        cases e with
        | panic p => exact hproto.elim
        | malformed =>
          refine .refused ?_
          rintro ⟨-, hshort | ⟨nh, proto, hnh', hok, -⟩⟩
          · omega
          · rw [hnh] at hnh'
            cases hnh'
            exact nomatch hnext.symm.trans hok
      | ok proto =>
        have hpayload : payload data = .ok ((data.drop (headerLen data)).take (carried data)) := by
          rw [payload, nextHeaderSize_of hcomplete.ne_nil, ok_bind, hcomplete.length, ok_bind]
          exact sliceAt_of hlen
        have hplen : ((data.drop (headerLen data)).take (carried data)).length = carried data := by
          rw [List.length_take, List.length_drop]
          omega
        rw [ok_bind, hpayload, ok_bind, hplen]
        by_cases hroom : 2 + carried data ≤ buffer.length
        · set octets := (data.drop (headerLen data)).take (carried data)
          have hhead : [proto.toByte, repr.length / 8].length = 2 := rfl
          have hwrite : (do
              let buffer ← write buffer 0 [proto.toByte, repr.length / 8]
              write buffer 2 octets) =
                .ok ([proto.toByte, repr.length / 8] ++ octets ++
                buffer.drop (2 + carried data)) := by
            rw [write_of (by rw [hhead]; omega), ok_bind,
              write_of (by rw [List.length_overwrite (by rw [hhead]; omega), hplen]; exact hroom)]
            have hboth := List.overwrite_overwrite (l := buffer) (i := 0)
              (d := [proto.toByte, repr.length / 8]) (e := octets) (by rw [hhead, hplen]; omega)
            rw [Nat.zero_add, hhead] at hboth
            rw [hboth, List.overwrite_zero, List.length_append, hhead, hplen]
          obtain ⟨buffer₁, hfirst, hsecond⟩ := bind_eq_ok.mp hwrite
          have hlength : ([proto.toByte, repr.length / 8] ++ octets).length = 2 + carried data := by
            rw [List.length_append, hplen, hhead]
          rw [reject_of_not (by omega), ok_bind, hfirst, ok_bind, hsecond, ok_bind,
            slice_of (Nat.zero_le _) (by rw [List.length_append, hlength]; omega),
            List.take_left' hlength, List.drop_zero, ok_bind,
            sliceFrom_of (by rw [List.length_append, hlength]; omega), List.drop_left' hlength,
            ok_bind, ok_bind]
          exact .done hcheck hlen hnh hnext hroom hlength
        · rw [reject_of (by omega), fail_bind]
          refine .refused ?_
          rintro ⟨-, hshort | ⟨nh, proto, -, -, hok⟩⟩
          · omega
          · exact hroom hok
    · rw [sliceFrom, slice_short (.inr (by omega)), error_bind]
      exact .overrun _ hcheck (by omega)

/-- An extension header is decompressed only where its first octet says so. -/
lemma dispatch_of_decompressExtHdr {data buffer : List UInt8} {ext : DecompressedExtHdr}
    (h : decompressExtHdr data buffer = .ok ext) :
    Octets.get data 0 >>> 4 = dispatchExtHeader := by
  obtain ⟨_, hcheck, h⟩ := bind_eq_ok.mp h
  obtain ⟨repr, hparse, -⟩ := bind_eq_ok.mp h
  have hsafe := ExtHeaderPacket.newChecked_safe data
  rw [hcheck] at hsafe
  obtain ⟨_, -, h⟩ := bind_eq_ok.mp hparse
  obtain ⟨d, hd, h⟩ := bind_eq_ok.mp h
  obtain ⟨_, hreject, -⟩ := bind_eq_ok.mp h
  rw [ExtHeaderPacket.dispatchField, ExtHeaderPacket.field_of hsafe.ne_nil] at hd
  have hall : ∀ b : BitVec 8, (UInt8.ofBitVec b >>> (4 : UInt8)) &&& (0b1111 : UInt8) =
      UInt8.ofBitVec b >>> (4 : UInt8) := by
    decide
  rw [← hall (Octets.get data 0).toBitVec]
  by_contra hne
  rw [reject_of (by rw [← Except.ok.inj hd]; exact hne)] at hreject
  cases hreject

lemma decompressExtHdr_lt {data buffer : List UInt8} {ext : DecompressedExtHdr}
    (h : decompressExtHdr data buffer = .ok ext) : ext.data.length < data.length := by
  have hrule := decompressExtHdr_rule buffer (dispatch_of_decompressExtHdr h)
  rw [h] at hrule
  cases hrule with
  | done hcheck hlen hnh hproto hroom hwritten =>
    rw [List.length_drop]
    have : 2 ≤ ExtHeaderPacket.headerLen data := Nat.le_add_right _ _
    omega

/-- The loop over the headers: what is then in the buffer, and both lengths. -/
def decompressHeaders (iphcRepr : IphcRepr) (totalLen : Option ℕ) (nextHeader : NextHeader)
    (data buffer : List UInt8) (payloadLen decompressedLen : ℕ) : Checked (Written (ℕ × ℕ)) :=
  match nextHeader with
  | .compressed =>
    match SixlowpanNhcPacket.dispatch data with
    | .error e => stop buffer e
    | .ok .extHeader =>
      match _h : decompressExtHdr data buffer with
      | .error e => stop buffer e
      | .ok ext =>
        behind ext.written (decompressHeaders iphcRepr totalLen ext.nextHeader ext.data ext.buffer
          (payloadLen + ext.written.length) (decompressedLen + ext.written.length))
    | .ok .udpHeader =>
      attempt buffer (decompressUdp data iphcRepr buffer totalLen payloadLen decompressedLen)
        fun udp => .ok (udp.buffer, .ok (udp.payloadLen, udp.decompressedLen))
  | .uncompressed proto =>
    if proto = .tcp ∨ proto = .udp ∨ proto = .icmpv6 then
      -- There can be no protocol after this one, so we can just copy the rest of the data.
      if data.length > buffer.length then .ok (buffer, .error .mk)
      else
        .ok (data ++ buffer.drop data.length,
          .ok (payloadLen + data.length, decompressedLen + data.length))
    else .ok (buffer, .error .mk)
termination_by data.length
decreasing_by exact decompressExtHdr_lt _h

/-- Decompress a 6LoWPAN packet into an IPv6 packet. Returned is the length of what was
decompressed. For a fragmented packet `totalLen` is the length of the IPv6 packet. -/
def sixlowpanToIpv6 (addressContext : List AddressContext) (ieee802154Repr : Ieee802154Repr)
    (iphcPayload : List UInt8) (totalLen : Option ℕ) (buffer : List UInt8) :
    Checked (Written ℕ) :=
  attempt buffer (IphcPacket.checkLen iphcPayload) fun _ =>
  attempt buffer (IphcRepr.parse iphcPayload ieee802154Repr.srcAddr ieee802154Repr.dstAddr
    addressContext) fun iphcRepr =>
  attempt buffer (slice buffer 0 40) fun ipv6Buffer =>
  attempt buffer (IphcPacket.payload iphcPayload) fun payload => do
  let (rest, result) ←
    behind ipv6Buffer (decompressHeaders iphcRepr totalLen iphcRepr.nextHeader payload
      (buffer.drop 40) 40 40)
  match result with
  | .error e => return (rest, .error e)
  | .ok (payloadLen, decompressedLen) =>
    attempt rest (decompressNextHeader iphcRepr.nextHeader payload) fun nextHeader =>
    attempt rest (sub (totalLen.getD payloadLen) 40) fun payloadLen =>
    let ipv6Repr : Ipv6Repr :=
      { srcAddr := iphcRepr.srcAddr, dstAddr := iphcRepr.dstAddr, nextHeader, payloadLen
        hopLimit := iphcRepr.hopLimit }
    attempt rest (ipv6Repr.emit ipv6Buffer) fun header =>
    .ok (header ++ rest.drop 40, .ok decompressedLen)

/-! ### Headers that run over -/

open ExtHeaderPacket in
/-- The headers in `data` make their decompression run over: an extension header says that it
carries more than there is; or the payload of a UDP datagram would fit into the `room` that is left
behind a compressed header, but does not behind the decompressed one; or the packet is shorter than
the headers of which `used` octets are decompressed. -/
inductive Overruns (iphcRepr : IphcRepr) (totalLen : Option ℕ) :
    NextHeader → List UInt8 → ℕ → ℕ → Prop where
  | extLength {data : List UInt8} {room used : ℕ}
      (hext : SixlowpanNhcPacket.dispatch data = .ok .extHeader)
      (hcheck : newChecked data = .ok ())
      (hlen : data.length < headerLen data + carried data) :
      Overruns iphcRepr totalLen .compressed data room used
  | extHeader {data : List UInt8} {room used : ℕ} {nh : NextHeader} {proto : IpProtocol}
      (hext : SixlowpanNhcPacket.dispatch data = .ok .extHeader)
      (hcheck : newChecked data = .ok ())
      (hlen : headerLen data + carried data ≤ data.length)
      (hnh : nextHeader data = .ok nh)
      (hproto : decompressNextHeader nh (data.drop (headerLen data + carried data)) = .ok proto)
      (hroom : 2 + carried data ≤ room)
      (hrest : Overruns iphcRepr totalLen nh (data.drop (headerLen data + carried data))
        (room - (2 + carried data)) (used + (2 + carried data))) :
      Overruns iphcRepr totalLen .compressed data room used
  | udpRoom {data payload : List UInt8} {room used : ℕ} {repr : UdpNhcRepr}
      (hudp : SixlowpanNhcPacket.dispatch data = .ok .udpHeader)
      (hcheck : UdpNhcPacket.checkLen data = .ok ())
      (hpayload : UdpNhcPacket.payload data = .ok payload)
      (hrepr : UdpNhcRepr.parse false data iphcRepr.srcAddr iphcRepr.dstAddr = .ok repr)
      (hroom : repr.headerLen + payload.length ≤ room) (hshort : room < payload.length + 8) :
      Overruns iphcRepr totalLen .compressed data room used
  | udpTotal {data payload : List UInt8} {room used n : ℕ} {repr : UdpNhcRepr}
      (hudp : SixlowpanNhcPacket.dispatch data = .ok .udpHeader)
      (hcheck : UdpNhcPacket.checkLen data = .ok ())
      (hpayload : UdpNhcPacket.payload data = .ok payload)
      (hrepr : UdpNhcRepr.parse false data iphcRepr.srcAddr iphcRepr.dstAddr = .ok repr)
      (hroom : repr.headerLen + payload.length ≤ room) (htotal : totalLen = some n)
      (hshort : n < used + 8) :
      Overruns iphcRepr totalLen .compressed data room used

variable {iphcRepr : IphcRepr} {totalLen : Option ℕ} {data buffer : List UInt8}
  {payloadLen decompressedLen : ℕ}

/-- A header of eight octets is written. -/
lemma emitHeader_eq (udp : UdpRepr) {buf : List UInt8} (h : 8 ≤ buf.length) (len : ℕ) :
    udp.emitHeader buf len = .ok (Octets.ofU16 udp.srcPort ++ Octets.ofU16 udp.dstPort ++
      Octets.ofU16 (.ofNat (8 + len)) ++ Octets.ofU16 0 ++ buf.drop 8) := by
  match buf, h with
  | a :: b :: c :: d :: e :: f :: g :: h :: rest, _ => rfl

lemma udpPayloadLen_cases (totalLen : Option ℕ) (payloadLen : ℕ) (payload : List UInt8) :
    (∃ len, udpPayloadLen totalLen payloadLen payload = .ok len ∧
      ¬ ∃ n, totalLen = some n ∧ n < payloadLen + 8) ∨
    ∃ p, udpPayloadLen totalLen payloadLen payload = .error (.panic p) ∧
      ∃ n, totalLen = some n ∧ n < payloadLen + 8 := by
  cases totalLen with
  | none => exact .inl ⟨_, rfl, nofun⟩
  | some n =>
    have hsub : ∀ {a b : ℕ}, ¬ b ≤ a → sub a b = .error (.panic .subOverflow) := by
      intro a b hab
      rw [sub, Checked.sub, if_neg hab]
      rfl
    unfold udpPayloadLen
    dsimp only
    by_cases h : payloadLen ≤ n
    · rw [sub_of_le h, ok_bind]
      by_cases h8 : 8 ≤ n - payloadLen
      · refine .inl ⟨_, sub_of_le h8, ?_⟩
        rintro ⟨m, hm, hlt⟩
        cases hm
        omega
      · exact .inr ⟨_, hsub h8, n, rfl, by omega⟩
    · exact .inr ⟨.subOverflow, by rw [hsub h, error_bind], n, rfl, by omega⟩

/-- What comes of a UDP header: it is refused, it runs over, or it is decompressed. -/
inductive UdpRule (iphcRepr : IphcRepr) (totalLen : Option ℕ) (data buffer : List UInt8)
    (payloadLen decompressedLen : ℕ) : Outcome DecompressedUdp → Prop where
  | refused (h : ¬ Overruns iphcRepr totalLen .compressed data buffer.length payloadLen) :
      UdpRule iphcRepr totalLen data buffer payloadLen decompressedLen fail
  | overrun (p : Panic) (h : Overruns iphcRepr totalLen .compressed data buffer.length payloadLen) :
      UdpRule iphcRepr totalLen data buffer payloadLen decompressedLen (.error (.panic p))
  | done {out payload : List UInt8} {udpLen : ℕ}
      (h : ¬ Overruns iphcRepr totalLen .compressed data buffer.length payloadLen)
      (hroom : payload.length + 8 ≤ buffer.length) (hout : out.length = buffer.length) :
      UdpRule iphcRepr totalLen data buffer payloadLen decompressedLen
        (.ok ⟨out, payloadLen + (udpLen + 8), decompressedLen + (8 + payload.length)⟩)

/-- The header of a UDP datagram does not run over for other reasons than those of UDP headers. -/
lemma overruns_udp_iff (hudp : SixlowpanNhcPacket.dispatch data = .ok .udpHeader) {room used : ℕ} :
    Overruns iphcRepr totalLen .compressed data room used ↔
      ∃ payload repr, UdpNhcPacket.checkLen data = .ok () ∧
        UdpNhcPacket.payload data = .ok payload ∧
        UdpNhcRepr.parse false data iphcRepr.srcAddr iphcRepr.dstAddr = .ok repr ∧
        repr.headerLen + payload.length ≤ room ∧
        (room < payload.length + 8 ∨ ∃ n, totalLen = some n ∧ n < used + 8) := by
  constructor
  · rintro h
    cases h with
    | extLength hext => exact nomatch hudp.symm.trans hext
    | extHeader hext => exact nomatch hudp.symm.trans hext
    | udpRoom _ hcheck hpayload hrepr hroom hshort =>
      exact ⟨_, _, hcheck, hpayload, hrepr, hroom, .inl hshort⟩
    | udpTotal _ hcheck hpayload hrepr hroom htotal hshort =>
      exact ⟨_, _, hcheck, hpayload, hrepr, hroom, .inr ⟨_, htotal, hshort⟩⟩
  · rintro ⟨payload, repr, hcheck, hpayload, hrepr, hroom, hshort | ⟨n, htotal, hshort⟩⟩
    · exact .udpRoom hudp hcheck hpayload hrepr hroom hshort
    · exact .udpTotal hudp hcheck hpayload hrepr hroom htotal hshort

lemma decompressUdp_rule (hudp : SixlowpanNhcPacket.dispatch data = .ok .udpHeader) :
    UdpRule iphcRepr totalLen data buffer payloadLen decompressedLen
      (decompressUdp data iphcRepr buffer totalLen payloadLen decompressedLen) := by
  have hdispatch := SixlowpanNhcPacket.dispatch_safe data
  rw [hudp] at hdispatch
  have hsafe := UdpNhcPacket.checkLen_safe data
  unfold decompressUdp
  cases hcheck : UdpNhcPacket.checkLen data with
  | error e =>
    rw [hcheck] at hsafe
    cases e with
    | panic p => exact hsafe.elim
    | malformed =>
      refine .refused fun h => ?_
      obtain ⟨_, _, hok, -⟩ := (overruns_udp_iff hudp).mp h
      exact nomatch hcheck.symm.trans hok
  | ok u =>
    rw [hcheck] at hsafe
    obtain ⟨ports, sum, hwhole⟩ := hsafe
    have hpayload := hwhole.payload
    obtain ⟨repr, hrepr⟩ := hwhole.parse (hdispatch.2.2 rfl) iphcRepr.srcAddr iphcRepr.dstAddr
    generalize data.drop (1 + ports + sum) = payload at hpayload
    have hover : Overruns iphcRepr totalLen .compressed data buffer.length payloadLen ↔
        repr.headerLen + payload.length ≤ buffer.length ∧
          (buffer.length < payload.length + 8 ∨ ∃ n, totalLen = some n ∧ n < payloadLen + 8) := by
      rw [overruns_udp_iff hudp]
      constructor
      · rintro ⟨payload', repr', -, hpayload', hrepr', hroom, hshort⟩
        rw [hpayload] at hpayload'
        rw [hrepr] at hrepr'
        cases hpayload'
        cases hrepr'
        exact ⟨hroom, hshort⟩
      · rintro ⟨hroom, hshort⟩
        exact ⟨payload, repr, hcheck, hpayload, hrepr, hroom, hshort⟩
    rw [ok_bind, hpayload, ok_bind, hrepr, ok_bind]
    by_cases hroom : repr.headerLen + payload.length ≤ buffer.length
    case neg =>
      rw [reject_of (by omega), fail_bind]
      exact .refused fun h => hroom (hover.mp h).1
    rw [reject_of_not (by omega), ok_bind]
    rcases udpPayloadLen_cases totalLen payloadLen payload with ⟨len, hlen, htotal⟩ |
      ⟨p, hp, htotal⟩
    case inr =>
      rw [hp, error_bind]
      exact .overrun p (hover.mpr ⟨hroom, .inr htotal⟩)
    rw [hlen, ok_bind]
    by_cases hfit : payload.length + 8 ≤ buffer.length
    case neg =>
      rw [slice_short (.inl (by omega)), error_bind]
      exact .overrun _ (hover.mpr ⟨hroom, .inl (by omega)⟩)
    have hslice : (buffer.take (payload.length + 8)).length = payload.length + 8 :=
      List.length_take_of_le hfit
    have hmid : ((buffer.take (payload.length + 8)).drop 8).length = payload.length := by
      rw [List.length_drop, hslice, Nat.add_sub_cancel]
    rw [slice_of (Nat.zero_le _) hfit, List.drop_zero, ok_bind,
      emitHeader_eq _ (by rw [hslice]; omega), ok_bind]
    dsimp only
    rw [write_append (by rfl) hmid, ok_bind]
    refine .done ?_ hfit ?_
    · rw [hover]
      rintro ⟨-, hshort | hshort⟩
      · omega
      · exact htotal hshort
    · simp only [List.length_append, Octets.length_ofU16, List.length_drop]
      omega

/-- What the loop over the headers comes to. -/
inductive HeadersRule (iphcRepr : IphcRepr) (totalLen : Option ℕ) (nextHeader : NextHeader)
    (data buffer : List UInt8) (payloadLen decompressedLen : ℕ) :
    Checked (Written (ℕ × ℕ)) → Prop where
  | overrun (p : Panic) (h : Overruns iphcRepr totalLen nextHeader data buffer.length payloadLen) :
      HeadersRule iphcRepr totalLen nextHeader data buffer payloadLen decompressedLen (.error p)
  | done {out : List UInt8} {result : Except WireError (ℕ × ℕ)}
      (h : ¬ Overruns iphcRepr totalLen nextHeader data buffer.length payloadLen)
      (hout : out.length = buffer.length)
      (hlen : ∀ n m, result = .ok (n, m) →
        payloadLen ≤ n ∧ m ≤ decompressedLen + buffer.length) :
      HeadersRule iphcRepr totalLen nextHeader data buffer payloadLen decompressedLen
        (.ok (out, result))

lemma HeadersRule.refused {nextHeader : NextHeader}
    (h : ¬ Overruns iphcRepr totalLen nextHeader data buffer.length payloadLen) :
    HeadersRule iphcRepr totalLen nextHeader data buffer payloadLen decompressedLen
      (.ok (buffer, .error .mk)) :=
  .done h rfl nofun

/-- A compressed header that is not recognized does not run over. -/
lemma not_overruns_of_dispatch {room used : ℕ} {e : Fault}
    (h : SixlowpanNhcPacket.dispatch data = .error e) :
    ¬ Overruns iphcRepr totalLen .compressed data room used := by
  intro hover
  cases hover with
  | extLength hext => exact nomatch h.symm.trans hext
  | extHeader hext => exact nomatch h.symm.trans hext
  | udpRoom hudp => exact nomatch h.symm.trans hudp
  | udpTotal hudp => exact nomatch h.symm.trans hudp

open ExtHeaderPacket in
/-- An extension header runs over, or what follows it does. -/
lemma overruns_ext_iff (hext : SixlowpanNhcPacket.dispatch data = .ok .extHeader) {room used : ℕ} :
    Overruns iphcRepr totalLen .compressed data room used ↔ newChecked data = .ok () ∧
      (data.length < headerLen data + carried data ∨ headerLen data + carried data ≤ data.length ∧
        ∃ nh proto, nextHeader data = .ok nh ∧
          decompressNextHeader nh (data.drop (headerLen data + carried data)) = .ok proto ∧
          2 + carried data ≤ room ∧
          Overruns iphcRepr totalLen nh (data.drop (headerLen data + carried data))
            (room - (2 + carried data)) (used + (2 + carried data))) := by
  constructor
  · intro h
    cases h with
    | extLength _ hcheck hlen => exact ⟨hcheck, .inl hlen⟩
    | extHeader _ hcheck hlen hnh hproto hroom hrest =>
      exact ⟨hcheck, .inr ⟨hlen, _, _, hnh, hproto, hroom, hrest⟩⟩
    | udpRoom hudp => exact nomatch hext.symm.trans hudp
    | udpTotal hudp => exact nomatch hext.symm.trans hudp
  · rintro ⟨hcheck, hlen | ⟨hlen, nh, proto, hnh, hproto, hroom, hrest⟩⟩
    · exact .extLength hext hcheck hlen
    · exact .extHeader hext hcheck hlen hnh hproto hroom hrest

/-- The loop panics exactly where a header runs over. -/
lemma decompressHeaders_rule (nextHeader : NextHeader) (data buffer : List UInt8)
    (payloadLen decompressedLen : ℕ) :
    HeadersRule iphcRepr totalLen nextHeader data buffer payloadLen decompressedLen
      (decompressHeaders iphcRepr totalLen nextHeader data buffer payloadLen decompressedLen) := by
  -- every extension header leaves less to decompress
  induction hn : data.length using Nat.strong_induction_on generalizing nextHeader data buffer
    payloadLen decompressedLen with
  | _ n ih =>
  subst hn
  rw [decompressHeaders.eq_def]
  cases nextHeader with
  | uncompressed proto =>
    have hnot : ¬ Overruns iphcRepr totalLen (.uncompressed proto) data buffer.length payloadLen :=
      nofun
    dsimp only
    split_ifs with hproto hroom
    · exact .refused hnot
    · refine .done hnot ?_ ?_
      · simp
        omega
      · rintro n m ⟨⟩
        omega
    · exact .refused hnot
  | compressed =>
    have hsafe := SixlowpanNhcPacket.dispatch_safe data
    dsimp only
    cases hdispatch : SixlowpanNhcPacket.dispatch data with
    | error e =>
      rw [hdispatch] at hsafe
      cases e with
      | panic p => exact hsafe.elim
      | malformed => exact .refused (not_overruns_of_dispatch hdispatch)
    | ok nhc =>
      rw [hdispatch] at hsafe
      cases nhc with
      | udpHeader =>
        have hrule := @decompressUdp_rule iphcRepr totalLen data buffer payloadLen decompressedLen
          hdispatch
        dsimp only
        generalize decompressUdp data iphcRepr buffer totalLen payloadLen decompressedLen =
          x at hrule
        cases hrule with
        | refused h => exact .refused h
        | overrun p h => exact .overrun p h
        | done h hroom hout =>
          refine .done h hout ?_
          rintro n m ⟨⟩
          dsimp only
          omega
      | extHeader =>
        have hrule := decompressExtHdr_rule buffer (hsafe.2.1 rfl)
        dsimp only
        split
        case h_1 e he =>
          rw [he] at hrule
          cases hrule with
          | refused h =>
            refine .refused fun hover => h ?_
            obtain ⟨hcheck, hshort | ⟨-, nh, proto, hnh, hproto, hroom, -⟩⟩ :=
              (overruns_ext_iff hdispatch).mp hover
            · exact ⟨hcheck, .inl hshort⟩
            · exact ⟨hcheck, .inr ⟨nh, proto, hnh, hproto, hroom⟩⟩
          | overrun p hcheck hlen => exact .overrun p (.extLength hdispatch hcheck hlen)
        case h_2 ext hext =>
          have hlt := decompressExtHdr_lt hext
          rw [hext] at hrule
          cases hrule with
          | @done nh _ _ hcheck hlen hnh hproto hroom hwritten =>
            have hrest := ih _ hlt nh _ (buffer.drop (2 + ExtHeaderPacket.carried data))
              (payloadLen + (2 + ExtHeaderPacket.carried data))
              (decompressedLen + (2 + ExtHeaderPacket.carried data)) rfl
            dsimp only at hrest ⊢
            rw [hwritten]
            generalize decompressHeaders iphcRepr totalLen _ _ _ _ _ = x at hrest ⊢
            have hiff : Overruns iphcRepr totalLen .compressed data buffer.length payloadLen ↔
                Overruns iphcRepr totalLen nh (data.drop (ExtHeaderPacket.headerLen data +
                  ExtHeaderPacket.carried data))
                  (buffer.drop (2 + ExtHeaderPacket.carried data)).length
                  (payloadLen + (2 + ExtHeaderPacket.carried data)) := by
              rw [overruns_ext_iff hdispatch, List.length_drop]
              constructor
              · rintro ⟨-, hshort | ⟨-, nh, proto, hnh', -, -, hrest⟩⟩
                · omega
                · rw [hnh] at hnh'
                  cases hnh'
                  exact hrest
              · intro hrest
                exact ⟨hcheck, .inr ⟨hlen, _, _, hnh, hproto, hroom, hrest⟩⟩
            cases hrest with
            | overrun p h => exact .overrun p (hiff.mpr h)
            | done h hout hbound =>
              refine .done (fun hover => h (hiff.mp hover)) ?_ ?_
              · rw [List.length_append, hwritten, hout, List.length_drop]
                omega
              · intro n m hnm
                have := hbound n m hnm
                rw [List.length_drop] at this
                omega

/-! ### Packets -/

/-- The headers behind the IPv6 header of a packet make its decompression run over, in a buffer that
has `room` for them. -/
def PacketOverruns (addressContext : List AddressContext) (ieee802154Repr : Ieee802154Repr)
    (iphcPayload : List UInt8) (totalLen : Option ℕ) (room : ℕ) : Prop :=
  ∃ iphcRepr payload, IphcRepr.parse iphcPayload ieee802154Repr.srcAddr ieee802154Repr.dstAddr
      addressContext = .ok iphcRepr ∧ IphcPacket.payload iphcPayload = .ok payload ∧
    Overruns iphcRepr totalLen iphcRepr.nextHeader payload room ipv6HeaderLen

/-- What the decompression of a packet comes to. -/
inductive PacketRule (addressContext : List AddressContext) (ieee802154Repr : Ieee802154Repr)
    (iphcPayload : List UInt8) (totalLen : Option ℕ) (buffer : List UInt8) :
    Checked (Written ℕ) → Prop where
  | overrun (p : Panic) (h : PacketOverruns addressContext ieee802154Repr iphcPayload totalLen
      (buffer.length - ipv6HeaderLen)) :
      PacketRule addressContext ieee802154Repr iphcPayload totalLen buffer (.error p)
  | done {out : List UInt8} {result : Except WireError ℕ}
      (h : ¬ PacketOverruns addressContext ieee802154Repr iphcPayload totalLen
        (buffer.length - ipv6HeaderLen))
      (hout : out.length = buffer.length) (hlen : ∀ n, result = .ok n → n ≤ buffer.length) :
      PacketRule addressContext ieee802154Repr iphcPayload totalLen buffer (.ok (out, result))

variable {addressContext : List AddressContext} {ieee802154Repr : Ieee802154Repr}
  {iphcPayload : List UInt8}

/-- The decompression of a packet panics exactly where its headers run over. -/
lemma sixlowpanToIpv6_rule (hbuffer : ipv6HeaderLen ≤ buffer.length)
    (htotal : ∀ n, totalLen = some n → ipv6HeaderLen ≤ n) :
    PacketRule addressContext ieee802154Repr iphcPayload totalLen buffer
      (sixlowpanToIpv6 addressContext ieee802154Repr iphcPayload totalLen buffer) := by
  have hcheck := IphcPacket.checkLen_safe iphcPayload
  unfold sixlowpanToIpv6
  cases hok : IphcPacket.checkLen iphcPayload with
  | error e =>
    rw [hok] at hcheck
    cases e with
    | panic p => exact hcheck.elim
    | malformed =>
      refine .done ?_ rfl (by rintro _ ⟨⟩)
      rintro ⟨_, _, hparse, -⟩
      obtain ⟨_, hcheck', -⟩ := bind_eq_ok.mp hparse
      cases hok.symm.trans hcheck'
  | ok u =>
  rw [hok] at hcheck
  obtain ⟨cid, tf, nh, hlim, src, dst, hwhole⟩ := hcheck
  have hparse := hwhole.parse_safe ieee802154Repr.srcAddr ieee802154Repr.dstAddr addressContext
  simp only [attempt]
  cases hrepr : IphcRepr.parse iphcPayload ieee802154Repr.srcAddr ieee802154Repr.dstAddr
      addressContext with
  | error e =>
    rw [hrepr] at hparse
    cases e with
    | panic p => exact hparse.elim
    | malformed =>
      refine .done ?_ rfl (by rintro _ ⟨⟩)
      rintro ⟨_, _, hparse', -⟩
      cases hrepr.symm.trans hparse'
  | ok iphcRepr =>
  have hpayload := hwhole.payload
  generalize iphcPayload.drop (2 + cid + tf + nh + hlim + src + dst) = payload at hpayload
  have hslice : slice buffer 0 40 = .ok (buffer.take 40) := by
    rw [slice_of (Nat.zero_le _) (show 40 ≤ buffer.length from hbuffer), List.drop_zero]
  have htake : (buffer.take 40).length = 40 := List.length_take_of_le hbuffer
  have hover : PacketOverruns addressContext ieee802154Repr iphcPayload totalLen
      (buffer.length - ipv6HeaderLen) ↔ Overruns iphcRepr totalLen iphcRepr.nextHeader payload
        (buffer.drop 40).length 40 := by
    rw [PacketOverruns, hrepr, hpayload, List.length_drop]
    constructor
    · rintro ⟨_, _, ⟨⟩, ⟨⟩, h⟩
      exact h
    · exact fun h => ⟨_, _, rfl, rfl, h⟩
  dsimp only
  rw [hslice]
  dsimp only
  rw [hpayload]
  dsimp only
  have hrule := @decompressHeaders_rule iphcRepr totalLen iphcRepr.nextHeader payload
    (buffer.drop 40) 40 40
  generalize decompressHeaders iphcRepr totalLen iphcRepr.nextHeader payload
    (buffer.drop 40) 40 40 =
    x at hrule ⊢
  cases hrule with
  | overrun p h => exact .overrun p (hover.mpr h)
  | @done out result h hout hbound =>
  rw [List.length_drop] at hout
  have hrest : (buffer.take 40 ++ out).length = buffer.length := by
    rw [List.length_append, htake, hout]
    rw [ipv6HeaderLen] at hbuffer
    omega
  simp only [behind, Checked.ok_bind, Checked.pure_eq_ok]
  have hnot : ¬ PacketOverruns addressContext ieee802154Repr iphcPayload totalLen
      (buffer.length - ipv6HeaderLen) := fun hp => h (hover.mp hp)
  cases result with
  | error e => exact .done hnot hrest (by rintro _ ⟨⟩)
  | ok lens =>
  obtain ⟨n, m⟩ := lens
  obtain ⟨hn, hm⟩ := hbound n m rfl
  have hnext := decompressNextHeader_safe iphcRepr.nextHeader payload
  dsimp only
  cases hproto : decompressNextHeader iphcRepr.nextHeader payload with
  | error e =>
    rw [hproto] at hnext
    cases e with
    | panic p => exact hnext.elim
    | malformed => exact .done hnot hrest (by rintro _ ⟨⟩)
  | ok proto =>
  have hlen : 40 ≤ totalLen.getD n := by
    cases totalLen with
    | none => exact hn
    | some t => exact htotal t rfl
  dsimp only
  rw [sub_of_le hlen]
  dsimp only
  rw [Ipv6Repr.emit_eq _ htake]
  refine .done hnot ?_ ?_
  · rw [List.length_append, Ipv6Repr.length_octets, List.length_drop, hrest]
    rw [ipv6HeaderLen] at hbuffer ⊢
    omega
  · rintro _ ⟨⟩
    rw [List.length_drop] at hm
    rw [ipv6HeaderLen] at hbuffer
    omega

end Smoltcp
