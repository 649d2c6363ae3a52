import Smoltcp.Iface.Errors
import Smoltcp.Iface.Reassembly
import Smoltcp.Wire.IpRoundTrip

/-!
# What raw sockets receive

A raw socket is given a header made anew from what was parsed, and the payload that the interface
goes on to process. These belong together as long as the payload is that of the packet that was
parsed: not if it was reassembled from fragments, or if a hop-by-hop header was left out of it.
-/

namespace Smoltcp

/-! ### Reassembled payloads -/

namespace PacketAssembler

variable {κ : Type} {cfg : ReassemblyConfig} {pa pa' : PacketAssembler κ}
  {payload : List UInt8}

/-- What is handed out has the size that was told. -/
lemma assemble_eq_some (h : pa.assemble = .ok (pa', some payload)) :
    pa.totalSize = some payload.length := by
  unfold assemble at h
  split_ifs at h
  · obtain ⟨totalSize, htotal, h⟩ := Checked.bind_eq_ok.mp h
    obtain ⟨octets, hslice, h⟩ := Checked.bind_eq_ok.mp h
    cases h
    obtain ⟨-, hle, rfl⟩ := Checked.slice_eq_ok.mp hslice
    cases hsize : pa.totalSize with
    | none =>
      rw [hsize] at htotal
      cases htotal
    | some size =>
      rw [hsize] at htotal
      cases htotal
      rw [List.drop_zero, List.length_take, Nat.min_eq_left hle]
  · cases h

lemma totalSize_add {data : List UInt8} {offset : ℕ} (h : pa.add cfg data offset = .ok pa') :
    pa'.totalSize = pa.totalSize := by
  unfold add at h
  cases hresize : pa.resize cfg (offset + data.length) with
  | error e =>
    rw [hresize] at h
    cases h
  | ok pa₁ =>
    rw [hresize] at h
    cases h
    rw [totalSize_record]
    exact (resize_grows hresize).totalSize

lemma receiveData_eq_complete {data : List UInt8} {offset : ℕ}
    (h : pa.receiveData cfg (.octets data offset) = .ok (pa', .complete payload)) :
    pa.totalSize = some payload.length := by
  obtain ⟨⟨pa₁, r⟩, hadd, h⟩ := Checked.bind_eq_ok.mp h
  cases r with
  | error e => cases h
  | ok u =>
    obtain ⟨⟨pa₂, octets⟩, hassemble, h⟩ := Checked.bind_eq_ok.mp h
    cases octets with
    | none => cases h
    | some octets =>
      cases h
      have htotal : pa₁.totalSize = pa.totalSize := by
        rw [addData] at hadd
        cases hadd' : pa.add cfg data offset with
        | error e =>
          rw [hadd'] at hadd
          cases hadd
        | ok pa₃ =>
          rw [hadd'] at hadd
          cases hadd
          exact totalSize_add hadd'
      rw [← htotal]
      exact assemble_eq_some hassemble

/-- The size is that of the last fragment, or else was told before. -/
lemma receive_eq_complete {frag : Fragment κ} {data : List UInt8} {offset : ℕ}
    (hdata : frag.data = .octets data offset)
    (h : pa.receive cfg frag = .ok (pa', .complete payload)) :
    frag.totalSize.or pa.totalSize = some payload.length := by
  unfold receive at h
  rw [hdata] at h
  cases hsize : frag.totalSize with
  | none =>
    rw [hsize] at h
    exact receiveData_eq_complete h
  | some size =>
    rw [hsize] at h
    cases hset : pa.setTotalSize cfg size with
    | error e =>
      simp only [hset] at h
      cases h
    | ok pa₁ =>
      simp only [hset] at h
      have htotal := receiveData_eq_complete h
      unfold setTotalSize at hset
      split_ifs at hset
      cases hresize : pa.resize cfg size with
      | error e =>
        rw [hresize] at hset
        cases hset
      | ok pa₂ =>
        rw [hresize] at hset
        cases hset
        exact htotal

end PacketAssembler

lemma PacketAssemblerSet.receive_eq_complete {κ : Type} [DecidableEq κ] {cfg : ReassemblyConfig}
    {set set' : PacketAssemblerSet κ} {expiresAt : Instant} {frag : Fragment κ} {data : List UInt8}
    {offset : ℕ} {payload : List UInt8} (hdata : frag.data = .octets data offset)
    (h : set.receive cfg expiresAt frag = .ok (set', .complete payload)) :
    ∃ set₁ i slot, set.get frag.key expiresAt = .ok (set₁, i) ∧ set₁[i]? = some slot ∧
      frag.totalSize.or slot.totalSize = some payload.length := by
  unfold receive at h
  cases hget : set.get frag.key expiresAt with
  | error e =>
    rw [hget] at h
    cases h
  | ok r =>
    obtain ⟨set₁, i⟩ := r
    rw [hget] at h
    obtain ⟨slot, hslot, h⟩ := Checked.bind_eq_ok.mp h
    obtain ⟨⟨slot', r⟩, hreceive, h⟩ := Checked.bind_eq_ok.mp h
    cases h
    have hslot : set₁[i]? = some slot := by
      unfold Checked.index at hslot
      cases hi : set₁[i]? with
      | none =>
        simp only [hi] at hslot
        cases hslot
      | some slot₁ =>
        simp only [hi] at hslot
        rw [Except.ok.inj hslot]
    exact ⟨set₁, i, slot, rfl, hslot, PacketAssembler.receive_eq_complete hdata hreceive⟩

/-! ### Packets that were parsed -/

namespace Ipv4

variable {buf : List UInt8} {rx : Bool} {repr : Repr}

lemma checkLen_eq_ok {u : Unit} (h : checkLen buf = .ok u) :
    headerLen buf ≤ (totalLen buf).toNat ∧ (totalLen buf).toNat ≤ buf.length := by
  unfold checkLen at h
  split_ifs at h with _ _ htotal hlen
  exact ⟨not_lt.mp htotal, not_lt.mp hlen⟩

/-- What is parsed is framed by its length fields. -/
lemma Repr.parse_eq_ok (h : Repr.parse rx buf = .ok repr) :
    headerLen buf ≤ (totalLen buf).toNat ∧ (totalLen buf).toNat ≤ buf.length ∧
      repr.payloadLen = (totalLen buf).toNat - headerLen buf ∧
      repr.nextHeader = nextHeader buf := by
  unfold Repr.parse at h
  cases hcheck : checkLen buf with
  | error e =>
    rw [hcheck] at h
    cases h
  | ok u =>
    rw [hcheck] at h
    obtain ⟨hheader, htotal⟩ := checkLen_eq_ok hcheck
    by_cases hversion : version buf ≠ 4
    · rw [if_pos hversion] at h
      cases h
    rw [if_neg hversion] at h
    by_cases hsum : rx ∧ ¬ verifyChecksum buf
    · rw [if_pos hsum] at h
      cases h
    rw [if_neg hsum] at h
    cases h
    exact ⟨hheader, htotal, rfl, rfl⟩

lemma Repr.length_payload (h : Repr.parse rx buf = .ok repr) :
    (payload buf).length = repr.payloadLen := by
  obtain ⟨-, hle, hlen, -⟩ := parse_eq_ok h
  rw [payload, List.length_drop, List.length_take, Nat.min_eq_left hle, hlen]

end Ipv4

/-! ### Packets for raw sockets -/

/-- What an accepting raw socket enqueues: the header anew, and the payload. -/
def Raw.received (checksum : ChecksumCapabilities) (ipRepr : IpRepr) (payload : List UInt8) :
    List UInt8 :=
  ipRepr.headerOctets checksum ++ payload

/-- The octets are one packet with the addresses of the header and the given payload, and its fields
tell the length of the octets and the protocol of the payload. -/
def IsWhole (checksum : ChecksumCapabilities) (octets : List UInt8) (ipRepr : IpRepr)
    (nextHeader : IpProtocol) (payload : List UInt8) : Prop :=
  match ipRepr with
  | .ipv4 repr => (Ipv4.totalLen octets).toNat = octets.length ∧
      Ipv4.nextHeader octets = nextHeader ∧
      ∃ parsed, Ipv4.Repr.parse checksum.ipv4.verifies octets = .ok parsed ∧
        parsed.srcAddr = repr.srcAddr ∧ parsed.dstAddr = repr.dstAddr ∧
        Ipv4.payload octets = payload
  | .ipv6 repr => Ipv6Packet.totalLen octets = .ok octets.length ∧
      Ipv6Packet.nextHeader octets = .ok nextHeader ∧
      ∃ parsed, Ipv6Repr.parse octets = .ok parsed ∧
        parsed.srcAddr = repr.srcAddr ∧ parsed.dstAddr = repr.dstAddr ∧
        Ipv6Packet.payload octets = .ok payload

namespace IsWhole

variable {checksum : ChecksumCapabilities} {payload : List UInt8}

/-- For IPv4, when the length that was parsed is that of the payload, and the checksum, if it is
verified, is filled in. -/
lemma ipv4_iff {repr : Ipv4.Repr} (hlt : repr.payloadLen < 2 ^ 16)
    (hnext : .ofByte repr.nextHeader.toByte = repr.nextHeader) :
    IsWhole checksum (Raw.received checksum (.ipv4 repr) payload) (.ipv4 repr) repr.nextHeader
        payload ↔
      20 + repr.payloadLen < 2 ^ 16 ∧ payload.length = repr.payloadLen ∧
        (checksum.ipv4.verifies → (checksum.ipv4.computes ∨ repr.header.sum = 0)) := by
  have hoctets : Raw.received checksum (.ipv4 repr) payload =
      (repr.emitted checksum.ipv4.computes).octets ++ payload := by
    rw [Raw.received, IpRepr.headerOctets, Ipv4.Repr.emit_replicate]
  have hlength : ((repr.emitted checksum.ipv4.computes).octets ++ payload).length =
      20 + payload.length := by
    simp
  rw [hoctets, IsWhole, Ipv4.toNat_totalLen_emitted, hlength]
  constructor
  · rintro ⟨htotal, -, parsed, hparse, -⟩
    have hfits : 20 + repr.payloadLen < 2 ^ 16 ∧ payload.length = repr.payloadLen := by
      have hmod := Nat.mod_add_div (20 + repr.payloadLen) (2 ^ 16)
      omega
    obtain ⟨hlen, hpayload⟩ := hfits
    refine ⟨hlen, hpayload, ?_⟩
    rw [Ipv4.parse_emitted _ _ _ _ hlen hpayload.ge] at hparse
    by_contra hsum
    rw [if_neg hsum] at hparse
    cases hparse
  · rintro ⟨hlen, hpayload, hsum⟩
    refine ⟨?_, ?_, { repr with nextHeader := .ofByte repr.nextHeader.toByte }, ?_, rfl, rfl, ?_⟩
    · rw [Nat.mod_eq_of_lt hlen, hpayload]
    · rw [Ipv4.nextHeader_emitted, hnext]
    · rw [Ipv4.parse_emitted _ _ _ _ hlen hpayload.ge, if_pos hsum]
    · rw [Ipv4.payload_emitted _ _ _ hlen, ← hpayload, List.take_length]

/-- For IPv6, when the length that was parsed is that of the payload, and the protocol is that of
the header. -/
lemma ipv6_iff {repr : Ipv6Repr} {nextHeader : IpProtocol} (hlt : repr.payloadLen < 2 ^ 16)
    (hnext : .ofByte repr.nextHeader.toByte = repr.nextHeader) :
    IsWhole checksum (Raw.received checksum (.ipv6 repr.toHeader) payload) (.ipv6 repr.toHeader)
        nextHeader payload ↔
      payload.length = repr.payloadLen ∧ nextHeader = repr.nextHeader := by
  have hoctets : Raw.received checksum (.ipv6 repr.toHeader) payload = repr.octets ++ payload := rfl
  have hlen : 6 < (repr.octets ++ payload).length := by
    rw [List.length_append, Ipv6Repr.length_octets, ipv6HeaderLen]
    omega
  have htotal : Ipv6Packet.totalLen (repr.octets ++ payload) = .ok (40 + repr.payloadLen) := by
    rw [Ipv6Packet.totalLen, Ipv6Packet.payloadLen, Outcome.readU16_of (by omega),
      Outcome.ok_bind, Ipv6Repr.readPayloadLen_octets, UInt16.toNat_ofNat', Nat.mod_eq_of_lt hlt]
    rfl
  have hprotocol : Ipv6Packet.nextHeader (repr.octets ++ payload) = .ok repr.nextHeader := by
    rw [Ipv6Packet.nextHeader, Outcome.index_get hlen, Outcome.ok_bind, ← hnext]
    rfl
  have hlength : (repr.octets ++ payload).length = 40 + payload.length := by
    rw [List.length_append, Ipv6Repr.length_octets]
    rfl
  rw [hoctets, IsWhole, htotal, hprotocol, hlength]
  constructor
  · rintro ⟨htotal, hprotocol, -⟩
    have htotal := Except.ok.inj htotal
    exact ⟨by omega, (Except.ok.inj hprotocol).symm⟩
  · rintro ⟨hpayload, rfl⟩
    refine ⟨by rw [hpayload], rfl, _, repr.parse_octets payload hlt hpayload.ge, rfl, rfl, ?_⟩
    rw [repr.payload_octets payload hlt hpayload.ge, ← hpayload, List.take_length]

end IsWhole

/-- What a raw socket does with a packet that it accepts. -/
lemma Raw.Socket.process_of_accepts {s : Raw.Socket} {checksum : ChecksumCapabilities}
    {ipRepr : IpRepr} {payload : List UInt8} (haccepts : s.accepts ipRepr) (hwf : s.rxBuffer.Wf) :
    ∃ rxBuffer, s.process checksum ipRepr payload = .ok { s with rxBuffer } ∧ rxBuffer.Wf ∧
      (rxBuffer.queue = s.rxBuffer.queue ∨
        rxBuffer.queue = s.rxBuffer.queue ++ [((), Raw.received checksum ipRepr payload)]) := by
  obtain ⟨rxBuffer, outcome, hstep, hwf', hqueue⟩ :=
    PacketBuffer.enqueue_refines (ε := Unit) (ρ := Unit) hwf
      (Raw.received checksum ipRepr payload).length ()
      (Writer.ofLength (Raw.received checksum ipRepr payload))
  obtain ⟨⟨rxBuffer', r⟩, henqueue, hstep⟩ := Checked.bind_eq_ok.mp hstep
  cases hstep
  refine ⟨rxBuffer, ?_, hwf', ?_⟩
  · rw [process, Checked.assert_of haccepts, Checked.ok_bind]
    change s.rxBuffer.enqueue (Raw.received checksum ipRepr payload).length ()
      (Writer.ofLength (Raw.received checksum ipRepr payload)) >>= _ = _
    rw [henqueue]
    rfl
  · generalize rxBuffer.queue = after at hqueue ⊢
    generalize s.rxBuffer.queue = before at hqueue ⊢
    cases hqueue with
    | enqueue =>
      rename_i buf hbuf
      rw [Writer.ofLength, dif_pos hbuf.symm]
      exact .inr rfl
    | enqueueFull => exact .inl rfl

namespace Stack

variable {cfg : StackConfig} {st : Stack cfg} {buf ipPayload : List UInt8} {version : IpVersion}
  {ipRepr : IpRepr} {nextHeader : IpProtocol} {hw : HardwareAddress}

/-- A received packet gets as far as the raw sockets, which are given its header and its payload, of
the given protocol. -/
def OffersRaw (st : Stack cfg) (buf : List UInt8) (ipRepr : IpRepr) (nextHeader : IpProtocol)
    (ipPayload : List UInt8) : IpVersion → Prop
  | .ipv4 => ∃ ipv4Repr st₁,
      Ipv4.Repr.parse st.inner.checksum.ipv4.verifies buf = .ok ipv4Repr ∧
      (st.inner.isUnicastV4 ipv4Repr.srcAddr ∨ Ipv4.isUnspecified ipv4Repr.srcAddr) ∧
      st.reassemble buf = .ok (st₁, some ipPayload) ∧
      ipRepr = .ipv4 ipv4Repr ∧ nextHeader = ipv4Repr.nextHeader
  | .ipv6 => ∃ ipv6Repr payload, Ipv6Repr.parse buf = .ok ipv6Repr ∧
      Ipv6.isUnicast ipv6Repr.srcAddr ∧ Ipv6Packet.payload buf = .ok payload ∧
      UpperLayer cfg.iface ipv6Repr payload nextHeader ipPayload ∧
      st.inner.takesFor (.ipv6 ipv6Repr.dstAddr) = .ok true ∧ ipRepr = .ipv6 ipv6Repr.toHeader

lemma ipv4Fragment_eq_ok {frag : Fragment Ipv4.Key} (h : ipv4Fragment buf = .ok frag) :
    frag.key = Ipv4.getKey buf ∧
      frag.data = .octets (Ipv4.payload buf) (Ipv4.fragOffset buf).toNat ∧
      frag.totalSize = if Ipv4.moreFrags buf then none else
        some ((Ipv4.totalLen buf).toNat - Ipv4.headerLen buf + (Ipv4.fragOffset buf).toNat) := by
  unfold ipv4Fragment at h
  dsimp only at h
  split_ifs at h ⊢
  · cases h
    exact ⟨rfl, rfl, rfl⟩
  · obtain ⟨len, hlen, h⟩ := Checked.bind_eq_ok.mp h
    cases h
    obtain ⟨-, rfl⟩ := Checked.sub_eq_ok.mp hlen
    exact ⟨rfl, rfl, rfl⟩

/-- The packet is a fragment. -/
def IsFragment (buf : List UInt8) : Prop := Ipv4.moreFrags buf ∨ Ipv4.fragOffset buf ≠ 0

/-- The size of the datagram that a fragment is part of: it follows from the last fragment, or was
told to the slot of the datagram before. -/
def datagramSize (st : Stack cfg) (buf : List UInt8) : Option ℕ :=
  if Ipv4.moreFrags buf then
    match st.fragments.assembler.get (.ipv4 (Ipv4.getKey buf))
        (st.inner.now.add st.fragments.reassemblyTimeout) with
    | .error _ => none
    | .ok (assembler, i) => assembler[i]?.bind (·.totalSize)
  else some ((Ipv4.totalLen buf).toNat - Ipv4.headerLen buf + (Ipv4.fragOffset buf).toNat)

/-- The payload of a packet, if it is not a fragment, and a payload of the size of the datagram, if
it is. -/
lemma reassemble_eq_some {st₁ : Stack cfg} (h : st.reassemble buf = .ok (st₁, some ipPayload)) :
    (¬ IsFragment buf ∧ ipPayload = Ipv4.payload buf) ∨
      (IsFragment buf ∧ st.datagramSize buf = some ipPayload.length) := by
  unfold reassemble at h
  split_ifs at h with hfragment
  swap
  · cases h
    exact .inl ⟨hfragment, rfl⟩
  refine .inr ⟨hfragment, ?_⟩
  obtain ⟨frag, hfrag, h⟩ := Checked.bind_eq_ok.mp h
  obtain ⟨⟨assembler, r⟩, hreceive, h⟩ := Checked.bind_eq_ok.mp h
  cases r with
  | complete payload =>
    cases h
    obtain ⟨hkey, hdata, hsize⟩ := ipv4Fragment_eq_ok hfrag
    have hdata : (⟨.ipv4 frag.key, frag.totalSize, frag.data⟩ : Fragment FragKey).data =
      .octets (Ipv4.payload buf) (Ipv4.fragOffset buf).toNat := hdata
    obtain ⟨set, i, slot, hget, hslot, htotal⟩ :=
      PacketAssemblerSet.receive_eq_complete hdata hreceive
    dsimp only at hget htotal
    rw [hkey] at hget
    rw [hsize] at htotal
    unfold datagramSize
    split_ifs at htotal ⊢
    · rw [hget]
      dsimp only
      rw [hslot]
      exact htotal
    · exact htotal
  | _ => cases h

/-- When a packet suits a raw socket: an IPv4 packet that is not reassembled to another length, and
an IPv6 packet without hop-by-hop header. -/
def SuitsRaw (st : Stack cfg) (buf : List UInt8) : IpVersion → Prop
  | .ipv4 => ∀ repr, Ipv4.Repr.parse st.inner.checksum.ipv4.verifies buf = .ok repr →
      20 + repr.payloadLen < 2 ^ 16 ∧
      (st.inner.checksum.ipv4.verifies →
        (st.inner.checksum.ipv4.computes ∨ repr.header.sum = 0)) ∧
      (IsFragment buf → st.datagramSize buf = some repr.payloadLen)
  | .ipv6 => ∀ repr, Ipv6Repr.parse buf = .ok repr → repr.nextHeader ≠ .hopByHop

lemma isWhole_ipv4_iff (h : st.OffersRaw buf ipRepr nextHeader ipPayload .ipv4) :
    IsWhole st.inner.checksum (Raw.received st.inner.checksum ipRepr ipPayload) ipRepr nextHeader
      ipPayload ↔ st.SuitsRaw buf .ipv4 := by
  obtain ⟨repr, st₁, hparse, -, hreassemble, rfl, rfl⟩ := h
  obtain ⟨-, -, hlen, hprotocol⟩ := Ipv4.Repr.parse_eq_ok hparse
  have hlt : repr.payloadLen < 2 ^ 16 := by
    have := (Ipv4.totalLen buf).toNat_lt
    omega
  have hnext : .ofByte repr.nextHeader.toByte = repr.nextHeader := by
    rw [hprotocol, Ipv4.nextHeader, IpProtocol.toByte_ofByte]
  have hsize : ipPayload.length = repr.payloadLen ↔
      (IsFragment buf → st.datagramSize buf = some repr.payloadLen) := by
    obtain ⟨hnot, rfl⟩ | ⟨hfragment, hsize⟩ := reassemble_eq_some hreassemble
    · exact iff_of_true (Ipv4.Repr.length_payload hparse) fun hfragment => absurd hfragment hnot
    · rw [hsize, Option.some_inj]
      exact ⟨fun h _ => h, fun h => h hfragment⟩
  rw [IsWhole.ipv4_iff hlt hnext, hsize]
  constructor
  · rintro ⟨hfits, hsize, hsum⟩ repr' hparse'
    obtain rfl := Except.ok.inj (hparse.symm.trans hparse')
    exact ⟨hfits, hsum, hsize⟩
  · intro hsuits
    obtain ⟨hfits, hsum, hsize⟩ := hsuits repr hparse
    exact ⟨hfits, hsize, hsum⟩

lemma isWhole_ipv6_iff (h : st.OffersRaw buf ipRepr nextHeader ipPayload .ipv6) :
    IsWhole st.inner.checksum (Raw.received st.inner.checksum ipRepr ipPayload) ipRepr nextHeader
      ipPayload ↔ st.SuitsRaw buf .ipv6 := by
  obtain ⟨repr, payload, hparse, -, hpayload, hupper, -, rfl⟩ := h
  obtain ⟨hframed, -, hrepr⟩ := Ipv6Repr.parse_eq_ok_iff.mp hparse
  have hlen : repr.payloadLen = (Octets.readU16 buf 4).toNat := by rw [hrepr, Ipv6Repr.ofOctets]
  have hlt : repr.payloadLen < 2 ^ 16 := by
    rw [hlen]
    exact UInt16.toNat_lt _
  have hnext : .ofByte repr.nextHeader.toByte = repr.nextHeader := by
    rw [hrepr, Ipv6Repr.ofOctets, IpProtocol.toByte_ofByte]
  -- the whole payload has the length that was parsed
  have hlength : payload.length = repr.payloadLen := by
    obtain rfl := Except.ok.inj (hframed.payload_eq.symm.trans hpayload)
    rw [List.length_take, List.length_drop, ← hlen, Nat.min_eq_left]
    unfold Ipv6Packet.Framed at hframed
    omega
  rw [IsWhole.ipv6_iff hlt hnext]
  constructor
  · rintro ⟨hsize, hprotocol⟩ repr' hparse'
    obtain rfl := Except.ok.inj (hparse.symm.trans hparse')
    obtain ⟨hnot, -⟩ | ⟨-, extRepr, hbhRepr, -, -, -, hslice⟩ := hupper
    · exact hnot
    · obtain ⟨hle, -, rfl⟩ := Checked.slice_eq_ok.mp hslice
      rw [List.take_length, List.length_drop, hlength, Ipv6ExtHeaderRepr.headerLen] at hsize
      rw [Ipv6ExtHeaderRepr.headerLen, hlength] at hle
      omega
  · intro hsuits
    obtain ⟨-, rfl, rfl⟩ | ⟨hhop, -⟩ := hupper
    · exact ⟨hlength, rfl⟩
    · exact absurd hhop (hsuits repr hparse)

open InterfaceInner (exampleIface)

/-- A stack without sockets. -/
def exampleStack : Stack .default :=
  ⟨exampleIface, .new StackConfig.default.reassembly, .new 0, []⟩

/-- A datagram to all nodes behind a hop-by-hop header with padding. -/
def exampleHopByHop : List UInt8 :=
  Ipv6Repr.octets ⟨0xfe80 <<< 112 ||| 2, Ipv6.linkLocalAllNodes, .hopByHop, 16, 64⟩ ++
    [17, 0, 1, 4, 0, 0, 0, 0, 0, 1, 0, 9, 0, 8, 0, 0]

end Stack

end Smoltcp
