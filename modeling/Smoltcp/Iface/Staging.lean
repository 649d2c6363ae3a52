import Smoltcp.Iface.Dispatch

/-!
# A datagram in fragmentation

`Staging` says what the fragmenter holds while a datagram is transmitted over IPv4: its whole
payload, and how much of that has been sent. A fragment that is transmitted carries the next octets
of it and leaves the rest staged.
-/

namespace Smoltcp

open Octets Ipv4

/-- The largest payload of a fragment. -/
def DeviceCapabilities.fragLen (caps : DeviceCapabilities) : ℕ := caps.ipMtu - ipv4HeaderLen

/-- An IPv4 packet that fits into the length field of its header. -/
structure Ipv4Datagram where
  repr : Ipv4.Repr
  dstHardwareAddr : EthernetAddress
  emitPayload : Emitter
  total_lt : ipv4HeaderLen + repr.payloadLen < 2 ^ 16
  dstAddr_ne : repr.dstAddr ≠ 0

/-- What stays the same for all fragments of a datagram. -/
structure Ipv4Stream where
  repr : Ipv4.Repr
  dstHardwareAddr : EthernetAddress
  ident : UInt16
  payload : List UInt8
  total_lt : ipv4HeaderLen + payload.length < 2 ^ 16

/-- The key under which a datagram is reassembled. -/
def Ipv4Stream.key (d : Ipv4Stream) : Key :=
  ⟨d.ident, d.repr.srcAddr, d.repr.dstAddr, .ofByte d.repr.nextHeader.toByte⟩

/-- The fragment with the `n` octets of the payload behind the first `sent`. -/
def Ipv4Stream.fragment (caps : DeviceCapabilities) (d : Ipv4Stream) (sent n : ℕ) : Frame where
  dstHardwareAddr := d.dstHardwareAddr
  packet :=
    (Repr.fragment caps.checksumIpv4Tx { d.repr with payloadLen := n } d.ident
      (decide (sent + n ≠ d.payload.length)) (.ofNat sent)).octets ++ (d.payload.drop sent).take n

/-- What a receiver reads from a fragment of the datagram. -/
lemma Ipv4Stream.reads_fragment (caps : DeviceCapabilities) {d : Ipv4Stream} {sent n : ℕ}
    (hn : sent + n ≤ d.payload.length) :
    Reads (d.fragment caps sent n).packet { d.repr with payloadLen := n } d.ident
      (decide (sent + n ≠ d.payload.length)) sent ((d.payload.drop sent).take n) := by
  have htotal := d.total_lt
  unfold ipv4HeaderLen at htotal
  have hlen : ((d.payload.drop sent).take n).length = n := by
    rw [List.length_take, List.length_drop]
    omega
  have hoff : (UInt16.ofNat sent).toNat = sent := by
    rw [UInt16.toNat_ofNat']
    omega
  have hreads := Repr.reads_fragment caps.checksumIpv4Tx { d.repr with payloadLen := n } d.ident
    (decide (sent + n ≠ d.payload.length)) (.ofNat sent) hlen (by omega)
  rw [hoff] at hreads
  exact hreads

/-- A receiver that verifies no more than was filled in accepts it. -/
lemma Ipv4Stream.parse_fragment {caps : DeviceCapabilities} {d : Ipv4Stream} {sent n : ℕ}
    (hn : sent + n ≤ d.payload.length) {rx : Bool} (hck : rx = true → caps.checksumIpv4Tx = true) :
    ∃ r, Repr.parse rx (d.fragment caps sent n).packet = .ok r := by
  have htotal := d.total_lt
  unfold ipv4HeaderLen at htotal
  have hlen : ((d.payload.drop sent).take n).length = n := by
    rw [List.length_take, List.length_drop]
    omega
  exact Repr.parse_fragment hck _ _ _ _ hlen (by omega)

/-- The fragmenter holds a datagram of which `sent` octets of payload have been transmitted. -/
structure Staging (d : Ipv4Stream) (sent : ℕ) (frag : Fragmenter) : Prop where
  packetLen : frag.packetLen = ipv4HeaderLen + d.payload.length
  sentBytes : frag.sentBytes = ipv4HeaderLen + sent
  sent_le : sent ≤ d.payload.length
  repr : ∃ n, frag.ipv4.repr = { d.repr with payloadLen := n }
  dstHardwareAddr : frag.ipv4.dstHardwareAddr = d.dstHardwareAddr
  fragOffset : frag.ipv4.fragOffset = .ofNat sent
  ident : frag.ipv4.ident = d.ident
  buffer_le : ipv4HeaderLen + d.payload.length ≤ frag.buffer.length
  payload : (frag.buffer.drop ipv4HeaderLen).take d.payload.length = d.payload

section

variable {caps : DeviceCapabilities} {d : Ipv4Stream} {sent : ℕ} {frag frag' : Fragmenter}

lemma Staging.finished_iff (h : Staging d sent frag) : frag.finished ↔ sent = d.payload.length := by
  unfold Fragmenter.finished
  rw [h.packetLen, h.sentBytes]
  omega

lemma Staging.not_isEmpty (h : Staging d sent frag) : ¬ frag.isEmpty := by
  unfold Fragmenter.isEmpty
  rw [h.packetLen]
  unfold ipv4HeaderLen
  omega

/-- The octets of the payload that are staged for a fragment. -/
lemma Staging.slice (h : Staging d sent frag) {n : ℕ} (hn : sent + n ≤ d.payload.length) :
    Checked.slice frag.buffer (sent + ipv4HeaderLen) (sent + ipv4HeaderLen + n) =
      .ok ((d.payload.drop sent).take n) := by
  have hle := h.buffer_le
  rw [Checked.slice_of (by omega) (by omega), List.drop_take]
  congr 1
  rw [Nat.add_sub_cancel_left, ← h.payload, List.drop_take, List.take_take, List.drop_drop,
    Nat.add_comm ipv4HeaderLen sent]
  congr 1
  omega

lemma dispatchIpv4Frag_spec (h : Staging d sent frag) (hmtu : ipv4HeaderLen ≤ caps.ipMtu) {n : ℕ}
    (hn : n = min (d.payload.length - sent) caps.fragLen) :
    ∃ frag', dispatchIpv4Frag caps frag = .ok (frag', d.fragment caps sent n) ∧
      Staging d (sent + n) frag' := by
  obtain ⟨m, hrepr⟩ := h.repr
  have hle := h.sent_le
  have htotal := d.total_lt
  have hoff : (UInt16.ofNat sent).toNat = sent := by
    rw [UInt16.toNat_ofNat']
    omega
  have hleft : Checked.sub frag.packetLen frag.sentBytes = .ok (d.payload.length - sent) := by
    rw [h.packetLen, h.sentBytes, Checked.sub_of_le (by omega)]
    congr 1
    omega
  have hsub : Checked.sub (min (d.payload.length - sent + ipv4HeaderLen) caps.ipMtu) ipv4HeaderLen =
      .ok n := by
    rw [Checked.sub_of_le (by omega), hn]
    unfold DeviceCapabilities.fragLen
    congr 1
    omega
  have hslice := h.slice (n := n) (by omega)
  have hmore : decide (d.payload.length - sent ≠ n) = decide (sent + n ≠ d.payload.length) := by
    congr 1
    exact propext (by omega)
  have hemit := Repr.setFragment_emit caps.checksumIpv4Tx { d.repr with payloadLen := n } d.ident
    (decide (sent + n ≠ d.payload.length)) (.ofNat sent)
    (show 20 ≤ (List.replicate ipv4HeaderLen 0).length by simp [ipv4HeaderLen])
  rw [List.drop_of_length_le (by simp [ipv4HeaderLen]), List.append_nil] at hemit
  refine ⟨{ frag with
    sentBytes := frag.sentBytes + n
    ipv4 := { frag.ipv4 with
      repr := { frag.ipv4.repr with payloadLen := n }
      fragOffset := frag.ipv4.fragOffset + .ofNat n } }, ?_, ?_⟩
  · unfold dispatchIpv4Frag
    simp only [Repr.bufferLen_eq, hleft, Checked.ok_bind, hsub, h.fragOffset, hoff, hslice, hmore,
      h.ident, h.dstHardwareAddr, hrepr, hemit]
    rfl
  refine ⟨h.packetLen, ?_, by omega, ⟨n, by rw [hrepr]⟩, h.dstHardwareAddr, ?_, h.ident,
    h.buffer_le, h.payload⟩
  · change frag.sentBytes + n = _
    rw [h.sentBytes]
    omega
  · change frag.ipv4.fragOffset + .ofNat n = _
    rw [h.fragOffset, UInt16.ofNat_add]

/-- What is emitted in front of the payload does not depend on what was in the buffer. -/
lemma emitIp_eq {repr : Repr} {emitPayload : Emitter} {buf : List UInt8} (hbuf : 20 ≤ buf.length)
    {out : { out : List UInt8 // out.length = (buf.drop ipv4HeaderLen).length }}
    (hemit : emitPayload (buf.drop ipv4HeaderLen) = .ok out) :
    emitIp caps repr emitPayload buf =
      .ok (repr.emit caps.checksumIpv4Tx (buf.take ipv4HeaderLen ++ out.1)) := by
  obtain ⟨h, rest, rfl⟩ : ∃ h : Header, ∃ rest, buf = h.octets ++ rest :=
    (Header.exists_octets hbuf).imp fun h heq => ⟨_, heq⟩
  change emitPayload rest = .ok out at hemit
  unfold emitIp
  rw [Repr.emit_eq]
  change (emitPayload rest >>= fun payload => .ok (_ ++ payload.1)) = _
  rw [hemit]
  change _ = Except.ok (repr.emit caps.checksumIpv4Tx (h.octets ++ out.1))
  rw [Repr.emit_eq]
  rfl

/-- The payload is emitted behind the header, in what was there before. -/
lemma emitPayload_of_emitIp {repr : Repr} {emitPayload : Emitter} {buf out : List UInt8}
    (hbuf : 20 ≤ buf.length) (h : emitIp caps repr emitPayload buf = .ok out) :
    ∃ out, emitPayload (buf.drop ipv4HeaderLen) = .ok out := by
  obtain ⟨hdr, rest, rfl⟩ : ∃ h : Header, ∃ rest, buf = h.octets ++ rest :=
    (Header.exists_octets hbuf).imp fun h heq => ⟨_, heq⟩
  unfold emitIp at h
  rw [Repr.emit_eq] at h
  obtain ⟨out, hout, -⟩ := Checked.bind_eq_ok.mp h
  exact ⟨out, hout⟩

/-- A packet that is too large is staged, and its first fragment is transmitted. -/
lemma dispatchIpv4_spec {repr : Repr} {emitPayload : Emitter}
    {out : { out : List UInt8 // out.length = (frag.buffer.drop ipv4HeaderLen).length }}
    (ident : UInt16) (dst : EthernetAddress) (hdst : repr.dstAddr ≠ 0)
    (hmtu : ipv4HeaderLen ≤ caps.ipMtu) (hlarge : caps.ipMtu < ipv4HeaderLen + repr.payloadLen)
    (htotal : ipv4HeaderLen + repr.payloadLen < 2 ^ 16)
    (hbuffer : ipv4HeaderLen + repr.payloadLen ≤ frag.buffer.length)
    (hemit : emitPayload (frag.buffer.drop ipv4HeaderLen) = .ok out) :
    ∃ d : Ipv4Stream, d.repr = repr ∧ d.dstHardwareAddr = dst ∧ d.ident = ident ∧
      d.payload = out.1.take repr.payloadLen ∧
      ∃ frag', dispatchIpv4 caps ident dst repr emitPayload frag =
        .ok (frag', some (d.fragment caps 0 caps.fragLen)) ∧ Staging d caps.fragLen frag' := by
  have hout := out.2.trans List.length_drop
  have hlen : (out.1.take repr.payloadLen).length = repr.payloadLen := by
    rw [List.length_take, hout]
    omega
  have hsub : Checked.sub caps.ipMtu ipv4HeaderLen = .ok caps.fragLen := Checked.sub_of_le hmtu
  have hfrag : caps.fragLen < repr.payloadLen := by
    unfold DeviceCapabilities.fragLen
    omega
  have hheader : 20 ≤ (frag.buffer.take ipv4HeaderLen ++ out.1).length := by
    simp only [List.length_append, List.length_take]
    unfold ipv4HeaderLen at *
    omega
  have hfirst := Repr.setFragment_emit caps.checksumIpv4Tx { repr with payloadLen := caps.fragLen }
    ident true 0 hheader
  have hdrop : (frag.buffer.take ipv4HeaderLen ++ out.1).drop 20 = out.1 :=
    List.drop_left' (List.length_take_of_le (by omega))
  rw [hdrop] at hfirst
  refine ⟨⟨repr, dst, ident, out.1.take repr.payloadLen, by omega⟩, rfl, rfl, rfl, rfl, ?_⟩
  have hlong : 20 ≤ frag.buffer.length := by
    unfold ipv4HeaderLen at hbuffer
    omega
  have hip : emitIp caps { repr with payloadLen := caps.fragLen } emitPayload frag.buffer = _ :=
    emitIp_eq hlong hemit
  unfold dispatchIpv4
  simp only [Checked.assert_of hdst, Checked.ok_bind, Repr.bufferLen_eq, if_pos hlarge,
    if_neg (show ¬ frag.buffer.length < ipv4HeaderLen + repr.payloadLen by omega), hsub, hip,
    hfirst]
  have hipMtu : caps.ipMtu = 20 + caps.fragLen := by
    unfold DeviceCapabilities.fragLen
    unfold ipv4HeaderLen at *
    omega
  have htake : ∀ h : Header, (h.octets ++ out.1).take caps.ipMtu =
      h.octets ++ out.1.take caps.fragLen := fun h => by
    rw [hipMtu, ← Header.length_octets h, List.take_length_add_append]
  have hmore : decide (0 + caps.fragLen ≠ (out.1.take repr.payloadLen).length) = true :=
    decide_eq_true (by omega)
  simp only [Ipv4Stream.fragment, htake, hmore, List.drop_zero, List.take_take,
    Nat.min_eq_left hfrag.le]
  refine ⟨_, rfl, ?_⟩
  refine ⟨?_, hipMtu, ?_, ⟨repr.payloadLen, rfl⟩, rfl, rfl, rfl, ?_, ?_⟩
  · exact congrArg (ipv4HeaderLen + ·) hlen.symm
  · exact hfrag.le.trans hlen.ge
  · change ipv4HeaderLen + (out.1.take repr.payloadLen).length ≤ (_ ++ out.1).length
    rw [hlen, List.length_append, hout, Header.length_octets]
    unfold ipv4HeaderLen at *
    omega
  · change (((_ : Header).octets ++ out.1).drop 20).take (out.1.take repr.payloadLen).length = _
    rw [List.drop_left' (Header.length_octets _)]
    exact congrArg (out.1.take ·) hlen

/-- Other packets leave the fragmenter alone. -/
lemma dispatchIpv4_cases {repr : Repr} {dst : EthernetAddress} {emitPayload : Emitter}
    {ident : UInt16} {frame : Option Frame}
    (h : dispatchIpv4 caps ident dst repr emitPayload frag = .ok (frag', frame)) :
    (¬ (caps.ipMtu < ipv4HeaderLen + repr.payloadLen ∧
        ipv4HeaderLen + repr.payloadLen ≤ frag.buffer.length) ∧ frag' = frag) ∨
      (caps.ipMtu < ipv4HeaderLen + repr.payloadLen ∧
        ipv4HeaderLen + repr.payloadLen ≤ frag.buffer.length ∧ ipv4HeaderLen ≤ caps.ipMtu ∧
        ∃ out, emitPayload (frag.buffer.drop ipv4HeaderLen) = .ok out) := by
  obtain ⟨-, -, h⟩ := Checked.bind_eq_ok.mp h
  dsimp only at h
  rw [Repr.bufferLen_eq] at h
  split_ifs at h with hlarge hfits
  · cases h
    exact .inl ⟨fun hboth => absurd hboth.2 (not_le.mpr hfits), rfl⟩
  · obtain ⟨payloadLen, hsub, h⟩ := Checked.bind_eq_ok.mp h
    obtain ⟨buffer, hemit, -⟩ := Checked.bind_eq_ok.mp h
    have hheader : 20 ≤ frag.buffer.length := by
      unfold ipv4HeaderLen at hfits
      omega
    exact .inr ⟨hlarge, not_lt.mp hfits, (Checked.sub_eq_ok.mp hsub).1,
      emitPayload_of_emitIp hheader hemit⟩
  · obtain ⟨packet, -, h⟩ := Checked.bind_eq_ok.mp h
    cases h
    exact .inl ⟨fun hboth => hlarge hboth.1, rfl⟩

/-! ### All fragments of a datagram -/

/-- The number of fragments. -/
def Ipv4Stream.count (caps : DeviceCapabilities) (d : Ipv4Stream) : ℕ :=
  (d.payload.length + caps.fragLen - 1) / caps.fragLen

/-- The fragment at index `i`. -/
def Ipv4Stream.tile (caps : DeviceCapabilities) (d : Ipv4Stream) (i : ℕ) : Frame :=
  d.fragment caps (i * caps.fragLen) (min (d.payload.length - i * caps.fragLen) caps.fragLen)

/-- The fragments that are transmitted one after the other, until all are. -/
def drainIpv4 (caps : DeviceCapabilities) : ℕ → Fragmenter → Checked (List Frame)
  | 0, _ => .ok []
  | fuel + 1, frag =>
    if frag.finished then .ok []
    else do
      let (frag, frame) ← dispatchIpv4Frag caps frag
      return frame :: (← drainIpv4 caps fuel frag)

lemma Ipv4Stream.lt_count (hpos : 0 < caps.fragLen) (i : ℕ) :
    i < d.count caps ↔ i * caps.fragLen < d.payload.length := by
  unfold count
  rw [Nat.lt_div_iff_mul_lt hpos]
  omega

/-- From fragment `i` on, all remaining fragments are transmitted in order. -/
lemma Staging.drain (hpos : 0 < caps.fragLen) {i fuel : ℕ}
    (h : Staging d (min (i * caps.fragLen) d.payload.length) frag)
    (hfuel : d.count caps ≤ i + fuel) :
    drainIpv4 caps fuel frag = .ok ((List.range' i (d.count caps - i)).map (d.tile caps)) := by
  have hmtu : ipv4HeaderLen ≤ caps.ipMtu := by
    unfold DeviceCapabilities.fragLen at hpos
    omega
  induction fuel generalizing i frag with
  | zero =>
    rw [Nat.sub_eq_zero_of_le (by omega)]
    rfl
  | succ fuel ih =>
    unfold drainIpv4
    by_cases hi : i * caps.fragLen < d.payload.length
    · have hcount := (Ipv4Stream.lt_count (d := d) hpos i).mpr hi
      rw [Nat.min_eq_left hi.le] at h
      obtain ⟨frag', hstep, h'⟩ := dispatchIpv4Frag_spec h hmtu rfl
      have hnext : i * caps.fragLen + min (d.payload.length - i * caps.fragLen) caps.fragLen =
          min ((i + 1) * caps.fragLen) d.payload.length := by
        rw [Nat.succ_mul]
        omega
      rw [hnext] at h'
      rw [if_neg (by rw [h.finished_iff]; omega), hstep, Checked.ok_bind]
      dsimp only
      rw [ih h' (by omega), show d.count caps - i = d.count caps - (i + 1) + 1 by omega,
        List.range'_succ]
      rfl
    · have hcount : d.count caps ≤ i := by
        by_contra hlt
        exact hi ((Ipv4Stream.lt_count hpos i).mp (by omega))
      rw [if_pos (by rw [h.finished_iff]; omega), Nat.sub_eq_zero_of_le hcount]
      rfl

/-- The octets of the fragment at index `i`. -/
def Ipv4Stream.data (caps : DeviceCapabilities) (d : Ipv4Stream) (i : ℕ) : List UInt8 :=
  (d.payload.drop (i * caps.fragLen)).take caps.fragLen

lemma Ipv4Stream.length_data (caps : DeviceCapabilities) (d : Ipv4Stream) (i : ℕ) :
    (d.data caps i).length = min (d.payload.length - i * caps.fragLen) caps.fragLen := by
  rw [data, List.length_take, List.length_drop, Nat.min_comm]

/-- Only the last fragment may be shorter. -/
lemma Ipv4Stream.length_data_of_lt (hpos : 0 < caps.fragLen) {i : ℕ} (hi : i + 1 < d.count caps) :
    (d.data caps i).length = caps.fragLen := by
  have hlt := (Ipv4Stream.lt_count hpos (i + 1)).mp hi
  rw [Nat.succ_mul] at hlt
  rw [length_data]
  omega

/-- What a receiver reads from the fragment at index `i`. -/
lemma Ipv4Stream.reads_tile (hpos : 0 < caps.fragLen) {i : ℕ} (hi : i < d.count caps) :
    Reads (d.tile caps i).packet { d.repr with payloadLen := (d.data caps i).length } d.ident
      (decide (i + 1 < d.count caps)) (i * caps.fragLen) (d.data caps i) := by
  have hlt := (Ipv4Stream.lt_count hpos i).mp hi
  have hlen := d.length_data caps i
  have htake : (d.payload.drop (i * caps.fragLen)).take (d.data caps i).length = d.data caps i := by
    rw [length_data, data, ← List.length_drop, Nat.min_comm, ← List.take_eq_take_min]
  have hmore : decide (i * caps.fragLen + (d.data caps i).length ≠ d.payload.length) =
      decide (i + 1 < d.count caps) := by
    congr 1
    apply propext
    rw [Ipv4Stream.lt_count hpos, length_data, Nat.succ_mul]
    omega
  have hle : i * caps.fragLen + (d.data caps i).length ≤ d.payload.length := by omega
  have hreads := reads_fragment caps hle
  rw [htake, hmore] at hreads
  rw [tile, ← length_data]
  exact hreads

end

end Smoltcp
