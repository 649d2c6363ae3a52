import Smoltcp.Lib.Transfer
import Smoltcp.Iface.Staging

/-!
# One datagram at a time

Everything that an interface sends goes through one fragmenter, and a poll sends one fragment of
what is staged there before it lets the sockets send. A datagram is sent completely unless another
one that has to be fragmented is dispatched while it is staged; nothing in the source prevents that
(`dispatch_overwrites`).
-/

namespace Smoltcp

open Octets Ipv4 Transfer

/-- What the fragments of one datagram have in common. -/
inductive StreamLabel where
  | ipv4 (dstHardwareAddr : EthernetAddress) (key : Key)
  | sixlowpan (llDstAddr llSrcAddr : Ieee802154Address) (datagramSize datagramTag : UInt16)
  deriving DecidableEq

/-- The label and the octets of a fragment, as a receiver reads them. -/
def Frame.piece (f : Frame) : StreamLabel × List UInt8 :=
  (.ipv4 f.dstHardwareAddr (getKey f.packet), payload f.packet)

def SixlowpanFrame.piece (f : SixlowpanFrame) : StreamLabel × List UInt8 :=
  (.sixlowpan f.llDstAddr f.llSrcAddr f.datagramSize f.datagramTag, f.payload)

/-- A packet whose hardware address is known: a reply, or a packet of some socket. -/
inductive Outgoing where
  | ipv4 (ident : UInt16) (packet : Ipv4Datagram)
  | ipv6 (llSrcAddr llDstAddr : Ieee802154Address) (tag : UInt16) (packet : SixlowpanPacket)

inductive EgressOp where
  | dispatch (packet : Outgoing)
  /-- The part of a poll that sends a fragment, if the device has room for one. -/
  | egress (token : Bool)

/-- The packet does not fit in one frame, and is not dropped. -/
def Outgoing.needsFragments (caps : DeviceCapabilities) (frag : Fragmenter) : Outgoing → Prop
  | .ipv4 _ p => caps.medium ≠ .ieee802154 ∧ caps.ipMtu < ipv4HeaderLen + p.repr.payloadLen ∧
    ipv4HeaderLen + p.repr.payloadLen ≤ frag.buffer.length
  | .ipv6 src dst _ p => caps.medium = .ieee802154 ∧ 125 < p.totalSize + ieee802154Len dst src ∧
    p.totalSize ≤ frag.buffer.length

instance (caps : DeviceCapabilities) (frag : Fragmenter) (p : Outgoing) :
    Decidable (p.needsFragments caps frag) :=
  match p with
  | .ipv4 _ _ => inferInstanceAs (Decidable (_ ∧ _ ∧ _))
  | .ipv6 _ _ _ _ => inferInstanceAs (Decidable (_ ∧ _ ∧ _))

/-- The action of a dispatch: a packet that needs fragments starts a transfer of what is staged. -/
def startAction (needsFragments : Bool) (label : StreamLabel) (staged : List UInt8)
    (piece : Option (StreamLabel × List UInt8)) : Action StreamLabel UInt8 :=
  match piece with
  | none => .quiet
  | some piece => if needsFragments then .start label staged piece else .quiet

/-- The action of an egress. -/
def nextAction : Option (StreamLabel × List UInt8) → Action StreamLabel UInt8
  | none => .quiet
  | some piece => .next piece

def dispatchIp (caps : DeviceCapabilities) (frag : Fragmenter) (packet : Outgoing) :
    Checked (Fragmenter × Action StreamLabel UInt8) :=
  match packet with
  | .ipv4 ident p =>
    if caps.medium = .ieee802154 then .error .unreachable
    else do
      let (frag', frame) ← dispatchIpv4 caps ident p.dstHardwareAddr p.repr p.emitPayload frag
      let key := ⟨ident, p.repr.srcAddr, p.repr.dstAddr, .ofByte p.repr.nextHeader.toByte⟩
      let staged := (frag'.buffer.drop ipv4HeaderLen).take p.repr.payloadLen
      return (frag', startAction (packet.needsFragments caps frag) (.ipv4 p.dstHardwareAddr key)
        staged (frame.map Frame.piece))
  | .ipv6 src dst tag p =>
    if caps.medium = .ieee802154 then do
      let (frag', frame) ← dispatchSixlowpan src dst tag p frag
      let label := .sixlowpan dst src (.ofNat (p.payloadLen + 40)) tag
      return (frag', startAction (packet.needsFragments caps frag) label
        (frag'.buffer.take p.totalSize) (frame.map SixlowpanFrame.piece))
    -- IPv6 packets are sent in one frame, or dropped.
    else .ok (frag, .quiet)

def egressStep (caps : DeviceCapabilities) (frag : Fragmenter) :
    EgressOp → Checked (Fragmenter × Action StreamLabel UInt8)
  | .dispatch packet => dispatchIp caps frag packet
  | .egress token =>
    if caps.medium = .ieee802154 then do
      let (frag, frame) ← sixlowpanEgress token frag
      return (frag, nextAction (frame.map SixlowpanFrame.piece))
    else do
      let (frag, frame) ← ipv4Egress caps token frag
      return (frag, nextAction (frame.map Frame.piece))

/-- Only an idle fragmenter is given a packet that needs it. -/
def Unhurried (caps : DeviceCapabilities) (frag : Fragmenter) : EgressOp → Prop
  | .dispatch packet => packet.needsFragments caps frag → frag.finished
  | .egress _ => True

instance (caps : DeviceCapabilities) (frag : Fragmenter) (op : EgressOp) :
    Decidable (Unhurried caps frag op) :=
  match op with
  | .dispatch _ => inferInstanceAs (Decidable (_ → _))
  | .egress _ => .isTrue trivial

/-! ### What the fragmenter holds -/

/-- The fragmenter holds a compressed packet of which `sent` octets have been transmitted. -/
structure SixlowpanStaging (dst src : Ieee802154Address) (size tag : UInt16) (data : List UInt8)
    (sent : ℕ) (frag : Fragmenter) : Prop where
  packetLen : frag.packetLen = data.length
  sentBytes : frag.sentBytes = sent
  sent_le : sent ≤ data.length
  datagramSize : frag.sixlowpan.datagramSize = size
  datagramTag : frag.sixlowpan.datagramTag = tag
  llDstAddr : frag.sixlowpan.llDstAddr = dst
  llSrcAddr : frag.sixlowpan.llSrcAddr = src
  fragnSize : 0 < frag.sixlowpan.fragnSize
  buffer_le : data.length ≤ frag.buffer.length
  buffer : frag.buffer.take data.length = data

/-- The fragmenter belongs to the datagram with the given label, payload or compressed packet, and
number of octets that have been transmitted. -/
inductive Owned (caps : DeviceCapabilities) (frag : Fragmenter) :
    StreamLabel → List UInt8 → ℕ → Prop where
  | ipv4 {d : Ipv4Stream} {sent : ℕ} (hmedium : caps.medium ≠ .ieee802154)
      (hmtu : ipv4HeaderLen ≤ caps.ipMtu) (h : Staging d sent frag) :
      Owned caps frag (.ipv4 d.dstHardwareAddr d.key) d.payload sent
  | sixlowpan {dst src : Ieee802154Address} {size tag : UInt16} {data : List UInt8} {sent : ℕ}
      (hmedium : caps.medium = .ieee802154) (h : SixlowpanStaging dst src size tag data sent frag) :
      Owned caps frag (.sixlowpan dst src size tag) data sent

section

variable {caps : DeviceCapabilities} {frag frag' : Fragmenter} {l : StreamLabel}
  {data : List UInt8} {sent : ℕ} {a : Action StreamLabel UInt8}

lemma Owned.finished_iff (h : Owned caps frag l data sent) :
    frag.finished ↔ sent = data.length := by
  cases h with
  | ipv4 hmedium hmtu h => exact h.finished_iff
  | sixlowpan hmedium h =>
    unfold Fragmenter.finished
    rw [h.packetLen, h.sentBytes, eq_comm]

lemma Owned.piece_ipv4 {d : Ipv4Stream} {n : ℕ} (hn : sent + n ≤ d.payload.length) :
    (d.fragment caps sent n).piece =
      (.ipv4 d.dstHardwareAddr d.key, (d.payload.drop sent).take n) := by
  have hreads := Ipv4Stream.reads_fragment caps hn
  rw [Frame.piece, hreads.key, hreads.payload]
  rfl

/-- A fragment that is transmitted has the next octets. It has some, if the frames of the medium
have room for any. -/
lemma Owned.egress (h : Owned caps frag l data sent) (hlt : sent < data.length) :
    ∃ frag' n, egressStep caps frag (.egress true) =
        .ok (frag', .next (l, (data.drop sent).take n)) ∧ sent + n ≤ data.length ∧
      Owned caps frag' l data (sent + n) ∧
      (caps.medium = .ieee802154 ∨ ipv4HeaderLen < caps.ipMtu → 0 < n) := by
  have hbusy : ¬ frag.finished := by
    rw [h.finished_iff]
    omega
  cases h with
  | @ipv4 d sent hmedium hmtu h =>
    obtain ⟨frag', hfrag, h'⟩ := dispatchIpv4Frag_spec h hmtu rfl
    have hn : sent + min (d.payload.length - sent) caps.fragLen ≤ d.payload.length := by omega
    refine ⟨frag', _, ?_, hn, .ipv4 hmedium hmtu h', ?_⟩
    · have hpending : frag.sentBytes < frag.packetLen := by
        rw [h.sentBytes, h.packetLen]
        omega
      simp only [egressStep, if_neg hmedium, ipv4Egress, if_neg hbusy, if_neg h.not_isEmpty,
        and_true, if_pos hpending, hfrag, Checked.ok_bind, Checked.pure_eq_ok, Option.map_some,
        nextAction,
        piece_ipv4 hn]
    · rintro (habs | hroom)
      · exact absurd habs hmedium
      · unfold DeviceCapabilities.fragLen
        omega
  | @sixlowpan dst src size tag data sent hmedium h =>
    have hroom := h.fragnSize
    have hle := h.buffer_le
    have hn : sent + min (data.length - sent) frag.sixlowpan.fragnSize ≤ data.length := by omega
    have hempty : ¬ frag.isEmpty := by
      unfold Fragmenter.isEmpty
      rw [h.packetLen]
      omega
    have hpending : frag.sentBytes < frag.packetLen := by
      rw [h.sentBytes, h.packetLen]
      exact hlt
    have hsub : Checked.sub frag.packetLen frag.sentBytes = .ok (data.length - sent) := by
      rw [h.packetLen, h.sentBytes, Checked.sub_of_le hlt.le]
    have hslice : ∀ n, sent + n ≤ data.length →
        Checked.slice frag.buffer frag.sentBytes (frag.sentBytes + n) =
          .ok ((data.drop sent).take n) := by
      intro n hn
      rw [h.sentBytes, Checked.slice_of (by omega) (by omega), ← h.buffer, List.drop_take,
        List.drop_take, List.take_take]
      congr 2
      omega
    refine ⟨{ frag with
      sentBytes := frag.sentBytes + min (data.length - sent) frag.sixlowpan.fragnSize
      sixlowpan := { frag.sixlowpan with
        datagramOffset := frag.sixlowpan.datagramOffset +
          min (data.length - sent) frag.sixlowpan.fragnSize } },
      min (data.length - sent) frag.sixlowpan.fragnSize, ?_, hn,
      .sixlowpan hmedium ⟨h.packetLen, ?_, hn, h.datagramSize, h.datagramTag, h.llDstAddr,
        h.llSrcAddr, hroom, hle, h.buffer⟩, fun _ => by omega⟩
    · simp only [egressStep, if_pos hmedium, sixlowpanEgress, if_neg hbusy, if_neg hempty,
        and_true, if_pos hpending, dispatchSixlowpanFrag, hsub, Checked.ok_bind, hslice _ hn,
        Checked.pure_eq_ok, Option.map_some, nextAction, SixlowpanFrame.piece, h.llDstAddr,
        h.llSrcAddr, h.datagramSize, h.datagramTag]
    · exact congrArg (· + _) h.sentBytes

lemma egressStep_finished (h : frag.finished) (token : Bool) :
    egressStep caps frag (.egress token) = .ok (frag.reset, .quiet) := by
  have hempty : frag.reset.isEmpty := rfl
  unfold egressStep
  split_ifs
  · simp [sixlowpanEgress, if_pos h, if_pos hempty, nextAction]
  · simp [ipv4Egress, if_pos h, if_pos hempty, nextAction]

lemma egressStep_false (h : ¬ frag.finished) :
    egressStep caps frag (.egress false) = .ok (frag, .quiet) := by
  unfold egressStep
  split_ifs
  · simp [sixlowpanEgress, if_neg h, nextAction]
  · simp [ipv4Egress, if_neg h, nextAction]

/-! ### Dispatching -/

/-- A packet that is sent in one frame, or dropped, leaves the fragmenter alone. -/
lemma dispatchIp_quiet {packet : Outgoing} (hone : ¬ packet.needsFragments caps frag)
    (h : dispatchIp caps frag packet = .ok (frag', a)) : frag' = frag ∧ a = .quiet := by
  have hquiet : ∀ (l : StreamLabel) (d : List UInt8) (piece : Option (StreamLabel × List UInt8)),
      startAction (packet.needsFragments caps frag) l d piece = .quiet := by
    intro l d piece
    rw [decide_eq_false hone]
    cases piece <;> rfl
  unfold dispatchIp at h
  split at h
  · next ident p =>
    split_ifs at h with hmedium
    obtain ⟨⟨frag₁, frame⟩, hdispatch, h⟩ := Checked.bind_eq_ok.mp h
    simp only [hquiet] at h
    cases h
    rcases dispatchIpv4_cases hdispatch with ⟨-, rfl⟩ | ⟨hlarge, hfits, -⟩
    · exact ⟨rfl, rfl⟩
    · exact absurd ⟨hmedium, hlarge, hfits⟩ hone
  · next src dst tag p =>
    split_ifs at h with hmedium
    · obtain ⟨⟨frag₁, frame⟩, hdispatch, h⟩ := Checked.bind_eq_ok.mp h
      simp only [hquiet] at h
      cases h
      unfold dispatchSixlowpan at hdispatch
      dsimp only at hdispatch
      split_ifs at hdispatch with hlarge hfits
      · cases hdispatch
        exact ⟨rfl, rfl⟩
      · exact absurd ⟨hmedium, hlarge, not_lt.mp hfits⟩ hone
      · cases hdispatch
        exact ⟨rfl, rfl⟩
    · cases h
      exact ⟨rfl, rfl⟩

/-- What is staged of a compressed packet, and its first fragment. -/
lemma dispatchSixlowpan_start {src dst : Ieee802154Address} {tag : UInt16} {p : SixlowpanPacket}
    {frame : Option SixlowpanFrame} (hlarge : 125 < p.totalSize + ieee802154Len dst src)
    (hfits : p.totalSize ≤ frag.buffer.length)
    (h : dispatchSixlowpan src dst tag p frag = .ok (frag', frame)) :
    ∃ n, n ≤ p.totalSize ∧
      frame.map SixlowpanFrame.piece = some (.sixlowpan dst src (.ofNat (p.payloadLen + 40)) tag,
        (frag'.buffer.take p.totalSize).take n) ∧
      SixlowpanStaging dst src (.ofNat (p.payloadLen + 40)) tag (frag'.buffer.take p.totalSize) n
        frag' := by
  have hlen : ∀ addr : Ieee802154Address, addr.len ≤ 8 := by
    intro addr
    cases addr <;> simp [Ieee802154Address.len]
  have hieee : ieee802154Len dst src ≤ 21 := by
    have hdst := hlen dst
    have hsrc := hlen src
    unfold ieee802154Len
    omega
  unfold dispatchSixlowpan at h
  dsimp only at h
  rw [if_pos hlarge, if_neg (not_lt.mpr hfits)] at h
  obtain ⟨headerDiff, -, h⟩ := Checked.bind_eq_ok.mp h
  obtain ⟨room, hroom, h⟩ := Checked.bind_eq_ok.mp h
  obtain ⟨room₁, hroom₁, h⟩ := Checked.bind_eq_ok.mp h
  obtain ⟨size, hsize, h⟩ := Checked.bind_eq_ok.mp h
  obtain ⟨roomn, hroomn, h⟩ := Checked.bind_eq_ok.mp h
  obtain ⟨payload, hpayload, h⟩ := Checked.bind_eq_ok.mp h
  rw [Checked.sub_eq_ok] at hroom hroom₁ hsize hroomn
  have hle : size ≤ p.totalSize := by omega
  have hbuffer : p.totalSize ≤ (p.emit frag.buffer).1.length := by
    rw [(p.emit frag.buffer).2]
    exact hfits
  have htake : ((p.emit frag.buffer).1.take p.totalSize).length = p.totalSize :=
    List.length_take_of_le hbuffer
  rw [Checked.slice_of (Nat.zero_le _) (hle.trans hbuffer)] at hpayload
  cases hpayload
  cases h
  refine ⟨size, hle, ?_, ?_⟩
  · rw [List.take_take, Nat.min_eq_left hle]
    rfl
  · exact ⟨htake.symm, rfl, hle.trans htake.ge, rfl, rfl, rfl,
      rfl, by change 0 < roomn / 8 * 8; omega,
      htake.le.trans hbuffer, by rw [htake]⟩

/-- A packet that needs fragments takes the fragmenter over. -/
lemma dispatchIp_start {packet : Outgoing} (hneeds : packet.needsFragments caps frag)
    (h : dispatchIp caps frag packet = .ok (frag', a)) :
    ∃ l d m, a = .start l d (l, d.take m) ∧ m ≤ d.length ∧ Owned caps frag' l d m := by
  have hstart : ∀ (l : StreamLabel) (d : List UInt8) (piece : StreamLabel × List UInt8),
      startAction (packet.needsFragments caps frag) l d (some piece) = .start l d piece := by
    intro l d piece
    rw [decide_eq_true hneeds]
    rfl
  unfold dispatchIp at h
  split at h
  · next ident p =>
    obtain ⟨hmedium, hlarge, hfits⟩ := hneeds
    rw [if_neg hmedium] at h
    obtain ⟨⟨frag₁, frame⟩, hdispatch, h⟩ := Checked.bind_eq_ok.mp h
    rcases dispatchIpv4_cases hdispatch with ⟨hone, -⟩ | ⟨-, -, hmtu, out, hout⟩
    · exact absurd ⟨hlarge, hfits⟩ hone
    obtain ⟨d, hrepr, hdst, hident, hpayload, frag₂, hspec, hstaging⟩ :=
      dispatchIpv4_spec ident p.dstHardwareAddr p.dstAddr_ne hmtu hlarge p.total_lt hfits hout
    rw [hspec] at hdispatch
    cases hdispatch
    have hlen : d.payload.length = p.repr.payloadLen := by
      rw [hpayload, List.length_take, out.2, List.length_drop]
      omega
    have hle : 0 + caps.fragLen ≤ d.payload.length := by
      unfold DeviceCapabilities.fragLen
      omega
    have hkey : d.key =
        ⟨ident, p.repr.srcAddr, p.repr.dstAddr, .ofByte p.repr.nextHeader.toByte⟩ := by
      rw [Ipv4Stream.key, hrepr, hident]
    have hstaged := hstaging.payload
    rw [hlen] at hstaged
    simp only [Option.map_some, hstart, Owned.piece_ipv4 hle, hstaged, ← hkey, ← hdst,
      List.drop_zero] at h
    cases h
    exact ⟨_, _, _, rfl, by omega, .ipv4 hmedium hmtu hstaging⟩
  · next src dst tag p =>
    obtain ⟨hmedium, hlarge, hfits⟩ := hneeds
    rw [if_pos hmedium] at h
    obtain ⟨⟨frag₁, frame⟩, hdispatch, h⟩ := Checked.bind_eq_ok.mp h
    obtain ⟨n, hn, hpiece, hstaging⟩ := dispatchSixlowpan_start hlarge hfits hdispatch
    simp only [hpiece, hstart] at h
    cases h
    exact ⟨_, _, n, rfl, hstaging.sent_le, .sixlowpan hmedium hstaging⟩

/-! ### Whole runs -/

/-- How the fragmenter holds the datagram in transfer. -/
lemma fragmenter_rules (caps : DeviceCapabilities) :
    Rules (egressStep caps) (Unhurried caps) Fragmenter.finished (Owned caps) := by
  refine ⟨Owned.finished_iff, ?_, ?_⟩
  · intro frag op frag' a hidle hok hstep
    cases op with
    | dispatch packet =>
      by_cases hneeds : packet.needsFragments caps frag
      · exact .inr (dispatchIp_start hneeds hstep)
      · obtain ⟨rfl, rfl⟩ := dispatchIp_quiet hneeds hstep
        exact .inl ⟨rfl, hidle⟩
    | egress token =>
      rw [egressStep_finished hidle] at hstep
      cases hstep
      exact .inl ⟨rfl, rfl⟩
  · intro frag op frag' a l d n hbusy hidle hok hstep
    cases op with
    | dispatch packet =>
      obtain ⟨rfl, rfl⟩ := dispatchIp_quiet (fun hneeds => hidle (hok hneeds)) hstep
      exact .inl ⟨rfl, hbusy⟩
    | egress token =>
      have hlt : n < d.length := by
        rw [hbusy.finished_iff] at hidle
        cases hbusy with
        | ipv4 hmedium hmtu h => exact lt_of_le_of_ne h.sent_le hidle
        | sixlowpan hmedium h => exact lt_of_le_of_ne h.sent_le hidle
      cases token with
      | false =>
        rw [egressStep_false hidle] at hstep
        cases hstep
        exact .inl ⟨rfl, hbusy⟩
      | true =>
        obtain ⟨frag₁, m, hegress, hm, howned, -⟩ := hbusy.egress hlt
        rw [hegress] at hstep
        cases hstep
        exact .inr ⟨m, rfl, hm, howned⟩

/-- As long as no packet that needs fragments is dispatched while another one is staged: every
fragment has the label of its datagram and the next octets of it; the fragmenter belongs to the
datagram that was started last until all of it is transmitted, as all earlier ones were; and polls
with room in the device do transmit it. -/
theorem fragmenter_keeps_datagram (caps : DeviceCapabilities) (size : ℕ) {ops : List EgressOp}
    {frag : Fragmenter} {actions : List (Action StreamLabel UInt8)}
    (hok : Machine.Guarded (egressStep caps) (Unhurried caps) (.new size) ops)
    (hrun : Machine.run (egressStep caps) (.new size) ops = .ok (frag, actions)) :
    (∀ j ∈ actions.foldl record [], j.Valid) ∧
    (∀ j ∈ (actions.foldl record []).tail, j.Complete) ∧
    ∀ j rest, actions.foldl record [] = j :: rest →
      (¬ j.Complete → Owned caps frag j.label j.data j.sent.length) ∧
      (caps.medium = .ieee802154 ∨ ipv4HeaderLen < caps.ipMtu →
        ∃ k frag' actions' j', k ≤ j.data.length - j.sent.length ∧
          Machine.run (egressStep caps) frag (List.replicate k (.egress true)) =
            .ok (frag', actions') ∧
          actions'.foldl record (j :: rest) = j' :: rest ∧ j'.label = j.label ∧
          j'.data = j.data ∧ j.pieces <+: j'.pieces ∧ j'.Complete) := by
  have hnew : Inv Fragmenter.finished (Owned caps) (.new size) [] :=
    ⟨nofun, nofun, .inl ⟨rfl, nofun⟩⟩
  have hinv := (fragmenter_rules caps).inv_run hnew hok hrun
  refine ⟨hinv.valid, hinv.earlier, fun j rest hjobs => ⟨fun hnot => ?_, fun hroom => ?_⟩⟩
  · rcases hinv.latest with ⟨-, hall⟩ | ⟨j', rest', heq, howned⟩
    · exact absurd (hall j (hjobs ▸ List.mem_cons_self ..)) hnot
    · rw [hjobs] at heq
      cases heq
      exact howned
  · rw [hjobs] at hinv
    refine hinv.finish fun {s l d n} hbusy hlt => ?_
    obtain ⟨s', m, hstep, hm, howned, hpos⟩ := hbusy.egress hlt
    exact ⟨s', m, hpos hroom, hstep, hm, howned⟩

end

/-! ### A sample -/

/-- A datagram of 100 octets that are all the same. -/
def sampleDatagram (value : UInt8) : Ipv4Datagram where
  repr := ⟨0x0a000001, 0x0a000002, .udp, 100, 64⟩
  dstHardwareAddr := 0
  emitPayload := fun buf => .ok ⟨List.replicate buf.length value, List.length_replicate ..⟩
  total_lt := by decide
  dstAddr_ne := by decide

/-- The second datagram is dispatched when the first one is transmitted. -/
theorem fragmenter_keeps_datagram_polled : ∃ frag actions,
    Machine.run (egressStep ⟨.ip, 68, true⟩) (.new 120)
      [.dispatch (.ipv4 1 (sampleDatagram 7)), .egress true, .egress true,
        .dispatch (.ipv4 2 (sampleDatagram 9))] = .ok (frag, actions) ∧
      (∀ j ∈ actions.foldl record [], j.Valid) ∧
      ∀ j ∈ (actions.foldl record []).tail, j.Complete := by
  have hok : Machine.Guarded (egressStep ⟨.ip, 68, true⟩) (Unhurried ⟨.ip, 68, true⟩) (.new 120)
      [.dispatch (.ipv4 1 (sampleDatagram 7)), .egress true, .egress true,
        .dispatch (.ipv4 2 (sampleDatagram 9))] := by
    decide +kernel
  have hsucceeds : (Machine.run (egressStep ⟨.ip, 68, true⟩) (.new 120)
      [.dispatch (.ipv4 1 (sampleDatagram 7)), .egress true, .egress true,
        .dispatch (.ipv4 2 (sampleDatagram 9))]).isOk := by
    decide +kernel
  cases hrun : Machine.run (egressStep ⟨.ip, 68, true⟩) (.new 120)
      [.dispatch (.ipv4 1 (sampleDatagram 7)), .egress true, .egress true,
        .dispatch (.ipv4 2 (sampleDatagram 9))] with
  | error e =>
    rw [hrun] at hsucceeds
    cases hsucceeds
  | ok x =>
    obtain ⟨hvalid, hearlier, -⟩ := fragmenter_keeps_datagram ⟨.ip, 68, true⟩ 120 hok hrun
    exact ⟨x.1, x.2, rfl, hvalid, hearlier⟩

/-- Two datagrams that are dispatched in one poll: only 48 of the 100 octets of the first are
transmitted. -/
theorem dispatch_overwrites :
    (Machine.run (egressStep ⟨.ip, 68, true⟩) (.new 120)
      [.dispatch (.ipv4 1 (sampleDatagram 7)), .dispatch (.ipv4 2 (sampleDatagram 9)),
        .egress true, .egress true]).map
      (fun x => (x.2.foldl record []).map fun j => (j.data, j.sent)) =
    .ok [(List.replicate 100 9, List.replicate 100 9),
      (List.replicate 100 7, List.replicate 48 7)] := by
  decide +kernel

end Smoltcp
