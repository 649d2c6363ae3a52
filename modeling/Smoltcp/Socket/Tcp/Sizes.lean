import Smoltcp.Socket.Tcp.Flight
import Smoltcp.Socket.Tcp.Window

/-!
# The size of a segment

The payload of a segment is limited by what the MTU leaves behind an IP header and a TCP header
without options. The options are chosen elsewhere, so a segment that carries some fits the MTU only
if the windows, the ring or the remote's maximum segment size happen to leave room for them.
-/

namespace Smoltcp.Tcp

open Serial

/-- The states in which the transmit half of the connection may still have data. -/
def State.TransmitsData (st : State) : Prop :=
  st = .established ∨ st = .finWait1 ∨ st = .closing ∨ st = .closeWait ∨ st = .lastAck

instance (st : State) : Decidable st.TransmitsData :=
  inferInstanceAs (Decidable (_ ∨ _ ∨ _ ∨ _ ∨ _))

namespace Socket

variable {s s' : Socket} {cx : Context} {e : Emission} {r : TcpRepr}

/-! ### The socket that makes the segment -/

/-- The timers at the start of `dispatch` close the socket or make it resend, and leave it as it is
otherwise. -/
def due (s : Socket) (cx : Context) : Socket :=
  let s := s.touch cx
  if s.timedOut cx.now then s.setState .closed
  else
    match s.seqToTransmit cx with
    | .ok false => if s.timer.shouldRetransmit cx.now then s.rewind cx else s
    | _ => s

lemma Timed.eq_due (h : Timed s cx s') : s' = s.due cx := by
  unfold due
  cases h with
  | timeout h => simp only [if_pos h]
  | rewind hto hseq h =>
    have h' : (s.touch cx).timer.shouldRetransmit cx.now := h
    simp only [if_neg hto, hseq, if_pos h']
  | same seq hto hseq h =>
    simp only [if_neg hto, hseq]
    cases seq with
    | true => rfl
    | false =>
      have h' : ¬ (s.touch cx).timer.shouldRetransmit cx.now := h.resolve_left Bool.false_ne_true
      simp only [if_neg h']

/-- Every packet handed to `emit` is made by the socket that the timers leave, which has decided
to send. -/
lemma dispatch_segment {emit : IpRepr → TcpRepr → Bool}
    (h : s.dispatch cx emit = .ok (s', some e)) :
    Timed s cx (s.due cx) ∧ (s.due cx).decision cx = .ok .send ∧
      ∃ e₀ sent, (s.due cx).segment cx = .ok (some e₀) ∧ e = { e₀ with sent := sent } := by
  unfold dispatch at h
  split_ifs at h with htuple
  · cases h
  · obtain ⟨s₁, hs₁, h⟩ := Checked.bind_eq_ok.mp h
    have htimed := checkTimers_eq_ok hs₁
    have heq := htimed.eq_due
    subst heq
    split_ifs at h
    · cases h
    · obtain ⟨d, hd, h⟩ := Checked.bind_eq_ok.mp h
      cases d with
      | send =>
        refine ⟨htimed, hd, ?_⟩
        obtain ⟨o, ho, h⟩ := Checked.bind_eq_ok.mp h
        cases o with
        | none => cases h
        | some e₀ =>
          simp only at h
          split_ifs at h
          · obtain ⟨s₂, -, h⟩ := Checked.bind_eq_ok.mp h
            cases h
            exact ⟨e₀, true, ho, rfl⟩
          · cases h
            exact ⟨e, e.sent, ho, rfl⟩
      | close => cases h
      | nothing => cases h

/-! ### The payload -/

/-- The octets between the last one sent and the end of the remote's window. -/
def windowLeft (s : Socket) : ℕ := s.remoteWinLen - s.inFlight.toNat

/-- A probe of the closed window is due. -/
def Probes (s : Socket) (cx : Context) : Prop :=
  s.windowLeft = 0 ∧ s.timer.shouldZeroWindowProbe cx.now

instance : Decidable (s.Probes cx) := inferInstanceAs (Decidable (_ ∧ _))

/-- The octets that the remote's window, its maximum segment size and the ring leave for one
segment. The MTU is not looked at. -/
def offered (s : Socket) (cx : Context) : ℕ :=
  s.txBuffer.allocatedSize s.inFlight.toNat
    (min (if s.Probes cx then 1 else s.windowLeft) s.remoteMss)

lemma roomTo_eq_windowLeft {room : ℕ} (h : s.Flight) (hwin : s.remoteWinLen < 2 ^ 31)
    (hroom : s.roomTo (shift s.localSeqNo s.remoteWinLen) = .ok room) : room = s.windowLeft := by
  have hpos := h.nonneg
  have hlt := s.inFlight_lt
  have hdist : dist (shift s.localSeqNo s.remoteWinLen) s.remoteLastSeq
      = s.remoteWinLen - s.inFlight := by
    rw [s.remoteLastSeq_eq, dist_shift_shift_of_lt _ (by omega) (by omega)]
  unfold roomTo at hroom
  unfold windowLeft
  split_ifs at hroom with hge
  · rw [SeqNumber.sub_eq_ok, hdist] at hroom
    omega
  · rw [SeqNumber.ge, hdist] at hge
    cases hroom
    omega

lemma allocatedSize_min (rb : SocketBuffer) (offset n m : ℕ) :
    rb.allocatedSize offset (min n m) = min (rb.allocatedSize offset n) m := by
  unfold RingBuffer.allocatedSize
  split_ifs with h
  · rw [Nat.zero_min]
  · rw [Nat.min_right_comm n m, Nat.min_right_comm _ m]

/-- The payload of a state that transmits data is what is offered, cut to the MTU. -/
lemma Builds.length_payload {zwp : Bool} (hb : Builds s cx r zwp) (h : s.Flight)
    (hst : s.state.TransmitsData) :
    zwp = decide (s.Probes cx) ∧ ∃ tuple mss, s.tuple = some tuple ∧
      localMss cx (IpRepr.headerLenOf tuple.localEnd.addr) = .ok mss ∧
      r.payload.length = min (s.offered cx) mss ∧
      r.control = s.dataControl s.inFlight.toNat r.payload := by
  cases hb with
  | data offset room mss zwp hstate hmss hwinLen hroom hzwp hoff hseq hpay hctl hack hwin =>
    obtain rfl := roomTo_eq_windowLeft h hwinLen hroom
    obtain ⟨tuple, htuple, hmss⟩ := hmss
    have hoffset : offset = s.inFlight.toNat := by
      unfold inFlight
      omega
    subst hoffset hzwp
    refine ⟨rfl, tuple, mss, htuple, hmss, ?_, hctl⟩
    rw [hpay, RingBuffer.length_getAllocated, allocatedSize_min]
    simp only [decide_eq_true_eq]
    rfl
  | rst hstate => simp [State.TransmitsData, hstate] at hst
  | syn hstate => rcases hstate with hs | hs <;> simp [State.TransmitsData, hs] at hst
  | ack hstate => rcases hstate with hs | hs <;> simp [State.TransmitsData, hs] at hst

lemma Builds.payload_eq_nil {zwp : Bool} (hb : Builds s cx r zwp)
    (hst : ¬ s.state.TransmitsData) : r.payload = [] := by
  cases hb with
  | data _ _ _ _ hstate => exact absurd hstate hst
  | rst _ _ _ hpay => exact hpay
  | syn _ _ _ hpay => exact hpay
  | ack _ _ _ hpay => exact hpay

/-! ### The options -/

/-- The length of options with their padding. -/
def padded (n : ℕ) : ℕ := (n + 3) / 4 * 4

/-- The octets of options in the segment of a state. -/
def optionsLen (s : Socket) : ℕ :=
  let timestamp := if s.tsvalGenerator.isSome then 10 else 0
  match s.state with
  | .synSent => padded (4 + 3 + 2 + timestamp)
  | .synReceived =>
    padded (4 + (if s.remoteWinScale.isSome then 3 else 0) + (if s.remoteHasSack then 2 else 0)
      + timestamp)
  | _ => padded timestamp

/-- The options that a socket puts into a segment. -/
structure Options (s : Socket) (r : TcpRepr) : Prop where
  timestamp : r.timestamp.isSome = s.tsvalGenerator.isSome
  sackRanges : r.sackRanges = .replicate 3 none
  windowScale : r.windowScale.isSome =
    decide (s.state = .synSent ∨ s.state = .synReceived ∧ s.remoteWinScale.isSome)
  ownScale : ∀ k ∈ r.windowScale, k = s.remoteWinShift
  sackPermitted : r.sackPermitted =
    decide (s.state = .synSent ∨ s.state = .synReceived ∧ s.remoteHasSack)
  syn : r.control = .syn ↔ s.state = .synSent ∨ s.state = .synReceived

lemma emptyAck_timestamp (s : Socket) (cx : Context) (tuple : Tuple) (ack : SeqNumber) :
    (s.emptyAck cx tuple ack).timestamp.isSome = s.tsvalGenerator.isSome := by
  simp [emptyAck, TcpTimestampRepr.generateReplyWithTsval]

/-- Outside a SYN only a timestamp may be there. -/
lemma options_of_plain {tuple : Tuple} {ack : SeqNumber} {control : TcpControl}
    {payload : List UInt8} (hsent : s.state ≠ .synSent) (hreceived : s.state ≠ .synReceived)
    (hctl : control ≠ .syn) :
    s.Options { s.emptyAck cx tuple ack with control := control, payload := payload } where
  timestamp := s.emptyAck_timestamp cx tuple ack
  sackRanges := rfl
  windowScale := by simp [emptyAck, hsent, hreceived]
  ownScale := by simp [emptyAck]
  sackPermitted := by simp [emptyAck, hsent, hreceived]
  syn := by simp [hctl, hsent, hreceived]

lemma options_of_syn {tuple : Tuple} {ack : SeqNumber}
    (hst : s.state = .synSent ∨ s.state = .synReceived) :
    s.Options (s.synSegment (s.emptyAck cx tuple ack)) := by
  unfold synSegment
  by_cases hsent : s.state = .synSent
  · rw [if_pos hsent]
    exact ⟨s.emptyAck_timestamp cx tuple ack, rfl, by simp [hsent], by simp, by simp [hsent],
      by simp [hsent]⟩
  · rw [if_neg hsent]
    have hreceived := hst.resolve_left hsent
    exact ⟨s.emptyAck_timestamp cx tuple ack, rfl, by simp [hreceived], by simp,
      by simp [hreceived], by simp [hreceived]⟩

lemma stateSegment_options {tuple : Tuple} {ack : SeqNumber} {mss : Checked ℕ} {zwp : Bool}
    (h : s.stateSegment cx mss (s.emptyAck cx tuple ack) = .ok (some (r, zwp))) :
    s.Options r ∧ r.maxSegSize = none := by
  unfold stateSegment at h
  cases hstate : s.state <;> simp only [hstate] at h
  case listen => cases h
  case synSent | synReceived =>
    cases h
    refine ⟨options_of_syn (by simp [hstate]), ?_⟩
    unfold synSegment
    split_ifs <;> rfl
  case closed | finWait2 | timeWait =>
    cases h
    exact ⟨options_of_plain (by simp [hstate]) (by simp [hstate]) (by decide), rfl⟩
  all_goals
    obtain ⟨q, hq, h⟩ := Checked.bind_eq_ok.mp h
    cases h
    obtain ⟨offset, room, m, -, -, -, -, -, rfl⟩ := dataSegment_eq_ok hq
    exact ⟨options_of_plain (by simp [hstate]) (by simp [hstate]) (s.dataControl_ne_syn _ _), rfl⟩

lemma headerLen_of_options (h : s.Options r)
    (hmss : r.maxSegSize.isSome = decide (s.state = .synSent ∨ s.state = .synReceived)) :
    r.headerLen = tcpHeaderLen + s.optionsLen := by
  obtain ⟨hts, hsack, hscale, -, hpermitted, -⟩ := h
  unfold TcpRepr.headerLen optionsLen padded tcpHeaderLen
  rw [hsack, hscale, hpermitted, hts, hmss]
  cases s.state <;> cases s.tsvalGenerator.isSome <;> simp <;>
    cases s.remoteWinScale.isSome <;> cases s.remoteHasSack <;> simp

lemma Options.keepAliveSegment (h : s.Options r) : s.Options (keepAliveSegment r) := by
  obtain ⟨hts, hsack, hscale, hown, hpermitted, hsyn⟩ := h
  unfold Socket.keepAliveSegment
  exact ⟨hts, hsack, hscale, hown, hpermitted, hsyn⟩

lemma keepAliveSegment_maxSegSize (r : TcpRepr) :
    (keepAliveSegment r).maxSegSize = r.maxSegSize := by
  unfold keepAliveSegment
  rfl

lemma Options.setMaxSegSize (h : s.Options r) (mss : Option UInt16) :
    s.Options { r with maxSegSize := mss } := by
  obtain ⟨hts, hsack, hscale, hown, hpermitted, hsyn⟩ := h
  exact ⟨hts, hsack, hscale, hown, hpermitted, hsyn⟩

/-- Every SYN carries a maximum segment size, and nothing else does. -/
lemma Options.synMss {mss : Checked ℕ} {o : Option UInt16} (h : s.Options r)
    (hnone : r.maxSegSize = none) (ho : Socket.synMss mss r = .ok o) :
    o.isSome = decide (s.state = .synSent ∨ s.state = .synReceived) := by
  unfold Socket.synMss at ho
  split_ifs at ho with hctl
  · obtain ⟨n, -, ho⟩ := Checked.bind_eq_ok.mp ho
    cases ho
    rw [h.syn] at hctl
    simp [hctl]
  · cases ho
    rw [h.syn] at hctl
    simp [hnone, hctl]

/-- The headers of a packet, and the options of its segment. -/
lemma segment_headers (h : s.segment cx = .ok (some e)) :
    (∃ tuple, s.tuple = some tuple ∧ e.ipRepr.headerLen = IpRepr.headerLenOf tuple.localEnd.addr ∧
      e.repr.headerLen = tcpHeaderLen + s.optionsLen) ∧ s.Options e.repr := by
  unfold segment at h
  obtain ⟨tuple, htuple, h⟩ := Checked.bind_eq_ok.mp h
  obtain ⟨ipRepr, hip, h⟩ := Checked.bind_eq_ok.mp h
  obtain ⟨ackNumber, -, h⟩ := Checked.bind_eq_ok.mp h
  obtain ⟨o, ho, h⟩ := Checked.bind_eq_ok.mp h
  cases o with
  | none => cases h
  | some q =>
    obtain ⟨r, zwp⟩ := q
    obtain ⟨hoptions, hnone⟩ := stateSegment_options ho
    obtain ⟨mss, hmss, h⟩ := Checked.bind_eq_ok.mp h
    cases h
    have hpart : s.Options (if s.timer.shouldKeepAlive cx.now ∧ r.isEmpty then
        Socket.keepAliveSegment r else r) ∧
        (if s.timer.shouldKeepAlive cx.now ∧ r.isEmpty then
          Socket.keepAliveSegment r else r).maxSegSize = none := by
      split_ifs
      · exact ⟨hoptions.keepAliveSegment, (keepAliveSegment_maxSegSize r).trans hnone⟩
      · exact ⟨hoptions, hnone⟩
    refine ⟨⟨tuple, ?_, ?_, ?_⟩, hpart.1.setMaxSegSize mss⟩
    · cases ht : s.tuple with
      | none =>
        rw [ht] at htuple
        cases htuple
      | some t =>
        rw [ht] at htuple
        cases htuple
        rfl
    · rw [← (IpRepr.new_eq_ok hip).2]
      cases ipRepr <;> rfl
    · exact headerLen_of_options (hpart.1.setMaxSegSize mss) (hpart.1.synMss hpart.2 hmss)

/-! ### The whole -/

/-- A keep-alive takes the place of a segment that would be empty. -/
def KeepsAlive (s : Socket) (cx : Context) : Prop :=
  s.timer.shouldKeepAlive cx.now ∧
    (s.state = .finWait2 ∨ s.state = .timeWait ∨
      s.state.TransmitsData ∧ s.offered cx = 0 ∧ ¬ (s.wantFin ∧ s.inFlight = s.txBuffer.len))

instance : Decidable (s.KeepsAlive cx) := inferInstanceAs (Decidable (_ ∧ _))

/-- The octets that are there for the segment if the MTU does not matter. -/
def demand (s : Socket) (cx : Context) : ℕ :=
  if s.KeepsAlive cx then 1 else if s.state.TransmitsData then s.offered cx else 0

/-- The segment has no options, or the MTU has room for them behind the octets to send. -/
def Affords (s : Socket) (cx : Context) : Prop :=
  s.optionsLen = 0 ∨ ∀ tuple ∈ s.tuple,
    IpRepr.headerLenOf tuple.localEnd.addr + tcpHeaderLen + s.optionsLen + s.demand cx ≤ cx.ipMtu

instance : Decidable (s.Affords cx) := inferInstanceAs (Decidable (_ ∨ _))

lemma dataControl_nil (s : Socket) (offset : ℕ) :
    (s.dataControl offset [] = .none ∨ s.dataControl offset [] = .psh) ↔
      ¬ (s.wantFin ∧ offset = s.txBuffer.len) := by
  unfold dataControl wantFin
  by_cases hend : offset = s.txBuffer.len
  · cases hst : s.state <;> simp [hend]
  · simp [hend]

lemma isEmpty_iff {zwp : Bool} (hb : Builds s cx r zwp) (hflight : s.Flight) {tuple : Tuple}
    {mss : ℕ} (htuple : s.tuple = some tuple)
    (hmss : localMss cx (IpRepr.headerLenOf tuple.localEnd.addr) = .ok mss) (hpos : 0 < mss) :
    (s.timer.shouldKeepAlive cx.now ∧ r.isEmpty) ↔ s.KeepsAlive cx := by
  unfold KeepsAlive
  refine and_congr_right fun _ => ?_
  by_cases hst : s.state.TransmitsData
  · obtain ⟨-, tuple', mss', htuple', hmss', hlen, hctl⟩ := hb.length_payload hflight hst
    rw [htuple] at htuple'
    cases htuple'
    rw [hmss] at hmss'
    cases hmss'
    have hnil : r.payload = [] ↔ s.offered cx = 0 := by
      rw [← List.length_eq_zero_iff, hlen]
      omega
    have hne : s.state ≠ .finWait2 ∧ s.state ≠ .timeWait := by
      constructor <;> rintro hs <;> simp [State.TransmitsData, hs] at hst
    have hpos := hflight.nonneg
    simp only [TcpRepr.isEmpty, hne.1, hne.2, hst, false_or, true_and, hnil]
    refine and_congr_right fun hzero => ?_
    rw [hctl, hnil.mpr hzero, dataControl_nil]
    refine not_congr (and_congr_right fun _ => ?_)
    omega
  · have hnil := hb.payload_eq_nil hst
    simp only [TcpRepr.isEmpty, hst, false_and, or_false, hnil, true_and]
    cases hb with
    | rst hstate hctl => simp [hstate, hctl]
    | syn hstate hctl => rcases hstate with hs | hs <;> simp [hs, hctl]
    | data _ _ _ _ hstate => exact absurd hstate hst
    | ack hstate hctl => simp [hstate, hctl]

lemma segment_payload (hflight : s.Flight) {tuple : Tuple} {mss : ℕ} (htuple : s.tuple = some tuple)
    (hmss : localMss cx (IpRepr.headerLenOf tuple.localEnd.addr) = .ok mss) (hpos : 0 < mss)
    (h : s.segment cx = .ok (some e)) : e.repr.payload.length = min (s.demand cx) mss := by
  unfold demand
  cases segment_eq_ok h with
  | segment r hbuilds hkeep hempty hsent hrepr =>
    obtain ⟨o, hr⟩ := hrepr
    rw [isEmpty_iff hbuilds hflight htuple hmss hpos] at hempty
    rw [if_neg hempty, hr]
    split_ifs with hst
    · obtain ⟨-, tuple', mss', htuple', hmss', hlen, -⟩ := hbuilds.length_payload hflight hst
      rw [htuple] at htuple'
      cases htuple'
      rw [hmss] at hmss'
      cases hmss'
      exact hlen
    · simp [hbuilds.payload_eq_nil hst]
  | keepAlive r hbuilds hkeep halive hempty hsent hrepr =>
    obtain ⟨o, hr⟩ := hrepr
    have hkeeps := (isEmpty_iff hbuilds hflight htuple hmss hpos).mp ⟨halive, hempty⟩
    rw [if_pos hkeeps, hr]
    simp only [keepAliveSegment, List.length_singleton]
    omega

lemma segment_fits_iff (hflight : s.Flight) (hmtu : 68 ≤ cx.ipMtu)
    (h : s.segment cx = .ok (some e)) :
    e.ipRepr.headerLen + e.repr.bufferLen ≤ cx.ipMtu ↔ s.Affords cx := by
  obtain ⟨⟨tuple, htuple, hip, hhdr⟩, -⟩ := segment_headers h
  have hle := IpRepr.headerLenOf_le tuple.localEnd.addr
  have hmss : localMss cx (IpRepr.headerLenOf tuple.localEnd.addr) =
      .ok (cx.ipMtu - IpRepr.headerLenOf tuple.localEnd.addr - tcpHeaderLen) := by
    unfold localMss tcpHeaderLen
    rw [Checked.sub_of_le (by omega), Checked.ok_bind, Checked.sub_of_le (by omega)]
  have hpay := segment_payload hflight htuple hmss (by unfold tcpHeaderLen; omega) h
  unfold Affords
  rw [TcpRepr.bufferLen, hip, hhdr, hpay]
  simp only [htuple, Option.mem_some_iff, forall_eq']
  unfold tcpHeaderLen
  omega

end Socket

namespace Sys

/-- Exactly the segments whose options find room are no larger than the MTU. -/
theorem fits_mtu_iff {y : Sys} {cx : Context} {emit : IpRepr → TcpRepr → Bool} {s' : Socket}
    {e : Emission} (h : y.Reachable) (hmtu : 68 ≤ cx.ipMtu)
    (hd : y.socket.dispatch cx emit = .ok (s', some e)) :
    e.ipRepr.headerLen + e.repr.bufferLen ≤ cx.ipMtu ↔ (y.socket.due cx).Affords cx := by
  obtain ⟨htimed, -, e₀, sent, hsegment, rfl⟩ := Socket.dispatch_segment hd
  have hflight := h.flight.timed htimed
  exact Socket.segment_fits_iff (e := e₀) hflight hmtu hsegment

/-- A connection with timestamps, whose application enqueued `n` octets. -/
def stampedRun (n : ℕ) : List Op :=
  let stamped (r : TcpRepr) : TcpRepr :=
    { r with maxSegSize := some 1460, timestamp := some ⟨1, 0⟩ }
  [.set (.tsvalGenerator (some UInt32.ofNat)), .listen ⟨none, 80⟩,
    Sample.process 0 (stamped (Sample.segment .syn 99 none 4096 [])), Sample.dispatch 0,
    Sample.process 0 (stamped (Sample.segment .none 100 (some 10001) 4096 [])),
    .sendSlice (List.replicate n 0)]

/-- Three octets leave room for a timestamp. -/
theorem fits_mtu_short : ∃ (y : Sys) (s' : Socket) (e : Emission), y.Reachable ∧
    y.socket.dispatch (Sample.context 0) (fun _ _ => true) = .ok (s', some e) ∧
    e.repr.payload = [0, 0, 0] ∧ e.repr.timestamp = some ⟨0, 1⟩ ∧
    e.ipRepr.headerLen + e.repr.bufferLen ≤ 1500 := by
  obtain ⟨y, hreach, hP⟩ := exists_sample (fun _ _ => True) (fun _ _ => true) 8 (stampedRun 3)
    (fun y => (Sample.emitted 0 y.socket).any fun e => e.repr.payload = [0, 0, 0] ∧
      e.repr.timestamp = some ⟨0, 1⟩ ∧ (y.socket.due (Sample.context 0)).Affords (Sample.context 0))
    (fun _ _ _ => trivial) (by decide)
  obtain ⟨e, he, hP⟩ := (Option.any_eq_true _ _).mp hP
  obtain ⟨hpay, hts, haffords⟩ := of_decide_eq_true hP
  obtain ⟨s', hs'⟩ := Sample.dispatch_of_emitted he
  exact ⟨y, s', e, hreach, hs', hpay, hts,
    (fits_mtu_iff hreach (by decide) hs').mpr haffords⟩

/-- A full segment with a timestamp is twelve octets too long. -/
theorem exceeds_mtu : ∃ (y : Sys) (s' : Socket) (e : Emission), y.Reachable ∧
    y.socket.dispatch (Sample.context 0) (fun _ _ => true) = .ok (s', some e) ∧
    (Sample.context 0).ipMtu = 1500 ∧ e.ipRepr.headerLen + e.repr.bufferLen = 1512 := by
  obtain ⟨y, hreach, hP⟩ := exists_sample (fun _ _ => True) (fun _ _ => true) 1500 (stampedRun 1460)
    (fun y => (Sample.emitted 0 y.socket).any fun e =>
      e.ipRepr.headerLen + e.repr.bufferLen = 1512)
    (fun _ _ _ => trivial) (by decide +kernel)
  obtain ⟨e, he, hlen⟩ := (Option.any_eq_true _ _).mp hP
  obtain ⟨s', hs'⟩ := Sample.dispatch_of_emitted he
  exact ⟨y, s', e, hreach, hs', rfl, of_decide_eq_true hlen⟩

end Sys

end Smoltcp.Tcp
