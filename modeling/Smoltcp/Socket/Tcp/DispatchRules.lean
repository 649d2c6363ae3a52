import Smoltcp.Socket.Tcp.System

/-!
# What dispatching can do

`DispatchRule` lists the outcomes of `dispatch`: timers first take the socket `s` to `s₁` (`Timed`),
which then sends nothing, is reset, or hands a segment to `emit`. What segment that is, is said by
`Emits`.
-/

namespace Smoltcp.Tcp.Socket

open Serial

variable {s s' s₁ : Socket} {cx : Context} {e : Emission}

/-! ### Timers -/

/-- The outcomes of the timers at the start of `dispatch`. -/
inductive Timed (s : Socket) (cx : Context) : Socket → Prop where
  | timeout (h : (s.touch cx).timedOut cx.now) : Timed s cx ((s.touch cx).setState .closed)
  | rewind (hto : ¬ (s.touch cx).timedOut cx.now)
      (hseq : (s.touch cx).seqToTransmit cx = .ok false) (h : s.timer.shouldRetransmit cx.now) :
      Timed s cx ((s.touch cx).rewind cx)
  | same (seq : Bool) (hto : ¬ (s.touch cx).timedOut cx.now)
      (hseq : (s.touch cx).seqToTransmit cx = .ok seq)
      (h : seq = true ∨ ¬ s.timer.shouldRetransmit cx.now) : Timed s cx (s.touch cx)

lemma checkTimers_eq_ok (h : (s.touch cx).checkTimers cx = .ok s') : Timed s cx s' := by
  unfold checkTimers at h
  by_cases hto : (s.touch cx).timedOut cx.now
  · rw [if_pos hto] at h
    cases h
    exact .timeout hto
  · rw [if_neg hto] at h
    obtain ⟨seq, hseq, h⟩ := Checked.bind_eq_ok.mp h
    split_ifs at h with hre
    · cases h
      obtain ⟨hfalse, hre⟩ := hre
      exact .rewind hto (by rw [hseq, Bool.eq_false_of_not_eq_true hfalse]) hre
    · cases h
      refine .same seq hto hseq ?_
      by_cases hs : seq = true
      · exact .inl hs
      · exact .inr fun hre' => hre ⟨hs, hre'⟩

/-! ### The decision -/

lemma canFin_eq_ok {b : Bool} (h : s.canFin = .ok b) :
    b = true ↔ s.wantFin ∧ s.remoteLastSeq = shift s.localSeqNo s.txBuffer.len := by
  unfold canFin at h
  split_ifs at h with hfin
  · simp only [Checked.bind_eq_ok, SeqNumber.add_eq_ok, Checked.pure_eq_ok] at h
    obtain ⟨_, ⟨-, rfl⟩, h⟩ := h
    cases h
    simp [hfin]
  · cases h
    simp [hfin]

/-- The decision where there is nothing to transmit or acknowledge and no window to update. -/
def timerDecision (s : Socket) (cx : Context) : Decision :=
  if s.state = .closed ∨ s.timer.shouldKeepAlive cx.now ∨ s.timer.shouldZeroWindowProbe cx.now then
    .send
  else if s.timer.shouldClose cx.now then .close
  else .nothing

/-- The reasons to send, in the order of the source. -/
lemma decision_eq_ok {d : Decision} (h : s.decision cx = .ok d) :
    s.seqToTransmit cx = .ok true ∧ d = .send ∨
      s.seqToTransmit cx = .ok false ∧ ∃ ack, s.ackToTransmit = .ok ack ∧
        ((ack = true ∧ s.delayedAckExpired cx.now) ∧ d = .send ∨
          ¬ (ack = true ∧ s.delayedAckExpired cx.now) ∧
            (s.windowToUpdate = .ok true ∧ d = .send ∨
              s.windowToUpdate = .ok false ∧ d = s.timerDecision cx)) := by
  unfold decision at h
  obtain ⟨seq, hseq, h⟩ := Checked.bind_eq_ok.mp h
  cases seq with
  | true =>
    cases h
    exact .inl ⟨hseq, rfl⟩
  | false =>
    obtain ⟨ack, hack, h⟩ := Checked.bind_eq_ok.mp h
    refine .inr ⟨hseq, ack, hack, ?_⟩
    by_cases hexp : ack = true ∧ s.delayedAckExpired cx.now
    · rw [if_pos hexp] at h
      cases h
      exact .inl ⟨hexp, rfl⟩
    · rw [if_neg hexp] at h
      obtain ⟨win, hwin, h⟩ := Checked.bind_eq_ok.mp h
      refine .inr ⟨hexp, ?_⟩
      cases win with
      | true =>
        cases h
        exact .inl ⟨hwin, rfl⟩
      | false =>
        refine .inr ⟨hwin, ?_⟩
        simp only [Bool.false_eq_true, if_false] at h
        unfold timerDecision
        split_ifs at h ⊢ <;> first
          | (cases h; rfl)
          | tauto

/-- Only the close timer makes `dispatch` reset the socket. -/
lemma decision_close (h : s.decision cx = .ok .close) :
    s.state ≠ .closed ∧ s.timer.shouldClose cx.now := by
  rcases decision_eq_ok h with ⟨-, hd⟩ | ⟨-, ack, -, ⟨-, hd⟩ | ⟨-, ⟨-, hd⟩ | ⟨-, hd⟩⟩⟩
  · cases hd
  · cases hd
  · cases hd
  · unfold timerDecision at hd
    split_ifs at hd with hsend hclose
    rw [not_or] at hsend
    exact ⟨hsend.1, hclose⟩

/-! ### The segment -/

/-- The segment that a state calls for, and whether it is a zero-window probe. -/
inductive Builds (s : Socket) (cx : Context) (r : TcpRepr) : Bool → Prop where
  | rst (hstate : s.state = .closed) (hctl : r.control = .rst)
      (hseq : r.seqNumber = s.remoteLastSeq)
      (hpay : r.payload = []) (hack : r.ackNumber = some (shift s.remoteSeqNo s.rxBuffer.len))
      (hwin : r.windowLen = s.scaledWindow) : Builds s cx r false
  | syn (hstate : s.state = .synSent ∨ s.state = .synReceived) (hctl : r.control = .syn)
      (hseq : r.seqNumber = s.localSeqNo) (hpay : r.payload = [])
      (hack : r.ackNumber = if s.state = .synSent then none
        else some (shift s.remoteSeqNo s.rxBuffer.len))
      (hwin : r.windowLen = u16OrMax s.rxBuffer.window) : Builds s cx r false
  | data (offset room mss : ℕ) (zwp : Bool)
      (hstate : s.state = .established ∨ s.state = .finWait1 ∨ s.state = .closing ∨
        s.state = .closeWait ∨ s.state = .lastAck)
      (hmss : ∃ tuple, s.tuple = some tuple ∧
        localMss cx (IpRepr.headerLenOf tuple.localEnd.addr) = .ok mss)
      (hwinLen : s.remoteWinLen < 2 ^ 31)
      (hroom : s.roomTo (shift s.localSeqNo s.remoteWinLen) = .ok room)
      (hzwp : zwp = decide (room = 0 ∧ s.timer.shouldZeroWindowProbe cx.now))
      (hoff : dist s.remoteLastSeq s.localSeqNo = offset)
      (hseq : r.seqNumber = s.remoteLastSeq)
      (hpay : r.payload =
        s.txBuffer.getAllocated offset (min (min (if zwp then 1 else room) s.remoteMss) mss))
      (hctl : r.control = s.dataControl offset r.payload)
      (hack : r.ackNumber = some (shift s.remoteSeqNo s.rxBuffer.len))
      (hwin : r.windowLen = s.scaledWindow) : Builds s cx r zwp
  | ack (hstate : s.state = .finWait2 ∨ s.state = .timeWait) (hctl : r.control = .none)
      (hseq : r.seqNumber = s.remoteLastSeq) (hpay : r.payload = [])
      (hack : r.ackNumber = some (shift s.remoteSeqNo s.rxBuffer.len))
      (hwin : r.windowLen = s.scaledWindow) : Builds s cx r false

lemma dataSegment_eq_ok {mss : Checked ℕ} {r₀ r : TcpRepr} {zwp : Bool}
    (h : s.dataSegment cx mss r₀ = .ok (r, zwp)) :
    ∃ offset room m : ℕ, mss = .ok m ∧ s.remoteWinLen < 2 ^ 31 ∧
      s.roomTo (shift s.localSeqNo s.remoteWinLen) = .ok room ∧
      zwp = decide (room = 0 ∧ s.timer.shouldZeroWindowProbe cx.now) ∧
      dist s.remoteLastSeq s.localSeqNo = offset ∧
      r = { r₀ with
        payload :=
        s.txBuffer.getAllocated offset (min (min (if zwp then 1 else room) s.remoteMss) m)
        control := s.dataControl offset (s.txBuffer.getAllocated offset
          (min (min (if zwp then 1 else room) s.remoteMss) m)) } := by
  unfold dataSegment at h
  simp only [Checked.bind_eq_ok, SeqNumber.add_eq_ok, SeqNumber.sub_eq_ok,
    Checked.pure_eq_ok] at h
  obtain ⟨_, ⟨hlt, rfl⟩, room, hroom, m, hm, offset, hoff, h⟩ := h
  cases h
  refine ⟨offset, room, m, hm, hlt, hroom, rfl, hoff, ?_⟩
  simp only [decide_eq_true_eq]

lemma stateSegment_eq_ok {tuple : Tuple} {r : TcpRepr} {zwp : Bool} (htuple : s.tuple = some tuple)
    (h : s.stateSegment cx (localMss cx (IpRepr.headerLenOf tuple.localEnd.addr))
      (s.emptyAck cx tuple (shift s.remoteSeqNo s.rxBuffer.len)) = .ok (some (r, zwp))) :
    Builds s cx r zwp := by
  generalize hmss : localMss cx (IpRepr.headerLenOf tuple.localEnd.addr) = mss at h
  have hdata : s.state = .established ∨ s.state = .finWait1 ∨ s.state = .closing ∨
        s.state = .closeWait ∨ s.state = .lastAck →
      (∃ q, s.dataSegment cx mss (s.emptyAck cx tuple (shift s.remoteSeqNo s.rxBuffer.len)) =
        .ok q ∧
        Except.ok (some q) = (Except.ok (some (r, zwp)) : Checked (Option (TcpRepr × Bool)))) →
      Builds s cx r zwp := by
    rintro hstate ⟨q, hq, h⟩
    cases h
    obtain ⟨offset, room, m, hm, hlt, hroom, hzwp, hoff, rfl⟩ := dataSegment_eq_ok hq
    exact .data offset room m zwp hstate ⟨tuple, htuple, hmss.trans hm⟩ hlt hroom hzwp hoff rfl rfl
      rfl rfl rfl
  unfold stateSegment at h
  cases hstate : s.state <;> simp only [hstate] at h
  case closed =>
    cases h
    exact .rst hstate rfl rfl rfl rfl rfl
  case listen => cases h
  case synSent =>
    cases h
    unfold synSegment
    rw [if_pos hstate]
    exact .syn (.inl hstate) rfl rfl rfl (by rw [if_pos hstate]) rfl
  case synReceived =>
    cases h
    unfold synSegment
    have hne : s.state ≠ .synSent := by rw [hstate]; decide
    rw [if_neg hne]
    exact .syn (.inr hstate) rfl rfl rfl (by rw [if_neg hne]; rfl) rfl
  case finWait2 =>
    cases h
    exact .ack (.inl hstate) rfl rfl rfl rfl rfl
  case timeWait =>
    cases h
    exact .ack (.inr hstate) rfl rfl rfl rfl rfl
  all_goals exact hdata (by simp [hstate]) (Checked.bind_eq_ok.mp h)

/-- What `dispatch` hands to `emit`: the segment of the state, or a keep-alive in its place if it
is empty. -/
inductive Emits (s : Socket) (cx : Context) (e : Emission) : Prop where
  | segment (r : TcpRepr) (hbuilds : Builds s cx r e.isZeroWindowProbe)
      (hkeep : e.isKeepAlive = false)
      (hempty : ¬ (s.timer.shouldKeepAlive cx.now ∧ r.isEmpty)) (hsent : e.sent = false)
      (hrepr : ∃ mss, e.repr = { r with maxSegSize := mss })
  | keepAlive (r : TcpRepr) (hbuilds : Builds s cx r e.isZeroWindowProbe)
      (hkeep : e.isKeepAlive = true) (halive : s.timer.shouldKeepAlive cx.now)
      (hempty : r.isEmpty) (hsent : e.sent = false)
      (hrepr : ∃ mss, e.repr = { keepAliveSegment r with maxSegSize := mss })

lemma segment_eq_ok (h : s.segment cx = .ok (some e)) : Emits s cx e := by
  unfold segment at h
  obtain ⟨tuple, htuple, h⟩ := Checked.bind_eq_ok.mp h
  obtain ⟨ipRepr, hip, h⟩ := Checked.bind_eq_ok.mp h
  obtain ⟨ackNumber, hack, h⟩ := Checked.bind_eq_ok.mp h
  obtain ⟨-, rfl⟩ := SeqNumber.add_eq_ok.mp hack
  obtain ⟨o, ho, h⟩ := Checked.bind_eq_ok.mp h
  have htuple' : s.tuple = some tuple := by
    cases ht : s.tuple <;> rw [ht] at htuple <;> cases htuple
    rfl
  cases o with
  | none => cases h
  | some q =>
    obtain ⟨r, zwp⟩ := q
    rw [(IpRepr.new_eq_ok hip).2] at ho
    have hbuilds := stateSegment_eq_ok htuple' ho
    obtain ⟨mss, hmss, h⟩ := Checked.bind_eq_ok.mp h
    cases h
    by_cases hkeep : s.timer.shouldKeepAlive cx.now ∧ r.isEmpty
    · exact .keepAlive r hbuilds (by simp [hkeep]) hkeep.1 hkeep.2 rfl
        ⟨mss, by simp only [if_pos hkeep]⟩
    · exact .segment r hbuilds (by simp [hkeep]) hkeep rfl ⟨mss, by simp only [if_neg hkeep]⟩

/-! ### After the emission -/

/-- What a sent segment changes. A probe and a keep-alive only touch timers. -/
inductive Sends (s : Socket) (cx : Context) (e : Emission) : Socket → Prop where
  | probe (hzwp : e.isZeroWindowProbe = true) :
      Sends s cx e { s.noteEmit cx with
        timer := (s.noteEmit cx).timer.rewindZeroWindowProbe cx.now }
  | keepAlive (hzwp : e.isZeroWindowProbe = false) (hkeep : e.isKeepAlive = true) :
      Sends s cx e (s.noteEmit cx)
  | segment (hzwp : e.isZeroWindowProbe = false) (hkeep : e.isKeepAlive = false)
      (hlen : e.repr.segmentLen < 2 ^ 31) :
      Sends s cx e (Socket.forget <| noteData
        { s.noteEmit cx with
          remoteLastSeq := shift e.repr.seqNumber e.repr.segmentLen
          remoteLastAck := e.repr.ackNumber
          remoteLastWin := e.repr.windowLen } cx e.repr (shift e.repr.seqNumber e.repr.segmentLen))

lemma afterEmit_eq_ok (h : s.afterEmit cx e = .ok s') : Sends s cx e s' := by
  unfold afterEmit at h
  by_cases hzwp : e.isZeroWindowProbe = true
  · simp only [if_pos hzwp] at h
    cases h
    exact .probe hzwp
  · have hzwp' := Bool.eq_false_of_not_eq_true hzwp
    simp only [if_neg hzwp] at h
    by_cases hkeep : e.isKeepAlive = true
    · simp only [if_pos hkeep] at h
      cases h
      exact .keepAlive hzwp' hkeep
    · have hkeep' := Bool.eq_false_of_not_eq_true hkeep
      simp only [if_neg hkeep] at h
      obtain ⟨endSeq, hend, h⟩ := Checked.bind_eq_ok.mp h
      obtain ⟨hlen, rfl⟩ := SeqNumber.add_eq_ok.mp hend
      cases h
      exact .segment hzwp' hkeep' hlen

lemma Timed.remoteWinLen_eq (h : Timed s cx s') : s'.remoteWinLen = s.remoteWinLen := by
  cases h <;> rfl

lemma Sends.remoteWinLen_eq (h : Sends s cx e s') : s'.remoteWinLen = s.remoteWinLen := by
  cases h <;> rfl

/-! ### The whole -/

/-- Everything that `dispatch` can do. -/
inductive DispatchRule (s : Socket) (cx : Context) : Socket → Option Emission → Prop where
  | noTuple (htuple : s.tuple = none) : DispatchRule s cx s none
  | idle {s₁ : Socket} (htuple : s.tuple ≠ none) (htimed : Timed s cx s₁)
      (hwhy : s₁.state = .synReceived ∧ s₁.synackPaused ∨ s₁.decision cx = .ok .nothing ∨
        s₁.decision cx = .ok .send ∧ s₁.segment cx = .ok none) : DispatchRule s cx s₁ none
  | reset {s₁ : Socket} (htuple : s.tuple ≠ none) (htimed : Timed s cx s₁)
      (hclose : s₁.decision cx = .ok .close) : DispatchRule s cx s₁.reset none
  | failed {s₁ : Socket} {e : Emission} (htuple : s.tuple ≠ none) (htimed : Timed s cx s₁)
      (hsend : s₁.decision cx = .ok .send) (hemits : Emits s₁ cx e) : DispatchRule s cx s₁ (some e)
  | sent {s₁ s' : Socket} {e : Emission} (htuple : s.tuple ≠ none) (htimed : Timed s cx s₁)
      (hsend : s₁.decision cx = .ok .send) (hemits : Emits s₁ cx e) (hsends : Sends s₁ cx e s') :
      DispatchRule s cx s' (some { e with sent := true })

theorem DispatchRule.of_dispatch {emit : IpRepr → TcpRepr → Bool} {o : Option Emission}
    (h : s.dispatch cx emit = .ok (s', o)) : DispatchRule s cx s' o := by
  unfold dispatch at h
  split_ifs at h with htuple
  · cases h
    exact .noTuple htuple
  · obtain ⟨s₁, hs₁, h⟩ := Checked.bind_eq_ok.mp h
    have htimed := checkTimers_eq_ok hs₁
    by_cases hpause : s₁.state = .synReceived ∧ s₁.synackPaused
    · rw [if_pos hpause] at h
      cases h
      exact .idle htuple htimed (.inl hpause)
    · rw [if_neg hpause] at h
      obtain ⟨d, hd, h⟩ := Checked.bind_eq_ok.mp h
      cases d with
      | send =>
        obtain ⟨o, ho, h⟩ := Checked.bind_eq_ok.mp h
        cases o with
        | none =>
          cases h
          exact .idle htuple htimed (.inr (.inr ⟨hd, ho⟩))
        | some e =>
          have hemits := segment_eq_ok ho
          simp only at h
          split_ifs at h
          · obtain ⟨s₂, hs₂, h⟩ := Checked.bind_eq_ok.mp h
            cases h
            exact .sent htuple htimed hd hemits (afterEmit_eq_ok hs₂)
          · cases h
            exact .failed htuple htimed hd hemits
      | close =>
        cases h
        exact .reset htuple htimed hd
      | nothing =>
        cases h
        exact .idle htuple htimed (.inr (.inl hd))

end Smoltcp.Tcp.Socket
