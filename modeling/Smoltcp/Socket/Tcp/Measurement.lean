import Smoltcp.Socket.Tcp.Highest
import Smoltcp.Socket.Tcp.Sizes
import Smoltcp.Socket.Tcp.TimeWait

/-!
# Round-trip measurements

The estimator times one segment at a time, from the call of `onSend` that starts the measurement to
the acknowledgement of the segment's end. A retransmission ends the measurement without a sample.
Two kinds of segments repeat sequence space without being taken for a retransmission: a keep-alive
while something is in flight, and the SYN|ACK of a simultaneous open. Without these no sample is
taken from a segment of which a part was sent again.
-/

namespace Smoltcp.Tcp

open Serial

/-! ### The estimator -/

namespace RttEstimator

variable {r : RttEstimator} {now : Instant} {seq : SeqNumber} {m : Instant × SeqNumber}

lemma timestamp_onAck : (r.onAck now seq).timestamp = some m ↔
    r.timestamp = some m ∧ ¬ seq.ge m.2 := by
  unfold onAck
  cases hts : r.timestamp with
  | none => simp [hts]
  | some sent =>
    obtain ⟨sentTimestamp, sentSeq⟩ := sent
    simp only
    by_cases hge : seq.ge sentSeq
    · rw [if_pos hge]
      refine iff_of_false nofun fun h => h.2 ?_
      cases h.1
      exact hge
    · rw [if_neg hge, hts]
      refine ⟨fun h => ⟨h, ?_⟩, And.left⟩
      cases h
      exact hge

lemma timestamp_onSend (h : r.timestamp = some m) : (r.onSend now seq).timestamp = some m := by
  unfold onSend
  split_ifs with hgt hnone
  · rw [h] at hnone
    cases hnone
  · exact h
  · exact h

/-- A measurement starts with the end of the segment that is sent. -/
lemma timestamp_onSend_of_none (h : r.timestamp = none)
    (hm : (r.onSend now seq).timestamp = some m) : m = (now, seq) := by
  unfold onSend at hm
  split_ifs at hm with hgt hnone
  · exact (Option.some.inj hm).symm
  · rw [h] at hnone
    exact absurd rfl hnone
  · rw [h] at hm
    cases hm

@[simp] lemma timestamp_onRetransmit (r : RttEstimator) : r.onRetransmit.timestamp = none := by
  unfold onRetransmit
  dsimp only
  split_ifs <;> rfl

end RttEstimator

namespace Socket

variable {s s' s₁ s₂ s₃ : Socket} {cx : Context} {ipRepr : IpRepr} {repr : TcpRepr}
  {p : Option Packet} {m : Instant × SeqNumber}

/-! ### Segments that arrive -/

lemma Quiet.timestamp (h : Quiet s s') (hm : s'.rtte.timestamp = some m) :
    s.rtte.timestamp = some m ∧ s'.localSeqNo = s.localSeqNo := by
  obtain ⟨_, _, rtte, _, _, s₁, -, hrtte, -, rfl, hs'⟩ := h
  have hsame : s'.rtte = rtte ∧ s'.localSeqNo = s.localSeqNo := by
    rcases hs' with rfl | rfl
    · exact ⟨rfl, rfl⟩
    · exact ⟨rfl, rfl⟩
  rw [hsame.1] at hm
  refine ⟨?_, hsame.2⟩
  rcases hrtte with rfl | ⟨now, seq, rfl⟩
  · exact hm
  · exact (RttEstimator.timestamp_onAck.mp hm).1

lemma receivePayload_frame {payload : List UInt8} {offset : ℕ}
    (h : s.receivePayload cx ipRepr repr payload offset = .ok (s', p)) :
    s'.rtte = s.rtte ∧ s'.state = s.state := by
  unfold receivePayload at h
  split_ifs at h
  · cases h
    exact ⟨rfl, rfl⟩
  · obtain ⟨o, ho, h⟩ := Checked.bind_eq_ok.mp h
    cases o with
    | none =>
      cases h
      exact ⟨rfl, rfl⟩
    | some s₁ =>
      have hs₁ : s₁.rtte = s.rtte ∧ s₁.state = s.state := by
        unfold storePayload at ho
        split at ho
        · cases ho
        · obtain ⟨_, -, ho⟩ := Checked.bind_eq_ok.mp ho
          obtain ⟨rx, -, ho⟩ := Checked.bind_eq_ok.mp ho
          cases ho
          exact ⟨rfl, rfl⟩
      obtain ⟨s₂, hs₂, h⟩ := Checked.bind_eq_ok.mp h
      obtain ⟨t, rfl⟩ := delayAck_eq_ok hs₂
      split_ifs at h
      · obtain ⟨⟨s₃, q⟩, hack, h⟩ := Checked.bind_eq_ok.mp h
        cases h
        rw [ackReply_eq_ok hack]
        exact hs₁
      · cases h
        exact hs₁

lemma finishProcess_frame {ack : AckInfo} {payload : List UInt8} {offset : ℕ}
    (h : s.finishProcess cx ipRepr repr ack payload offset = .ok (s', p)) :
    s'.rtte = s.rtte ∧ s'.state = s.state := by
  unfold finishProcess at h
  obtain ⟨s₁, hs₁, h⟩ := Checked.bind_eq_ok.mp h
  obtain ⟨-, tx, rfl, -, -⟩ := dequeueAcked_eq_ok hs₁
  obtain ⟨_, _, _, _, -, -, heq⟩ := updateAck_eq
    { s.updateWindow cx (s.newRemoteWinLen repr) with txBuffer := tx } cx repr
    (decide (s.newRemoteWinLen repr ≠ s.remoteWinLen))
  simp only [heq] at h
  obtain ⟨hrtte, hst⟩ := receivePayload_frame h
  exact ⟨hrtte.trans rfl, hst.trans rfl⟩

lemma Transits.rtte_eq {control : TcpControl} {aof : Bool}
    (h : Transits s cx ipRepr repr control aof s') : s'.rtte = s.rtte := by
  cases h <;> rfl

/-- Where a measurement goes on, `localSeqNo` stays, or the segment does not acknowledge its end. -/
lemma process_timestamp (hp : s.process cx ipRepr repr = .ok (s', p))
    (hm : s'.rtte.timestamp = some m) :
    s.rtte.timestamp = some m ∧ (s'.localSeqNo = s.localSeqNo ∨
      ∀ a, repr.ackNumber = some a → ¬ a.ge m.2) := by
  cases Stages.of_process hp with
  | checked hcheck =>
    obtain ⟨hts, hloc⟩ := (checkAck_ret hcheck).timestamp hm
    exact ⟨hts, .inl hloc⟩
  | trimmed w hw htrim =>
    obtain ⟨hts, hloc⟩ := (trimPayload_ret htrim).timestamp hm
    exact ⟨hts, .inl hloc⟩
  | @stopped w st payload offset ack hreaches hret =>
    have hsame : s'.rtte = (st.noteAck cx repr ack.ackLen).rtte ∧
        s'.localSeqNo = (st.noteAck cx repr ack.ackLen).localSeqNo := by
      rcases transition_ret hret with rfl | ⟨-, -, st', rfl, -⟩
      · exact ⟨rfl, rfl⟩
      · exact ⟨rfl, rfl⟩
    rw [hsame.1] at hm
    obtain ⟨hts, hloc⟩ := hreaches.noted.quiet.timestamp hm
    exact ⟨hts, .inl (hsame.2.trans hloc)⟩
  | finished s₂ hreaches hnext hfinish =>
    have htransits := transition_next hnext
    have hctl : repr.control ≠ .rst :=
      fun hc => htransits.control_ne (effectiveControl_eq_rst.mpr hc)
    obtain ⟨lastSeq, rfl⟩ := hreaches.exists_eq
    rw [(finishProcess_frame hfinish).1, htransits.rtte_eq, noteAck, if_neg hctl] at hm
    cases hack : repr.ackNumber with
    | none =>
      simp only [hack] at hm
      exact ⟨hm, .inr nofun⟩
    | some a =>
      simp only [hack] at hm
      obtain ⟨hts, hge⟩ := RttEstimator.timestamp_onAck.mp hm
      refine ⟨hts, .inr ?_⟩
      rintro _ ⟨rfl⟩
      exact hge

/-! ### Our SYN -/

/-- What keeps our SYN from being sent again while it is in flight: nothing is left to acknowledge
or to tell of the window, unless the remote has opened the connection at the same time. -/
structure SynOnce (s : Socket) : Prop where
  synSent : s.state = .synSent → s.remoteLastAck = none
  synReceived : s.state = .synReceived → s.dataInFlight →
    s.ackToTransmit = .ok true ∨ s.remoteLastAck = some s.nextAck ∧ s.scaledWindow ≤ s.remoteLastWin
  probe : s.timer.isZeroWindowProbe → ¬ s.state.Opening

lemma seqToTransmit_opening (hbase : s.Base) (hf : s.Flight)
    (hst : s.state = .synSent ∨ s.state = .synReceived) (hflight : s.dataInFlight) :
    s.seqToTransmit cx ≠ .ok true := by
  have htx : s.txBuffer.len = 0 := hbase.tx_opening (.inr hst)
  have hfin : ¬ s.wantFin := by rcases hst with hst | hst <;> simp [wantFin, hst]
  have hpos := hf.nonneg
  intro h
  unfold seqToTransmit at h
  simp only [Checked.bind_eq_ok] at h
  obtain ⟨tuple, -, mss, -, h⟩ := h
  rw [if_neg fun hs => hs.2 hflight] at h
  simp only [Checked.bind_eq_ok, Checked.pure_eq_ok] at h
  obtain ⟨maxSend, hmax, canFin, hcan, h⟩ := h
  have hzero : maxSend = 0 := by
    unfold Socket.maxSend at hmax
    simp only [Checked.bind_eq_ok, SeqNumber.add_eq_ok, Checked.pure_eq_ok] at hmax
    obtain ⟨_, ⟨-, rfl⟩, room, hroom, hmin⟩ := hmax
    rw [htx, Nat.min_zero, hf.roomTo_eq (by omega)] at hroom
    cases hroom
    cases hmin
    push_cast
    omega
  have h := of_decide_eq_true (Except.ok.inj h)
  rw [canFin_eq_ok hcan] at h
  simp only [hzero, hfin, false_and, or_false, ne_eq, not_true_eq_false, ite_self] at h

lemma shr_shl {x : ℕ} (hx : x < 2 ^ 16) {k : UInt8} (hk : k.toNat ≤ 15) : shr (shl x k) k = x := by
  have hlt : x * 2 ^ k.toNat < 2 ^ 64 := by
    calc x * 2 ^ k.toNat ≤ x * 2 ^ 15 := Nat.mul_le_mul_left _ (Nat.pow_le_pow_right (by omega) hk)
      _ < 2 ^ 64 := by omega
  unfold shl shr
  rw [Nat.mod_eq_of_lt (show k.toNat < 64 by omega), Nat.shiftLeft_eq, Nat.mod_eq_of_lt hlt,
    ← Nat.shiftLeft_eq, Nat.shiftLeft_shiftRight]

lemma lastScaledWindow_of_nextAck (hshift : s.remoteWinShift.toNat ≤ 15)
    (hack : s.remoteLastAck = some s.nextAck) {last : Option UInt16}
    (h : s.lastScaledWindow = .ok last) : last = some s.remoteLastWin := by
  simp only [lastScaledWindow, hack, Checked.bind_eq_ok, SeqNumber.add_eq_ok, SeqNumber.sub_eq_ok,
    Checked.pure_eq_ok] at h
  obtain ⟨_, ⟨-, rfl⟩, _, ⟨hlt, rfl⟩, adjusted, hsub, h⟩ := h
  cases h
  have hd := SeqNumber.dist_shift_nat (a := s.nextAck) hlt
  obtain rfl : adjusted = shl s.remoteLastWin.toNat s.remoteWinShift := by
    unfold nextAck at hsub hd
    omega
  have hle := s.remoteLastWin.toNat_lt
  rw [shr_shl hle hshift]
  refine congrArg some (UInt16.toNat_inj.mp ?_)
  rw [toNat_u16OrMax]
  omega

lemma windowToUpdate_opening (hbase : s.Base) (hst : s.state = .synSent ∨ s.state = .synReceived)
    (hack : s.remoteLastAck = none ∨
      s.remoteLastAck = some s.nextAck ∧ s.scaledWindow ≤ s.remoteLastWin) :
    s.windowToUpdate ≠ .ok true := by
  have hlast : ∀ last, s.lastScaledWindow = .ok (some last) → s.scaledWindow ≤ last := by
    intro last h
    rcases hack with hnone | ⟨hsome, hwin⟩
    · simp only [lastScaledWindow, hnone] at h
      cases h
    · cases lastScaledWindow_of_nextAck hbase.winShift hsome h
      exact hwin
  have hfalse : ∀ last, s.scaledWindow ≤ last →
      ¬ (0 < s.scaledWindow ∧ last ≤ s.scaledWindow / 2) := by
    intro last hle h
    have htwo : (2 : UInt16).toNat = 2 := rfl
    have hzero : (0 : UInt16).toNat = 0 := rfl
    rw [UInt16.le_iff_toNat_le] at hle
    rw [UInt16.lt_iff_toNat_lt, UInt16.le_iff_toNat_le, UInt16.toNat_div, htwo, hzero] at h
    omega
  intro h
  rcases hst with hst | hst
  all_goals
    simp only [windowToUpdate, hst] at h
    obtain ⟨last, hwin, h⟩ := Checked.bind_eq_ok.mp h
    cases last with
    | none => cases h
    | some last => exact hfalse last (hlast last hwin) (of_decide_eq_true (Except.ok.inj h))

/-- While our SYN is in flight, `dispatch` sends it again only to acknowledge the one of the
remote. -/
lemma SynOnce.decision_ne (h : s.SynOnce) (hbase : s.Base) (hf : s.Flight)
    (hst : s.state = .synSent ∨ s.state = .synReceived) (hflight : s.dataInFlight)
    (hkeep : ¬ s.timer.shouldKeepAlive cx.now)
    (hack : s.state = .synReceived → s.ackToTransmit ≠ .ok true) :
    s.decision cx ≠ .ok .send := by
  have hlast : s.remoteLastAck = none ∨
      s.remoteLastAck = some s.nextAck ∧ s.scaledWindow ≤ s.remoteLastWin := by
    rcases hst with hs | hs
    · exact .inl (h.synSent hs)
    · exact .inr ((h.synReceived hs hflight).resolve_left (hack hs))
  intro hd
  rcases decision_eq_ok hd with ⟨hseq, -⟩ |
    ⟨-, ack, hack', ⟨⟨rfl, -⟩, -⟩ | ⟨-, ⟨hwin, -⟩ | ⟨-, hd⟩⟩⟩
  · exact seqToTransmit_opening hbase hf hst hflight hseq
  · rcases hst with hs | hs
    · simp only [ackToTransmit, h.synSent hs] at hack'
      cases hack'
    · exact hack hs hack'
  · exact windowToUpdate_opening hbase hst hlast hwin
  · unfold timerDecision at hd
    split_ifs at hd with hsend
    rcases hsend with hclosed | hsend | hprobe
    · rcases hst with hs | hs <;> cases hclosed.symm.trans hs
    · exact hkeep hsend
    · refine h.probe ?_ (.inr hst)
      cases htimer : s.timer with
      | zeroWindowProbe => trivial
      | _ => exact absurd hprobe (by rw [htimer]; exact id)

lemma checkAck_synSent (hst : s.state = .synSent)
    (h : s.checkAck cx ipRepr repr = .ok (.ret s' p)) : s' = s := by
  unfold checkAck at h
  split_ifs at h
  · cases h
    rfl
  · cases h
  · simp only [checkAckNumber, hst] at h
    rcases checkAckSynSent_eq_ok h with ⟨_, h⟩ | ⟨-, h, -⟩
    · cases h
      rfl
    · cases h

/-- In SYN-SENT no segment is acknowledged that does not lead on. -/
lemma process_synSent (hp : s.process cx ipRepr repr = .ok (s', p)) (hst : s.state = .synSent)
    (hst' : s'.state = .synSent) : s'.remoteLastAck = s.remoteLastAck := by
  cases Stages.of_process hp with
  | checked hcheck => rw [checkAck_synSent hst hcheck]
  | trimmed w hw htrim =>
    simp only [trimPayload, hst] at htrim
    cases htrim
  | stopped hreaches hret =>
    obtain ⟨_, _, _, -, -, heq⟩ := hreaches.noted
    rw [heq] at hret
    rcases transition_ret hret with rfl | ⟨-, -, st, rfl, -⟩
    · rfl
    · rfl
  | finished s₂ hreaches hnext hfinish =>
    obtain ⟨_, _, _, -, -, heq⟩ := hreaches.noted
    rw [heq] at hnext
    rw [(finishProcess_frame hfinish).2] at hst'
    cases transition_next hnext with
    | synListen => cases hst'
    | synSent =>
      simp only [synSynSent] at hst'
      split_ifs at hst'
    | moved st hstep => exact absurd hst hstep.ne.2.2.2.1

lemma finishTimer_probe {now : Instant} {keepAlive : Option Duration} {rto : Duration}
    {ack : AckInfo}
    {winLen : ℕ} {t : Timer}
    (h : (finishTimer now keepAlive rto ack winLen 0 t).isZeroWindowProbe) :
      t.isZeroWindowProbe := by
  cases t with
  | zeroWindowProbe => trivial
  | close e =>
    rw [finishTimer_close] at h
    exact h
  | idle | retransmit | fastRetransmit =>
    exfalso
    unfold finishTimer at h
    simp only [not_true_eq_false, false_and, and_false, if_false] at h
    split_ifs at h <;> exact h

/-- A segment after which the connection is still opening starts no probe. -/
lemma Accepted.not_probe {w : Span} {ack : AckInfo} {payload : List UInt8} {offset : ℕ}
    (ha : Accepted s cx ipRepr repr w ack payload offset s₁ s₂ s₃ s') (hbase' : s'.Base)
    (h : s.timer.isZeroWindowProbe → ¬ s.state.Opening) (hopen : s'.state.Opening) :
    ¬ s'.timer.isZeroWindowProbe := by
  have htx' := hbase'.tx_opening hopen
  obtain ⟨-, -, htx, -, htimer, -⟩ := ha.received.send_eq
  rw [ha.received.state_eq.1, ha.rx_eq.2.2] at hopen
  have ht := ha.transits
  have hacked := ha.acked
  obtain ⟨_, _, _, -, -, rfl⟩ := ha.noted
  obtain ⟨tx, cc₁, cc, dup, last, fast, tsval, -, -, -, -, -, -⟩ := hacked
  simp only at htx htimer
  intro hprobe
  rw [htimer, ← htx, htx'] at hprobe
  have hprobe := finishTimer_probe hprobe
  cases fast with
  | true => exact hprobe
  | false =>
    cases ht with
    | synListen => exact hprobe
    | synSent _ hs _ => exact h hprobe (.inr (.inl hs))
    | moved st hstep => exact hstep.not_opening hopen

/-- In a simultaneous open the SYN of the remote is left to be acknowledged. -/
lemma Accepted.ackToTransmit_syn {w : Span} {ack : AckInfo} {payload : List UInt8} {offset : ℕ}
    (ha : Accepted s cx ipRepr repr w ack payload offset s₁ s₂ s₃ s') (hbase' : s'.Base)
    (hst : s.state = .synSent) (hst' : s'.state = .synReceived) :
    s'.ackToTransmit = .ok true := by
  have hopen : s'.state.Opening := .inr (.inr hst')
  have hrx := (hbase'.rx_opening hopen).1
  have hreceived := ha.received
  have hopen₃ : s₃.state.Opening := by
    rw [← hreceived.state_eq.1]
    exact hopen
  rw [ha.payload_of_opening hopen₃] at hreceived
  obtain rfl := hreceived.eq_of_nil
  have ht := ha.transits
  have hacked := ha.acked
  obtain ⟨_, _, _, -, -, rfl⟩ := ha.noted
  obtain ⟨tx, cc₁, cc, dup, last, fast, tsval, -, -, -, -, -, -⟩ := hacked
  cases ht with
  | synListen _ hlisten => cases hlisten.symm.trans hst
  | moved st hstep => exact absurd hst hstep.ne.2.2.2.1
  | synSent =>
    have hlen : s.rxBuffer.len = 0 := hrx
    have hlt := dist_shift_shift_of_lt repr.seqNumber (j := 0) (k := 1) (by omega) (by omega)
    rw [shift_zero] at hlt
    have hlt : SeqNumber.lt repr.seqNumber (shift repr.seqNumber 1) := by
      unfold SeqNumber.lt
      omega
    simp only [ackToTransmit, synSynSent, setRemoteOptions, hlen]
    rw [SeqNumber.add_of_lt (by omega), Nat.cast_zero, shift_zero, Checked.ok_bind,
      Checked.pure_eq_ok,
      decide_eq_true hlt]

lemma SynOnce.accepted {w : Span} {ack : AckInfo} {payload : List UInt8} {offset : ℕ}
    (h : s.SynOnce) (hbase' : s'.Base)
    (ha : Accepted s cx ipRepr repr w ack payload offset s₁ s₂ s₃ s') : s'.SynOnce := by
  by_cases hopen : s'.state.Opening
  · have hprobe := ha.not_probe hbase' h.probe hopen
    cases ha.advances with
    | listen hst hst' hack hlast htx =>
      exact ⟨by simp [hst'], fun _ hflight => absurd hlast hflight, fun hp => absurd hp hprobe⟩
    | syn hst hst' hack hloc hlast htx =>
      exact ⟨by simp [hst'], fun _ _ => .inl (ha.ackToTransmit_syn hbase' hst hst'),
        fun hp => absurd hp hprobe⟩
    | synAck last _ hst' =>
      rcases hst' with hst' | hst' <;> simp [State.Opening, hst'] at hopen
    | data n _ hst => exact absurd hopen hst.not_opening
    | fin n _ _ hst => exact absurd hopen hst.not_opening
  · refine ⟨fun hs => ?_, fun hs => ?_, fun _ => hopen⟩
    · exact absurd (.inr (.inl hs)) hopen
    · exact absurd (.inr (.inr hs)) hopen

lemma SynOnce.process (h : s.SynOnce) (hbase' : s'.Base)
    (hp : s.process cx ipRepr repr = .ok (s', p)) (hrule : ProcessRule s cx ipRepr repr s') :
    s'.SynOnce := by
  cases hrule with
  | accepted ha => exact h.accepted hbase' ha
  | reset st _ _ hq hst =>
    refine ⟨fun hs => ?_, fun hs => ?_, fun hprobe => ?_⟩
    · rcases hst with ⟨rfl, -⟩ | rfl <;> cases hs
    · rcases hst with ⟨rfl, -⟩ | rfl <;> cases hs
    · rcases hst with ⟨rfl, hs, -⟩ | rfl
      · obtain ⟨_, _, _, _, _, s₁, htimer, -, -, rfl, hs'⟩ := hq
        have hold : s.timer.isZeroWindowProbe := by
          rcases htimer with rfl | ⟨htw, -⟩
          · rcases hs' with rfl | rfl
            · exact hprobe
            · exact hprobe
          · cases htw.symm.trans hs
        exact absurd (.inr (.inr hs)) (h.probe hold)
      · simp [State.Opening]
  | quiet hq =>
    have hst := hq.state_eq
    refine ⟨fun hs => ?_, ?_, fun hprobe => ?_⟩
    · rw [process_synSent hp (hst.symm.trans hs) hs]
      exact h.synSent (hst.symm.trans hs)
    · obtain ⟨_, _, _, _, _, s₁, -, -, -, rfl, rfl | rfl⟩ := hq
      · exact h.synReceived
      · exact fun _ _ => .inr ⟨rfl, UInt16.le_refl _⟩
    · obtain ⟨_, _, _, _, _, s₁, htimer, -, -, rfl, hs'⟩ := hq
      have hold : s.timer.isZeroWindowProbe := by
        rcases htimer with rfl | ⟨-, now, rfl⟩
        · rcases hs' with rfl | rfl
          · exact hprobe
          · exact hprobe
        · rcases hs' with rfl | rfl
          · exact hprobe.elim
          · exact hprobe.elim
      rw [hst]
      exact h.probe hold

/-! ### Segments that are sent -/

lemma SynOnce.timed (h : s.SynOnce) (ht : Timed s cx s') : s'.SynOnce := by
  cases ht with
  | timeout =>
    exact ⟨nofun, nofun, fun _ => by simp [State.Opening, setState]⟩
  | rewind => exact ⟨h.synSent, fun _ hflight => absurd rfl hflight, False.elim⟩
  | same => exact ⟨h.synSent, h.synReceived, h.probe⟩

@[simp] lemma isZeroWindowProbe_rewindKeepAlive {now : Instant} {interval : Option Duration}
    {t : Timer} : (t.rewindKeepAlive now interval).isZeroWindowProbe ↔ t.isZeroWindowProbe := by
  cases t <;> rfl

@[simp] lemma isZeroWindowProbe_rewindZeroWindowProbe {now : Instant} {t : Timer} :
    (t.rewindZeroWindowProbe now).isZeroWindowProbe ↔ t.isZeroWindowProbe := by
  cases t <;> rfl

lemma noteData_probe {r : TcpRepr} {endSeq : SeqNumber}
    (h : (s.noteData cx r endSeq).timer.isZeroWindowProbe) : s.timer.isZeroWindowProbe := by
  unfold noteData at h
  simp only at h
  by_cases hre : 0 < r.segmentLen ∧ ¬ s.timer.isRetransmit
  · rw [if_pos hre] at h
    cases htimer : s.timer with
    | zeroWindowProbe => trivial
    | _ =>
      rw [htimer] at h
      exact h.elim
  · rwa [if_neg hre] at h

/-- A SYN tells the remote all that there is to tell. -/
lemma Emits.syn_eq {e : Emission} (h : Emits s cx e) (hkeep : e.isKeepAlive = false)
    (hst : s.state = .synSent ∨ s.state = .synReceived) :
    e.repr.ackNumber = (if s.state = .synSent then none else some s.nextAck) ∧
      e.repr.windowLen = u16OrMax s.rxBuffer.window := by
  cases h with
  | keepAlive _ _ hkeep' => simp [hkeep] at hkeep'
  | segment r hbuilds _ _ _ hrepr =>
    obtain ⟨mss, hr⟩ := hrepr
    rw [hr]
    generalize e.isZeroWindowProbe = zwp at hbuilds
    cases hbuilds with
    | syn _ _ _ _ hack hwin => exact ⟨hack, hwin⟩
    | rst hs => rcases hst with h | h <;> cases hs.symm.trans h
    | data _ _ _ _ hs => rcases hst with h | h <;> simp [h] at hs
    | ack hs => rcases hst with h | h <;> simp [h] at hs

lemma scaledWindow_le (s : Socket) : s.scaledWindow ≤ u16OrMax s.rxBuffer.window := by
  rw [UInt16.le_iff_toNat_le, scaledWindow, toNat_u16OrMax, toNat_u16OrMax]
  have hle : shr s.rxBuffer.window s.remoteWinShift ≤ s.rxBuffer.window := Nat.shiftRight_le _ _
  omega

lemma SynOnce.sends {e : Emission} (h : s.SynOnce) (hemits : Emits s cx e) (hs : Sends s cx e s') :
    s'.SynOnce := by
  cases hs with
  | probe =>
    refine ⟨h.synSent, h.synReceived, fun hprobe => h.probe ?_⟩
    simpa [noteEmit] using hprobe
  | keepAlive =>
    refine ⟨h.synSent, h.synReceived, fun hprobe => h.probe ?_⟩
    simpa [noteEmit] using hprobe
  | segment _ hkeep =>
    refine ⟨fun hst => ?_, fun hst _ => .inr ?_, fun hprobe => h.probe ?_⟩
    · obtain ⟨hack, -⟩ := hemits.syn_eq hkeep (.inl hst)
      exact hack.trans (if_pos hst)
    · obtain ⟨hack, hwin⟩ := hemits.syn_eq hkeep (.inr hst)
      have hne : s.state ≠ .synSent := fun hs => by cases hs.symm.trans hst
      have hle := s.scaledWindow_le
      rw [← hwin] at hle
      exact ⟨hack.trans (if_neg hne), hle⟩
    · have hold := noteData_probe hprobe
      simpa [noteEmit] using hold

lemma SynOnce.dispatch {o : Option Emission} (h : s.SynOnce) (hd : DispatchRule s cx s' o) :
    s'.SynOnce := by
  cases hd with
  | noTuple => exact h
  | idle _ ht => exact h.timed ht
  | reset => exact ⟨nofun, nofun, False.elim⟩
  | failed _ ht => exact h.timed ht
  | sent _ ht _ hemits hsends => exact (h.timed ht).sends hemits hsends

/-- Only a segment that occupies sequence space starts a measurement, with its end. -/
lemma Sends.timestamp {e : Emission} (h : Sends s cx e s') (hm : s'.rtte.timestamp = some m) :
    s.rtte.timestamp = some m ∨ s.rtte.timestamp = none ∧ e.isZeroWindowProbe = false ∧
      e.isKeepAlive = false ∧ 0 < e.repr.segmentLen ∧
      m.2 = shift e.repr.seqNumber e.repr.segmentLen := by
  cases h with
  | probe => exact .inl hm
  | keepAlive => exact .inl hm
  | segment hzwp hkeep =>
    simp only [forget, noteData, noteEmit] at hm
    by_cases hlen : 0 < e.repr.segmentLen
    · rw [if_pos hlen] at hm
      cases hts : s.rtte.timestamp with
      | some n =>
        rw [RttEstimator.timestamp_onSend hts] at hm
        exact .inl hm
      | none =>
        rw [RttEstimator.timestamp_onSend_of_none hts hm]
        exact .inr ⟨rfl, hzwp, hkeep, hlen, rfl⟩
    · rw [if_neg hlen] at hm
      exact .inl hm

/-- A segment that is no keep-alive follows what was sent before, or is our SYN. -/
lemma Emits.seqNumber_eq {e : Emission} (h : Emits s cx e) (hkeep : e.isKeepAlive = false) :
    e.repr.seqNumber = s.remoteLastSeq ∨
      (s.state = .synSent ∨ s.state = .synReceived) ∧ e.repr.seqNumber = s.localSeqNo := by
  cases h with
  | keepAlive _ _ hkeep' => simp [hkeep] at hkeep'
  | segment r hbuilds _ _ _ hrepr =>
    obtain ⟨mss, hr⟩ := hrepr
    rw [hr]
    generalize e.isZeroWindowProbe = zwp at hbuilds
    cases hbuilds with
    | rst _ _ hseq => exact .inl hseq
    | ack _ _ hseq => exact .inl hseq
    | syn hst _ hseq => exact .inr ⟨hst, hseq⟩
    | data offset room mss zwp _ _ _ _ _ _ hseq => exact .inl hseq

lemma Emits.shouldKeepAlive {e : Emission} (h : Emits s cx e) (hkeep : e.isKeepAlive = true) :
    s.timer.shouldKeepAlive cx.now := by
  cases h with
  | segment _ _ hnot => simp [hkeep] at hnot
  | keepAlive _ _ _ halive => exact halive

/-- The timers leave a measurement alone, or end it. -/
lemma Timed.timestamp (h : Timed s cx s') (hm : s'.rtte.timestamp ≠ none) :
    s'.rtte = s.rtte ∧ s'.timer = s.timer ∧ s'.localSeqNo = s.localSeqNo ∧
      s'.remoteLastSeq = s.remoteLastSeq ∧ (s'.state = s.state ∨ s'.state = .closed) ∧
      s'.ackToTransmit = s.ackToTransmit := by
  cases h with
  | timeout => exact ⟨rfl, rfl, rfl, rfl, .inr rfl, rfl⟩
  | rewind => exact absurd (RttEstimator.timestamp_onRetransmit _) hm
  | same => exact ⟨rfl, rfl, rfl, rfl, .inl rfl, rfl⟩

lemma due_of_noTuple (htuple : s.tuple = none) : (s.due cx).rtte = s.rtte := by
  have hseq : (s.touch cx).seqToTransmit cx ≠ .ok false := by
    intro h
    unfold seqToTransmit at h
    obtain ⟨tuple, hunwrap, -⟩ := Checked.bind_eq_ok.mp h
    have htuple' : (s.touch cx).tuple = none := htuple
    rw [htuple'] at hunwrap
    cases hunwrap
  unfold due
  by_cases hto : (s.touch cx).timedOut cx.now
  · simp only [if_pos hto]
    rfl
  · simp only [if_neg hto]
    cases hs : (s.touch cx).seqToTransmit cx with
    | error => rfl
    | ok b =>
      cases b with
      | true => rfl
      | false => exact absurd hs hseq

end Socket

namespace Sys

variable {y y' : Sys} {op : Op}

lemma synOnce_step (h : y.socket.SynOnce) (hbase : y.socket.Base) (hstep : Step y op y') :
    y'.socket.SynOnce := by
  have hrule := StepRule.of_step hstep
  cases hrule with
  | same => exact h
  | listen => exact ⟨by rintro ⟨⟩, by rintro ⟨⟩, False.elim⟩
  | connect => exact ⟨fun _ => rfl, by rintro ⟨⟩, False.elim⟩
  | close =>
    obtain ⟨st, heq, hst⟩ := y.socket.close_eq
    rw [heq]
    rcases hst with ⟨-, rfl⟩ | ⟨-, rfl⟩ | ⟨-, rfl⟩ | ⟨-, rfl⟩
    · exact ⟨by rintro ⟨⟩, by rintro ⟨⟩, fun _ => by simp [Socket.setState, State.Opening]⟩
    · exact ⟨by rintro ⟨⟩, by rintro ⟨⟩, fun _ => by simp [Socket.setState, State.Opening]⟩
    · exact ⟨by rintro ⟨⟩, by rintro ⟨⟩, fun _ => by simp [Socket.setState, State.Opening]⟩
    · exact h
  | abort => exact ⟨by rintro ⟨⟩, by rintro ⟨⟩,
      fun _ => by simp [Socket.abort, Socket.setState, State.Opening]⟩
  | set x s' hset =>
    obtain ⟨_, _, _, _, _, _, _, _, timer, htimer, -, rfl⟩ := Socket.set_eq_ok hset
    refine ⟨h.synSent, h.synReceived, fun hprobe => h.probe ?_⟩
    rcases htimer with rfl | rfl
    · exact hprobe
    · change y.socket.timer.setKeepAlive.isZeroWindowProbe at hprobe
      cases htimer : y.socket.timer with
      | zeroWindowProbe => trivial
      | idle k =>
        rw [htimer] at hprobe
        cases k <;> exact hprobe
      | _ =>
        rw [htimer] at hprobe
        exact hprobe
  | send op s' data hsend =>
    obtain ⟨hmay, tx, ts, -, -, -, rfl⟩ := hsend
    have hclosed : ¬ (y.socket.state = .synSent ∨ y.socket.state = .synReceived) ∧
        ¬ y.socket.state.Opening := by
      rcases hmay with hs | hs <;> simp [State.Opening, hs]
    exact ⟨fun hs => absurd (.inl hs) hclosed.1, fun hs => absurd (.inr hs) hclosed.1,
      fun _ => hclosed.2⟩
  | recv op s' n hrecv =>
    obtain ⟨hmay, rx, -, -, rfl⟩ := hrecv
    refine ⟨h.synSent, fun hs => ?_, h.probe⟩
    have hs : y.socket.state = .synReceived := hs
    have hrx := (hbase.rx_opening (.inr (.inr hs))).1
    simp [Socket.mayRecv, hs, RingBuffer.isEmpty, hrx] at hmay
  | process cx ipRepr repr s' hp =>
    obtain ⟨p, hproc⟩ := process_of_step hstep
    exact h.process (hbase.process hp) hproc hp
  | dispatch cx emit s' e hd => exact h.dispatch hd

lemma ReachableBy.synOnce {ok : Sys → Op → Prop} (h : ReachableBy ok y) : y.socket.SynOnce := by
  obtain ⟨y₀, h₀, hrun⟩ := h
  refine hrun.invariant_of (I := fun y => y.socket.SynOnce) (J := fun y => y.socket.Base)
    (fun t ht => ?_) ?_ ?_
  · exact ReachableBy.base ⟨y₀, h₀, ht⟩
  · exact fun t op u hbase hsyn _ hs => synOnce_step hsyn hbase hs
  · obtain ⟨cfg, rx, tx, hnew, -⟩ := h₀
    unfold Socket.new at hnew
    split_ifs at hnew
    simp only [Except.ok.injEq] at hnew
    rw [← hnew]
    exact ⟨by rintro ⟨⟩, by rintro ⟨⟩, False.elim⟩

/-- A measurement is on, and `dispatch` is called in a state in which it may repeat what is in
flight: the keep-alive timer has expired, or our SYN has to acknowledge the one of the remote. -/
def Repeats (y : Sys) : Op → Prop
  | .dispatch cx _ =>
    y.socket.rtte.timestamp ≠ none ∧ y.socket.dataInFlight ∧
      (y.socket.timer.shouldKeepAlive cx.now ∨
        y.socket.state = .synReceived ∧ y.socket.ackToTransmit = .ok true)
  | _ => False

end Sys

/-! ### The segment that is timed -/

/-- A run with a record of the segment that the estimator times. -/
structure Stopwatch where
  sys : Sys
  /-- The position of `localSeqNo` when the segment was sent. -/
  low : ℤ
  /-- The position behind the segment. -/
  high : ℤ
  /-- The segment belongs to the current connection. -/
  current : Bool
  /-- The segments of the same connection that were sent since, the latest first. -/
  since : List Sent

namespace Stopwatch

/-- The segments that a step added to the record of the connection. -/
def sentBy (c c' : Conn) : List Sent := c'.sent.take (c'.sent.length - c.sent.length)

/-- As long as nothing is timed, each call of `dispatch` sets the record to the segment it sends. -/
def next (g : Stopwatch) (op : Op) (y : Sys) : Stopwatch :=
  match op with
  | .dispatch cx _ =>
    let new := sentBy g.sys.conn y.conn
    if (g.sys.socket.due cx).rtte.timestamp = none then
      { sys := y
        low := g.sys.conn.acked
        high := (new.head?.map Sent.endPos).getD 0
        current := true
        since := [] }
    else { g with sys := y, since := if g.current then new ++ g.since else g.since }
  | _ =>
    { g with
      sys := y
      current := g.current ∧ ¬ (g.sys.socket.state = .listen ∧ y.socket.state ≠ .listen) }

def step (g : Stopwatch) (op : Op) : Checked Stopwatch := do
  let y ← g.sys.step op
  return g.next op y

/-- The states reached by steps that all meet `ok`. -/
def ReachableBy (ok : Sys → Op → Prop) (g : Stopwatch) : Prop :=
  ∃ y₀ : Sys, y₀.Initial ∧
    Transition.Run (fun g op g' => g.step op = .ok g') (fun g op => ok g.sys op)
      ⟨y₀, 0, 0, true, []⟩ g

/-- No segment sent since holds an octet up to the end of the one that is timed that was not
acknowledged when that was sent. A SYN and a FIN count as octets. -/
def Unrepeated (g : Stopwatch) : Prop :=
  ∀ e ∈ g.since, ∀ q, e.pos ≤ q → q < e.endPos → ¬ (g.low ≤ q ∧ q < g.high)

/-- The segment that is timed is in flight, and no part of it was sent again. -/
structure Runs (g : Stopwatch) : Prop where
  inFlight : ∀ m, g.sys.socket.rtte.timestamp = some m → g.current = true →
    g.sys.conn.acked < g.high ∧ g.high ≤ g.sys.conn.acked + g.sys.socket.inFlight ∧
      m.2 = shift g.sys.socket.localSeqNo (g.high - g.sys.conn.acked)
  unrepeated : g.sys.socket.rtte.timestamp ≠ none → g.Unrepeated

variable {g g' : Stopwatch} {op : Op} {s' : Socket} {cx : Context}

lemma sentBy_self (c : Conn) : sentBy c c = [] := by
  simp [sentBy]

lemma sentBy_cons (c : Conn) (e : Sent) : sentBy c { c with sent := e :: c.sent } = [e] := by
  simp [sentBy]

/-- Without a measurement there is nothing to show. -/
lemma runs_of_none (h : g.sys.socket.rtte.timestamp = none) : g.Runs :=
  ⟨fun _ hm => absurd (h.symm.trans hm) nofun, fun hne => absurd h hne⟩

/-- A step that leaves the send side and the estimator alone. -/
lemma Runs.congr (h : g.Runs) (hts : s'.rtte.timestamp = g.sys.socket.rtte.timestamp)
    (hloc : s'.localSeqNo = g.sys.socket.localSeqNo)
    (hlast : s'.remoteLastSeq = g.sys.socket.remoteLastSeq) {c : Conn}
    (hacked : c.acked = g.sys.conn.acked) {current : Bool}
    (hcurrent : current = true → g.current = true) :
    Runs { g with sys := ⟨s', c⟩, current := current } := by
  have hin : s'.inFlight = g.sys.socket.inFlight := by
    rw [Socket.inFlight, Socket.inFlight, hloc, hlast]
  constructor
  · intro m hm hcur
    simp only [hacked, hin, hloc]
    exact h.inFlight m (hts ▸ hm) (hcurrent hcur)
  · intro hne
    exact h.unrepeated (hts ▸ hne)

/-! ### Segments that arrive -/

/-- While the segment that is timed is not acknowledged as a whole, it stays in flight. -/
lemma Runs.accepted {ipRepr : IpRepr} {repr : TcpRepr} {p : Option Packet} {w : Socket.Span}
    {ack : Socket.AckInfo} {payload : List UInt8} {offset : ℕ} {s₁ s₂ s₃ : Socket} (h : g.Runs)
    (hbase : g.sys.socket.Base) (hf : g.sys.socket.Flight)
    (hp : g.sys.socket.process cx ipRepr repr = .ok (s', p))
    (ha : Socket.Accepted g.sys.socket cx ipRepr repr w ack payload offset s₁ s₂ s₃ s') :
    (g.next (.process cx ipRepr repr) ⟨s', g.sys.conn.process g.sys.socket s'⟩).Runs := by
  constructor
  · intro m hm hcur
    obtain ⟨hcur, hold⟩ := of_decide_eq_true hcur
    obtain ⟨hts, hnum⟩ := Socket.process_timestamp hp hm
    obtain ⟨hlt, hle, hend⟩ := h.inFlight m hts hcur
    have hbound := g.sys.socket.inFlight_lt
    cases hnum' : repr.ackNumber with
    | none =>
      cases ha.advances with
      | listen hst hst' => exact absurd ⟨hst, by simp [hst']⟩ hold
      | syn hst hst' _ hloc hlast =>
        have hctl : g.sys.socket.controlLen = 1 := by
          simp [Socket.controlLen, Socket.sentSyn, Socket.sentFin, hst]
        have htx := hbase.tx_opening (.inr (.inl hst))
        have hcontrol := hf.le_control (by simp [hst]) (by simp [hst])
        have hin : s'.inFlight = 1 := by
          rw [← shift_zero g.sys.socket.localSeqNo] at hloc
          rw [Socket.inFlight_of_shift (j := 1) (by simpa using hlast) hloc (by omega) (by omega)]
          rfl
        have hacked := Socket.process_acked (s := g.sys.socket) g.sys.conn (n := 0) (by omega)
          (by simp [hst]) (by simpa using hloc)
        simp only [next, hacked, hin, hloc]
        exact ⟨by omega, by omega, hend⟩
      | synAck _ _ _ hack | data _ _ _ _ _ hack | fin _ _ _ _ _ hack => simp [hnum'] at hack
    | some a =>
      obtain ⟨n, hA⟩ := hf.acknowledges hbase ha.advances (by simp [hnum'])
      have hn := hA.lt
      have hin := hA.inFlight
      have hloc := hA.localSeqNo
      have hlisten : g.sys.socket.state ≠ .listen := by
        intro hs
        cases ha.ackAcceptable with
        | listen _ hack => simp [hnum'] at hack
        | syn hs' | synAck hs' | synReceived hs' => simp [hs] at hs'
        | range _ hs' => exact hs' hs
      have hacked := Socket.process_acked g.sys.conn hn hlisten hloc
      have hless : (n : ℤ) < g.high - g.sys.conn.acked := by
        rcases hnum with hsame | hge
        · have hd := SeqNumber.dist_shift_nat (a := g.sys.socket.localSeqNo) hn
          rw [← hloc, hsame, Serial.dist_self] at hd
          omega
        · have hnot := hge _ hA.ackNumber
          rw [hend] at hnot
          unfold SeqNumber.ge at hnot
          rw [dist_shift_shift_of_lt _ (by omega) (by omega)] at hnot
          omega
      simp only [next, hacked, hin, hloc]
      push_cast
      refine ⟨by omega, by omega, ?_⟩
      rw [hend, shift_shift]
      congr 1
      omega
  · intro hne
    obtain ⟨m, hm⟩ := Option.ne_none_iff_exists'.mp hne
    have hts := (Socket.process_timestamp hp hm).1
    exact h.unrepeated (by simp [hts])

/-! ### Segments that are sent -/

variable {emit : IpRepr → TcpRepr → Bool} {e : Emission} {s₁ : Socket}

/-- While the segment that is timed is in flight, a segment that is sent lies behind all that is. -/
lemma behind (h : g.sys.socket.Timed cx s₁) (hreach : g.sys.Reachable)
    (hok : ¬ g.sys.Repeats (.dispatch cx emit)) (hts : s₁.rtte.timestamp ≠ none)
    (hflight : g.sys.socket.dataInFlight) (hsend : s₁.decision cx = .ok .send)
    (hemits : s₁.Emits cx e) :
    dist e.repr.seqNumber g.sys.socket.localSeqNo = g.sys.socket.inFlight := by
  obtain ⟨hrtte, htimer, hloc, hlast, hst, hack⟩ := h.timestamp hts
  have hsyn := (hreach.synOnce).timed h
  have hbase := (hreach.base).timed h
  have hf := (hreach.flight).timed h
  have hkeep : ¬ s₁.timer.shouldKeepAlive cx.now := by
    rw [htimer]
    exact fun hk => hok ⟨hrtte ▸ hts, hflight, .inl hk⟩
  have hno : e.isKeepAlive = false :=
    Bool.eq_false_of_not_eq_true fun hk => hkeep (hemits.shouldKeepAlive hk)
  rcases hemits.seqNumber_eq hno with hseq | ⟨hopen, -⟩
  · rw [hseq, hlast]
    rfl
  · refine absurd hsend (hsyn.decision_ne hbase hf hopen ?_ hkeep fun hs hpending => ?_)
    · unfold Socket.dataInFlight
      rw [hlast, hloc]
      exact hflight
    · rw [hack] at hpending
      refine hok ⟨hrtte ▸ hts, hflight, .inr ⟨?_, hpending⟩⟩
      rcases hst with hst | hst
      · exact hst.symm.trans hs
      · cases hst.symm.trans hs

/-- A segment that starts a measurement is what the record is set to. -/
lemma runs_of_started {c : Conn} {hd : Option Sent} (hbase : s₁.Base) (hf : s₁.Flight)
    (hts : s₁.rtte.timestamp = none) (hemits : s₁.Emits cx e) (hsends : s₁.Sends cx e s')
    (hhead : hd = some ⟨c.acked + dist e.repr.seqNumber s₁.localSeqNo, e.repr⟩) :
    Runs ⟨⟨s', { c with sent := hd.toList ++ c.sent }⟩, c.acked, (hd.map Sent.endPos).getD 0, true,
      []⟩ := by
  refine ⟨fun m hm _ => ?_, fun _ e' he' => absurd he' (List.not_mem_nil)⟩
  obtain ⟨-, -, hloc, -⟩ := hsends.send_eq
  have hpos := hf.nonneg
  rcases hsends.timestamp hm with hold | ⟨-, hzwp, hkeep, hlen, hend⟩
  · cases hts.symm.trans hold
  · have hseq : 0 ≤ dist e.repr.seqNumber s₁.localSeqNo := by
      rcases hemits.seqNumber_eq hkeep with hseq | ⟨-, hseq⟩
      · rw [hseq]
        exact hpos
      · rw [hseq, Serial.dist_self]
    rcases hf.inFlight_sends hbase hemits hsends with ⟨-, hkind⟩ | ⟨hin, -⟩
    · simp [hzwp, hkeep] at hkind
    · have hendOf : s₁.endOf e.repr = dist e.repr.seqNumber s₁.localSeqNo + e.repr.segmentLen := rfl
      simp only [hhead, Option.map_some, Option.getD_some, Sent.endPos, hin, hloc, hend,
        s₁.shift_endOf, hendOf]
      refine ⟨by omega, by omega, ?_⟩
      congr 1
      omega

/-- The record after a call of `dispatch` that sends nothing. -/
lemma runs_of_unsent (h : g.Runs) {c : Conn} (hc : c = g.sys.conn)
    (hts : s'.rtte.timestamp ≠ none → (g.sys.socket.due cx).rtte.timestamp ≠ none ∧
      s'.rtte.timestamp = g.sys.socket.rtte.timestamp ∧
      s'.localSeqNo = g.sys.socket.localSeqNo ∧ s'.remoteLastSeq = g.sys.socket.remoteLastSeq) :
    (g.next (.dispatch cx emit) ⟨s', c⟩).Runs := by
  by_cases hnone : s'.rtte.timestamp = none
  · refine runs_of_none ?_
    unfold next
    simp only
    split_ifs <;> exact hnone
  · obtain ⟨hdue, hrtte, hloc, hlast⟩ := hts hnone
    subst hc
    unfold next
    simp only [if_neg hdue, sentBy_self, List.nil_append, ite_self]
    exact h.congr hrtte hloc hlast rfl id

lemma Runs.sent (h : g.Runs) (hreach : g.sys.Reachable)
    (hok : ¬ g.sys.Repeats (.dispatch cx emit)) (ht : g.sys.socket.Timed cx s₁)
    (hsend : s₁.decision cx = .ok .send) (hemits : s₁.Emits cx e) (hsends : s₁.Sends cx e s') :
    (g.next (.dispatch cx emit)
      ⟨s', g.sys.conn.dispatch g.sys.socket (some { e with sent := true })⟩).Runs := by
  have hbase := (hreach.base).timed ht
  have hf := (hreach.flight).timed ht
  have hloc₁ : s₁.localSeqNo = g.sys.socket.localSeqNo := by
    cases ht <;> rfl
  have hdue := ht.eq_due
  rw [Socket.conn_dispatch_sent _ rfl]
  unfold next
  simp only [← hdue, sentBy_cons]
  by_cases hts : s₁.rtte.timestamp = none
  · rw [if_pos hts]
    exact runs_of_started (c := g.sys.conn) hbase hf hts hemits hsends (by rw [hloc₁])
  · rw [if_neg hts]
    obtain ⟨hrtte, -, -, hlast₁, -⟩ := ht.timestamp hts
    obtain ⟨m, hm⟩ := Option.ne_none_iff_exists'.mp hts
    have hin₁ : s₁.inFlight = g.sys.socket.inFlight := by
      rw [Socket.inFlight, Socket.inFlight, hloc₁, hlast₁]
    have hm' : ∀ n, s'.rtte.timestamp = some n → g.sys.socket.rtte.timestamp = some n := by
      intro n hn
      rcases hsends.timestamp hn with hold | ⟨hnone, -⟩
      · rwa [hrtte] at hold
      · exact absurd hnone hts
    -- in the connection of the segment that is timed, the one that is sent lies behind it
    have hplace : g.current = true → g.sys.conn.acked < g.high ∧
        g.high ≤ g.sys.conn.acked + g.sys.socket.inFlight ∧
        dist e.repr.seqNumber g.sys.socket.localSeqNo = g.sys.socket.inFlight := by
      intro hcur
      obtain ⟨hlt, hle, -⟩ := h.inFlight m (hrtte ▸ hm) hcur
      refine ⟨hlt, hle, behind ht hreach hok hts (fun heq => ?_) hsend hemits⟩
      have hzero : g.sys.socket.inFlight = 0 := (dist_eq_zero_iff _ _).mpr heq
      omega
    constructor
    · intro n hn hcur
      obtain ⟨hlt, hle, hend⟩ := h.inFlight n (hm' n hn) hcur
      obtain ⟨-, -, hdist⟩ := hplace hcur
      obtain ⟨-, -, hloc', -⟩ := hsends.send_eq
      have hgrow : g.sys.socket.inFlight ≤ s'.inFlight := by
        rcases hf.inFlight_sends hbase hemits hsends with ⟨heq, -⟩ | ⟨heq, -⟩
        · omega
        · have hendOf : s₁.endOf e.repr =
              dist e.repr.seqNumber s₁.localSeqNo + e.repr.segmentLen := rfl
          rw [hloc₁] at hendOf
          omega
      simp only [hloc', hloc₁]
      exact ⟨hlt, by omega, hend⟩
    · intro hne
      obtain ⟨n, hn⟩ := Option.ne_none_iff_exists'.mp hne
      have hold := h.unrepeated (by simp [hm' n hn])
      intro e' he' q hlo hhi
      simp only at he'
      split_ifs at he' with hcur
      · rcases List.mem_append.mp he' with hnew | hsince
        · obtain rfl := List.mem_singleton.mp hnew
          obtain ⟨-, hle, hdist⟩ := hplace hcur
          simp only at hlo
          rw [hdist] at hlo
          simp only
          omega
        · exact hold e' hsince q hlo hhi
      · exact hold e' he' q hlo hhi

lemma Runs.dispatch {o : Option Emission} (h : g.Runs) (hreach : g.sys.Reachable)
    (hok : ¬ g.sys.Repeats (.dispatch cx emit)) (hd : g.sys.socket.DispatchRule cx s' o) :
    (g.next (.dispatch cx emit) ⟨s', g.sys.conn.dispatch g.sys.socket o⟩).Runs := by
  have htimed : ∀ {s₁ : Socket}, g.sys.socket.Timed cx s₁ → s₁.rtte.timestamp ≠ none →
      (g.sys.socket.due cx).rtte.timestamp ≠ none ∧
        s₁.rtte.timestamp = g.sys.socket.rtte.timestamp ∧
        s₁.localSeqNo = g.sys.socket.localSeqNo ∧
        s₁.remoteLastSeq = g.sys.socket.remoteLastSeq := by
    intro s₁ ht hts
    obtain ⟨hrtte, -, hloc, hlast, -⟩ := ht.timestamp hts
    rw [← ht.eq_due]
    exact ⟨hts, by rw [hrtte], hloc, hlast⟩
  cases hd with
  | noTuple htuple =>
    refine runs_of_unsent h rfl fun hts => ⟨?_, rfl, rfl, rfl⟩
    rwa [Socket.due_of_noTuple htuple]
  | idle _ ht => exact runs_of_unsent h rfl (htimed ht)
  | reset => exact runs_of_unsent h rfl fun hts => absurd rfl hts
  | failed _ ht _ hemits =>
    refine runs_of_unsent h ?_ (htimed ht)
    simp [Conn.dispatch, hemits.unsent]
  | sent _ ht hsend hemits hsends => exact h.sent hreach hok ht hsend hemits hsends

/-! ### Runs -/

lemma next_sys (g : Stopwatch) (op : Op) (y : Sys) : (g.next op y).sys = y := by
  unfold next
  split
  · simp only
    split_ifs <;> rfl
  · rfl

lemma step_eq_ok (h : g.step op = .ok g') :
    ∃ y, Sys.Step g.sys op y ∧ g' = g.next op y := by
  obtain ⟨y, hy, h⟩ := Checked.bind_eq_ok.mp h
  cases h
  exact ⟨y, hy, rfl⟩

/-- The calls of the application leave a measurement alone, or end it with a new connection. -/
lemma frame_of_step {y y' : Sys} (hs : StepRule y op y')
    (hprocess : ∀ cx ipRepr repr, op ≠ .process cx ipRepr repr)
    (hdispatch : ∀ cx emit, op ≠ .dispatch cx emit) :
    y'.socket.rtte.timestamp = none ∨ y'.socket.rtte.timestamp = y.socket.rtte.timestamp ∧
      y'.socket.localSeqNo = y.socket.localSeqNo ∧
      y'.socket.remoteLastSeq = y.socket.remoteLastSeq ∧ y'.conn.acked = y.conn.acked := by
  cases hs with
  | same => exact .inr ⟨rfl, rfl, rfl, rfl⟩
  | listen | connect => exact .inl rfl
  | close =>
    obtain ⟨st, heq, -⟩ := y.socket.close_eq
    rw [heq]
    exact .inr ⟨rfl, rfl, rfl, rfl⟩
  | abort => exact .inr ⟨rfl, rfl, rfl, rfl⟩
  | set x s' hset =>
    obtain ⟨_, _, _, _, _, _, _, _, _, -, -, rfl⟩ := Socket.set_eq_ok hset
    exact .inr ⟨rfl, rfl, rfl, rfl⟩
  | send op s' data hsend =>
    obtain ⟨-, tx, ts, -, -, -, rfl⟩ := hsend
    exact .inr ⟨rfl, rfl, rfl, rfl⟩
  | recv op s' n hrecv =>
    obtain ⟨-, rx, -, -, rfl⟩ := hrecv
    exact .inr ⟨rfl, rfl, rfl, rfl⟩
  | process cx ipRepr repr => exact absurd rfl (hprocess cx ipRepr repr)
  | dispatch cx emit => exact absurd rfl (hdispatch cx emit)

lemma Runs.process {ipRepr : IpRepr} {repr : TcpRepr} {p : Option Packet} (h : g.Runs)
    (hreach : g.sys.Reachable) (hp : g.sys.socket.process cx ipRepr repr = .ok (s', p)) :
    (g.next (.process cx ipRepr repr) ⟨s', g.sys.conn.process g.sys.socket s'⟩).Runs := by
  have hquiet : ∀ {s₁ s₂ : Socket}, g.sys.socket.Quiet s₁ →
      s₂.rtte = s₁.rtte ∧ s₂.localSeqNo = s₁.localSeqNo ∧ s₂.remoteLastSeq = s₁.remoteLastSeq →
      g.sys.socket.state ≠ .listen ∨ s₂.state = .listen →
      (g.next (.process cx ipRepr repr) ⟨s₂, g.sys.conn.process g.sys.socket s₂⟩).Runs := by
    rintro s₁ s₂ hq ⟨hrtte, hloc, hlast⟩ hst
    by_cases hnone : s₂.rtte.timestamp = none
    · exact runs_of_none hnone
    · obtain ⟨m, hm⟩ := Option.ne_none_iff_exists'.mp hnone
      obtain ⟨hts, hloc₁⟩ := hq.timestamp (hrtte ▸ hm)
      have hlast₁ : s₁.remoteLastSeq = g.sys.socket.remoteLastSeq := by
        obtain ⟨_, _, _, _, _, s₃, -, -, -, rfl, rfl | rfl⟩ := hq <;> rfl
      have hacked : (g.sys.conn.process g.sys.socket s₂).acked = g.sys.conn.acked := by
        have hnot : ¬ (g.sys.socket.state = .listen ∧ s₂.state ≠ .listen) := by tauto
        rw [Conn.process, if_neg hnot, hloc, hloc₁, Serial.dist_self]
        rfl
      exact h.congr (hm.trans hts.symm) (hloc.trans hloc₁) (hlast.trans hlast₁) hacked
        fun hcur => (of_decide_eq_true hcur).1
  have hrule := Socket.ProcessRule.of_process hp
  cases hrule with
  | quiet hq =>
    refine hquiet hq ⟨rfl, rfl, rfl⟩ ?_
    rw [hq.state_eq]
    exact (em _).symm
  | reset st _ hlisten hq => exact hquiet hq ⟨rfl, rfl, rfl⟩ (.inl hlisten)
  | accepted ha => exact h.accepted hreach.base hreach.flight hp ha

lemma Runs.step {y : Sys} (h : g.Runs) (hreach : g.sys.Reachable) (hok : ¬ g.sys.Repeats op)
    (hstep : Sys.Step g.sys op y) : (g.next op y).Runs := by
  have hframe := frame_of_step (StepRule.of_step hstep)
  unfold Sys.Step at hstep
  cases op with
  | process cx ipRepr repr =>
    simp only [Sys.step] at hstep
    obtain ⟨⟨s', p⟩, hp, hstep⟩ := Checked.bind_eq_ok.mp hstep
    obtain rfl := Except.ok.inj hstep
    exact h.process hreach hp
  | dispatch cx emit =>
    simp only [Sys.step] at hstep
    obtain ⟨⟨s', o⟩, hd, hstep⟩ := Checked.bind_eq_ok.mp hstep
    obtain rfl := Except.ok.inj hstep
    exact h.dispatch hreach hok (.of_dispatch hd)
  | _ =>
    rcases hframe (by simp) (by simp) with hnone | ⟨hts, hloc, hlast, hacked⟩
    · exact runs_of_none hnone
    · exact h.congr hts hloc hlast hacked fun hcur => (of_decide_eq_true hcur).1

variable {ok : Sys → Op → Prop}

lemma ReachableBy.sys (h : g.ReachableBy ok) : g.sys.Reachable := by
  obtain ⟨y₀, h₀, hrun⟩ := h
  refine hrun.invariant (I := fun g => g.sys.Reachable) (fun t op u ht _ hstep => ?_) ?_
  · obtain ⟨y, hy, rfl⟩ := step_eq_ok hstep
    rw [next_sys]
    exact ht.trans (.tail op .refl trivial hy)
  · exact ⟨y₀, h₀, .refl⟩

lemma ReachableBy.runs (h : g.ReachableBy fun y op => ¬ y.Repeats op) : g.Runs := by
  obtain ⟨y₀, h₀, hrun⟩ := h
  refine hrun.invariant_of (I := Runs) (J := fun g => g.sys.Reachable) (fun t ht => ?_) ?_ ?_
  · have hreach : t.ReachableBy fun y op => ¬ y.Repeats op := ⟨y₀, h₀, ht⟩
    exact hreach.sys
  · intro t op u hreach hI hok hstep
    obtain ⟨y, hy, rfl⟩ := step_eq_ok hstep
    exact hI.step hreach hok hy
  · refine runs_of_none ?_
    obtain ⟨cfg, rx, tx, hnew, -⟩ := h₀
    unfold Socket.new at hnew
    split_ifs at hnew
    simp only [Except.ok.injEq] at hnew
    simp only [← hnew]

/-- In a run in which no call of `dispatch` repeats what is in flight other than by a
retransmission, no sample is taken from a segment of which a part was sent again. -/
theorem sampled_once (h : g.ReachableBy fun y op => ¬ y.Repeats op) {a : SeqNumber}
    (hs : g.sys.socket.rtte.Waits a) : g.Unrepeated := by
  obtain ⟨m, hm, -⟩ := hs
  exact h.runs.unrepeated (by simp [Option.mem_def.mp hm])

/-! ### Samples -/

/-- A check that is passed by steps that repeat nothing. -/
def checkOnce (g : Stopwatch) : Op → Bool
  | .dispatch cx _ =>
    g.sys.socket.rtte.timestamp = none ∨
      ¬ g.sys.socket.timer.shouldKeepAlive cx.now ∧ g.sys.socket.state ≠ .synReceived
  | _ => true

lemma not_repeats_of_check (h : g.checkOnce op = true) : ¬ g.sys.Repeats op := by
  cases op with
  | dispatch cx emit =>
    rintro ⟨hts, -, hkind⟩
    rcases of_decide_eq_true h with hnone | ⟨hkeep, hst⟩
    · exact hts hnone
    · rcases hkind with hk | ⟨hs, -⟩
      · exact hkeep hk
      · exact hst hs
  | _ => exact id

lemma exists_stopwatch (ok : Sys → Op → Prop) (check : Stopwatch → Op → Bool)
    (hcheck : ∀ g op, check g op = true → ok g.sys op) (ops : List Op) (P : Stopwatch → Bool)
    (h : ((Sys.start Sample.config (Sample.buffer 8) (Sample.buffer 8)).bind fun y =>
      Transition.exec step check ops ⟨y, 0, 0, true, []⟩).any P = true) :
    ∃ g : Stopwatch, g.ReachableBy ok ∧ P g = true := by
  obtain ⟨g, hg, hP⟩ := (Option.any_eq_true _ _).mp h
  obtain ⟨y, hy, hexec⟩ := Option.bind_eq_some_iff.mp hg
  exact ⟨g, ⟨y, Sys.initial_of_start hy, .of_exec hcheck hexec⟩, hP⟩

/-- Three octets are timed while a fourth follows them. -/
theorem sampled_once_fourth : ∃ g : Stopwatch, (g.ReachableBy fun y op => ¬ y.Repeats op) ∧
    g.sys.socket.rtte.Waits 10004 ∧ g.since.length = 1 ∧ g.Unrepeated := by
  obtain ⟨g, hreach, hP⟩ := exists_stopwatch (fun y op => ¬ y.Repeats op) checkOnce
    (fun _ _ => not_repeats_of_check)
    (.set (.nagleEnabled false) :: Sys.threeInFlight ++ [.sendSlice [4], Sample.dispatch 0])
    (fun g => g.since.length = 1 ∧
      g.sys.socket.rtte.timestamp.any fun m => SeqNumber.ge 10004 m.2)
    (by decide)
  obtain ⟨hlen, hany⟩ := of_decide_eq_true hP
  obtain ⟨m, hm, hge⟩ := (Option.any_eq_true _ _).mp hany
  have hs : g.sys.socket.rtte.Waits 10004 := ⟨m, hm, of_decide_eq_true hge⟩
  exact ⟨g, hreach, hs, hlen, sampled_once hreach hs⟩

/-- A segment sent since holds the octet at `q`. -/
lemma not_unrepeated (q : ℤ) (hlow : g.low ≤ q) (hhigh : q < g.high)
    (h : (g.since.any fun e => e.pos ≤ q ∧ q < e.endPos) = true) : ¬ g.Unrepeated := by
  obtain ⟨e, he, hq⟩ := List.any_eq_true.mp h
  obtain ⟨hlo, hhi⟩ := of_decide_eq_true hq
  exact fun hunrepeated => hunrepeated e he q hlo hhi ⟨hlow, hhigh⟩

/-- A SYN that crosses ours. -/
def crossingSyns : List Op :=
  [.connect (Sample.context 0) ⟨.ipv4 0x0a000002, 49500⟩ ⟨some (.ipv4 0x0a000001), 80⟩,
    Sample.dispatch 0, Sample.process 0 (Sample.segment .syn 99 none 256 [])]

/-- A keep-alive takes the place of the third octet while that is timed, and a SYN|ACK the place of
the SYN. The acknowledgements that follow are sampled. -/
theorem not_sampled_once :
    (∃ (g : Stopwatch) (s' : Socket) (p : Option Packet), (g.ReachableBy fun _ _ => True) ∧
      g.sys.socket.rtte.Waits 10004 ∧ ¬ g.Unrepeated ∧
      g.sys.socket.process (Sample.context 2000000) Sample.ipRepr
        (Sample.segment .none 100 (some 10004) 256 []) = .ok (s', p) ∧
      s'.rtte.srtt = 250) ∧
    ∃ g : Stopwatch, (g.ReachableBy fun _ _ => True) ∧ g.sys.socket.rtte.Waits 10001 ∧
      ¬ g.Unrepeated := by
  constructor
  · obtain ⟨g, hreach, hP⟩ := exists_stopwatch (fun _ _ => True) (fun _ _ => true)
      (fun _ _ _ => trivial)
      (.set (.keepAlive (some (.fromMillis 1000))) :: Sys.threeInFlight ++
        [Sample.process 0 (Sample.segment .none 100 (some 10002) 0 []),
          Sample.process 0 (Sample.segment .none 100 (some 10002) 256 []),
          Sample.dispatch 2000000])
      (fun g => g.low ≤ 3 ∧ 3 < g.high ∧ (g.since.any fun e => e.pos ≤ 3 ∧ 3 < e.endPos) ∧
        (g.sys.socket.rtte.timestamp.any fun m => SeqNumber.ge 10004 m.2) ∧
        (g.sys.socket.process (Sample.context 2000000) Sample.ipRepr
          (Sample.segment .none 100 (some 10004) 256 [])).toOption.any fun q =>
            q.1.rtte.srtt = 250)
      (by decide)
    obtain ⟨hlow, hhigh, hsince, hany, hproc⟩ := of_decide_eq_true hP
    obtain ⟨m, hm, hge⟩ := (Option.any_eq_true _ _).mp hany
    obtain ⟨⟨s', p⟩, hs, hsrtt⟩ := Checked.exists_of_any hproc
    exact ⟨g, s', p, hreach, ⟨m, hm, of_decide_eq_true hge⟩, not_unrepeated 3 hlow hhigh hsince, hs,
      of_decide_eq_true hsrtt⟩
  · obtain ⟨g, hreach, hP⟩ := exists_stopwatch (fun _ _ => True) (fun _ _ => true)
      (fun _ _ _ => trivial)
      (crossingSyns ++ [Sample.dispatch 0])
      (fun g => g.low ≤ 0 ∧ 0 < g.high ∧ (g.since.any fun e => e.pos ≤ 0 ∧ 0 < e.endPos) ∧
        g.sys.socket.rtte.timestamp.any fun m => SeqNumber.ge 10001 m.2)
      (by decide)
    obtain ⟨hlow, hhigh, hsince, hany⟩ := of_decide_eq_true hP
    obtain ⟨m, hm, hge⟩ := (Option.any_eq_true _ _).mp hany
    exact ⟨g, hreach, ⟨m, hm, of_decide_eq_true hge⟩, not_unrepeated 0 hlow hhigh hsince⟩

end Stopwatch

end Smoltcp.Tcp
