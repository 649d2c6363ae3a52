import Smoltcp.Socket.Tcp.Flight
import Smoltcp.Socket.Tcp.Refusals

/-!
# Discarded segments

A segment may pass both tests and still be of no use in its state. By then its acknowledgement
number has been fed to the round-trip estimator and the congestion controller.
-/

namespace Smoltcp.Tcp

open Serial

/-- The flags that a state has no use for. A SYN must not carry a zero maximum segment size. -/
def State.Unexpected (st : State) (maxSegSize : Option UInt16) : TcpControl → Prop
  | .syn => st ≠ .listen ∧ st ≠ .synSent ∨ maxSegSize = some 0
  | .fin => st ≠ .synReceived ∧ st ≠ .established ∧ st ≠ .finWait1 ∧ st ≠ .finWait2
  | .none => st = .closed ∨ st = .listen ∨ st = .synSent ∨ st = .timeWait
  | .psh | .rst => False

instance (st : State) (maxSegSize : Option UInt16) :
    (control : TcpControl) → Decidable (st.Unexpected maxSegSize control)
  | .syn => inferInstanceAs (Decidable (_ ∨ _))
  | .fin => inferInstanceAs (Decidable (_ ∧ _ ∧ _ ∧ _))
  | .none => inferInstanceAs (Decidable (_ ∨ _ ∨ _ ∨ _))
  | .psh | .rst => .isFalse id

/-! ### Estimators at rest -/

/-- A sample waits for the acknowledgement `seq`. -/
def RttEstimator.Waits (r : RttEstimator) (seq : SeqNumber) : Prop :=
  ∃ sent ∈ r.timestamp, seq.ge sent.2

lemma RttEstimator.onAck_eq_self_iff (r : RttEstimator) (now : Instant) (seq : SeqNumber) :
    r.onAck now seq = r ↔ ¬ r.Waits seq := by
  unfold RttEstimator.onAck Waits
  cases hts : r.timestamp with
  | none => simp
  | some sent =>
    obtain ⟨sentTimestamp, sentSeq⟩ := sent
    simp only [Option.mem_some_iff, exists_eq_left']
    split_ifs with hge
    · refine iff_of_false (fun heq => ?_) (not_not_intro hge)
      have := congrArg RttEstimator.timestamp heq
      rw [hts] at this
      cases this
    · exact iff_of_true rfl hge

/-- The window that slow start leads to after `len` octets were acknowledged. -/
def grown (cwnd len rwnd minCwnd : ℕ) : ℕ := max (min (saturatingAdd cwnd len) rwnd) minCwnd

/-- An acknowledgement of `len` octets moves neither the window nor the threshold. -/
def AnyController.Settled (len : ℕ) : AnyController → Prop
  | .none => True
  | .reno r =>
    r.cwnd ≤ r.ssthresh ∧
      grown r.cwnd (if r.cwnd < r.ssthresh then len else r.minCwnd) r.rwnd r.minCwnd = r.cwnd
  | .cubic q => q.cwnd < q.ssthresh → grown q.cwnd len q.rwnd q.minCwnd = q.cwnd

instance (len : ℕ) : (cc : AnyController) → Decidable (cc.Settled len)
  | .none => .isTrue trivial
  | .reno _ => inferInstanceAs (Decidable (_ ∧ _))
  | .cubic _ => inferInstanceAs (Decidable (_ → _))

lemma AnyController.onAck_eq_self_iff (cc : AnyController) (len : ℕ) :
    cc.onAck len = cc ↔ cc.Settled len := by
  cases cc with
  | none => exact iff_of_true rfl trivial
  | reno r =>
    simp only [AnyController.onAck, Settled, AnyController.reno.injEq]
    obtain ⟨cwnd, minCwnd, ssthresh, rwnd⟩ := r
    simp only [Reno.onAck, grown, Reno.mk.injEq, true_and]
    split_ifs with hlt
    · exact ⟨fun h => ⟨hlt.le, h.1⟩, fun h => ⟨h.2, rfl, trivial⟩⟩
    · exact ⟨fun h => ⟨h.2.1.le, h.1⟩, fun h => ⟨h.2, le_antisymm h.1 (not_lt.mp hlt), trivial⟩⟩
  | cubic q =>
    simp only [AnyController.onAck, Settled, AnyController.cubic.injEq]
    obtain ⟨cwnd, minCwnd, wMax, recoveryStart, rwnd, lastUpdate, ssthresh⟩ := q
    simp only [Cubic.onAck, grown]
    split_ifs with hlt
    · simp [hlt]
    · simp [hlt]

namespace Socket

variable {s s' : Socket} {cx : Context} {ipRepr : IpRepr} {repr : TcpRepr} {p : Option Packet}

/-! ### What a discarded segment does -/

/-- The segment passes the tests of the acknowledgement number and of the receive window, and then
the state has no use for it. -/
structure Discards (s : Socket) (repr : TcpRepr) : Prop where
  control_ne : repr.control ≠ .rst
  ackAcceptable : AckAcceptable s repr
  inWindow : s.state ≠ .listen → s.state ≠ .synSent →
    ∀ w, s.span repr = .ok w → w.segmentInWindow
  unexpected : ∀ w, s.span repr = .ok w →
    s.state.Unexpected repr.maxSegSize (effectiveControl repr w)

lemma checkAckRange_of_range {n : ℕ} {f : Flow Unit} (hsyn : s.sentSyn = false)
    (hlt : s.txBuffer.len + s.controlLen < 2 ^ 31) (hle : n ≤ s.txBuffer.len + s.controlLen)
    (h : s.checkAckRange cx ipRepr repr (shift s.localSeqNo n) = .ok f) : f = .next s () := by
  unfold checkAckRange at h
  simp only [SeqNumber.add_of_lt hlt, Checked.ok_bind, hsyn, Bool.false_eq_true, if_false] at h
  have hlo : ¬ SeqNumber.lt (shift s.localSeqNo n) s.localSeqNo := by
    unfold SeqNumber.lt
    rw [SeqNumber.dist_shift_nat (by omega)]
    omega
  have hhi : ¬ SeqNumber.gt (shift s.localSeqNo n)
      (shift s.localSeqNo ((s.txBuffer.len + s.controlLen : ℕ) : ℤ)) := by
    unfold SeqNumber.gt
    rw [dist_shift_shift_of_lt _ (by omega) (by omega)]
    omega
  rw [if_neg hlo, if_neg hhi] at h
  cases h
  rfl

lemma checkAck_of_acceptable {f : Flow Unit} (hctl : repr.control ≠ .rst)
    (hacc : AckAcceptable s repr) (h : s.checkAck cx ipRepr repr = .ok f) : f = .next s () := by
  unfold checkAck checkAckNumber at h
  rw [if_neg hctl] at h
  cases hacc with
  | listen hst hack =>
    simp only [hst, hack] at h
    cases h
    rfl
  | syn hst hsyn hack =>
    simp only [hst, checkAckSynSent, hsyn, hack] at h
    cases h
    rfl
  | synAck hst hsyn hack =>
    simp only [hst, checkAckSynSent, hsyn, hack, Option.elim_some, checkAckOfSyn, ne_eq,
      not_true, if_false] at h
    cases h
    rfl
  | synReceived hst hack =>
    simp only [hst, hack, Option.elim_some, checkAckOfSyn, ne_eq, not_true, if_false] at h
    cases h
    rfl
  | range n hlisten hsent hreceived hlt hle hack =>
    have hsyn : s.sentSyn = false := by simp [sentSyn, hsent, hreceived]
    rw [hack] at h
    split at h
    · rename_i hs
      exact absurd hs hlisten
    · rename_i hs
      exact absurd hs hsent
    · rename_i hs
      exact absurd hs hreceived
    · exact checkAckRange_of_range hsyn hlt hle h

lemma transition_unexpected {control : TcpControl} (aof : Bool)
    (h : s.state.Unexpected repr.maxSegSize control) :
    s.transition cx ipRepr repr control aof = .ret s none := by
  unfold transition
  cases control with
  | none =>
    simp only [State.Unexpected] at h
    unfold processNone
    rcases h with h | h | h | h <;> rw [h]
  | psh => exact h.elim
  | syn =>
    unfold processSyn
    rcases h with ⟨hlisten, hsent⟩ | hmss
    · split_ifs
      · rfl
      · cases hst : s.state <;> simp_all
    · rw [if_pos hmss]
  | fin =>
    obtain ⟨h₁, h₂, h₃, h₄⟩ := h
    unfold processFin
    cases hst : s.state <;> simp_all
  | rst => exact h.elim

/-- The acknowledged octets of the transmit buffer. -/
def acknowledgedLen (s : Socket) (a : SeqNumber) : ℕ :=
  min (dist a s.localSeqNo).toNat s.txBuffer.len

lemma AckAcceptable.len_lt (h : AckAcceptable s repr) (hne : repr.ackNumber ≠ none)
    (hsyn : s.sentSyn = false) : s.txBuffer.len + s.controlLen < 2 ^ 31 := by
  cases h with
  | listen _ hnone => exact absurd hnone hne
  | syn _ _ hnone => exact absurd hnone hne
  | synAck hst => simp [sentSyn, hst] at hsyn
  | synReceived hst => simp [sentSyn, hst] at hsyn
  | range _ _ _ _ hlt => exact hlt

lemma ackLen_eq {ack : AckInfo} {a : SeqNumber} (hbase : s.Base) (hacc : AckAcceptable s repr)
    (h : AckCount s repr ack) (ha : repr.ackNumber = some a) :
    ack.ackLen = s.acknowledgedLen a := by
  unfold acknowledgedLen
  cases h with
  | none hack => simp [hack] at ha
  | syn hst hack =>
    have htx : s.txBuffer.len = 0 := by
      rcases hst with hst | hst
      · exact hbase.tx_opening (.inr (.inl hst))
      · exact hbase.tx_opening (.inr (.inr hst))
    simp [htx]
  | data n hsyn hle hack =>
    have hlt := hacc.len_lt (by simp [hack]) hsyn
    rw [hack, Option.some.injEq] at ha
    rw [← ha, SeqNumber.dist_shift_nat (by omega)]
    simp [hle]
  | fin n hn hfin hack =>
    have hsyn : s.sentSyn = false := by
      simp only [sentFin, decide_eq_true_eq] at hfin
      rcases hfin with hst | hst | hst <;> simp [sentSyn, hst]
    have hlt := hacc.len_lt (by simp [hack]) hsyn
    have hctl := controlLen_of_sentFin hfin
    rw [hack, Option.some.injEq] at ha
    have hdist : dist a s.localSeqNo = (n + 1 : ℕ) := by
      rw [← ha]
      exact SeqNumber.dist_shift_nat (a := s.localSeqNo) (n := n + 1) (by omega)
    rw [hdist]
    simp [hn]

/-- The reports of an acknowledgement change nothing: no round-trip sample waits for it, and the
controller's window does not move. -/
def Unaffected (s : Socket) (repr : TcpRepr) : Prop :=
  ∀ a ∈ repr.ackNumber, ¬ s.rtte.Waits a ∧ s.congestionController.Settled (s.acknowledgedLen a)

/-- A discarded segment gets past the check of its place. -/
lemma Discards.trimPayload_ne {w : Span} {sr : Socket} {r : Option Packet} (hd : s.Discards repr)
    (hw : s.span repr = .ok w) : s.trimPayload cx ipRepr repr w ≠ .ok (.ret sr r) := by
  intro htrim
  unfold trimPayload at htrim
  split at htrim
  · cases htrim
  · cases htrim
  · rename_i hlisten hsent
    rw [if_pos (hd.inWindow hlisten hsent w hw)] at htrim
    simp only [Checked.bind_eq_ok, Checked.pure_eq_ok] at htrim
    obtain ⟨_, _, _, _, _, _, _, _, _, _, htrim⟩ := htrim
    cases htrim

/-- In its state, a discarded segment is dropped once its acknowledgement was reported. -/
lemma Discards.transition_eq {w : Span} {st : Socket} {payload : List UInt8} {offset : ℕ}
    {ack : AckInfo} (hd : s.Discards repr) (hbase : s.Base)
    (h : Reaches s cx ipRepr repr w st payload offset ack) :
    ∃ lastSeq, (st.noteAck cx repr ack.ackLen).transition cx ipRepr repr (effectiveControl repr w)
      ack.ackOfFin = .ret { s with
        localRxLastSeq := lastSeq
        rtte := repr.ackNumber.elim s.rtte (s.rtte.onAck cx.now)
        congestionController := repr.ackNumber.elim s.congestionController fun a =>
          s.congestionController.onAck (s.acknowledgedLen a) } none := by
  obtain ⟨lastSeq, rfl⟩ := h.exists_eq
  have hcount : AckCount s repr ack := ackInfo_eq_ok hd.control_ne hd.ackAcceptable h.ackInfo
  have hunexpected := hd.unexpected w h.span
  refine ⟨lastSeq, ?_⟩
  unfold noteAck
  rw [if_neg hd.control_ne]
  cases hack : repr.ackNumber with
  | none => exact transition_unexpected _ hunexpected
  | some a =>
    dsimp only [Option.elim_some]
    rw [ackLen_eq hbase hd.ackAcceptable hcount hack]
    exact transition_unexpected _ hunexpected

/-- What a discarded segment leaves behind. -/
lemma process_discards (hd : s.Discards repr) (hbase : s.Base)
    (h : s.process cx ipRepr repr = .ok (s', p)) :
    p = none ∧ ∃ lastSeq, s' = { s with
      localRxLastSeq := lastSeq
      rtte := repr.ackNumber.elim s.rtte (s.rtte.onAck cx.now)
      congestionController := repr.ackNumber.elim s.congestionController fun a =>
        s.congestionController.onAck (s.acknowledgedLen a) } := by
  cases Stages.of_process h with
  | checked hcheck => cases checkAck_of_acceptable hd.control_ne hd.ackAcceptable hcheck
  | trimmed w hw htrim => exact absurd htrim (hd.trimPayload_ne hw)
  | stopped hreaches ht =>
    obtain ⟨lastSeq, heq⟩ := hd.transition_eq hbase hreaches
    cases heq.symm.trans ht
    exact ⟨rfl, lastSeq, rfl⟩
  | finished s₂ hreaches ht hfin =>
    obtain ⟨lastSeq, heq⟩ := hd.transition_eq hbase hreaches
    cases heq.symm.trans ht

end Socket

namespace Sys

variable {y : Sys} {cx : Context} {ipRepr : IpRepr} {repr : TcpRepr} {s' : Socket}
  {p : Option Packet}

/-- A discarded segment is dropped without a trace but its number exactly where its acknowledgement
has nothing to report. -/
theorem discarded_iff (hreach : y.Reachable) (hd : y.socket.Discards repr)
    (h : y.socket.process cx ipRepr repr = .ok (s', p)) :
    (∃ lastSeq, s' = { y.socket with localRxLastSeq := lastSeq }) ↔ y.socket.Unaffected repr := by
  obtain ⟨-, lastSeq, rfl⟩ := Socket.process_discards hd hreach.base h
  unfold Socket.Unaffected
  cases hack : repr.ackNumber with
  | none => exact ⟨fun _ => by simp, fun _ => ⟨lastSeq, rfl⟩⟩
  | some a =>
    simp only [Option.elim_some, Option.mem_some_iff, forall_eq']
    rw [← RttEstimator.onAck_eq_self_iff _ cx.now, ← AnyController.onAck_eq_self_iff]
    constructor
    · rintro ⟨lastSeq', heq⟩
      exact ⟨congrArg Socket.rtte heq, congrArg Socket.congestionController heq⟩
    · rintro ⟨hrtte, hcc⟩
      exact ⟨lastSeq, by rw [hrtte, hcc]⟩

/-! ### Samples -/

/-- A check for a segment that an open connection discards and that acknowledges `n` octets. -/
def checkDiscards (s : Socket) (n : ℕ) (repr : TcpRepr) : Bool :=
  repr.control ≠ .rst ∧ s.state = .established ∧ s.txBuffer.len + s.controlLen < 2 ^ 31 ∧
    n ≤ s.txBuffer.len + s.controlLen ∧ repr.ackNumber = some (shift s.localSeqNo n) ∧
    (s.span repr).toOption.all fun w =>
      w.segmentInWindow ∧ s.state.Unexpected repr.maxSegSize (Socket.effectiveControl repr w)

lemma discards_of_check {s : Socket} {n : ℕ} (h : checkDiscards s n repr = true) :
    s.Discards repr := by
  obtain ⟨hctl, hst, hlt, hle, hack, hall⟩ := of_decide_eq_true h
  have hspan : ∀ w, s.span repr = .ok w →
      w.segmentInWindow ∧ s.state.Unexpected repr.maxSegSize (Socket.effectiveControl repr w) := by
    intro w hw
    rw [hw] at hall
    exact of_decide_eq_true hall
  refine ⟨hctl, ?_, fun _ _ w hw => (hspan w hw).1, fun w hw => (hspan w hw).2⟩
  exact .range n (by simp [hst]) (by simp [hst]) (by simp [hst]) hlt hle hack

/-- A SYN in the middle of the sample connection. -/
def lateSyn (a : SeqNumber) : TcpRepr := Sample.segment .syn 100 (some a) 256 []

/-- A SYN that acknowledges nothing new leaves no trace. -/
theorem discarded_iff_old : ∃ (y : Sys) (s' : Socket), y.Reachable ∧
    y.socket.Discards (lateSyn 10001) ∧
    y.socket.process (Sample.context 0) Sample.ipRepr (lateSyn 10001) = .ok (s', none) ∧
    ∃ lastSeq, s' = { y.socket with localRxLastSeq := lastSeq } := by
  obtain ⟨y, hreach, hP⟩ := exists_sample (fun _ _ => True) (fun _ _ => true) 8 Siege.handshake
    (fun y => checkDiscards y.socket 0 (lateSyn 10001) ∧ y.socket.rtte.timestamp = none ∧
      y.socket.congestionController = .none ∧
      (y.socket.process (Sample.context 0) Sample.ipRepr (lateSyn 10001)).toOption.any
        fun q => q.2 = none)
    (fun _ _ _ => trivial) (by decide +kernel)
  obtain ⟨hcheck, hts, hcc, hany⟩ := of_decide_eq_true hP
  obtain ⟨⟨s', p⟩, hs, hp⟩ := Checked.exists_of_any hany
  obtain rfl := of_decide_eq_true hp
  have hd := discards_of_check hcheck
  refine ⟨y, s', hreach, hd, hs, (discarded_iff hreach hd hs).mpr fun a _ => ⟨?_, ?_⟩⟩
  · rintro ⟨sent, hsent, -⟩
    simp [hts] at hsent
  · rw [hcc]
    trivial

/-- A SYN that acknowledges three octets is discarded, and measures their round-trip time. -/
theorem discarded_measures : ∃ (y : Sys) (s' : Socket), y.Reachable ∧
    y.socket.Discards (lateSyn 10004) ∧
    y.socket.process (Sample.context 2000000) Sample.ipRepr (lateSyn 10004) = .ok (s', none) ∧
    y.socket.rtte.rto = 1000 ∧ s'.rtte.rto = 2250 ∧ s'.localSeqNo = y.socket.localSeqNo := by
  obtain ⟨y, hreach, hP⟩ := exists_sample (fun _ _ => True) (fun _ _ => true) 8
    (Siege.handshake ++ [.sendSlice [1, 2, 3], Sample.dispatch 0])
    (fun y => checkDiscards y.socket 3 (lateSyn 10004) ∧ y.socket.rtte.rto = 1000 ∧
      (y.socket.process (Sample.context 2000000) Sample.ipRepr (lateSyn 10004)).toOption.any
        fun q => q.2 = none ∧ q.1.rtte.rto = 2250 ∧ q.1.localSeqNo = y.socket.localSeqNo)
    (fun _ _ _ => trivial) (by decide +kernel)
  obtain ⟨hcheck, hrto, hany⟩ := of_decide_eq_true hP
  obtain ⟨⟨s', p⟩, hs, hq⟩ := Checked.exists_of_any hany
  obtain ⟨rfl, hrto', hseq⟩ := of_decide_eq_true hq
  exact ⟨y, s', hreach, discards_of_check hcheck, hs, hrto, hrto', hseq⟩

end Sys

end Smoltcp.Tcp
