import Smoltcp.Socket.Tcp.Invariants

/-!
# Sequence space in flight

What lies between `localSeqNo`, the first number that is not acknowledged, and `remoteLastSeq`, the
number behind the last one sent. In every reachable socket it is part of the transmit buffer, with
a SYN or FIN that is outstanding. The connection that follows an RST in SYN-RECEIVED starts from
new numbers, so nothing is said of a socket that listens or is closed but the size.
-/

namespace Smoltcp.Tcp

open Serial

namespace Socket

variable {s s' s₁ s₂ s₃ : Socket} {cx : Context} {ipRepr : IpRepr} {repr : TcpRepr}

/-! ### What a segment does to the send side -/

lemma Received.send_eq {payload : List UInt8} {offset : ℕ} (h : Received s payload offset s') :
    s'.localSeqNo = s.localSeqNo ∧ s'.remoteLastSeq = s.remoteLastSeq ∧
      s'.txBuffer = s.txBuffer ∧ s'.tuple = s.tuple ∧ s'.timer = s.timer ∧
      s'.remoteWinLen = s.remoteWinLen := by
  cases h <;> exact ⟨rfl, rfl, rfl, rfl, rfl, rfl⟩

/-- The ways in which an accepted segment moves the send side. -/
inductive Advances (s : Socket) (repr : TcpRepr) (control : TcpControl) (s' : Socket) :
    AckInfo → Prop where
  | listen (hst : s.state = .listen) (hst' : s'.state = .synReceived) (hack : repr.ackNumber = none)
      (hlast : s'.remoteLastSeq = s'.localSeqNo)
      (htx : s'.txBuffer.toList = s.txBuffer.toList) : Advances s repr control s' {}
  | syn (hst : s.state = .synSent) (hst' : s'.state = .synReceived) (hack : repr.ackNumber = none)
      (hloc : s'.localSeqNo = s.localSeqNo) (hlast : s'.remoteLastSeq = shift s.localSeqNo 1)
      (htx : s'.txBuffer.toList = s.txBuffer.toList) : Advances s repr control s' {}
  | synAck (last : SeqNumber)
      (hst : s.state = .synSent ∧ last = shift s.localSeqNo 1 ∨
        s.state = .synReceived ∧ last = s.remoteLastSeq)
      (hst' : s'.state = .established ∨ s'.state = .closeWait)
      (hack : repr.ackNumber = some (shift s.localSeqNo 1))
      (hloc : s'.localSeqNo = shift s.localSeqNo 1)
      (hlast : s'.remoteLastSeq = catchUp last (shift s.localSeqNo 1))
      (htx : s'.txBuffer.toList = s.txBuffer.toList) :
      Advances s repr control s' ⟨0, false, s.remoteLastSeq.le (shift s.localSeqNo 1)⟩
  | data (n : ℕ) (hne : s.state ≠ .synReceived) (hst : StateStep false s.state control s'.state)
      (hn : n ≤ s.txBuffer.len) (hlt : s.txBuffer.len + s.controlLen < 2 ^ 31)
      (hack : repr.ackNumber = some (shift s.localSeqNo n))
      (hloc : s'.localSeqNo = shift s.localSeqNo n)
      (hlast : s'.remoteLastSeq = catchUp s.remoteLastSeq (shift s.localSeqNo n))
      (htx : s'.txBuffer.toList = s.txBuffer.toList.drop n) :
      Advances s repr control s' ⟨n, false, s.remoteLastSeq.le (shift s.localSeqNo n)⟩
  | fin (n : ℕ) (hn : n = s.txBuffer.len) (hfin : s.sentFin)
      (hst : StateStep true s.state control s'.state)
      (hlt : s.txBuffer.len + s.controlLen < 2 ^ 31)
      (hack : repr.ackNumber = some (shift s.localSeqNo (n + 1)))
      (hloc : s'.localSeqNo = shift s.localSeqNo (n + 1))
      (hlast : s'.remoteLastSeq = catchUp s.remoteLastSeq (shift s.localSeqNo (n + 1)))
      (htx : s'.txBuffer.toList = []) :
      Advances s repr control s' ⟨n, true, s.remoteLastSeq.le (shift s.localSeqNo (n + 1))⟩

lemma StateStep.of_synReceived {aof : Bool} {st st' : State} {control : TcpControl}
    (h : StateStep aof st control st') (hst : st = .synReceived) :
    st' = .established ∨ st' = .closeWait := by
  cases h <;> simp_all

lemma Accepted.advances {w : Span} {ack : AckInfo} {payload : List UInt8} {offset : ℕ}
    (h : Accepted s cx ipRepr repr w ack payload offset s₁ s₂ s₃ s') :
    Advances s repr (effectiveControl repr w) s' ack := by
  obtain ⟨hloc, hlast, htx, -, -, -⟩ := h.received.send_eq
  have hst := h.received.state_eq.1
  have hacc := h.ackAcceptable
  have hcount := h.ackCount
  have ht := h.transits
  have hacked := h.acked
  obtain ⟨_, _, _, -, -, rfl⟩ := h.noted
  obtain ⟨tx, cc₁, cc, dup, lastAck, fast, tsval, hle, hdrop, -, -, -, -⟩ := hacked
  simp only at hloc hlast htx hst
  cases ht with
  | synListen hctl hlisten hmss =>
    simp only [synListen] at hlisten hst hloc hlast htx hdrop
    have hnone : repr.ackNumber = none := by
      cases hacc <;> simp_all
    rw [hnone] at hloc hlast
    cases hcount with
    | none => exact .listen hlisten hst hnone (hlast.trans hloc.symm) (by rw [htx]; exact hdrop)
    | syn hs ha => simp [hnone] at ha
    | data n _ hn ha => simp [hnone] at ha
    | fin n hn hf ha => simp [hnone] at ha
  | synSent hctl hss hmss =>
    simp only [synSynSent] at hss hst hloc hlast htx hdrop
    cases hacc with
    | listen hs => simp [hss] at hs
    | synReceived hs => simp [hss] at hs
    | range n _ hs => exact absurd hss hs
    | syn _ _ hnone =>
      rw [hnone] at hst hloc hlast
      cases hcount with
      | none => exact .syn hss hst hnone hloc hlast (by rw [htx]; exact hdrop)
      | syn hs ha => simp [hnone] at ha
      | data n _ hn ha => simp [hnone] at ha
      | fin n hn hf ha => simp [hnone] at ha
    | synAck _ _ hack =>
      rw [hack] at hst hloc hlast
      cases hcount with
      | none ha => simp [hack] at ha
      | syn hs ha =>
        exact .synAck _ (.inl ⟨hss, rfl⟩) (.inl hst) hack hloc hlast (by rw [htx]; exact hdrop)
      | data n hsyn => simp [sentSyn, hss] at hsyn
      | fin n hn hf ha => simp [sentFin, hss] at hf
  | moved st hstep =>
    simp only [Socket.moved] at hst hloc hlast htx hdrop
    simp only at hstep
    cases hacc with
    | listen hs => exact absurd hs hstep.ne.2.1
    | syn hs => exact absurd hs hstep.ne.2.2.2.1
    | synAck hs => exact absurd hs hstep.ne.2.2.2.1
    | synReceived hs hack =>
      rw [hack] at hloc hlast
      cases hcount with
      | none ha => simp [hack] at ha
      | syn _ ha =>
        refine .synAck _ (.inr ⟨hs, rfl⟩) ?_ hack hloc hlast (by rw [htx]; exact hdrop)
        rw [hst]
        exact hstep.of_synReceived hs
      | data n hsyn => simp [sentSyn, hs] at hsyn
      | fin n hn hf ha => simp [sentFin, hs] at hf
    | range m hlisten hss hsr hlt hm hack =>
      rw [← hst] at hstep
      cases hcount with
      | none ha => simp [hack] at ha
      | syn hs ha => exact (hs.elim hss hsr).elim
      | data n hsyn hn ha =>
        rw [ha] at hloc hlast
        exact .data n hsr hstep hn hlt ha hloc hlast (by rw [htx]; exact hdrop)
      | fin n hn hf ha =>
        rw [ha] at hloc hlast
        refine .fin n hn hf hstep hlt ha hloc hlast ?_
        rw [htx, hdrop, hn]
        exact List.drop_eq_nil_of_le (by rw [RingBuffer.length_toList])

/-! ### The invariant -/

/-- How much of the sequence space is sent and not acknowledged. -/
def inFlight (s : Socket) : ℤ := dist s.remoteLastSeq s.localSeqNo

/-- A number of octets that the transmit buffer can have in flight, with an outstanding SYN or FIN.
The last number of the half circle is left for a FIN. -/
structure Fits (s : Socket) (n : ℤ) : Prop where
  nonneg : 0 ≤ n
  le : n ≤ s.txBuffer.len + 1
  room : n + 1 < 2 ^ 31 ∨ n = s.txBuffer.len + 1
  le_control : s.state ≠ .closed → s.state ≠ .listen → n ≤ s.txBuffer.len + s.controlLen

/-- What is in flight fits the transmit buffer, which is empty when our FIN is acknowledged. -/
structure Flight (s : Socket) : Prop extends s.Fits s.inFlight where
  drained : s.state = .finWait2 ∨ s.state = .timeWait → s.txBuffer.len = 0

lemma remoteLastSeq_eq (s : Socket) : s.remoteLastSeq = shift s.localSeqNo s.inFlight :=
  (shift_dist _ _).symm

lemma inFlight_lt (s : Socket) : s.inFlight < 2 ^ 31 := by
  have := dist_lt s.remoteLastSeq s.localSeqNo
  unfold inFlight
  omega

lemma inFlight_of_shift {a : SeqNumber} {j k : ℤ} (hlast : s.remoteLastSeq = shift a j)
    (hloc : s.localSeqNo = shift a k) (hlo : -2 ^ 31 ≤ j - k) (hhi : j - k < 2 ^ 31) :
    s.inFlight = j - k := by
  rw [inFlight, hlast, hloc, dist_shift_shift_of_lt _ (by omega) (by omega)]

lemma catchUp_shift (a : SeqNumber) {j k : ℤ} (hlo : -2 ^ 31 ≤ j - k) (hhi : j - k < 2 ^ 31) :
    catchUp (shift a j) (shift a k) = shift a (max j k) := by
  have hd : dist (shift a j) (shift a k) = j - k :=
    dist_shift_shift_of_lt _ (by omega) (by omega)
  unfold catchUp
  split_ifs with h <;> rw [SeqNumber.lt, hd] at h
  · rw [max_eq_right (by omega)]
  · rw [max_eq_left (by omega)]

lemma controlLen_of_sentFin (h : s.sentFin = true) : s.controlLen = 1 := by
  simp only [sentFin, decide_eq_true_eq] at h
  rcases h with h | h | h <;> simp [controlLen, sentSyn, sentFin, h]

lemma StateStep.controlLen_eq {control : TcpControl}
    (h : StateStep false s.state control s'.state) (hne : s.state ≠ .synReceived) :
    s'.controlLen = s.controlLen := by
  unfold controlLen sentSyn sentFin
  generalize s.state = st at h hne ⊢
  generalize s'.state = st' at h ⊢
  cases h <;> first
    | rfl
    | exact absurd rfl hne
    | contradiction

lemma StateStep.drained {control : TcpControl} {st st' : State}
    (h : StateStep false st control st') (hst : st' = .finWait2 ∨ st' = .timeWait) :
    st = .finWait2 := by
  cases h <;> simp_all

/-- Nothing is in flight. -/
lemma Flight.of_zero (h : s.inFlight = 0)
    (hdrained : s.state = .finWait2 ∨ s.state = .timeWait → s.txBuffer.len = 0) : s.Flight :=
  ⟨⟨by omega, by omega, by omega, fun _ _ => by omega⟩, hdrained⟩

lemma Flight.advances {control : TcpControl} {ack : AckInfo} (h : s.Flight) (hbase : s.Base)
    (ha : Advances s repr control s' ack) : s'.Flight := by
  have hlt := s.inFlight_lt
  have hpos := h.nonneg
  have hlast₀ := s.remoteLastSeq_eq
  have hlen : ∀ {k : ℕ}, s'.txBuffer.toList = s.txBuffer.toList.drop k →
      s'.txBuffer.len = s.txBuffer.len - k := by
    intro k hk
    rw [← RingBuffer.length_toList, hk, List.length_drop, RingBuffer.length_toList]
  cases ha with
  | listen hst hst' hack hlast htx =>
    exact .of_zero (by rw [inFlight, hlast, dist_self]) (by simp [hst'])
  | syn hst hst' hack hloc hlast htx =>
    have htx₀ := hbase.tx_opening (.inr (.inl hst))
    have hone : s'.inFlight = 1 := by
      rw [← shift_zero s.localSeqNo] at hloc
      rw [inFlight_of_shift (j := 1) (by simpa using hlast) hloc (by omega) (by omega)]
      rfl
    have hctl : s'.controlLen = 1 := by simp [controlLen, sentSyn, sentFin, hst']
    exact ⟨⟨by omega, by omega, by omega, fun _ _ => by omega⟩, by simp [hst']⟩
  | synAck last hst hst' hack hloc hlast htx =>
    have htx₀ : s.txBuffer.len = 0 := by
      rcases hst with ⟨hst, -⟩ | ⟨hst, -⟩
      · exact hbase.tx_opening (.inr (.inl hst))
      · exact hbase.tx_opening (.inr (.inr hst))
    have hle := h.le
    have hlast' : s'.remoteLastSeq = shift s.localSeqNo 1 := by
      rcases hst with ⟨-, rfl⟩ | ⟨-, rfl⟩
      · rw [hlast, catchUp_shift _ (by omega) (by omega)]
        rfl
      · rw [hlast, hlast₀, catchUp_shift _ (by omega) (by omega), max_eq_right (by omega)]
    have hzero : s'.inFlight = 0 := by
      rw [inFlight_of_shift hlast' hloc (by omega) (by omega)]
      rfl
    refine .of_zero hzero ?_
    rcases hst' with hst' | hst' <;> simp [hst']
  | data n hne hst hn hlt hack hloc hlast htx =>
    have hle := h.le
    have hctl := hst.controlLen_eq hne
    have htx' := hlen htx
    have hlast' : s'.remoteLastSeq = shift s.localSeqNo (max s.inFlight n) := by
      rw [hlast, hlast₀, catchUp_shift _ (by omega) (by omega)]
    have heq := inFlight_of_shift hlast' hloc (by omega) (by omega)
    have hroom := h.room
    have hcontrol := h.le_control hst.ne.1 hst.ne.2.1
    refine ⟨⟨by omega, by omega, by omega, fun _ _ => by omega⟩, fun hd => ?_⟩
    have := h.drained (.inl (hst.drained hd))
    omega
  | fin n hn hfin hst hlt hack hloc hlast htx =>
    have hle := h.le
    have hctl := controlLen_of_sentFin hfin
    have htx' : s'.txBuffer.len = 0 := by rw [← RingBuffer.length_toList, htx]; rfl
    have hlast' : s'.remoteLastSeq = shift s.localSeqNo (n + 1) := by
      rw [hlast, hlast₀, catchUp_shift _ (by omega) (by omega), max_eq_right (by omega)]
    have hzero : s'.inFlight = 0 := by
      rw [inFlight_of_shift hlast' hloc (by omega) (by omega)]
      omega
    exact .of_zero hzero fun _ => htx'

/-- What an acknowledgement number in an accepted segment does to the send side. -/
structure Acknowledges (s : Socket) (repr : TcpRepr) (s' : Socket) (n : ℕ) : Prop where
  ackNumber : repr.ackNumber = some (shift s.localSeqNo n)
  le : n ≤ s.txBuffer.len + s.controlLen
  lt : n < 2 ^ 31
  localSeqNo : s'.localSeqNo = shift s.localSeqNo n
  inFlight : s'.inFlight = max s.inFlight n - n

lemma Flight.acknowledges {control : TcpControl} {ack : AckInfo} (h : s.Flight) (hbase : s.Base)
    (ha : Advances s repr control s' ack) (hack : repr.ackNumber ≠ none) :
    ∃ n, s.Acknowledges repr s' n := by
  have hlt := s.inFlight_lt
  have hpos := h.nonneg
  have hlast₀ := s.remoteLastSeq_eq
  have hle := h.le
  cases ha with
  | listen hst hst' hnone => exact absurd hnone hack
  | syn hst hst' hnone => exact absurd hnone hack
  | synAck last hst hst' hack hloc hlast htx =>
    have hopen : s.txBuffer.len = 0 ∧ s.controlLen = 1 := by
      rcases hst with ⟨hst, -⟩ | ⟨hst, -⟩
      · exact ⟨hbase.tx_opening (.inr (.inl hst)), by simp [controlLen, sentSyn, sentFin, hst]⟩
      · exact ⟨hbase.tx_opening (.inr (.inr hst)), by simp [controlLen, sentSyn, sentFin, hst]⟩
    have hlast' : s'.remoteLastSeq = shift s.localSeqNo 1 := by
      rcases hst with ⟨-, rfl⟩ | ⟨-, rfl⟩
      · rw [hlast, catchUp_shift _ (by omega) (by omega)]
        rfl
      · rw [hlast, hlast₀, catchUp_shift _ (by omega) (by omega), max_eq_right (by omega)]
    refine ⟨1, hack, by omega, by omega, hloc, ?_⟩
    rw [inFlight_of_shift hlast' hloc (by omega) (by omega)]
    push_cast
    omega
  | data n hne hst hn hlt hack hloc hlast htx =>
    have hlast' : s'.remoteLastSeq = shift s.localSeqNo (max s.inFlight n) := by
      rw [hlast, hlast₀, catchUp_shift _ (by omega) (by omega)]
    exact ⟨n, hack, by omega, by omega, hloc,
      inFlight_of_shift hlast' hloc (by omega) (by omega)⟩
  | fin n hn hfin hst hlt hack hloc hlast htx =>
    have hctl := controlLen_of_sentFin hfin
    have hlast' : s'.remoteLastSeq = shift s.localSeqNo (max s.inFlight (n + 1)) := by
      rw [hlast, hlast₀, catchUp_shift _ (by omega) (by omega)]
    exact ⟨n + 1, hack, by omega, by omega, hloc,
      inFlight_of_shift hlast' hloc (by omega) (by omega)⟩

/-- Fields on the send side that are left alone, and a state that may become CLOSED. -/
lemma Flight.congr (h : s.Flight) (hlast : s'.remoteLastSeq = s.remoteLastSeq)
    (hloc : s'.localSeqNo = s.localSeqNo) (htx : s'.txBuffer = s.txBuffer)
    (hst : s'.state = s.state ∨ s'.state = .closed) : s'.Flight := by
  have heq : s'.inFlight = s.inFlight := by rw [inFlight, inFlight, hlast, hloc]
  obtain ⟨⟨h₁, h₂, h₃, h₄⟩, h₅⟩ := h
  rw [← htx] at h₂ h₃ h₄ h₅
  rw [← heq] at h₁ h₂ h₃ h₄
  refine ⟨⟨h₁, h₂, h₃, ?_⟩, ?_⟩
  · intro hc hl
    rcases hst with hst | hst
    · have hctl : s'.controlLen = s.controlLen := by simp only [controlLen, sentSyn, sentFin, hst]
      rw [hctl]
      exact h₄ (hst ▸ hc) (hst ▸ hl)
    · exact absurd hst hc
  · rcases hst with hst | hst
    · rwa [hst]
    · simp [hst]

lemma Flight.quiet (h : s.Flight) (hq : Quiet s s') : s'.Flight := by
  obtain ⟨_, _, _, _, _, s₁, -, -, -, rfl, rfl | rfl⟩ := hq <;>
    exact h.congr rfl rfl rfl (.inl rfl)

lemma Flight.process (h : s.Flight) (hbase : s.Base) (hp : ProcessRule s cx ipRepr repr s') :
    s'.Flight := by
  cases hp with
  | quiet hq => exact h.quiet hq
  | reset st hctl hlisten hq hst =>
    obtain ⟨⟨h₁, h₂, h₃, -⟩, -⟩ := h.quiet hq
    rcases hst with ⟨rfl, -⟩ | rfl
    · exact ⟨⟨h₁, h₂, h₃, fun _ hl => absurd rfl hl⟩, by simp⟩
    · exact ⟨⟨h₁, h₂, h₃, fun hc => absurd rfl hc⟩, by simp⟩
  | accepted ha => exact h.advances hbase ha.advances

/-! ### Segments -/

/-- The room in the window of the remote. -/
lemma Flight.roomTo_eq (h : s.Flight) {win : ℕ} (hwin : win < 2 ^ 31) :
    s.roomTo (shift s.localSeqNo win) = .ok (win - s.inFlight).toNat := by
  have hpos := h.nonneg
  have hlt := s.inFlight_lt
  have hd : dist (shift s.localSeqNo win) s.remoteLastSeq = win - s.inFlight := by
    rw [s.remoteLastSeq_eq, dist_shift_shift_of_lt _ (by omega) (by omega)]
  unfold roomTo
  split_ifs with hge <;> rw [SeqNumber.ge, hd] at hge
  · rw [SeqNumber.sub_of_nonneg (by omega), hd]
  · rw [Int.toNat_of_nonpos (by omega)]

/-- A FIN goes behind the last octet. -/
lemma dataControl_len (s : Socket) (offset : ℕ) (payload : List UInt8) :
    (s.dataControl offset payload).len ≤ s.sentFin.toNat ∧
      ((s.dataControl offset payload).len ≠ 0 → offset + payload.length = s.txBuffer.len) := by
  unfold dataControl
  by_cases hend : offset + payload.length = s.txBuffer.len
  · rw [if_pos hend]
    refine ⟨?_, fun _ => hend⟩
    cases hst : s.state <;> simp only [sentFin, hst] <;> first
      | (split_ifs <;> decide)
      | decide
  · rw [if_neg hend]
    exact ⟨Nat.zero_le _, fun h => absurd rfl h⟩

/-- The sequence space of a data segment that is no probe lies within the window of the remote, but
for a FIN, and within the transmit buffer. -/
lemma Flight.data_le {offset room mss : ℕ} {payload : List UInt8} (h : s.Flight)
    (hroom : s.roomTo (shift s.localSeqNo s.remoteWinLen) = .ok room)
    (hwin : s.remoteWinLen < 2 ^ 31) (hoff : s.inFlight = offset)
    (hpay : payload = s.txBuffer.getAllocated offset (min (min room s.remoteMss) mss)) :
    (payload.length = 0 ∨ s.inFlight + payload.length ≤ s.remoteWinLen ∧
      s.inFlight + payload.length ≤ s.txBuffer.len) := by
  rw [h.roomTo_eq hwin] at hroom
  cases hroom
  have hlen := congrArg List.length hpay
  rw [RingBuffer.length_getAllocated] at hlen
  have hle := s.txBuffer.allocatedSize_le offset
    (min (min (s.remoteWinLen - s.inFlight).toNat s.remoteMss) mss)
  rcases Nat.lt_or_ge offset s.txBuffer.len with hlt | hge
  · have hin := s.txBuffer.offset_add_allocatedSize_le hlt.le
      (min (min (s.remoteWinLen - s.inFlight).toNat s.remoteMss) mss)
    omega
  · rw [s.txBuffer.allocatedSize_eq_zero hge] at hlen
    exact .inl hlen

lemma Flight.timed (h : s.Flight) (ht : Timed s cx s') : s'.Flight := by
  cases ht with
  | timeout hto => exact h.congr rfl rfl rfl (.inr rfl)
  | rewind hto hseq hre => exact .of_zero (dist_self _) h.drained
  | same seq hto hseq hre => exact h.congr rfl rfl rfl (.inl rfl)

/-- The end of a segment. -/
def endOf (s : Socket) (r : TcpRepr) : ℤ := dist r.seqNumber s.localSeqNo + r.segmentLen

lemma shift_endOf (s : Socket) (r : TcpRepr) :
    shift r.seqNumber r.segmentLen = shift s.localSeqNo (s.endOf r) := by
  rw [endOf, ← shift_shift, shift_dist]

/-- What a segment adds to the sequence space in flight. A SYN takes the first number again. -/
lemma Flight.builds {r : TcpRepr} (h : s.Flight) (hbase : s.Base) (hb : Builds s cx r false) :
    s.endOf r < 2 ^ 31 ∧ s.Fits (s.endOf r) := by
  have hlt := s.inFlight_lt
  have hsame : r.seqNumber = s.remoteLastSeq → r.segmentLen = 0 →
      s.endOf r < 2 ^ 31 ∧ s.Fits (s.endOf r) := by
    intro hseq hlen
    have hend : s.endOf r = s.inFlight := by simp [endOf, hseq, hlen, inFlight]
    rw [hend]
    exact ⟨hlt, h.toFits⟩
  cases hb with
  | rst hstate hctl hseq hpay =>
    exact hsame hseq (by simp [TcpRepr.segmentLen, hctl, hpay, TcpControl.len])
  | ack hstate hctl hseq hpay =>
    exact hsame hseq (by simp [TcpRepr.segmentLen, hctl, hpay, TcpControl.len])
  | syn hstate hctl hseq hpay =>
    have htx : s.txBuffer.len = 0 := hbase.tx_opening (.inr hstate)
    have hone : s.controlLen = 1 := by
      rcases hstate with hs | hs <;> simp [controlLen, sentSyn, sentFin, hs]
    have hend : s.endOf r = 1 := by
      simp [endOf, hseq, TcpRepr.segmentLen, hctl, hpay, TcpControl.len]
    rw [hend]
    exact ⟨by omega, by omega, by omega, by omega, fun _ _ => by omega⟩
  | data offset room mss zwp hstate hmss hwinLen hroom hzwp hoff hseq hpay hctl =>
    have hwin := hbase.winLen
    have hoff : s.inFlight = offset := hoff
    simp only [Bool.false_eq_true, if_false] at hpay
    have hdata := h.data_le hroom hwinLen hoff hpay
    obtain ⟨hfin, hend⟩ := s.dataControl_len offset r.payload
    rw [← hctl] at hfin hend
    have hfin1 : s.sentFin.toNat ≤ 1 := Bool.toNat_le _
    have hctlLen : s.sentFin.toNat ≤ s.controlLen := Nat.le_add_left _ _
    have hle := h.le
    have hroom' := h.room
    have hcontrol := h.le_control
    have hends : s.endOf r = s.inFlight + r.payload.length + r.control.len := by
      rw [endOf, hseq, TcpRepr.segmentLen, inFlight]
      push_cast
      ring
    rw [hends]
    refine ⟨by omega, by omega, by omega, by omega, fun hc hl => ?_⟩
    have := hcontrol hc hl
    omega

lemma Fits.congr {n : ℤ} (h : s.Fits n) (htx : s'.txBuffer = s.txBuffer)
    (hst : s'.state = s.state) : s'.Fits n := by
  have hctl : s'.controlLen = s.controlLen := by simp only [controlLen, sentSyn, sentFin, hst]
  obtain ⟨h₁, h₂, h₃, h₄⟩ := h
  rw [← htx] at h₂ h₃ h₄
  rw [← hst, ← hctl] at h₄
  exact ⟨h₁, h₂, h₃, h₄⟩

/-- Sending leaves the transmit buffer alone. The number behind the last one sent moves to the end
of the segment, unless that is a probe or a keep-alive. -/
lemma Sends.send_eq {e : Emission} (h : Sends s cx e s') :
    s'.txBuffer = s.txBuffer ∧ s'.state = s.state ∧ s'.localSeqNo = s.localSeqNo ∧
      s'.remoteLastSeq =
        (if e.isZeroWindowProbe ∨ e.isKeepAlive then s.remoteLastSeq
          else shift e.repr.seqNumber e.repr.segmentLen) := by
  cases h with
  | probe hzwp => exact ⟨rfl, rfl, rfl, by rw [if_pos (.inl hzwp)]; rfl⟩
  | keepAlive hzwp hkeep => exact ⟨rfl, rfl, rfl, by rw [if_pos (.inr hkeep)]; rfl⟩
  | segment hzwp hkeep hlen => exact ⟨rfl, rfl, rfl, by rw [if_neg (by simp [hzwp, hkeep])]; rfl⟩

/-- What is in flight after a segment was sent. -/
lemma Flight.inFlight_sends {e : Emission} (h : s.Flight) (hbase : s.Base) (hemits : Emits s cx e)
    (hs : Sends s cx e s') :
    s'.inFlight = s.inFlight ∧ (e.isZeroWindowProbe ∨ e.isKeepAlive) ∨
      s'.inFlight = s.endOf e.repr ∧ s.Fits (s.endOf e.repr) := by
  obtain ⟨-, -, hloc, hlast⟩ := hs.send_eq
  split_ifs at hlast with hkind
  · exact .inl ⟨by rw [inFlight, inFlight, hlast, hloc], hkind⟩
  · right
    cases hemits with
    | keepAlive r _ hkeep => exact absurd (.inr hkeep) hkind
    | segment r hbuilds _ _ _ hrepr =>
      rw [Bool.eq_false_of_not_eq_true fun hz => hkind (.inl hz)] at hbuilds
      obtain ⟨mss, hr⟩ := hrepr
      have hsame : s.endOf e.repr = s.endOf r := by rw [hr]; rfl
      obtain ⟨hn, hfits⟩ := h.builds hbase hbuilds
      rw [s.shift_endOf, hsame] at hlast
      rw [hsame]
      have hpos := hfits.nonneg
      rw [← shift_zero s.localSeqNo] at hloc
      refine ⟨?_, hfits⟩
      rw [inFlight_of_shift hlast hloc (by omega) (by omega)]
      omega

lemma Flight.sends {e : Emission} (h : s.Flight) (hbase : s.Base) (hemits : Emits s cx e)
    (hs : Sends s cx e s') : s'.Flight := by
  obtain ⟨htx, hst, hloc, -⟩ := hs.send_eq
  have hdrained : s'.state = .finWait2 ∨ s'.state = .timeWait → s'.txBuffer.len = 0 := by
    rw [hst, htx]
    exact h.drained
  rcases h.inFlight_sends hbase hemits hs with ⟨heq, -⟩ | ⟨heq, hfits⟩
  · exact ⟨heq ▸ h.toFits.congr htx hst, hdrained⟩
  · exact ⟨heq ▸ hfits.congr htx hst, hdrained⟩

lemma Flight.dispatch {e : Option Emission} (h : s.Flight) (hbase : s.Base)
    (hd : DispatchRule s cx s' e) : s'.Flight := by
  cases hd with
  | noTuple htuple => exact h
  | idle htuple htimed => exact h.timed htimed
  | reset htuple htimed => exact .of_zero (dist_self _) (by simp [Socket.reset])
  | failed htuple htimed => exact h.timed htimed
  | sent htuple htimed hsend hemits hsends =>
    exact (h.timed htimed).sends (hbase.timed htimed) hemits hsends

lemma Flight.close (h : s.Flight) : s.close.Flight := by
  obtain ⟨st, heq, hst⟩ := s.close_eq
  rw [heq]
  obtain ⟨⟨h₁, h₂, h₃, h₄⟩, h₅⟩ := h
  rcases hst with ⟨-, rfl⟩ | ⟨hs, rfl⟩ | ⟨hs, rfl⟩ | ⟨-, rfl⟩
  · exact ⟨⟨h₁, h₂, h₃, fun hc => absurd rfl hc⟩, by simp [setState]⟩
  · exact ⟨⟨h₁, h₂, h₃, fun _ _ => h₂⟩, by simp [setState]⟩
  · exact ⟨⟨h₁, h₂, h₃, fun _ _ => h₂⟩, by simp [setState]⟩
  · exact ⟨⟨h₁, h₂, h₃, h₄⟩, h₅⟩

lemma Flight.enqueues {data : List UInt8} (h : s.Flight) (hs : s.Enqueues s' data) : s'.Flight := by
  obtain ⟨hmay, tx, ts, htx, -, -, rfl⟩ := hs
  have hlen : tx.len = s.txBuffer.len + data.length := by
    rw [← RingBuffer.length_toList, htx, List.length_append, RingBuffer.length_toList]
  have hctl : s.controlLen = 0 := by
    rcases hmay with hst | hst <;> simp [controlLen, sentSyn, sentFin, hst]
  have hne : s.state ≠ .closed ∧ s.state ≠ .listen := by
    rcases hmay with hst | hst <;> simp [hst]
  obtain ⟨⟨h₁, h₂, h₃, h₄⟩, h₅⟩ := h
  have h₄ := h₄ hne.1 hne.2
  refine ⟨⟨h₁, ?_, ?_, ?_⟩, ?_⟩
  · change s.inFlight ≤ (tx.len : ℤ) + 1
    omega
  · rcases h₃ with h₃ | h₃
    · exact .inl h₃
    · omega
  · intro _ _
    change s.inFlight ≤ (tx.len : ℤ) + s.controlLen
    omega
  · rcases hmay with hst | hst <;> simp [hst]

end Socket

open Socket in
lemma Socket.Flight.step {y y' : Sys} {op : Op} (h : y.socket.Flight) (hbase : y.socket.Base)
    (hs : StepRule y op y') : y'.socket.Flight := by
  cases hs with
  | same => exact h
  | listen => exact .of_zero (dist_self _) (by simp)
  | connect => exact .of_zero (dist_self _) (by simp)
  | close => exact h.close
  | abort => exact h.congr rfl rfl rfl (.inr rfl)
  | set x s' hs =>
    obtain ⟨_, _, _, _, _, _, cc, _, timer, -, -, rfl⟩ := set_eq_ok hs
    exact h.congr rfl rfl rfl (.inl rfl)
  | send op s' data hs => exact h.enqueues hs
  | recv op s' n hs =>
    obtain ⟨-, rx, -, -, rfl⟩ := hs
    exact h.congr rfl rfl rfl (.inl rfl)
  | process cx ipRepr repr s' hs => exact h.process hbase hs
  | dispatch cx emit s' e hs => exact h.dispatch hbase hs

theorem Sys.ReachableBy.flight {ok : Sys → Op → Prop} {y : Sys} (h : Sys.ReachableBy ok y) :
    y.socket.Flight := by
  have hinv : y.socket.Base ∧ y.socket.Flight := by
    refine h.invariant (I := fun y => y.socket.Base ∧ y.socket.Flight) ?_ ?_
    · rintro y ⟨cfg, rx, tx, hnew, -⟩
      refine ⟨Socket.base_new hnew, ?_⟩
      unfold Socket.new at hnew
      split_ifs at hnew
      simp only [Except.ok.injEq] at hnew
      rw [← hnew]
      exact .of_zero (dist_self _) (by simp)
    · rintro y op y' ⟨hbase, hflight⟩ _ hstep
      exact ⟨hbase.step (.of_step hstep), hflight.step hbase (.of_step hstep)⟩
  exact hinv.2

end Smoltcp.Tcp
