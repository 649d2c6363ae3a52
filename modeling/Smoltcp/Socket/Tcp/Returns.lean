import Smoltcp.Socket.Tcp.Sizes
import Smoltcp.Socket.Tcp.Transmits

/-!
# Calls that do not panic

`process` returns in every reachable socket and for every segment that is addressed to it, and
`dispatch` and `pollAt` panic in one place only: `lastScaledWindow`, where octets have arrived from
behind the right edge of the window that was last advertised. Each stage is followed in the order of
the source, with what the stages before it have established.
-/

namespace Smoltcp

/-! ### Calls that return -/

namespace Checked

variable {α β : Type} {x y : Checked α} {f : α → Checked β}

/-- The call does not panic. -/
def Returns (x : Checked α) : Prop := ∃ a, x = .ok a

lemma returns_ok (a : α) : Returns (.ok a) := ⟨a, rfl⟩

lemma Returns.bind (hx : Returns x) (hf : ∀ a, x = .ok a → Returns (f a)) : Returns (x >>= f) := by
  obtain ⟨a, rfl⟩ := hx
  exact hf a rfl

/-- Where what follows returns whatever it is given. -/
lemma Returns.bind' (hx : Returns x) (hf : ∀ a, Returns (f a)) : Returns (x >>= f) :=
  hx.bind fun a _ => hf a

lemma returns_bind_iff : Returns (x >>= f) ↔ ∃ a, x = .ok a ∧ Returns (f a) := by
  simp only [Returns, bind_eq_ok]
  exact ⟨fun ⟨b, a, hx, hf⟩ => ⟨a, hx, b, hf⟩, fun ⟨a, hx, b, hf⟩ => ⟨b, a, hx, hf⟩⟩

lemma Returns.ite {p : Prop} [Decidable p] (hx : p → Returns x) (hy : ¬ p → Returns y) :
    Returns (if p then x else y) := by
  split_ifs with h
  · exact hx h
  · exact hy h

lemma exists_error_iff : (∃ p, x = .error p) ↔ ¬ Returns x := by
  cases x with
  | error p => simp [Returns]
  | ok a => simp [Returns]

lemma returns_assert {p : Prop} [Decidable p] (h : p) : Returns (assert p) := ⟨(), assert_of h⟩

lemma returns_unwrap {o : Option α} (h : o ≠ none) : Returns (unwrap o) := by
  cases o with
  | none => exact absurd rfl h
  | some a => exact ⟨a, rfl⟩

end Checked

namespace Tcp

open Serial Checked

lemma SeqNumber.returns_add {a : SeqNumber} {n : ℕ} (h : n < 2 ^ 31) : Returns (a.add n) :=
  ⟨_, SeqNumber.add_of_lt h⟩

lemma SeqNumber.returns_sub {a b : SeqNumber} (h : 0 ≤ dist a b) : Returns (a.sub b) :=
  ⟨_, SeqNumber.sub_of_nonneg h⟩

namespace Socket

variable {s s' : Socket} {cx : Context} {ipRepr : IpRepr} {repr : TcpRepr}

/-! ### Replies -/

lemma reply_returns : Returns (reply ipRepr repr) := by
  unfold reply
  refine .bind' ?_ fun _ => returns_ok _
  cases ipRepr with
  | ipv4 r => exact ⟨_, rfl⟩
  | ipv6 r => exact ⟨_, rfl⟩

lemma rstReply_returns (hctl : repr.control ≠ .rst) (hlen : repr.segmentLen < 2 ^ 31) :
    Returns (rstReply ipRepr repr) := by
  unfold rstReply
  refine (returns_assert hctl).bind' fun _ => reply_returns.bind' fun _ => .bind' ?_ fun _ =>
    returns_ok _
  unfold rstAckNumber
  exact .ite (fun _ => (SeqNumber.returns_add hlen).bind' fun _ => returns_ok _)
    fun _ => returns_ok _

/-- The octets in the receive buffer, as a distance between sequence numbers. -/
lemma rxLen_lt (hrx : s.rxBuffer.capacity ≤ 2 ^ 30) : s.rxBuffer.len < 2 ^ 31 := by
  have hle := s.rxBuffer.len_le
  omega

lemma ackReply_returns (hrx : s.rxBuffer.capacity ≤ 2 ^ 30) :
    Returns (s.ackReply cx ipRepr repr) := by
  unfold ackReply
  exact reply_returns.bind' fun _ => (SeqNumber.returns_add (rxLen_lt hrx)).bind' fun _ =>
    returns_ok _

lemma challengeAckReply_returns (hrx : s.rxBuffer.capacity ≤ 2 ^ 30) :
    Returns (s.challengeAckReply cx ipRepr repr) := by
  unfold challengeAckReply
  refine .ite (fun _ => returns_ok _) fun _ => .bind' ?_ fun _ => returns_ok _
  apply ackReply_returns
  exact hrx

/-! ### Acknowledgement number -/

lemma controlLen_le (s : Socket) : s.controlLen ≤ 2 := by
  have hsyn : s.sentSyn.toNat ≤ 1 := Bool.toNat_le _
  have hfin : s.sentFin.toNat ≤ 1 := Bool.toNat_le _
  unfold controlLen
  omega

lemma checkAckRange_returns (hrx : s.rxBuffer.capacity ≤ 2 ^ 30)
    (htx : s.txBuffer.capacity ≤ 2 ^ 30) (a : SeqNumber) :
    Returns (s.checkAckRange cx ipRepr repr a) := by
  have hle := s.txBuffer.len_le
  have hctl := s.controlLen_le
  unfold checkAckRange
  apply Returns.bind'
  · exact SeqNumber.returns_add (by omega)
  · intro ackMax
    refine .ite (fun _ => returns_ok _) fun _ => .ite (fun _ => ?_) fun _ => returns_ok _
    exact (challengeAckReply_returns hrx).bind' fun _ => returns_ok _

lemma checkAckOfSyn_returns (hctl : repr.control ≠ .rst) (hlen : repr.segmentLen < 2 ^ 31)
    (a : SeqNumber) : Returns (s.checkAckOfSyn ipRepr repr a) := by
  unfold checkAckOfSyn
  exact .ite (fun _ => (rstReply_returns hctl hlen).bind' fun _ => returns_ok _)
    fun _ => returns_ok _

lemma checkAckSynSent_returns (hctl : repr.control ≠ .rst) (hlen : repr.segmentLen < 2 ^ 31) :
    Returns (s.checkAckSynSent ipRepr repr) := by
  unfold checkAckSynSent
  split
  · cases repr.ackNumber with
    | none => exact returns_ok _
    | some a => exact checkAckOfSyn_returns hctl hlen a
  · exact .ite (fun _ => returns_ok _) fun _ =>
      (rstReply_returns hctl hlen).bind' fun _ => returns_ok _
  · exact returns_ok _

/-- A segment that acknowledges is not addressed to a listening socket. -/
lemma checkAckNumber_returns (hrx : s.rxBuffer.capacity ≤ 2 ^ 30)
    (htx : s.txBuffer.capacity ≤ 2 ^ 30) (hacc : s.accepts ipRepr repr)
    (hctl : repr.control ≠ .rst) (hlen : repr.segmentLen < 2 ^ 31) :
    Returns (s.checkAckNumber cx ipRepr repr) := by
  unfold checkAckNumber
  split
  · rename_i hlisten
    rw [if_neg fun hack => hacc.2.1 ⟨hlisten, .inl hack⟩]
    exact returns_ok _
  · exact checkAckSynSent_returns hctl hlen
  · cases repr.ackNumber with
    | none => exact returns_ok _
    | some a => exact checkAckOfSyn_returns hctl hlen a
  · cases repr.ackNumber with
    | none => exact returns_ok _
    | some a => exact checkAckRange_returns hrx htx a

lemma checkAck_returns (hrx : s.rxBuffer.capacity ≤ 2 ^ 30) (htx : s.txBuffer.capacity ≤ 2 ^ 30)
    (hacc : s.accepts ipRepr repr) (hlen : repr.segmentLen < 2 ^ 31) :
    Returns (s.checkAck cx ipRepr repr) := by
  unfold checkAck
  refine .ite (fun _ => .ite (fun _ => returns_ok _) fun _ => returns_ok _) fun hctl => ?_
  exact checkAckNumber_returns hrx htx hacc hctl hlen

/-! ### Receive window -/

lemma span_returns (hrx : s.rxBuffer.capacity ≤ 2 ^ 30) (hlen : repr.segmentLen < 2 ^ 31) :
    Returns (s.span repr) := by
  have hpay : repr.payload.length < 2 ^ 31 := (Nat.le_add_right _ _).trans_lt hlen
  unfold span
  exact (SeqNumber.returns_add (rxLen_lt hrx)).bind' fun _ =>
    (SeqNumber.returns_add (by omega)).bind' fun _ =>
      (SeqNumber.returns_add hpay).bind' fun _ => returns_ok _

/-- The cuts of the payload lie within it. -/
lemma trimPayload_returns {w : Span} (hrx : s.rxBuffer.capacity ≤ 2 ^ 30)
    (hw : s.span repr = .ok w) : Returns (s.trimPayload cx ipRepr repr w) := by
  obtain ⟨hcap, hlen, hws, hwe, hss, hse⟩ := span_eq_ok hw
  have hwin : s.rxBuffer.window < 2 ^ 31 := s.rxBuffer.window_le_capacity.trans_lt hcap
  unfold trimPayload
  split
  · exact returns_ok _
  · exact returns_ok _
  · refine .ite (fun hin => ?_) fun _ => .bind' ?_ fun _ => returns_ok _
    · set d := dist w.segmentStart w.windowStart with hd
      have hcase := Span.segmentInWindow_cases hwin hlen hd hwe hse hin
      obtain ⟨hos, hoe⟩ := Span.overlap_eq hwin hlen hd hwe hse hin
      have hss' : w.segmentStart = shift w.windowStart d := (shift_dist _ _).symm
      have hle : dist w.overlapStart w.overlapEnd =
          max d 0 - min (d + repr.payload.length) s.rxBuffer.window := by
        rw [hos, hoe, dist_shift_shift_of_lt _ (by omega) (by omega)]
      have ha : dist w.overlapStart w.segmentStart = max d 0 - d := by
        rw [hos, hss', dist_shift_shift_of_lt _ (by omega) (by omega)]
      have hb : dist w.overlapEnd w.segmentStart =
          min (d + repr.payload.length) s.rxBuffer.window - d := by
        rw [hoe, hss', dist_shift_shift_of_lt _ (by omega) (by omega)]
      have hoff : dist w.overlapStart w.windowStart = max d 0 := by
        have h := dist_shift_shift_of_lt w.windowStart (j := max d 0) (k := 0) (by omega) (by omega)
        rw [shift_zero, ← hos] at h
        omega
      rw [assert_of (show w.overlapStart.le w.overlapEnd by unfold SeqNumber.le; omega), ok_bind,
        SeqNumber.sub_of_nonneg (by omega), ok_bind, SeqNumber.sub_of_nonneg (by omega), ok_bind,
        slice_of (by omega) (by omega), ok_bind, SeqNumber.sub_of_nonneg (by omega), ok_bind]
      exact returns_ok _
    · unfold rejectSegment
      apply challengeAckReply_returns
      split_ifs <;> exact hrx

/-! ### Send side -/

lemma ackInfo_returns : Returns (s.ackInfo repr) := by
  unfold ackInfo
  refine .ite (fun _ => returns_ok _) fun _ => ?_
  cases repr.ackNumber with
  | none => exact returns_ok _
  | some a =>
    simp only
    refine .ite (fun hge => ?_) fun _ => returns_ok _
    exact (SeqNumber.returns_sub hge).bind' fun _ => returns_ok _

lemma dequeueAcked_returns {n : ℕ} (h : n ≤ s.txBuffer.len) : Returns (s.dequeueAcked n) := by
  unfold dequeueAcked
  refine .ite (fun _ => (returns_assert h).bind' fun _ => .bind' ?_ fun _ => returns_ok _)
    fun _ => returns_ok _
  obtain ⟨tx, htx, -⟩ := s.txBuffer.dequeueAllocated_of_le h
  exact ⟨tx, htx⟩

/-! ### Receive side -/

lemma ackToTransmit_returns (hrx : s.rxBuffer.capacity ≤ 2 ^ 30) : Returns s.ackToTransmit := by
  unfold ackToTransmit
  split
  · exact returns_ok _
  · exact (SeqNumber.returns_add (rxLen_lt hrx)).bind' fun _ => returns_ok _

lemma delayAck_returns (hrx : s.rxBuffer.capacity ≤ 2 ^ 30) (hmss : s.remoteMss < 2 ^ 16) :
    Returns (s.delayAck cx) := by
  unfold delayAck
  split
  · exact returns_ok _
  · refine (ackToTransmit_returns hrx).bind' fun _ => .ite (fun _ => ?_) fun _ => returns_ok _
    split
    · exact returns_ok _
    · refine .bind' ?_ fun _ => .ite (fun _ => returns_ok _) fun _ => returns_ok _
      unfold immediateAckToTransmit
      split
      · exact returns_ok _
      · exact (SeqNumber.returns_add (by omega)).bind' fun _ =>
          (SeqNumber.returns_add (rxLen_lt hrx)).bind' fun _ => returns_ok _
    · exact returns_ok _

/-- What becomes contiguous with the receive buffer lies within its window. -/
lemma contigLen_le {payload : List UInt8} {offset n : ℕ} {asm : Assembler}
    (hcov : ∀ p, s.assembler.Covers p → p < s.rxBuffer.window)
    (hwin : offset + payload.length ≤ s.rxBuffer.window)
    (hadd : s.assembler.addThenRemoveFront offset payload.length = .ok (asm, n)) :
    n ≤ s.rxBuffer.window := by
  obtain ⟨hfront, -⟩ := Assembler.addThenRemoveFront_spec hadd
  by_contra hlt
  rcases hfront s.rxBuffer.window (by omega) with h | h
  · exact absurd (hcov _ h) (lt_irrefl _)
  · omega

lemma storePayload_returns {payload : List UInt8} {offset : ℕ}
    (hcov : ∀ p, s.assembler.Covers p → p < s.rxBuffer.window)
    (hwin : offset + payload.length ≤ s.rxBuffer.window) :
    Returns (s.storePayload payload offset) := by
  unfold storePayload
  split
  · exact returns_ok _
  · rename_i asm n hadd
    obtain ⟨rx, hrx, hlen, hcap, -⟩ := s.rxBuffer.writeUnallocated_spec hwin
    have hn := contigLen_le hcov hwin hadd
    have hw : rx.window = s.rxBuffer.window := by
      rw [RingBuffer.window, RingBuffer.window, hlen, hcap]
    rw [hrx]
    refine (returns_assert rfl).bind' fun _ => .bind' ?_ fun _ => returns_ok _
    unfold enqueueContig
    refine .ite (fun _ => ?_) fun _ => returns_ok _
    have hle : n ≤ rx.window := by omega
    obtain ⟨rx', hrx', -⟩ := rx.enqueueUnallocated_of_le hle
    exact ⟨rx', hrx'⟩

lemma receivePayload_returns {payload : List UInt8} {offset : ℕ} (hbase : s.Base)
    (hwin : offset + payload.length ≤ s.rxBuffer.window) :
    Returns (s.receivePayload cx ipRepr repr payload offset) := by
  unfold receivePayload
  refine .ite (fun _ => returns_ok _) fun _ => ?_
  refine (storePayload_returns hbase.covers hwin).bind fun o ho => ?_
  rcases storePayload_eq_ok hwin ho with ⟨rfl, -⟩ | ⟨asm, rx, n, rfl, hstore⟩
  · exact returns_ok _
  · have hrx : rx.capacity ≤ 2 ^ 30 := hstore.capacity.trans_le hbase.capacity
    have hdelay : Returns ({ s with assembler := asm, rxBuffer := rx }.delayAck cx) := by
      apply delayAck_returns
      · exact hrx
      · exact hbase.mss.2
    refine hdelay.bind fun s₁ hs₁ => ?_
    obtain ⟨t, rfl⟩ := delayAck_eq_ok hs₁
    refine .ite (fun _ => .bind' ?_ fun _ => returns_ok _) fun _ => returns_ok _
    exact ackReply_returns hrx

/-! ### The whole -/

lemma finishProcess_returns {ack : AckInfo} {payload : List UInt8} {offset : ℕ} (hbase : s.Base)
    (hack : ack.ackLen ≤ s.txBuffer.len) (hwin : offset + payload.length ≤ s.rxBuffer.window) :
    Returns (s.finishProcess cx ipRepr repr ack payload offset) := by
  have hdequeue : Returns ((s.updateWindow cx (s.newRemoteWinLen repr)).dequeueAcked ack.ackLen) :=
    dequeueAcked_returns hack
  unfold finishProcess
  refine hdequeue.bind fun s₁ hs₁ => ?_
  obtain ⟨hlen, tx, rfl, htx, hcap⟩ := dequeueAcked_eq_ok hs₁
  obtain ⟨dup, last, cc, fast, hcc, hfast, heq⟩ := updateAck_eq
    { s.updateWindow cx (s.newRemoteWinLen repr) with txBuffer := tx } cx repr
    (decide (s.newRemoteWinLen repr ≠ s.remoteWinLen))
  simp only [heq]
  apply receivePayload_returns
  · exact hbase.acked (.intro tx _ cc dup last fast _ hlen htx hcap rfl hcc hfast)
  · exact hwin

/-- What is known of a segment that makes the state move on. -/
structure Moves (s : Socket) (cx : Context) (ipRepr : IpRepr) (repr : TcpRepr) (w : Span)
    (ack : AckInfo) (payload : List UInt8) (offset : ℕ) (s₂ : Socket) : Prop where
  acceptable : AckAcceptable s repr
  count : AckCount s repr ack
  exists_transits : ∃ s₁, Noted s s₁ ∧
    Transits s₁ cx ipRepr repr (effectiveControl repr w) ack.ackOfFin s₂
  trimmed : (s.state = .listen ∨ s.state = .synSent) ∧ payload = [] ∧ offset = 0 ∨
    s.state ≠ .listen ∧ s.state ≠ .synSent ∧
      Trimmed s repr (dist w.segmentStart w.windowStart) payload offset

lemma moves_of_transition {st s₂ : Socket} {w : Span} {ack : AckInfo} {payload : List UInt8}
    {offset : ℕ} (hack : repr.control = .rst ∨ repr.control ≠ .rst ∧ AckAcceptable s repr)
    (hw : s.span repr = .ok w)
    (htrim : s.trimPayload cx ipRepr repr w = .ok (.next st (payload, offset)))
    (hinfo : st.ackInfo repr = .ok ack)
    (htr : (st.noteAck cx repr ack.ackLen).transition cx ipRepr repr (effectiveControl repr w)
      ack.ackOfFin = .next s₂ ()) : Moves s cx ipRepr repr w ack payload offset s₂ := by
  have htrim' := trimPayload_next hw htrim
  -- the trimming only sets the number of the last segment
  obtain ⟨lastSeq, rfl⟩ : ∃ lastSeq, st = { s with localRxLastSeq := lastSeq } := by
    rcases htrim' with ⟨-, rfl, -⟩ | ⟨-, -, rfl, -⟩ <;> exact ⟨_, rfl⟩
  have htransits := transition_next htr
  obtain ⟨rtte, cc, hrtte, hcc, heq⟩ :=
    noteAck_eq { s with localRxLastSeq := lastSeq } cx repr ack.ackLen
  have hctl : repr.control ≠ .rst :=
    fun hc => htransits.control_ne (effectiveControl_eq_rst.mpr hc)
  have hacc : AckAcceptable s repr := (hack.resolve_left hctl).2
  refine ⟨hacc, ackInfo_eq_ok hctl hacc hinfo, ⟨_, ?_, htransits⟩, ?_⟩
  · exact ⟨lastSeq, rtte, cc, hrtte, hcc, heq⟩
  · rcases htrim' with ⟨hs, -, hp⟩ | ⟨hl, hs, -, htr⟩
    · exact .inl ⟨hs, hp⟩
    · exact .inr ⟨hl, hs, htr⟩

namespace Moves

variable {w : Span} {ack : AckInfo} {payload : List UInt8} {offset : ℕ} {s₂ : Socket}

lemma buffers_eq (h : Moves s cx ipRepr repr w ack payload offset s₂) :
    s₂.txBuffer = s.txBuffer ∧ s₂.rxBuffer = s.rxBuffer ∧ s₂.assembler = s.assembler := by
  obtain ⟨s₁, ⟨_, _, _, -, -, rfl⟩, ht⟩ := h.exists_transits
  cases ht <;> exact ⟨rfl, rfl, rfl⟩

lemma ackLen_le (h : Moves s cx ipRepr repr w ack payload offset s₂) :
    ack.ackLen ≤ s₂.txBuffer.len := by
  rw [h.buffers_eq.1]
  exact h.count.ackLen_le

lemma offset_add_length_le (h : Moves s cx ipRepr repr w ack payload offset s₂) :
    offset + payload.length ≤ s₂.rxBuffer.window := by
  rw [h.buffers_eq.2.1]
  rcases h.trimmed with ⟨-, rfl, rfl⟩ | ⟨-, -, htrim⟩
  · exact Nat.zero_le _
  · exact htrim.offset_add_length_le

lemma base (h : Moves s cx ipRepr repr w ack payload offset s₂) (hbase : s.Base) : s₂.Base := by
  obtain ⟨s₁, hnoted, ht⟩ := h.exists_transits
  exact (hbase.quiet hnoted.quiet).transits ht

end Moves

/-- A segment that is addressed to the socket is processed without a panic. -/
lemma process_returns (hbase : s.Base) (htx : s.txBuffer.capacity ≤ 2 ^ 30)
    (hacc : s.accepts ipRepr repr) (hlen : repr.segmentLen < 2 ^ 31) :
    Returns (s.process cx ipRepr repr) := by
  unfold process
  refine (returns_assert hacc).bind' fun _ => ?_
  refine (checkAck_returns hbase.capacity htx hacc hlen).bind fun f hf => ?_
  cases f with
  | ret sr r => exact returns_ok _
  | next sn u =>
    obtain ⟨rfl, hack⟩ := checkAck_next hf
    refine (span_returns hbase.capacity hlen).bind fun w hw => ?_
    refine (trimPayload_returns hbase.capacity hw).bind fun f hf => ?_
    cases f with
    | ret sr r => exact returns_ok _
    | next st pl =>
      refine ackInfo_returns.bind fun ack hinfo => ?_
      simp only
      cases htr : (st.noteAck cx repr ack.ackLen).transition cx ipRepr repr
          (effectiveControl repr w) ack.ackOfFin with
      | ret sr r => exact returns_ok _
      | next s₂ u =>
        have hmoves := moves_of_transition hack hw hf hinfo htr
        exact finishProcess_returns (hmoves.base hbase) hmoves.ackLen_le hmoves.offset_add_length_le

/-! ### The decision to send -/

/-- Octets have arrived from behind the right edge of the window that was last advertised. -/
def Overrun (s : Socket) : Prop :=
  ∃ a, s.remoteLastAck = some a ∧
    dist (shift a (shl s.remoteLastWin.toNat s.remoteWinShift)) s.nextAck < 0

/-- The states in which a window update is considered. -/
def Updates (s : Socket) : Prop :=
  s.state = .synSent ∨ s.state = .synReceived ∨ s.state = .established ∨ s.state = .finWait1 ∨
    s.state = .finWait2

lemma shl_lt (w : UInt16) {k : UInt8} (hk : k.toNat ≤ 15) : shl w.toNat k < 2 ^ 31 := by
  have hw := w.toNat_lt
  have hpow : 2 ^ k.toNat ≤ 2 ^ 15 := Nat.pow_le_pow_right (by omega) hk
  unfold shl
  rw [Nat.mod_eq_of_lt (show k.toNat < 64 by omega), Nat.shiftLeft_eq]
  refine (Nat.mod_le _ _).trans_lt ?_
  calc w.toNat * 2 ^ k.toNat ≤ w.toNat * 2 ^ 15 := Nat.mul_le_mul_left _ hpow
    _ < 2 ^ 31 := by omega

lemma lastScaledWindow_returns_iff (hbase : s.Base) : Returns s.lastScaledWindow ↔ ¬ s.Overrun := by
  unfold lastScaledWindow Overrun
  cases hack : s.remoteLastAck with
  | none => simp [Returns]
  | some a =>
    simp only
    rw [SeqNumber.add_of_lt (rxLen_lt hbase.capacity), ok_bind,
      SeqNumber.add_of_lt (shl_lt _ hbase.winShift), ok_bind, returns_bind_iff]
    simp only [SeqNumber.sub_eq_ok, pure_eq_ok, returns_ok, and_true, Option.some.injEq,
      exists_eq_left', nextAck]
    constructor
    · rintro ⟨n, hn⟩
      omega
    · intro h
      exact ⟨_, (Int.toNat_of_nonneg (by omega)).symm⟩

/-- Only the window update looks back at what was advertised. -/
lemma windowToUpdate_returns_iff (hbase : s.Base) :
    Returns s.windowToUpdate ↔ (s.Updates → ¬ s.Overrun) := by
  have hlast (f : Option UInt16 → Checked Bool) (hf : ∀ o, Returns (f o)) :
      Returns (s.lastScaledWindow >>= f) ↔ ¬ s.Overrun := by
    rw [← lastScaledWindow_returns_iff hbase, returns_bind_iff]
    constructor
    · rintro ⟨o, ho, -⟩
      exact ⟨o, ho⟩
    · rintro ⟨o, ho⟩
      exact ⟨o, ho, hf o⟩
  unfold windowToUpdate Updates
  cases hst : s.state
  case synSent | synReceived | established | finWait1 | finWait2 =>
    exact (hlast _ fun o => by cases o <;> exact returns_ok _).trans (by simp)
  all_goals simp [returns_ok]

lemma localMss_returns {addr : IpAddress} (hmtu : 60 ≤ cx.ipMtu) :
    Returns (localMss cx (IpRepr.headerLenOf addr)) := by
  have hlen : IpRepr.headerLenOf addr ≤ 40 := by
    cases addr <;> simp [IpRepr.headerLenOf, ipv4HeaderLen, ipv6HeaderLen]
  unfold localMss
  rw [sub_of_le (show IpRepr.headerLenOf addr ≤ cx.ipMtu by omega), ok_bind,
    sub_of_le (show tcpHeaderLen ≤ _ by unfold tcpHeaderLen; omega)]
  exact returns_ok _

lemma roomTo_returns (edge : SeqNumber) : Returns (s.roomTo edge) := by
  unfold roomTo
  exact .ite (fun hge => SeqNumber.returns_sub hge) fun _ => returns_ok _

lemma canFin_returns (htx : s.txBuffer.capacity ≤ 2 ^ 30) : Returns s.canFin := by
  have hle := s.txBuffer.len_le
  unfold canFin
  exact .ite (fun _ => (SeqNumber.returns_add (by omega)).bind' fun _ => returns_ok _)
    fun _ => returns_ok _

lemma seqToTransmit_returns (htx : s.txBuffer.capacity ≤ 2 ^ 30) (htuple : s.tuple ≠ none)
    (hmtu : 60 ≤ cx.ipMtu) : Returns (s.seqToTransmit cx) := by
  have hle := s.txBuffer.len_le
  unfold seqToTransmit
  refine (returns_unwrap htuple).bind' fun tuple => (localMss_returns hmtu).bind' fun mss => ?_
  refine .ite (fun _ => returns_ok _) fun _ => .bind' ?_ fun _ => ?_
  · unfold maxSend
    refine (SeqNumber.returns_add ?_).bind' fun _ => (roomTo_returns _).bind' fun _ => returns_ok _
    omega
  · exact (canFin_returns htx).bind' fun _ => returns_ok _

/-- The window update is considered where there is nothing to transmit and no acknowledgement to
send. -/
def Idle (s : Socket) (cx : Context) : Prop :=
  s.seqToTransmit cx = .ok false ∧ ¬ (s.ackToTransmit = .ok true ∧ s.delayedAckExpired cx.now)

lemma decision_returns_iff (hbase : s.Base) (htx : s.txBuffer.capacity ≤ 2 ^ 30)
    (htuple : s.tuple ≠ none) (hmtu : 60 ≤ cx.ipMtu) :
    Returns (s.decision cx) ↔ (s.Idle cx → s.Updates → ¬ s.Overrun) := by
  obtain ⟨seq, hseq⟩ := seqToTransmit_returns htx htuple hmtu
  obtain ⟨ack, hack⟩ := ackToTransmit_returns hbase.capacity
  unfold decision Idle
  rw [hseq, ok_bind, ← windowToUpdate_returns_iff hbase]
  cases seq with
  | true => simp [returns_ok]
  | false =>
    rw [if_neg Bool.false_ne_true, hack, ok_bind]
    by_cases hsend : ack = true ∧ s.delayedAckExpired cx.now
    · simp [hsend, returns_ok]
    · rw [if_neg hsend, returns_bind_iff]
      have hidle : ¬ (Except.ok ack = (Except.ok true : Checked Bool) ∧
          s.delayedAckExpired cx.now) := fun h => hsend ⟨Except.ok.inj h.1, h.2⟩
      constructor
      · rintro ⟨w, hw, -⟩ -
        exact ⟨w, hw⟩
      · intro h
        obtain ⟨w, hw⟩ := h ⟨rfl, hidle⟩
        refine ⟨w, hw, ?_⟩
        split_ifs <;> exact returns_ok _

/-! ### The segment -/

lemma dataSegment_returns {mss : Checked ℕ} (hflight : s.Flight) (hwin : s.remoteWinLen < 2 ^ 31)
    (hmss : Returns mss) : Returns (s.dataSegment cx mss repr) := by
  unfold dataSegment
  exact (SeqNumber.returns_add hwin).bind' fun _ => (roomTo_returns _).bind' fun _ =>
    hmss.bind' fun _ => (SeqNumber.returns_sub hflight.nonneg).bind' fun _ => returns_ok _

lemma stateSegment_returns {mss : Checked ℕ} (hflight : s.Flight) (hwin : s.remoteWinLen < 2 ^ 31)
    (hmss : Returns mss) : Returns (s.stateSegment cx mss repr) := by
  unfold stateSegment
  cases s.state
  case established | finWait1 | closing | closeWait | lastAck =>
    exact (dataSegment_returns hflight hwin hmss).bind' fun _ => returns_ok _
  all_goals exact returns_ok _

lemma segment_returns (hbase : s.Base) (hflight : s.Flight) (hwin : s.remoteWinLen < 2 ^ 31)
    (htuple : s.tuple ≠ none) (hmtu : 60 ≤ cx.ipMtu) : Returns (s.segment cx) := by
  unfold segment
  refine (returns_unwrap htuple).bind fun tuple ht => ?_
  have ht' : s.tuple = some tuple := by
    cases h : s.tuple <;> rw [h] at ht <;> cases ht
    rfl
  obtain ⟨ipRepr, hip⟩ := IpRepr.new_of_version_eq (hbase.version tuple ht') .tcp 0
    (s.hopLimit.getD 64)
  have hmss : Returns (localMss cx ipRepr.headerLen) := by
    rw [(IpRepr.new_eq_ok hip).2]
    exact localMss_returns hmtu
  rw [hip, ok_bind]
  refine (SeqNumber.returns_add (rxLen_lt hbase.capacity)).bind' fun ackNumber => ?_
  refine (stateSegment_returns hflight hwin hmss).bind' fun o => ?_
  cases o with
  | none => exact returns_ok _
  | some q =>
    refine Returns.bind' ?_ fun _ => returns_ok _
    unfold synMss
    exact .ite (fun _ => hmss.bind' fun _ => returns_ok _) fun _ => returns_ok _

/-- A segment is shorter than the remote's maximum segment size, but for a control flag. -/
lemma Builds.segmentLen_lt {zwp : Bool} (h : Builds s cx repr zwp) (hmss : s.remoteMss < 2 ^ 16) :
    repr.segmentLen < 2 ^ 31 := by
  have hctl : repr.control.len ≤ 1 := by cases repr.control <;> decide
  have hpay : repr.payload.length ≤ s.remoteMss := by
    cases h with
    | rst hstate hctl hseq hpay => simp [hpay]
    | syn hstate hctl hseq hpay => simp [hpay]
    | ack hstate hctl hseq hpay => simp [hpay]
    | data offset room mss zwp hstate hmss hwinLen hroom hzwp hoff hseq hpay =>
      rw [hpay, RingBuffer.length_getAllocated]
      refine (s.txBuffer.allocatedSize_le _ _).trans ?_
      exact (min_le_left _ _).trans (min_le_right _ _)
  unfold TcpRepr.segmentLen
  omega

lemma afterEmit_returns {e : Emission} (h : Emits s cx e) (hmss : s.remoteMss < 2 ^ 16) :
    Returns (s.afterEmit cx e) := by
  unfold afterEmit
  refine .ite (fun _ => returns_ok _) fun _ => .ite (fun _ => returns_ok _) fun hkeep => ?_
  refine (SeqNumber.returns_add ?_).bind' fun _ => returns_ok _
  cases h with
  | keepAlive r hbuilds hk => exact absurd hk hkeep
  | segment r hbuilds _ _ _ hrepr =>
    obtain ⟨mss, hr⟩ := hrepr
    rw [hr]
    exact hbuilds.segmentLen_lt hmss

lemma emitSegment_returns {emit : IpRepr → TcpRepr → Bool} (hbase : s.Base) (hflight : s.Flight)
    (hwin : s.remoteWinLen < 2 ^ 31) (htuple : s.tuple ≠ none) (hmtu : 60 ≤ cx.ipMtu) :
    Returns (s.emitSegment cx emit) := by
  unfold emitSegment
  refine (segment_returns hbase hflight hwin htuple hmtu).bind fun o ho => ?_
  cases o with
  | none => exact returns_ok _
  | some e =>
    refine .ite (fun _ => ?_) fun _ => returns_ok _
    exact (afterEmit_returns (segment_eq_ok ho) hbase.mss.2).bind' fun _ => returns_ok _

/-! ### Dispatching -/

lemma checkTimers_returns (htx : s.txBuffer.capacity ≤ 2 ^ 30) (htuple : s.tuple ≠ none)
    (hmtu : 60 ≤ cx.ipMtu) : Returns (s.checkTimers cx) := by
  unfold checkTimers
  refine .ite (fun _ => returns_ok _) fun _ => ?_
  refine (seqToTransmit_returns htx htuple hmtu).bind' fun _ => ?_
  exact .ite (fun _ => returns_ok _) fun _ => returns_ok _

lemma Timed.keeps (h : Timed s cx s') : s'.txBuffer = s.txBuffer ∧ s'.tuple = s.tuple ∧
    s'.remoteWinLen = s.remoteWinLen := by
  cases h <;> exact ⟨rfl, rfl, rfl⟩

/-- Exactly when `dispatch` returns: it panics where it comes to the window update of a socket whose
receive buffer has been overrun. -/
lemma dispatch_returns_iff {emit : IpRepr → TcpRepr → Bool} (hbase : s.Base) (hflight : s.Flight)
    (htx : s.txBuffer.capacity ≤ 2 ^ 30) (hwin : s.remoteWinLen < 2 ^ 31)
    (hmtu : 60 ≤ cx.ipMtu) :
    Returns (s.dispatch cx emit) ↔ (s.tuple ≠ none →
      ¬ ((s.due cx).state = .synReceived ∧ (s.due cx).synackPaused) → (s.due cx).Idle cx →
        (s.due cx).Updates → ¬ (s.due cx).Overrun) := by
  unfold dispatch
  by_cases htuple : s.tuple = none
  · simp [htuple, returns_ok]
  · obtain ⟨s₁, hs₁⟩ : Returns ((s.touch cx).checkTimers cx) := checkTimers_returns htx htuple hmtu
    have htimed := checkTimers_eq_ok hs₁
    obtain ⟨htx₁, htuple₁, hwin₁⟩ := htimed.keeps
    have hbase₁ := hbase.timed htimed
    rw [if_neg htuple, hs₁, ok_bind, ← htimed.eq_due]
    by_cases hpause : s₁.state = .synReceived ∧ s₁.synackPaused
    · simp [hpause, returns_ok]
    · have hiff : Returns (s₁.decision cx) ↔ (s₁.Idle cx → s₁.Updates → ¬ s₁.Overrun) :=
        decision_returns_iff hbase₁ (by rwa [htx₁]) (by rwa [htuple₁]) hmtu
      rw [if_neg hpause, returns_bind_iff]
      simp only [ne_eq, htuple, hpause, not_false_iff, forall_true_left, ← hiff]
      constructor
      · rintro ⟨d, hd, -⟩
        exact ⟨d, hd⟩
      · rintro ⟨d, hd⟩
        refine ⟨d, hd, ?_⟩
        cases d with
        | send =>
          exact emitSegment_returns hbase₁ (hflight.timed htimed) (by rwa [hwin₁])
            (by rwa [htuple₁]) hmtu
        | close => exact returns_ok _
        | nothing => exact returns_ok _

/-- Exactly when `pollAt` returns. -/
lemma pollAt_returns_iff (hbase : s.Base) (htx : s.txBuffer.capacity ≤ 2 ^ 30)
    (hmtu : 60 ≤ cx.ipMtu) :
    Returns (s.pollAt cx) ↔ (s.tuple ≠ none → s.remoteLastTs ≠ none →
      s.seqToTransmit cx = .ok false → s.Updates → ¬ s.Overrun) := by
  unfold pollAt
  by_cases htuple : s.tuple = none
  · simp [htuple, returns_ok]
  by_cases hts : s.remoteLastTs = none
  · simp [htuple, hts, returns_ok]
  by_cases hclosed : s.state = .closed
  · simp [htuple, hts, hclosed, Updates, returns_ok]
  · obtain ⟨seq, hseq⟩ := seqToTransmit_returns htx htuple hmtu
    obtain ⟨ack, hack⟩ := ackToTransmit_returns hbase.capacity
    rw [if_neg htuple, if_neg hts, if_neg hclosed, hseq, ok_bind,
      ← windowToUpdate_returns_iff hbase]
    cases seq with
    | true => simp [returns_ok]
    | false =>
      rw [if_neg Bool.false_ne_true, returns_bind_iff]
      constructor
      · rintro ⟨w, hw, -⟩ - - -
        exact ⟨w, hw⟩
      · intro h
        obtain ⟨w, hw⟩ := h htuple hts rfl
        refine ⟨w, hw, ?_⟩
        rw [hack, ok_bind]
        split_ifs <;> exact returns_ok _

end Socket

end Tcp

end Smoltcp
