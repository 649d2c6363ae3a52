import Smoltcp.Socket.Tcp.Sample
import Smoltcp.Socket.Tcp.Transmits
import Smoltcp.Storage.Reassembly

/-!
# The receive side

A peer sends a stream of octets, which the network may cut, delay, repeat and reorder. What the
application is given, followed by what the receive buffer holds, is at any time the start of that
stream, and the acknowledgement number counts it.
-/

namespace Smoltcp.Tcp

open Serial

variable {isn : SeqNumber} {S delivered : List UInt8}

/-- The octets handed to the application, followed by those in the receive buffer. -/
def Sys.stored (y : Sys) : List UInt8 := y.conn.delivered ++ y.socket.rxBuffer.toList

/-- How much of the peer's sequence space was received behind its SYN: octets, and the FIN. -/
def Sys.received (y : Sys) : ℕ := y.stored.length + y.socket.rxFinReceived.toNat

/-! ### The peer -/

/-- A segment of a peer that sends the stream `S` from the number `isn + 1` on, and its FIN behind
it. A segment that occupies sequence space lies at an offset `o` of the stream that is fewer than
`2 ^ 31` octets away from what was received. -/
inductive FromPeer (isn : SeqNumber) (S : List UInt8) (received : ℕ) (repr : TcpRepr) : Prop where
  | empty (hpay : repr.payload = []) (hfin : repr.control ≠ .fin)
  | data (o : ℕ) (hseq : repr.seqNumber = shift isn (1 + o)) (hpay : repr.payload <+: S.drop o)
      (hfin : repr.control = .fin → o + repr.payload.length = S.length)
      (hlo : -2 ^ 31 ≤ (o : ℤ) - received) (hhi : (o : ℤ) - received < 2 ^ 31)

/-- The offset of a segment in the stream is the one nearest to what was received. -/
lemma fromPeer_iff {received : ℕ} {repr : TcpRepr} : FromPeer isn S received repr ↔
    repr.payload = [] ∧ repr.control ≠ .fin ∨
      0 ≤ received + dist repr.seqNumber (shift isn (1 + received)) ∧
        repr.payload <+: S.drop (received + dist repr.seqNumber (shift isn (1 + received))).toNat ∧
        (repr.control = .fin →
          (received + dist repr.seqNumber (shift isn (1 + received))).toNat + repr.payload.length =
            S.length) := by
  constructor
  · rintro (⟨hpay, hfin⟩ | ⟨o, hseq, hpay, hfin, hlo, hhi⟩)
    · exact .inl ⟨hpay, hfin⟩
    · have hd : dist repr.seqNumber (shift isn (1 + received)) = o - received := by
        rw [hseq, dist_shift_shift_of_lt _ (by omega) (by omega)]
        omega
      have ho : (received : ℤ) + dist repr.seqNumber (shift isn (1 + received)) = o := by omega
      rw [ho, Int.toNat_natCast]
      exact .inr ⟨by omega, hpay, hfin⟩
  · rintro (⟨hpay, hfin⟩ | ⟨hpos, hpay, hfin⟩)
    · exact .empty hpay hfin
    · have hlt := dist_lt repr.seqNumber (shift isn (1 + received))
      have hge := le_dist repr.seqNumber (shift isn (1 + received))
      refine .data _ ?_ hpay hfin (by omega) (by omega)
      have hseq := shift_dist repr.seqNumber (shift isn (1 + received))
      rw [shift_shift] at hseq
      rw [Int.toNat_of_nonneg hpos, ← Int.add_assoc, hseq]

instance (isn : SeqNumber) (S : List UInt8) (received : ℕ) (repr : TcpRepr) :
    Decidable (FromPeer isn S received repr) :=
  decidable_of_iff _ fromPeer_iff.symm

/-- The guard of a run inside one connection, with the segments that the peer may send. A closure
that is given the receive buffer may read it, but leaves what it does not take as it was. -/
def Sys.InConnection (segment : Sys → TcpRepr → Prop) (y : Sys) : Op → Prop
  | .listen _ => False
  | .connect _ _ _ => False
  | .recv f => f.KeepsRest
  | .process _ _ repr => repr.control ≠ .rst ∧ segment y repr
  | _ => True

/-- A FIN whose segment starts the receive window has a payload that fits the window. -/
def FinFits (s : Socket) (repr : TcpRepr) : Prop :=
  repr.control = .fin → repr.seqNumber = s.nextAck →
    repr.payload.length ≤ s.rxBuffer.window ∨ s.rxBuffer.window = 0

instance (s : Socket) (repr : TcpRepr) : Decidable (FinFits s repr) :=
  inferInstanceAs (Decidable (_ → _ → _))

/-- The SYN with the number `isn` opens a connection. -/
structure Sys.Opens (y₀ : Sys) (isn : SeqNumber) (y₁ : Sys) : Prop where
  reachable : Reachable y₀
  step : ∃ cx ipRepr repr, repr.control = .syn ∧ repr.seqNumber = isn ∧
    Step y₀ (.process cx ipRepr repr) y₁
  state_ne : y₁.socket.state ≠ y₀.socket.state

/-! ### The invariant -/

/-- The remote may still send data. -/
def State.Receiving (st : State) : Prop :=
  st = .synReceived ∨ st = .established ∨ st = .finWait1 ∨ st = .finWait2

/-- The remote has closed its half. -/
def State.Finished (st : State) : Prop :=
  st = .closeWait ∨ st = .closing ∨ st = .lastAck ∨ st = .timeWait

lemma State.Finished.not_receiving {st : State} (h : st.Finished) : ¬ st.Receiving := by
  rcases h with rfl | rfl | rfl | rfl <;> simp [State.Receiving]

namespace Socket

/-- The receive side is in line with the stream of the peer, of which `delivered` was handed to the
application. -/
structure Receiving (isn : SeqNumber) (S delivered : List UInt8) (s : Socket) : Prop where
  taken : delivered <+: S
  reassembles : Reassembles (S.drop delivered.length) s.rxBuffer s.assembler
  nextAck : s.nextAck =
    shift isn (1 + ((delivered.length + s.rxBuffer.len + s.rxFinReceived.toNat : ℕ) : ℤ))
  complete : s.rxFinReceived = true → s.rxBuffer.toList = S.drop delivered.length
  state : s.state = .closed ∨ s.rxFinReceived = false ∧ s.state.Receiving ∨
    s.rxFinReceived = true ∧ s.state.Finished

/-- The connection was reset after TIME-WAIT. -/
structure Gone (s : Socket) : Prop where
  state : s.state = .closed
  tuple : s.tuple = none
  len : s.rxBuffer.len = 0
  fin : s.rxFinReceived = false

variable {s s' s₁ s₂ s₃ : Socket} {cx : Context} {ipRepr : IpRepr} {repr : TcpRepr}

namespace Receiving

lemma isPrefix (h : Receiving isn S delivered s) : delivered ++ s.rxBuffer.toList <+: S := by
  obtain ⟨rest, rfl⟩ := h.taken
  have hrx := h.reassembles.stored
  rw [List.drop_left] at hrx
  exact (List.prefix_append_right_inj delivered).mpr hrx

lemma length_le (h : Receiving isn S delivered s) :
    delivered.length + s.rxBuffer.len ≤ S.length := by
  have := h.isPrefix.length_le
  rwa [List.length_append, RingBuffer.length_toList] at this

lemma stored_eq (h : Receiving isn S delivered s) (hfin : s.rxFinReceived = true) :
    delivered ++ s.rxBuffer.toList = S := by
  obtain ⟨rest, rfl⟩ := h.taken
  rw [h.complete hfin, List.drop_left]

lemma length_eq (h : Receiving isn S delivered s) (hfin : s.rxFinReceived = true) :
    delivered.length + s.rxBuffer.len = S.length := by
  have := congrArg List.length (h.stored_eq hfin)
  rwa [List.length_append, RingBuffer.length_toList] at this

/-- Fields that no stage but the last one writes. -/
lemma congr (h : Receiving isn S delivered s) (hrx : s'.rxBuffer = s.rxBuffer)
    (hseq : s'.remoteSeqNo = s.remoteSeqNo) (hasm : s'.assembler = s.assembler)
    (hfin : s'.rxFinReceived = s.rxFinReceived)
    (hst : s'.state = .closed ∨ s.rxFinReceived = false ∧ s'.state.Receiving ∨
      s.rxFinReceived = true ∧ s'.state.Finished) : Receiving isn S delivered s' := by
  obtain ⟨h₁, h₂, h₃, h₄, -⟩ := h
  constructor
  · exact h₁
  · rw [hrx, hasm]
    exact h₂
  · rw [Socket.nextAck, hrx, hseq, hfin]
    exact h₃
  · rw [hfin, hrx]
    exact h₄
  · rw [hfin]
    exact hst

/-! ### Stages -/

lemma quiet (h : Receiving isn S delivered s) (hq : Quiet s s') : Receiving isn S delivered s' := by
  obtain ⟨timer, lastSeq, rtte, cc, chal, s₁, -, -, -, rfl, rfl | rfl⟩ := hq <;>
    exact h.congr rfl rfl rfl rfl h.state

lemma acknowledged (h : Receiving isn S delivered s) : Receiving isn S delivered s.acknowledged :=
  h.congr rfl rfl rfl rfl h.state

lemma dequeues {n : ℕ} (hbase : s.Base) (h : Receiving isn S delivered s)
    (hs : s.Dequeues s' n True) :
    Receiving isn S (delivered ++ s.rxBuffer.toList.take n) s' := by
  obtain ⟨-, rx, hshrinks, hlist, rfl⟩ := hs
  have hlist := hlist trivial
  have hlen := hshrinks.len
  have hle := hshrinks.le
  have htake : (delivered ++ s.rxBuffer.toList.take n).length = delivered.length + n := by
    rw [List.length_append, List.length_take, RingBuffer.length_toList]
    omega
  constructor
  · refine List.IsPrefix.trans ?_ h.isPrefix
    exact (List.prefix_append_right_inj delivered).mpr (List.take_prefix n _)
  · rw [htake, ← List.drop_drop]
    exact h.reassembles.dequeue hbase.covers hshrinks hlist
  · have hack := h.nextAck
    simp only [Socket.nextAck, shift_shift, htake] at hack ⊢
    have hn : (n : ℤ) + rx.len = s.rxBuffer.len := by omega
    rw [hn, hack]
    congr 2
    omega
  · intro hfin
    simp only
    rw [htake, hlist, h.complete hfin, List.drop_drop]
  · exact h.state

/-- The distance of a segment from the window is the distance of its offset in the stream from what
was received. -/
lemma dist_eq {w : Span} {o : ℕ} (h : Receiving isn S delivered s) (hw : s.span repr = .ok w)
    (hseq : repr.seqNumber = shift isn (1 + o))
    (hlo : -2 ^ 31 ≤ (o : ℤ) - (delivered.length + s.rxBuffer.len + s.rxFinReceived.toNat : ℕ))
    (hhi : (o : ℤ) - (delivered.length + s.rxBuffer.len + s.rxFinReceived.toNat : ℕ) < 2 ^ 31) :
    dist w.segmentStart w.windowStart =
      o - (delivered.length + s.rxBuffer.len + s.rxFinReceived.toNat : ℕ) := by
  obtain ⟨-, -, hws, -, hss, -⟩ := span_eq_ok hw
  have hack : w.windowStart = _ := hws.trans h.nextAck
  rw [hss, hseq, hack, dist_shift_shift_of_lt _ (by omega) (by omega)]
  omega

/-- What is left of a payload inside the window lies at its offset in the stream. -/
lemma trimmed {d : ℤ} {o offset : ℕ} {payload : List UInt8} (h : Receiving isn S delivered s)
    (htr : Trimmed s repr d payload offset)
    (hd : d = o - (delivered.length + s.rxBuffer.len + s.rxFinReceived.toNat : ℕ))
    (hpay : repr.payload <+: S.drop o) (hne : payload ≠ []) :
    s.rxFinReceived = false ∧
      payload <+: (S.drop delivered.length).drop (s.rxBuffer.len + offset) := by
  have hpos : 0 < payload.length := List.length_pos_iff.mpr hne
  have hlen := htr.length_payload
  have hlen' := hpay.length_le
  rw [List.length_drop] at hlen'
  have hfin : s.rxFinReceived = false := by
    by_contra hfin
    rw [Bool.not_eq_false] at hfin
    have := h.length_eq hfin
    rw [hfin] at hd
    simp only [Bool.toNat_true] at hd
    omega
  refine ⟨hfin, ?_⟩
  rw [hfin] at hd
  simp only [Bool.toNat_false, Nat.add_zero] at hd
  have hat : delivered.length + (s.rxBuffer.len + offset) = o + (-d).toNat := by
    have := htr.offset_eq
    omega
  rw [List.drop_drop, hat, ← List.drop_drop, htr.payload_eq, List.drop_take]
  exact (List.take_prefix _ _).trans (hpay.drop _)

end Receiving

/-- An accepted segment of an open connection moves the state and, with a FIN, the sequence. -/
lemma Accepted.moved_eq {w : Span} {ack : AckInfo} {payload : List UInt8} {offset : ℕ}
    (h : Accepted s cx ipRepr repr w ack payload offset s₁ s₂ s₃ s')
    (hstate : s.state ≠ .listen ∧ s.state ≠ .synSent) :
    StateStep ack.ackOfFin s.state (effectiveControl repr w) s₃.state ∧
      s₃.remoteSeqNo =
        (if effectiveControl repr w = .fin then shift s.remoteSeqNo 1 else s.remoteSeqNo) ∧
      s₃.rxFinReceived = (s.rxFinReceived || decide (effectiveControl repr w = .fin)) := by
  have hn := h.noted
  have ht := h.transits
  have ha := h.acked
  obtain ⟨_, _, _, -, -, rfl⟩ := hn
  cases ha
  cases ht with
  | synListen hctl hs => exact absurd hs hstate.1
  | synSent hctl hs => exact absurd hs hstate.2
  | moved st hst => exact ⟨hst, rfl, rfl⟩

/-- A SYN that is accepted starts the sequence of the remote. -/
lemma Accepted.of_syn {w : Span} {ack : AckInfo} {payload : List UInt8} {offset : ℕ}
    (h : Accepted s cx ipRepr repr w ack payload offset s₁ s₂ s₃ s') (hctl : repr.control = .syn) :
    (s.state = .listen ∨ s.state = .synSent) ∧
      (s'.state = .synReceived ∨ s'.state = .established) ∧ s'.rxBuffer = s.rxBuffer ∧
      s'.assembler = s.assembler ∧ s'.remoteSeqNo = shift repr.seqNumber 1 ∧
      s'.rxFinReceived = s.rxFinReceived := by
  have hw : effectiveControl repr w = .syn := by
    simp [effectiveControl, hctl, TcpControl.quashPsh]
  have ht := h.transits
  rw [hw] at ht
  have hopening : s.state = .listen ∨ s.state = .synSent := by
    rw [← h.state_eq]
    cases ht with
    | synListen _ hst => exact .inl hst
    | synSent _ hst => exact .inr hst
    | moved st hst => rcases hst.control with h | h <;> cases h
  have hpay : payload = [] := by
    rcases h.trimmed with ⟨-, hpay, -⟩ | ⟨hl, hs, -⟩
    · exact hpay
    · exact absurd hopening (by simp [hl, hs])
  have hr := h.received
  rw [hpay] at hr
  rw [hr.eq_of_nil]
  obtain ⟨_, _, _, -, -, rfl⟩ := h.noted
  have hacked := h.acked
  cases hacked
  cases ht with
  | synListen => exact ⟨hopening, .inl rfl, rfl, rfl, rfl, rfl⟩
  | synSent =>
    refine ⟨hopening, ?_, rfl, rfl, rfl, rfl⟩
    simp only [synSynSent]
    split_ifs
    · exact .inr rfl
    · exact .inl rfl
  | moved st hst => rcases hst.control with h | h <;> cases h

lemma StateStep.receiving_none {aof : Bool} {st st' : State} (h : StateStep aof st .none st') :
    st.Receiving ∧ st'.Receiving ∨ st.Finished ∧ (st' = .closed ∨ st'.Finished) := by
  cases h <;> simp [State.Receiving, State.Finished]

lemma StateStep.receiving_fin {aof : Bool} {st st' : State} (h : StateStep aof st .fin st') :
    st.Receiving ∧ st'.Finished := by
  cases h <;> simp [State.Receiving, State.Finished]

/-- A FIN is acted on if no hole is in front of its segment. -/
lemma effectiveControl_eq_fin {w : Span} (h : effectiveControl repr w = .fin) :
    repr.control = .fin ∧ ¬ w.windowStart.lt w.segmentStart := by
  unfold effectiveControl at h
  cases hctl : repr.control <;> rw [hctl] at h <;> simp only [TcpControl.quashPsh] at h
  case fin =>
    split_ifs at h with hlt
    exact ⟨rfl, fun hl => hlt ⟨trivial, hl⟩⟩
  all_goals simp at h

namespace Receiving

/-- Receiving the payload, where it is in line with the stream. The FIN before it may only be
counted if the payload completes the stream. -/
lemma received {payload : List UInt8} {offset : ℕ} {pre : Socket}
    (h : Receiving isn S delivered pre) (hrx : s.rxBuffer = pre.rxBuffer)
    (hasm : s.assembler = pre.assembler) (hwin : offset + payload.length ≤ s.rxBuffer.window)
    (hack : s.nextAck =
      shift isn (1 + ((delivered.length + s.rxBuffer.len + s.rxFinReceived.toNat : ℕ) : ℤ)))
    (hpay : payload ≠ [] →
      payload <+: (S.drop delivered.length).drop (s.rxBuffer.len + offset))
    (hfin : s.rxFinReceived = true → pre.rxFinReceived = false → offset = 0 ∧
      delivered.length + s.rxBuffer.len + payload.length = S.length)
    (hst : s.state = .closed ∨ s.rxFinReceived = false ∧ s.state.Receiving ∨
      s.rxFinReceived = true ∧ s.state.Finished)
    (hr : Received s payload offset s') : Receiving isn S delivered s' := by
  have hreas : Reassembles (S.drop delivered.length) s.rxBuffer s.assembler := by
    rw [hrx, hasm]
    exact h.reassembles
  have hstored : ∀ asm rx n t, payload ≠ [] → Stores s payload offset asm rx n →
      Receiving isn S delivered { s with assembler := asm, rxBuffer := rx, ackDelayTimer :=
      t } := by
    intro asm rx n t hne hs
    have hreas' := hreas.store hwin (hpay hne) hs.add hs.len hs.view
    refine ⟨h.taken, hreas', ?_, ?_, hst⟩
    · have hlen := hs.len
      simp only [Socket.nextAck] at hack ⊢
      rw [hlen]
      push_cast
      rw [← shift_shift, hack, shift_shift]
      congr 1
      push_cast
      ring
    · intro hf
      have hf : s.rxFinReceived = true := hf
      by_cases hpre : pre.rxFinReceived = true
      · -- the stream was complete before
        have hlen := h.length_eq hpre
        have hle := hreas'.len_le
        have hlen' := hs.len
        refine hreas'.stored.eq_of_length ?_
        rw [List.length_drop] at hle ⊢
        rw [RingBuffer.length_toList]
        rw [hrx] at hlen'
        omega
      · obtain ⟨rfl, hall⟩ := hfin hf (by simpa using hpre)
        refine hreas'.store_rest ?_ hs.add hs.len
        rw [List.length_drop]
        omega
  cases hr with
  | dropped hdrop =>
    refine ⟨h.taken, hreas, hack, ?_, hst⟩
    intro hf
    by_cases hpre : pre.rxFinReceived = true
    · rw [hrx]
      exact h.complete hpre
    · obtain ⟨rfl, hall⟩ := hfin hf (by simpa using hpre)
      rcases hdrop with rfl | ⟨e, he⟩
      · refine hreas.stored.eq_of_length ?_
        simp only [List.length_nil] at hall
        rw [RingBuffer.length_toList, List.length_drop]
        omega
      · obtain ⟨a, n, hok⟩ := s.assembler.addThenRemoveFront_zero payload.length
        rw [he] at hok
        cases hok
  | stored asm rx n t hne hs => exact hstored asm rx n t hne hs
  | acked asm rx n t hne hs => exact (hstored asm rx n t hne hs).acknowledged

/-- A segment of the peer keeps the receive side in line, if a FIN at the window's start fits. -/
lemma accepted {w : Span} {ack : AckInfo} {payload : List UInt8} {offset : ℕ}
    (h : Receiving isn S delivered s)
    (hpeer : FromPeer isn S (delivered.length + s.rxBuffer.len + s.rxFinReceived.toNat) repr)
    (hfits : FinFits s repr) (ha : Accepted s cx ipRepr repr w ack payload offset s₁ s₂ s₃ s') :
    Receiving isn S delivered s' ∧ (s'.rxFinReceived = true →
      s.rxFinReceived = true ∨ repr.control = .fin) := by
  rw [ha.received.state_eq.2.2]
  have hstate : s.state ≠ .listen ∧ s.state ≠ .synSent := by
    rcases h.state with hs | ⟨-, hs⟩ | ⟨-, hs⟩
    · simp [hs]
    · rcases hs with hs | hs | hs | hs <;> simp [hs]
    · rcases hs with hs | hs | hs | hs <;> simp [hs]
  have hclosed : s.state ≠ .closed := ha.accepts.1
  have htr : Trimmed s repr (dist w.segmentStart w.windowStart) payload offset := by
    rcases ha.trimmed with ⟨hs, -⟩ | ⟨-, -, htr⟩
    · exact absurd hs (by simp [hstate])
    · exact htr
  obtain ⟨hst, hseq, hfin⟩ := ha.moved_eq hstate
  obtain ⟨hrx, hasm, -⟩ := ha.rx_eq
  have hwin := ha.offset_add_length_le
  have hpay : payload ≠ [] → s.rxFinReceived = false ∧
      payload <+: (S.drop delivered.length).drop (s₃.rxBuffer.len + offset) := by
    intro hne
    cases hpeer with
    | empty hempty _ =>
      refine absurd ?_ hne
      rw [htr.payload_eq, hempty]
      simp
    | data o hs hp _ hlo hhi =>
      rw [hrx]
      exact h.trimmed htr (h.dist_eq ha.span hs hlo hhi) hp hne
  rcases hst.control with hctl | hctl
  · rw [hctl] at hst hseq hfin
    simp only [reduceCtorEq, if_false, decide_false, Bool.or_false] at hseq hfin
    refine ⟨?_, fun hf => .inl (hfin ▸ hf)⟩
    refine h.received hrx hasm hwin ?_ (fun hne => (hpay hne).2) ?_ ?_ ha.received
    · rw [Socket.nextAck, hrx, hseq, hfin]
      exact h.nextAck
    · intro hf hnf
      rw [hfin, hnf] at hf
      cases hf
    · rw [hfin]
      rcases h.state with hs | ⟨hf, hs⟩ | ⟨hf, hs⟩
      · exact absurd hs hclosed
      · rcases hst.receiving_none with hmove | hmove
        · exact .inr (.inl ⟨hf, hmove.2⟩)
        · exact absurd hs hmove.1.not_receiving
      · rcases hst.receiving_none with hmove | hmove
        · exact absurd hmove.1 hs.not_receiving
        · exact hmove.2.imp id fun hf' => .inr ⟨hf, hf'⟩
  · obtain ⟨hctl', hnlt⟩ := effectiveControl_eq_fin hctl
    rw [hctl] at hst hseq hfin
    obtain ⟨hfrom, hto⟩ := hst.receiving_fin
    have hnf : s.rxFinReceived = false := by
      rcases h.state with hs | ⟨hf, -⟩ | ⟨-, hs⟩
      · exact absurd hs hclosed
      · exact hf
      · exact absurd hfrom hs.not_receiving
    simp only [if_true, decide_true, Bool.or_true] at hseq hfin
    refine ⟨?_, fun _ => .inr hctl'⟩
    cases hpeer with
    | empty _ hne => exact absurd hctl' hne
    | data o hs hp hend hlo hhi =>
      have hd := h.dist_eq ha.span hs hlo hhi
      rw [hnf] at hd
      simp only [Bool.toNat_false, Nat.add_zero] at hd
      have hle : dist w.segmentStart w.windowStart ≤ 0 := by
        by_contra hpos
        refine hnlt ?_
        rw [SeqNumber.lt, dist_swap (by omega)]
        omega
      refine h.received hrx hasm hwin ?_ (fun hne => (hpay hne).2) ?_ ?_ ha.received
      · have hack := h.nextAck
        rw [Socket.nextAck, hnf] at hack
        rw [Socket.nextAck, hrx, hseq, hfin, shift_shift, Int.add_comm 1, ← shift_shift, hack,
          shift_shift]
        congr 1
      · intro _ _
        have hin := htr.inWindow
        have hoff := htr.offset_eq
        have hlen := htr.length_payload
        have hend := hend hctl'
        have hfit : dist w.segmentStart w.windowStart = 0 →
            repr.payload.length ≤ s.rxBuffer.window ∨ s.rxBuffer.window = 0 := by
          intro h0
          refine hfits hctl' ?_
          rw [htr.seqNumber, h0]
          simp [Socket.nextAck]
        rw [hrx]
        constructor <;> omega
      · rw [hfin]
        exact .inr (.inr ⟨rfl, hto⟩)

lemma process (h : Receiving isn S delivered s) (hrst : repr.control ≠ .rst)
    (hpeer : FromPeer isn S (delivered.length + s.rxBuffer.len + s.rxFinReceived.toNat) repr)
    (hfits : FinFits s repr) (hp : ProcessRule s cx ipRepr repr s') :
    Receiving isn S delivered s' ∧ (s'.rxFinReceived = true →
      s.rxFinReceived = true ∨ repr.control = .fin) := by
  cases hp with
  | quiet hq =>
    refine ⟨h.quiet hq, ?_⟩
    obtain ⟨_, _, _, _, _, s₁, -, -, -, rfl, rfl | rfl⟩ := hq <;> exact .inl
  | reset st hctl => exact absurd hctl hrst
  | accepted ha => exact h.accepted hpeer hfits ha

lemma timed (h : Receiving isn S delivered s) (ht : Timed s cx s') :
    Receiving isn S delivered s' := by
  cases ht with
  | timeout hto => exact h.congr rfl rfl rfl rfl (.inl rfl)
  | rewind hto hseq hre => exact h.congr rfl rfl rfl rfl h.state
  | same seq hto hseq hre => exact h.congr rfl rfl rfl rfl h.state

end Receiving

lemma Timed.fin_eq (h : Timed s cx s') : s'.rxFinReceived = s.rxFinReceived := by
  cases h <;> rfl

lemma Base.state_of_decision_close (h : s.Base) (hd : s.decision cx = .ok .close) :
    s.state = .timeWait := by
  obtain ⟨hne, hclose⟩ := decision_close hd
  cases htimer : s.timer with
  | close t => exact (h.closeTimer t htimer).resolve_right hne
  | _ => simp [htimer, Timer.shouldClose] at hclose

lemma Receiving.dispatch {e : Option Emission} (hbase : s.Base) (h : Receiving isn S delivered s)
    (hd : DispatchRule s cx s' e) :
    Receiving isn S delivered s' ∧ s'.rxFinReceived = s.rxFinReceived ∨
      s.rxFinReceived = true ∧ s'.Gone := by
  cases hd with
  | noTuple htuple => exact .inl ⟨h, rfl⟩
  | idle htuple htimed => exact .inl ⟨h.timed htimed, htimed.fin_eq⟩
  | @reset s₁ htuple htimed hclose =>
    have htw := (hbase.timed htimed).state_of_decision_close hclose
    refine .inr ⟨?_, rfl, rfl, rfl, rfl⟩
    rw [← htimed.fin_eq]
    rcases (h.timed htimed).state with hs | ⟨-, hs⟩ | ⟨hf, -⟩
    · rw [htw] at hs
      cases hs
    · rw [htw] at hs
      simp [State.Receiving] at hs
    · exact hf
  | failed htuple htimed => exact .inl ⟨h.timed htimed, htimed.fin_eq⟩
  | sent htuple htimed hsend hemits hsends =>
    obtain ⟨hrx, hseq, hasm, hfin, hst⟩ := hsends.rx_eq
    have h₁ := h.timed htimed
    refine .inl ⟨h₁.congr hrx hseq hasm hfin ?_, hfin.trans htimed.fin_eq⟩
    rw [hst]
    exact h₁.state

end Socket

/-! ### Runs -/

namespace Sys

variable {y y₀ y₁ y' : Sys} {op : Op} {segment : Sys → TcpRepr → Prop}

lemma received_eq (y : Sys) : y.received =
    y.conn.delivered.length + y.socket.rxBuffer.len + y.socket.rxFinReceived.toNat := by
  rw [received, stored, List.length_append, RingBuffer.length_toList]

/-- One step of the connection keeps the receive side in line with the stream, unless the socket is
reset after TIME-WAIT. Only a segment with a FIN closes the remote half. -/
lemma receiving_step (hbase : y.socket.Base) (h : y.socket.Receiving isn S y.conn.delivered)
    (hseg : ∀ repr, segment y repr → FromPeer isn S y.received repr ∧ FinFits y.socket repr)
    (hok : y.InConnection segment op) (hs : StepRule y op y') :
    y'.socket.Receiving isn S y'.conn.delivered ∧
        (y'.socket.rxFinReceived = true → y.socket.rxFinReceived = true ∨
          ∃ cx ipRepr repr, op = .process cx ipRepr repr ∧ repr.control = .fin) ∨
      y.socket.rxFinReceived = true ∧ y'.socket.Gone ∧ ∃ cx emit, op = .dispatch cx emit := by
  cases hs with
  | same => exact .inl ⟨h, .inl⟩
  | listen => exact hok.elim
  | connect => exact hok.elim
  | close =>
    have hstate := h.state
    obtain ⟨st, heq, hst⟩ := y.socket.close_eq
    rw [heq]
    refine .inl ⟨h.congr rfl rfl rfl rfl ?_, .inl⟩
    rcases hst with ⟨-, rfl⟩ | ⟨hs | hs, rfl⟩ | ⟨hs, rfl⟩ | ⟨-, rfl⟩
    · exact .inl rfl
    · simp_all [State.Receiving, State.Finished, Socket.setState]
    · simp_all [State.Receiving, State.Finished, Socket.setState]
    · simp_all [State.Receiving, State.Finished, Socket.setState]
    · exact hstate
  | abort => exact .inl ⟨h.congr rfl rfl rfl rfl (.inl rfl), .inl⟩
  | set x s' hs =>
    obtain ⟨_, _, _, _, _, _, cc, _, timer, -, -, rfl⟩ := Socket.set_eq_ok hs
    exact .inl ⟨h.congr rfl rfl rfl rfl h.state, .inl⟩
  | send op s' data hs =>
    obtain ⟨-, tx, ts, -, -, -, rfl⟩ := hs
    exact .inl ⟨h.congr rfl rfl rfl rfl h.state, .inl⟩
  | recv op s' n hs =>
    have hkeeps : op.KeepsRest := by
      cases op with
      | recv f => exact hok
      | _ => trivial
    have hs' : y.socket.Dequeues s' n True := by
      obtain ⟨hmay, rx, hshrinks, hlist, rfl⟩ := hs
      exact ⟨hmay, rx, hshrinks, fun _ => hlist hkeeps, rfl⟩
    refine .inl ⟨h.dequeues hbase hs', ?_⟩
    obtain ⟨-, rx, -, -, rfl⟩ := hs'
    exact .inl
  | process cx ipRepr repr s' hs =>
    obtain ⟨hrst, hsegment⟩ := hok
    obtain ⟨hpeer, hfits⟩ := hseg repr hsegment
    rw [received_eq] at hpeer
    obtain ⟨h', hfin⟩ := h.process hrst hpeer hfits hs
    have hlisten : y.socket.state ≠ .listen := by
      rcases h.state with hs | ⟨-, hs⟩ | ⟨-, hs⟩
      · simp [hs]
      · rcases hs with hs | hs | hs | hs <;> simp [hs]
      · rcases hs with hs | hs | hs | hs <;> simp [hs]
    have hconn : (y.conn.process y.socket s').delivered = y.conn.delivered := by
      rw [Conn.process, if_neg fun hl => hlisten hl.1]
    rw [← hconn] at h'
    exact .inl ⟨h', fun hf => (hfin hf).imp id fun hctl => ⟨cx, ipRepr, repr, rfl, hctl⟩⟩
  | dispatch cx emit s' e hs =>
    have hconn : (y.conn.dispatch y.socket e).delivered = y.conn.delivered := by
      unfold Conn.dispatch
      split
      · rfl
      · split_ifs <;> rfl
    rcases h.dispatch hbase hs with ⟨h', hfin⟩ | ⟨hfin, hgone⟩
    · refine .inl ⟨?_, fun hf => .inl (hfin ▸ hf)⟩
      simp only [hconn]
      exact h'
    · exact .inr ⟨hfin, hgone, cx, emit, rfl⟩

/-- A SYN that opens a connection puts the receive side at the start of the peer's stream. -/
lemma Opens.receiving (h : y₀.Opens isn y₁) :
    y₁.socket.Receiving isn S y₁.conn.delivered ∧ y₁.socket.rxFinReceived = false := by
  obtain ⟨hreach, ⟨cx, ipRepr, repr, hctl, hseq, hstep⟩, hne⟩ := h
  have hbase := hreach.base
  have hfresh := hreach.fresh
  cases StepRule.of_step hstep with
  | same => exact absurd rfl hne
  | send op s' data hs =>
    obtain ⟨-, tx, ts, -, -, -, rfl⟩ := hs
    exact absurd rfl hne
  | recv op s' n hs =>
    obtain ⟨-, rx, -, -, rfl⟩ := hs
    exact absurd rfl hne
  | process cx ipRepr repr s' hs =>
    cases hs with
    | quiet hq => exact absurd hq.state_eq hne
    | reset st hrst =>
      rw [hrst] at hctl
      cases hctl
    | @accepted w ack payload offset s₁ s₂ s₃ s' ha =>
      obtain ⟨hst, hst', hrx, hasm, hack, hfin⟩ := ha.of_syn hctl
      have hopen : y₀.socket.state.Opening := hst.imp id .inl
      obtain ⟨hlen, hfin₀⟩ := hbase.rx_opening hopen
      rw [hfin₀] at hfin
      refine ⟨?_, hfin⟩
      have hdelivered : (y₀.conn.process y₀.socket s').delivered = [] := by
        unfold Conn.process
        split_ifs
        · rfl
        · exact (hfresh hopen).2
      rw [hdelivered]
      constructor
      · exact List.nil_prefix
      · rw [hrx, hasm]
        exact .of_empty hlen (hbase.covers_opening hopen)
      · rw [Socket.nextAck, hrx, hlen, hack, hfin, hseq]
        simp
      · intro hf
        rw [hfin] at hf
        cases hf
      · exact .inr (.inl ⟨hfin, hst'.imp id .inl⟩)

/-- The guard of a run in which the peer sends only data of `S`. -/
def Data (isn : SeqNumber) (S : List UInt8) : Sys → Op → Prop :=
  InConnection fun y repr => repr.control ≠ .fin ∧ FromPeer isn S y.received repr

/-- The guard of a run in which the peer sends `S` and its FIN. -/
def Stream (isn : SeqNumber) (S : List UInt8) : Sys → Op → Prop :=
  InConnection fun y repr => FromPeer isn S y.received repr ∧ FinFits y.socket repr

lemma Opens.reachable₁ (h : y₀.Opens isn y₁) : Reachable y₁ := by
  obtain ⟨hreach, ⟨cx, ipRepr, repr, -, -, hstep⟩, -⟩ := h
  exact hreach.trans (.tail _ .refl trivial hstep)

lemma Opens.base {ok : Sys → Op → Prop} (h : y₀.Opens isn y₁) (hrun : Run ok y₁ y) :
    y.socket.Base :=
  (h.reachable₁.trans (hrun.mono fun _ _ _ => trivial)).base

lemma receiving_of_data (hopen : y₀.Opens isn y₁) (hrun : Run (Data isn S) y₁ y) :
    y.socket.Receiving isn S y.conn.delivered ∧ y.socket.rxFinReceived = false := by
  refine hrun.invariant_of
    (I := fun y => y.socket.Receiving isn S y.conn.delivered ∧ y.socket.rxFinReceived = false)
    (fun _ h => hopen.base h) ?_ hopen.receiving
  rintro y op y' hbase ⟨h, hfin⟩ hok hstep
  have hfits : ∀ repr, repr.control ≠ .fin ∧ FromPeer isn S y.received repr →
      FromPeer isn S y.received repr ∧ FinFits y.socket repr :=
    fun repr hr => ⟨hr.2, fun hc => absurd hc hr.1⟩
  rcases receiving_step hbase h hfits hok (.of_step hstep) with ⟨h', hf⟩ | ⟨hf, -⟩
  · refine ⟨h', Bool.eq_false_of_not_eq_true fun hf' => ?_⟩
    rcases hf hf' with hf | ⟨cx, ipRepr, repr, rfl, hctl⟩
    · rw [hfin] at hf
      cases hf
    · exact hok.2.1 hctl
  · rw [hfin] at hf
    cases hf

/-! ### Sample connections -/

/-- `InConnection` as a test. -/
def inConnection (segment : Sys → TcpRepr → Bool) (y : Sys) : Op → Bool
  | .listen _ => false
  | .connect _ _ _ => false
  | .recv _ => false
  | .process _ _ repr => repr.control ≠ .rst && segment y repr
  | _ => true

lemma inConnection_sound {check : Sys → TcpRepr → Bool}
    (hseg : ∀ y repr, check y repr = true → segment y repr) (y : Sys) (op : Op)
    (h : y.inConnection check op = true) : y.InConnection segment op := by
  cases op with
  | process cx ipRepr repr =>
    simp only [inConnection, Bool.and_eq_true, decide_eq_true_eq] at h
    exact ⟨h.1, hseg y repr h.2⟩
  | listen | connect | recv => cases h
  | _ => trivial

/-- The sample peer opens a connection to a socket with buffers of `n` octets, runs it by the given
operations and ends with a given property. -/
lemma exists_connection (n : ℕ) (isn : SeqNumber) (ops : List Op) (P : Sys → Bool)
    (check : Sys → TcpRepr → Bool) (hseg : ∀ y repr, check y repr = true → segment y repr)
    (h : ((start Sample.config (Sample.buffer n) (Sample.buffer n)).bind
        (exec (fun _ _ => true) · [.listen ⟨none, 80⟩])).any (fun y₀ =>
      (y₀.step (Sample.process 0 (Sample.segment .syn isn none 256 []))).toOption.any fun y₁ =>
        decide (y₁.socket.state ≠ y₀.socket.state) &&
          (y₁.exec (inConnection check) ops).any P) = true) :
    ∃ y₀ y₁ y : Sys, y₀.Opens isn y₁ ∧ Run (InConnection segment) y₁ y ∧ P y = true := by
  obtain ⟨y₀, hreach, h⟩ := exists_reachable (fun _ _ => True) (fun _ _ _ => trivial) h
  obtain ⟨y₁, hstep, h⟩ := (Option.any_eq_true _ _).mp h
  rw [Bool.and_eq_true, decide_eq_true_eq] at h
  obtain ⟨y, hexec, hP⟩ := (Option.any_eq_true _ _).mp h.2
  exact ⟨y₀, y₁, y, ⟨hreach, ⟨_, _, _, rfl, rfl, step_of_toOption hstep⟩, h.1⟩,
    run_of_exec (inConnection_sound hseg) hexec, hP⟩

/-! ### Integrity of the stream -/

lemma gone_step (h : y.socket.Gone) (hok : y.InConnection segment op) (hs : StepRule y op y') :
    y'.socket.Gone := by
  obtain ⟨hstate, htuple, hlen, hfin⟩ := h
  cases hs with
  | same => exact ⟨hstate, htuple, hlen, hfin⟩
  | listen => exact hok.elim
  | connect => exact hok.elim
  | close =>
    obtain ⟨st, heq, hst⟩ := y.socket.close_eq
    rw [heq]
    refine ⟨?_, htuple, hlen, hfin⟩
    simp [hstate] at hst
    exact hst
  | abort => exact ⟨rfl, htuple, hlen, hfin⟩
  | set x s' hs =>
    obtain ⟨_, _, _, _, _, _, cc, _, timer, -, -, rfl⟩ := Socket.set_eq_ok hs
    exact ⟨hstate, htuple, hlen, hfin⟩
  | send op s' data hs =>
    obtain ⟨-, tx, ts, -, -, -, rfl⟩ := hs
    exact ⟨hstate, htuple, hlen, hfin⟩
  | recv op s' n hs =>
    obtain ⟨hmay, rx, -, -, rfl⟩ := hs
    simp [Socket.mayRecv, RingBuffer.isEmpty, hstate, hlen] at hmay
  | process cx ipRepr repr s' hs =>
    cases hs with
    | quiet hq =>
      obtain ⟨_, _, _, _, _, s₁, -, -, -, rfl, rfl | rfl⟩ := hq <;>
        exact ⟨hstate, htuple, hlen, hfin⟩
    | reset st hctl => exact absurd hctl hok.1
    | accepted ha => exact absurd hstate ha.accepts.1
  | dispatch cx emit s' e hs =>
    cases hs with
    | noTuple => exact ⟨hstate, htuple, hlen, hfin⟩
    | idle hne => exact absurd htuple hne
    | reset hne => exact absurd htuple hne
    | failed hne => exact absurd htuple hne
    | sent hne => exact absurd htuple hne

lemma gone_transmits (h : y.socket.Gone) : y.transmits op = none := by
  unfold transmits
  split
  · have hno : ∀ ipRepr repr, ¬ y.socket.accepts ipRepr repr := fun _ _ ha => ha.1 h.state
    simp [Socket.process, Checked.assert, hno]
  · simp [Socket.dispatch, h.tuple]
  · rfl

/-- A call of `dispatch` that sends something does not reset the socket. -/
lemma fin_of_dispatch_transmits {cx : Context} {emit : IpRepr → TcpRepr → Bool} {r : TcpRepr}
    (hstep : Step y (.dispatch cx emit) y') (ht : y.transmits (.dispatch cx emit) = some r) :
    y'.socket.rxFinReceived = y.socket.rxFinReceived := by
  obtain ⟨⟨s, e⟩, hs, hstep⟩ := Checked.bind_eq_ok.mp hstep
  cases hstep
  simp only [transmits, hs] at ht
  cases Socket.DispatchRule.of_dispatch hs with
  | noTuple => rfl
  | idle htuple htimed => exact htimed.fin_eq
  | reset => cases ht
  | failed htuple htimed => exact htimed.fin_eq
  | sent htuple htimed hsend hemits hsends =>
    exact hsends.rx_eq.2.2.2.1.trans htimed.fin_eq

lemma receiving_of_stream (hopen : y₀.Opens isn y₁) (hrun : Run (Stream isn S) y₁ y) :
    y.socket.Receiving isn S y.conn.delivered ∨ y.socket.Gone := by
  refine hrun.invariant_of
    (I := fun y => y.socket.Receiving isn S y.conn.delivered ∨ y.socket.Gone)
    (fun _ h => hopen.base h) ?_ (.inl hopen.receiving.1)
  rintro y op y' hbase (h | h) hok hstep
  · rcases receiving_step hbase h (fun _ => id) hok (.of_step hstep) with ⟨h', -⟩ | ⟨-, h', -⟩
    · exact .inl h'
    · exact .inr h'
  · exact .inr (gone_step h hok (.of_step hstep))

/-- What the application is told to be the whole stream is the whole stream. -/
lemma delivered_of_finished (h : y.socket.Receiving isn S y.conn.delivered ∨ y.socket.Gone)
    (hfin : y.socket.recvErrorCheck = .error .finished) : y.conn.delivered = S := by
  unfold Socket.recvErrorCheck at hfin
  split_ifs at hfin with hmay hf
  · rcases h with h | h
    · have hempty : y.socket.rxBuffer.isEmpty := by
        by_contra hne
        exact hmay (.inr (.inr (.inr hne)))
      have hall := h.stored_eq hf
      rwa [(RingBuffer.isEmpty_iff _).mp hempty, List.append_nil] at hall
    · rw [h.fin] at hf
      cases hf
  · cases hfin

end Sys

end Smoltcp.Tcp
