import Smoltcp.Socket.Tcp.Receive
import Smoltcp.Socket.Tcp.Send
import Smoltcp.Socket.Tcp.Window

/-!
# What a socket tells

A segment that is on its way outlives the state it was sent in. What can be said of it for as long
as the connection lasts: it carries octets of the enqueued stream at their place, a SYN has the
initial number, and a FIN ends the stream for good.
-/

namespace Smoltcp.Tcp

open Serial

/-! ### Keep-alives -/

namespace Timer

/-- A timer that is idle waits for no keep-alive. -/
def Plain (t : Timer) : Prop := t.isIdle → t = .idle none

namespace Plain

variable {t t' : Timer} {now : Instant}

lemma of_not_idle (h : ¬ t.isIdle) : t.Plain := fun hidle => absurd hidle h

lemma setForIdle : (Timer.setForIdle now none).Plain := fun _ => rfl

lemma setForClose : (Timer.setForClose now).Plain := of_not_idle id

lemma setForZeroWindowProbe {delay : Duration} : (Timer.setForZeroWindowProbe now delay).Plain :=
  of_not_idle id

lemma fastRetransmit : Timer.fastRetransmit.Plain := of_not_idle id

lemma ite {p : Prop} [Decidable p] (h : t.Plain) (h' : t'.Plain) : (if p then t else t').Plain := by
  split_ifs
  · exact h
  · exact h'

lemma setForRetransmit {delay : Duration} : (t.setForRetransmit now delay).Plain := by
  apply of_not_idle
  cases t <;> exact id

lemma finishTimer {rto : Duration} {ack : Socket.AckInfo} {winLen txLen : ℕ}
    (h : t.Plain) :
    (Socket.finishTimer now none rto ack winLen txLen t).Plain := by
  unfold Socket.finishTimer
  apply ite
  · exact setForIdle
  · apply ite
    · exact setForZeroWindowProbe
    · cases t with
      | idle at? => exact setForIdle
      | retransmit e => exact ite setForIdle (ite setForRetransmit h)
      | fastRetransmit => exact ite setForIdle (ite setForRetransmit h)
      | zeroWindowProbe e d => exact h
      | close e => exact h

lemma rewindKeepAlive (h : t.Plain) : (t.rewindKeepAlive now none).Plain := by
  cases t with
  | idle at? => exact fun _ => rfl
  | _ => exact h

lemma rewindZeroWindowProbe (h : t.Plain) : (t.rewindZeroWindowProbe now).Plain := by
  cases t with
  | zeroWindowProbe e d => exact of_not_idle id
  | _ => exact h

lemma not_shouldKeepAlive (h : t.Plain) (now : Instant) : ¬ t.shouldKeepAlive now := by
  intro hkeep
  cases t with
  | idle at? =>
    rw [h trivial] at hkeep
    exact hkeep
  | _ => exact hkeep

end Plain

end Timer

namespace Socket

variable {s s' s₁ : Socket} {cx : Context} {ipRepr : IpRepr} {repr : TcpRepr}

/-- Keep-alives are switched off, and none is due. -/
structure NoKeepAlive (s : Socket) : Prop where
  interval : s.keepAlive = none
  plain : s.timer.Plain

namespace NoKeepAlive

lemma quiet (h : s.NoKeepAlive) (hq : Quiet s s') : s'.NoKeepAlive := by
  obtain ⟨timer, _, _, _, _, s₁, htimer, -, -, rfl, hs'⟩ := hq
  have ht : timer.Plain := by
    rcases htimer with rfl | ⟨-, now, rfl⟩
    · exact h.plain
    · exact .setForClose
  rcases hs' with rfl | rfl <;> exact ⟨h.interval, ht⟩

lemma transits {control : TcpControl} {aof : Bool} (h : s.NoKeepAlive)
    (ht : Transits s cx ipRepr repr control aof s') : s'.NoKeepAlive := by
  cases ht with
  | synListen =>
    refine ⟨h.interval, ?_⟩
    simp only [Socket.synListen, h.interval]
    exact .setForIdle
  | synSent => exact ⟨h.interval, h.plain⟩
  | moved st hst => exact ⟨h.interval, .ite .setForClose h.plain⟩

lemma acked {ack : AckInfo} (h : s.NoKeepAlive) (ha : Acked s cx repr ack s') :
    s'.NoKeepAlive := by
  obtain ⟨tx, cc₁, cc, dup, last, fast, tsval, -, -, -, -, -, -⟩ := ha
  refine ⟨h.interval, ?_⟩
  simp only [h.interval]
  exact .finishTimer (.ite .fastRetransmit h.plain)

lemma received {payload : List UInt8} {offset : ℕ} (h : s.NoKeepAlive)
    (hr : Received s payload offset s') : s'.NoKeepAlive := by
  cases hr <;> exact ⟨h.interval, h.plain⟩

lemma process (h : s.NoKeepAlive) (hp : ProcessRule s cx ipRepr repr s') : s'.NoKeepAlive := by
  cases hp with
  | quiet hq => exact h.quiet hq
  | reset st hctl hlisten hq => exact ⟨(h.quiet hq).interval, (h.quiet hq).plain⟩
  | accepted ha =>
    exact (((h.quiet ha.noted.quiet).transits ha.transits).acked ha.acked).received ha.received

lemma timed (h : s.NoKeepAlive) (ht : Timed s cx s') : s'.NoKeepAlive := by
  cases ht with
  | timeout => exact ⟨h.interval, h.plain⟩
  | rewind =>
    refine ⟨h.interval, ?_⟩
    simp only [Socket.rewind, Socket.touch, h.interval]
    exact .setForIdle
  | same => exact ⟨h.interval, h.plain⟩

lemma noteEmit (h : s.NoKeepAlive) : (s.noteEmit cx).NoKeepAlive := by
  refine ⟨h.interval, ?_⟩
  simp only [Socket.noteEmit, h.interval]
  exact h.plain.rewindKeepAlive

lemma sends {e : Emission} (h : s.NoKeepAlive) (hs : Sends s cx e s') : s'.NoKeepAlive := by
  have h₁ : (s.noteEmit cx).NoKeepAlive := h.noteEmit
  cases hs with
  | probe => exact ⟨h₁.interval, h₁.plain.rewindZeroWindowProbe⟩
  | keepAlive => exact h₁
  | segment => exact ⟨h₁.interval, .ite .setForRetransmit h₁.plain⟩

lemma reset (h : s.NoKeepAlive) : s.reset.NoKeepAlive := ⟨h.interval, fun _ => rfl⟩

lemma dispatch {e : Option Emission} (h : s.NoKeepAlive) (hd : DispatchRule s cx s' e) :
    s'.NoKeepAlive := by
  cases hd with
  | noTuple => exact h
  | idle _ htimed => exact h.timed htimed
  | reset _ htimed => exact (h.timed htimed).reset
  | failed _ htimed => exact h.timed htimed
  | sent _ htimed _ _ hsends => exact (h.timed htimed).sends hsends

/-- No keep-alive is handed to `emit`. -/
lemma emits {e : Emission} (h : s.NoKeepAlive) (he : Emits s cx e) : e.isKeepAlive = false := by
  cases he with
  | segment _ _ hkeep => exact hkeep
  | keepAlive _ _ _ halive => exact absurd halive (h.plain.not_shouldKeepAlive cx.now)

/-- Keep-alives stay off until the application switches them on. -/
lemma step {y y' : Sys} {op : Op} (h : y.socket.NoKeepAlive)
    (hok : ∀ interval, op ≠ .set (.keepAlive (some interval))) (hs : StepRule y op y') :
    y'.socket.NoKeepAlive := by
  cases hs with
  | same => exact h
  | listen => exact ⟨h.reset.interval, h.reset.plain⟩
  | connect => exact ⟨h.reset.interval, h.reset.plain⟩
  | close =>
    obtain ⟨st, heq, -⟩ := y.socket.close_eq
    simp only [heq]
    exact ⟨h.interval, h.plain⟩
  | abort => exact ⟨h.interval, h.plain⟩
  | set x s' hset =>
    cases x with
    | keepAlive interval =>
      cases interval with
      | none =>
        cases hset
        exact ⟨rfl, h.plain⟩
      | some d => exact absurd rfl (hok d)
    | hopLimit limit =>
      simp only [Socket.set, Socket.setHopLimit] at hset
      split_ifs at hset
      cases hset
      exact ⟨h.interval, h.plain⟩
    | _ =>
      cases hset
      exact ⟨h.interval, h.plain⟩
  | send op s' data hs =>
    obtain ⟨-, tx, ts, -, -, -, rfl⟩ := hs
    exact ⟨h.interval, .ite .setForZeroWindowProbe h.plain⟩
  | recv op s' n hs =>
    obtain ⟨-, rx, -, -, rfl⟩ := hs
    exact ⟨h.interval, h.plain⟩
  | process cx ipRepr repr s' hs => exact h.process hs
  | dispatch cx emit s' e hs => exact h.dispatch hs

end NoKeepAlive

end Socket

/-! ### The closed half -/

namespace State

/-- The application has closed its half, or the connection is gone. -/
def HalfClosed (st : State) : Prop :=
  st = .finWait1 ∨ st = .finWait2 ∨ st = .closing ∨ st = .lastAck ∨ st = .timeWait ∨ st = .closed

namespace HalfClosed

lemma not_maySend {s : Socket} (h : s.state.HalfClosed) : ¬ s.maySend := by
  rcases h with h | h | h | h | h | h <;> simp [Socket.maySend, h]

lemma move {aof : Bool} {control : TcpControl} {st st' : State} (h : st.HalfClosed)
    (hs : Socket.StateStep aof st control st') : st'.HalfClosed := by
  cases hs <;> simp_all [HalfClosed]

lemma not_opening {st : State} (h : st.HalfClosed) : ¬ st.Opening := by
  rcases h with rfl | rfl | rfl | rfl | rfl | rfl <;> simp [Opening]

end HalfClosed

end State

/-- A half that is closed stays closed, for as long as no new connection is opened. -/
lemma State.HalfClosed.step {y y' : Sys} {op : Op} (h : y.socket.state.HalfClosed)
    (hlisten : ∀ endpoint, op ≠ .listen endpoint)
    (hconnect : ∀ cx remote endpoint, op ≠ .connect cx remote endpoint) (hs : StepRule y op y') :
    y'.socket.state.HalfClosed := by
  cases hs with
  | same => exact h
  | listen endpoint => exact absurd rfl (hlisten endpoint)
  | connect cx remote endpoint => exact absurd rfl (hconnect cx remote endpoint)
  | close =>
    obtain ⟨st, heq, hst⟩ := y.socket.close_eq
    simp only [heq, Socket.setState]
    rcases hst with ⟨-, rfl⟩ | ⟨-, rfl⟩ | ⟨-, rfl⟩ | ⟨-, rfl⟩
    · simp [HalfClosed]
    · simp [HalfClosed]
    · simp [HalfClosed]
    · exact h
  | abort => simp [HalfClosed, Socket.abort, Socket.setState]
  | set x s' hs =>
    obtain ⟨_, _, _, _, _, _, cc, _, timer, -, -, rfl⟩ := Socket.set_eq_ok hs
    exact h
  | send op s' data hs => exact absurd hs.maySend h.not_maySend
  | recv op s' n hs =>
    obtain ⟨-, rx, -, -, rfl⟩ := hs
    exact h
  | process cx ipRepr repr s' hs =>
    cases hs with
    | quiet hq =>
      simp only
      rw [hq.state_eq]
      exact h
    | reset st hctl hlisten hq hst =>
      rcases hst with ⟨-, hsr, -⟩ | rfl
      · exact absurd (.inr (.inr hsr)) h.not_opening
      · simp [HalfClosed]
    | accepted ha =>
      simp only
      rw [ha.received.state_eq.1, ha.rx_eq.2.2]
      rw [← ha.state_eq] at h
      cases ha.transits with
      | synListen hctl hst => exact absurd (.inl hst) h.not_opening
      | synSent hctl hst => exact absurd (.inr (.inl hst)) h.not_opening
      | moved st hst => exact h.move hst
  | dispatch cx emit s' e hs =>
    rcases hs.state_eq with hst | hst
    · simp only
      rw [hst]
      exact h
    · simp [HalfClosed, hst]

/-- No SYN of the remote was taken yet, or the connection is gone. -/
def State.Unopened (st : State) : Prop := st = .closed ∨ st = .listen ∨ st = .synSent

lemma Socket.StateStep.not_unopened {aof : Bool} {control : TcpControl} {st st' : State}
    (h : StateStep aof st control st') : ¬ st.Unopened := by
  obtain ⟨hclosed, hlisten, -, hsynSent, -⟩ := h.ne
  rintro (hst | hst | hst)
  · exact hclosed hst
  · exact hlisten hst
  · exact hsynSent hst

/-! ### What is sent -/

/-- A segment on the wire. Beside it stands its position in the sequence space of its sender, and
how much of the other one the sender had received, both counted without wrapping. -/
structure Carried where
  pos : ℤ
  received : ℕ
  repr : TcpRepr

/-- A segment that is sent in a state. -/
def Sys.carried (y : Sys) (r : TcpRepr) : Carried :=
  ⟨y.conn.acked + dist r.seqNumber y.socket.localSeqNo, y.received, r⟩

/-- What a segment tells of the stream that its sender enqueued. -/
inductive Carried.Tells (conn : Conn) (c : Carried) : Prop where
  | rst (hctl : c.repr.control = .rst)
  | empty (hctl : c.repr.control ≠ .syn ∧ c.repr.control ≠ .fin) (hpay : c.repr.payload = [])
  | syn (hctl : c.repr.control = .syn) (hpay : c.repr.payload = []) (hpos : c.pos = 0)
      (hseq : c.repr.seqNumber = conn.iss)
  | data (o : ℕ) (hctl : c.repr.control ≠ .syn) (hpos : c.pos = 1 + o)
      (hseq : c.repr.seqNumber = shift conn.iss (1 + o))
      (hpay : c.repr.payload <+: conn.enqueued.drop o)
      (hfin : c.repr.control = .fin → o + c.repr.payload.length = conn.enqueued.length)

namespace Carried.Tells

variable {conn conn' : Conn} {c : Carried}

/-- What is said stays true of a stream that grows at its end, where it does not say that the stream
has ended. -/
lemma grow {data : List UInt8} (h : c.Tells conn) (hiss : conn'.iss = conn.iss)
    (henq : conn'.enqueued = conn.enqueued ++ data)
    (hdata : data = [] ∨ c.repr.control ≠ .fin) : c.Tells conn' := by
  cases h with
  | rst hctl => exact .rst hctl
  | empty hctl hpay => exact .empty hctl hpay
  | syn hctl hpay hpos hseq => exact .syn hctl hpay hpos (hseq.trans hiss.symm)
  | data o hctl hpos hseq hpay hfin =>
    refine .data o hctl hpos (by rw [hseq, hiss]) ?_ ?_
    · rw [henq, List.drop_append]
      exact hpay.trans (List.prefix_append _ _)
    · intro hc
      rcases hdata with rfl | hne
      · rw [henq, List.append_nil]
        exact hfin hc
      · exact absurd hc hne

/-- What the receiver makes of a segment that is not half of the sequence space away. -/
lemma fromPeer {received : ℕ} (h : c.Tells conn) (hctl : c.repr.control ≠ .rst)
    (hlo : -2 ^ 31 ≤ c.pos - (1 + received)) (hhi : c.pos - (1 + received) < 2 ^ 31) :
    FromPeer conn.iss conn.enqueued received c.repr := by
  cases h with
  | rst hrst => exact absurd hrst hctl
  | empty hctl hpay => exact .empty hpay hctl.2
  | syn hctl hpay => exact .empty hpay (by rw [hctl]; decide)
  | data o _ hpos hseq hpay hfin =>
    rw [hpos] at hlo hhi
    exact .data o hseq hpay hfin (by linarith) (by linarith)

lemma seqNumber_of_syn (h : c.Tells conn) (hctl : c.repr.control = .syn) :
    c.repr.seqNumber = conn.iss := by
  cases h with
  | rst hrst => simp [hctl] at hrst
  | empty hne => exact absurd hctl hne.1
  | syn _ _ _ hseq => exact hseq
  | data o hne => exact absurd hctl hne

end Carried.Tells

namespace Socket

variable {s s' : Socket} {cx : Context} {ipRepr : IpRepr} {repr : TcpRepr} {c : Conn}

/-- The segment that a state calls for speaks of the stream. -/
lemma Builds.tells {r : TcpRepr} {zwp : Bool} {n : ℕ} (h : Builds s cx r zwp) (hs : Sending s c)
    (hopened : 1 ≤ c.acked ∨ s.state.Opening ∨ s.state = .closed) :
    Carried.Tells c ⟨c.acked + dist r.seqNumber s.localSeqNo, n, r⟩ := by
  cases h with
  | rst hstate hctl => exact .rst hctl
  | syn hstate hctl hseq hpay =>
    have hzero := hs.opening (.inr hstate)
    refine .syn hctl hpay ?_ ?_
    · rw [hseq, dist_self, hzero]
      rfl
    · simp only
      rw [hseq, hs.localSeqNo, hzero]
      simp
  | data offset room mss zwp hstate hmss hwinLen hroom hzwp hoff hseq hpay hctl =>
    have hacked : 1 ≤ c.acked := by
      rcases hopened with ho | ho | ho
      · exact ho
      · rcases hstate with h | h | h | h | h <;> rw [h] at ho <;> simp [State.Opening] at ho
      · rcases hstate with h | h | h | h | h <;> rw [h] at ho <;> cases ho
    have hle : c.acked ≤ c.enqueued.length + 1 := by
      rcases hstate with h | h | h | h | h <;>
        exact hs.acked_le (by simp [h]) (by simp [h]) (by simp [h])
    have hpos : (c.acked : ℤ) + dist r.seqNumber s.localSeqNo =
      1 + ((c.acked - 1 + offset : ℕ) : ℤ) := by
      rw [hseq, hoff]
      push_cast [hacked]
      ring
    refine .data (c.acked - 1 + offset) ?_ hpos ?_ ?_ ?_
    · simp only
      rw [hctl]
      exact s.dataControl_ne_syn offset r.payload
    · simp only
      rw [← hpos, ← shift_shift, ← hs.localSeqNo, shift_dist]
    · simp only
      rw [← List.drop_drop, ← hs.txBuffer, hpay, RingBuffer.getAllocated_eq]
      exact List.take_prefix _ _
    · intro hfin
      have hend := (s.dataControl_len offset r.payload).2 (by rw [← hctl, hfin]; decide)
      have hlen := hs.len_eq
      simp only
      omega
  | ack hstate hctl hseq hpay =>
    refine .empty ?_ hpay
    simp [hctl]

/-- A segment adds to the receive buffer, whose size stays, and a FIN that was received stays so. -/
lemma ProcessRule.rx_le (h : ProcessRule s cx ipRepr repr s') (hl : s.state ≠ .listen) :
    s.rxBuffer.len ≤ s'.rxBuffer.len ∧ s.rxFinReceived.toNat ≤ s'.rxFinReceived.toNat ∧
      s'.rxBuffer.capacity = s.rxBuffer.capacity := by
  cases h with
  | quiet hq =>
    obtain ⟨_, _, _, _, _, s₁, -, -, -, rfl, rfl | rfl⟩ := hq <;> exact ⟨le_rfl, le_rfl, rfl⟩
  | reset st hctl hlisten hq =>
    obtain ⟨_, _, _, _, _, s₁, -, -, -, rfl, rfl | rfl⟩ := hq <;> exact ⟨le_rfl, le_rfl, rfl⟩
  | @accepted w ack payload offset s₁ s₂ s₃ _ ha =>
    have hrx : s₃.rxBuffer.len ≤ s'.rxBuffer.len ∧
        s'.rxBuffer.capacity = s₃.rxBuffer.capacity := by
      cases ha.received with
      | dropped => exact ⟨le_rfl, rfl⟩
      | stored asm rx n t hne hs =>
        refine ⟨?_, hs.capacity⟩
        simp only [hs.len]
        exact Nat.le_add_right _ _
      | acked asm rx n t hne hs =>
        refine ⟨?_, hs.capacity⟩
        simp only [acknowledged, hs.len]
        exact Nat.le_add_right _ _
    rw [ha.rx_eq.1] at hrx
    refine ⟨hrx.1, ?_, hrx.2⟩
    rw [ha.received.state_eq.2.2]
    obtain ⟨_, _, _, -, -, rfl⟩ := ha.noted
    cases ha.acked
    cases ha.transits with
    | synListen hctl hst => exact absurd hst hl
    | synSent => exact le_rfl
    | moved st hst =>
      simp only [moved]
      cases s.rxFinReceived
      · exact Nat.zero_le _
      · exact le_rfl

/-- Only a SYN opens a connection. -/
lemma Accepted.syn_or_opened {w : Span} {ack : AckInfo} {payload : List UInt8} {offset : ℕ}
    {s₁ s₂ s₃ : Socket} (h : Accepted s cx ipRepr repr w ack payload offset s₁ s₂ s₃ s') :
    repr.control = .syn ∨ ¬ s.state.Unopened := by
  rw [← h.state_eq]
  cases h.transits with
  | synListen hctl => exact .inl (control_of_effectiveControl hctl)
  | synSent hctl => exact .inl (control_of_effectiveControl hctl)
  | moved st hst => exact .inr hst.not_unopened

lemma DispatchRule.remoteWinLen_le {e : Option Emission} (h : DispatchRule s cx s' e) :
    s'.remoteWinLen ≤ s.remoteWinLen := by
  cases h with
  | noTuple => exact le_rfl
  | idle _ htimed => exact htimed.remoteWinLen_eq.le
  | reset => exact Nat.zero_le _
  | failed _ htimed => exact htimed.remoteWinLen_eq.le
  | sent _ htimed _ _ hsends => exact (hsends.remoteWinLen_eq.trans htimed.remoteWinLen_eq).le

lemma DispatchRule.localSeqNo_eq {e : Emission} (h : DispatchRule s cx s' (some e)) :
    s'.localSeqNo = s.localSeqNo := by
  cases h with
  | failed _ htimed => exact htimed.send_eq.1
  | sent _ htimed _ _ hsends => exact hsends.send_eq.2.2.1.trans htimed.send_eq.1

/-! ### Replies -/

lemma control_of_rstReply {p : Packet} (h : rstReply ipRepr repr = .ok p) :
    p.2.control = .rst := by
  unfold rstReply at h
  obtain ⟨_, -, h⟩ := Checked.bind_eq_ok.mp h
  obtain ⟨_, -, h⟩ := Checked.bind_eq_ok.mp h
  obtain ⟨_, -, h⟩ := Checked.bind_eq_ok.mp h
  cases h
  rfl

lemma control_of_checkAckSynSent {p : Packet}
    (h : s.checkAckSynSent ipRepr repr = .ok (.ret s' (some p))) : p.2.control = .rst := by
  unfold checkAckSynSent at h
  split at h
  · cases hack : repr.ackNumber with
    | none =>
      rw [hack] at h
      cases h
    | some a =>
      rw [hack] at h
      simp only [Option.elim_some, checkAckOfSyn] at h
      split_ifs at h
      · obtain ⟨q, hq, h⟩ := Checked.bind_eq_ok.mp h
        cases h
        exact control_of_rstReply hq
      · cases h
  · split_ifs at h
    · cases h
    · obtain ⟨q, hq, h⟩ := Checked.bind_eq_ok.mp h
      cases h
      exact control_of_rstReply hq
  · cases h

lemma control_of_checkAck {p : Packet} (h : s.checkAck cx ipRepr repr = .ok (.ret s' (some p)))
    (hst : s.state = .listen ∨ s.state = .synSent) : p.2.control = .rst := by
  unfold checkAck at h
  split_ifs at h
  · cases h
  · cases h
  · unfold checkAckNumber at h
    rcases hst with hst | hst <;> simp only [hst] at h
    · split_ifs at h
      cases h
    · exact control_of_checkAckSynSent h

lemma Transits.not_listen {control : TcpControl} {aof : Bool}
    (h : Transits s cx ipRepr repr control aof s') : s'.state ≠ .listen := by
  cases h with
  | synListen => exact State.noConfusion
  | synSent =>
    simp only [synSynSent]
    split_ifs <;> decide
  | moved st hst => exact fun hl => hst.not_opening (.inl hl)

/-- Where there is no connection to speak of, before the segment or after it, a reply is an RST. -/
theorem control_of_reply {p : Packet} (h : s.process cx ipRepr repr = .ok (s', some p))
    (hst : s.state = .listen ∨ s.state = .synSent ∨ s'.state = .listen) : p.2.control = .rst := by
  have hquiet : Quiet s s' → s.state = .listen ∨ s.state = .synSent := by
    intro hq
    rw [hq.state_eq, ← or_assoc] at hst
    exact hst.elim id .inl
  cases Stages.of_process h with
  | checked hcheck => exact control_of_checkAck hcheck (hquiet (checkAck_ret hcheck))
  | trimmed w hw htrim =>
    have hst' := hquiet (trimPayload_ret htrim)
    unfold trimPayload at htrim
    rcases hst' with hst' | hst' <;> simp only [hst'] at htrim <;> cases htrim
  | stopped hreaches htr => exact absurd (transition_ret_reply htr) (by simp)
  | finished s₂ hreaches htr hfin =>
    have hmove := transition_next htr
    rcases hreaches.trimmed with ⟨-, rfl, rfl⟩ | ⟨hl, hss, hcut⟩
    · -- a segment without a payload is not acknowledged at once
      obtain ⟨s₃, -, hrest⟩ := Checked.bind_eq_ok.mp hfin
      cases hrest
    · obtain ⟨_, _, _, -, -, heq⟩ := hreaches.noted
      rw [heq] at hmove
      obtain ⟨s₃, hs₃, hrecv⟩ := finishProcess_eq_ok (by
        rw [hmove.rxBuffer_eq]
        exact hcut.offset_add_length_le) hfin
      have hst₃ : s₃.state = s₂.state := by
        cases hs₃
        rfl
      rw [hrecv.state_eq.1, hst₃] at hst
      rcases hst with hst | hst | hst
      · exact absurd hst hl
      · exact absurd hst hss
      · exact absurd hst hmove.not_listen

/-- Whatever a call of `dispatch` sends speaks of the stream, and a FIN is sent from a closed half.
-/
lemma DispatchRule.tells {e : Emission} {n : ℕ} (h : DispatchRule s cx s' (some e))
    (hsent : e.sent = true) (hs : Sending s c) (hkeep : s.NoKeepAlive)
    (hopened : 1 ≤ c.acked ∨ s.state.Opening ∨ s.state = .closed) :
    Carried.Tells c ⟨c.acked + dist e.repr.seqNumber s.localSeqNo, n, e.repr⟩ ∧
      (e.repr.control = .fin → s'.state.HalfClosed) := by
  cases h with
  | failed _ _ _ hemits =>
    cases hemits with
    | segment _ _ _ _ hfalse => simp [hfalse] at hsent
    | keepAlive _ _ _ _ _ hfalse => simp [hfalse] at hsent
  | @sent s₁ _ e htuple htimed hsend hemits hsends =>
    have hnone := (hkeep.timed htimed).emits hemits
    cases hemits with
    | keepAlive _ _ htrue => simp [htrue] at hnone
    | segment r hbuilds _ _ _ hrepr =>
      obtain ⟨mss, hr⟩ := hrepr
      obtain ⟨hloc, htx, -⟩ := htimed.send_eq
      have hs₁ := hs.congr hloc htx htimed.state_eq ⟨rfl, rfl, rfl⟩
      have hopened₁ : 1 ≤ c.acked ∨ s₁.state.Opening ∨ s₁.state = .closed := by
        rcases htimed.state_eq with hst | hst
        · rwa [hst]
        · exact .inr (.inr hst)
      have htells := hbuilds.tells (n := n) hs₁ hopened₁
      rw [hloc] at htells
      refine ⟨?_, ?_⟩
      · simp only
        rw [hr]
        cases htells with
        | rst hctl => exact .rst hctl
        | empty hctl hpay => exact .empty hctl hpay
        | syn hctl hpay hpos hseq => exact .syn hctl hpay hpos hseq
        | data o hctl hpos hseq hpay hfin => exact .data o hctl hpos hseq hpay hfin
      · intro hfin
        rw [hsends.state_eq]
        have hctl : r.control = .fin := by
          simp only [hr] at hfin
          exact hfin
        have hst := hbuilds.sentFin_of_fin hctl
        simp only [sentFin, decide_eq_true_eq] at hst
        rcases hst with hst | hst | hst <;> simp [State.HalfClosed, hst]

end Socket

namespace Sys

variable {y y' : Sys} {op : Op}

/-- Whatever a step puts on the wire speaks of the stream, and a FIN is sent from a closed half. -/
theorem tells_of_transmits {r : TcpRepr} (h : ReachableBy NoEarlyClose y)
    (hkeep : y.socket.NoKeepAlive) (hstep : Step y op y') (ht : y.transmits op = some r) :
    (y'.carried r).Tells y'.conn ∧ (r.control = .fin → y'.socket.state.HalfClosed) := by
  cases Transmitted.of_step hstep ht with
  | reply hs =>
    obtain ⟨-, hpay, hlen⟩ := Socket.process_answers hs _ _ rfl
    have hctl : r.control ≠ .syn ∧ r.control ≠ .fin := by
      constructor <;> intro hctl <;> rw [hctl] at hlen <;> cases hlen
    exact ⟨.empty hctl hpay, fun hfin => absurd hfin hctl.2⟩
  | @sent cx emit s e hs hsent hr =>
    subst hr
    have hrule := Socket.DispatchRule.of_dispatch hs
    have htuple := hrule.tuple_ne_of_some
    obtain ⟨htells, hfin⟩ :=
      hrule.tells (n := (⟨s, y.conn.dispatch y.socket (some e)⟩ : Sys).received)
        hsent (h.sending htuple) hkeep (h.opened htuple)
    rw [← hrule.localSeqNo_eq] at htells
    simp only [carried, Conn.dispatch, hsent, if_true] at htells ⊢
    refine ⟨?_, hfin⟩
    cases htells with
    | rst hctl => exact .rst hctl
    | empty hctl hpay => exact .empty hctl hpay
    | syn hctl hpay hpos hseq => exact .syn hctl hpay hpos hseq
    | data o hctl hpos hseq hpay hfin => exact .data o hctl hpos hseq hpay hfin

/-! ### The record of a connection -/

lemma conn_process_delivered (c : Conn) {s s' : Socket} (hlisten : s.state ≠ .listen) :
    (c.process s s').delivered = c.delivered := by
  rw [Conn.process, if_neg fun hl => hlisten hl.1]

lemma conn_dispatch_delivered (c : Conn) (s : Socket) (e : Option Emission) :
    (c.dispatch s e).delivered = c.delivered := by
  unfold Conn.dispatch
  split
  · rfl
  · split_ifs <;> rfl

/-- The operations that may start a new connection. -/
def Restarts (y : Sys) : Op → Prop
  | .listen _ => True
  | .connect _ _ _ => True
  | .process _ _ _ => y.socket.state = .listen
  | _ => False

instance (y : Sys) : (op : Op) → Decidable (y.Restarts op)
  | .listen _ | .connect _ _ _ => .isTrue trivial
  | .process _ _ _ => inferInstanceAs (Decidable (_ = _))
  | .close | .abort | .set _ | .send _ | .sendSlice _ | .recv _ | .recvSlice _ | .peek _
  | .dispatch _ _ => .isFalse id

/-- A stream that is being enqueued grows at its end, as long as the half is open. -/
lemma enqueued_step (hs : StepRule y op y') (hstart : ¬ y.Restarts op) :
    y'.conn.iss = y.conn.iss ∧ ∃ data, y'.conn.enqueued = y.conn.enqueued ++ data ∧
      (data = [] ∨ y.socket.maySend) := by
  have hsame : y.conn.enqueued = y.conn.enqueued ++ [] := (List.append_nil _).symm
  cases hs with
  | listen => exact absurd trivial hstart
  | connect => exact absurd trivial hstart
  | send op s' data hs => exact ⟨rfl, data, rfl, .inr hs.maySend⟩
  | process cx ipRepr repr s' hs =>
    have hconn : (y.conn.process y.socket s').iss = y.conn.iss ∧
        (y.conn.process y.socket s').enqueued = y.conn.enqueued := by
      rw [Conn.process, if_neg fun hl => hstart hl.1]
      exact ⟨rfl, rfl⟩
    exact ⟨hconn.1, [], hconn.2.trans hsame, .inl rfl⟩
  | dispatch cx emit s' e hs =>
    obtain ⟨hiss, -, henq⟩ := conn_dispatch y.conn y.socket e
    exact ⟨hiss, [], henq.trans hsame, .inl rfl⟩
  | _ => exact ⟨rfl, [], hsame, .inl rfl⟩

/-- What is received is not taken back, unless the socket is reset. -/
lemma received_step (hs : StepRule y op y') (hstart : ¬ y.Restarts op) :
    y.received ≤ y'.received ∨ y'.socket.Gone := by
  rw [received_eq, received_eq]
  cases hs with
  | same => exact .inl le_rfl
  | listen => exact absurd trivial hstart
  | connect => exact absurd trivial hstart
  | close =>
    obtain ⟨st, heq, -⟩ := y.socket.close_eq
    rw [heq]
    exact .inl le_rfl
  | abort => exact .inl le_rfl
  | set x s' hs =>
    obtain ⟨_, _, _, _, _, _, cc, _, timer, -, -, rfl⟩ := Socket.set_eq_ok hs
    exact .inl le_rfl
  | send op s' data hs =>
    obtain ⟨-, tx, ts, -, -, -, rfl⟩ := hs
    exact .inl le_rfl
  | recv op s' n hs =>
    obtain ⟨-, rx, hshrinks, -, rfl⟩ := hs
    have hlen := hshrinks.len
    have hle := hshrinks.le
    left
    simp only [List.length_append, List.length_take, RingBuffer.length_toList]
    omega
  | process cx ipRepr repr s' hs =>
    left
    simp only [conn_process_delivered _ hstart]
    obtain ⟨hlen, hfin, -⟩ := hs.rx_le hstart
    omega
  | dispatch cx emit s' e hs =>
    simp only [conn_dispatch_delivered]
    cases hs with
    | noTuple => exact .inl le_rfl
    | idle _ htimed =>
      left
      rw [htimed.fin_eq, htimed.rx_eq.1]
    | reset => exact .inr ⟨rfl, rfl, rfl, rfl⟩
    | failed _ htimed =>
      left
      rw [htimed.fin_eq, htimed.rx_eq.1]
    | sent _ htimed _ _ hsends =>
      left
      rw [hsends.rx_eq.2.2.2.1, hsends.rx_eq.1, htimed.fin_eq, htimed.rx_eq.1]

/-- Only a segment that is no RST acknowledges something, by its acknowledgement number, and tells
of a window. A new connection starts with nothing acknowledged. -/
lemma acked_step {ok : Sys → Op → Prop} (hreach : ReachableBy ok y) (hs : StepRule y op y') :
    y'.conn.acked = y.conn.acked ∧ y'.socket.remoteWinLen ≤ y.socket.remoteWinLen ∨
      y'.conn.acked = 0 ∨
      ∃ cx ipRepr repr, ∃ n : ℕ, op = .process cx ipRepr repr ∧ repr.control ≠ .rst ∧ n < 2 ^ 31 ∧
        repr.ackNumber = some (shift y.conn.iss (y.conn.acked + n)) ∧
        y'.conn.acked = y.conn.acked + n ∧
        y'.socket.remoteWinLen = y.socket.newRemoteWinLen repr ∧
        (repr.control = .syn ∨ ¬ y.socket.state.Unopened) := by
  cases hs with
  | same => exact .inl ⟨rfl, le_rfl⟩
  | listen => exact .inr (.inl rfl)
  | connect => exact .inr (.inl rfl)
  | close =>
    obtain ⟨st, heq, -⟩ := y.socket.close_eq
    rw [heq]
    exact .inl ⟨rfl, le_rfl⟩
  | abort => exact .inl ⟨rfl, le_rfl⟩
  | set x s' hs =>
    obtain ⟨_, _, _, _, _, _, cc, _, timer, -, -, rfl⟩ := Socket.set_eq_ok hs
    exact .inl ⟨rfl, le_rfl⟩
  | send op s' data hs =>
    obtain ⟨-, tx, ts, -, -, -, rfl⟩ := hs
    exact .inl ⟨rfl, le_rfl⟩
  | recv op s' n hs =>
    obtain ⟨-, rx, -, -, rfl⟩ := hs
    exact .inl ⟨rfl, le_rfl⟩
  | process cx ipRepr repr s' hs =>
    have hzero : ∀ {s' : Socket}, y.socket.state ≠ .listen → s'.localSeqNo = y.socket.localSeqNo →
        (y.conn.process y.socket s').acked = y.conn.acked := by
      intro s' hl hloc
      rw [Conn.process, if_neg fun h => hl h.1, hloc]
      simp
    cases hs with
    | quiet hq =>
      left
      rw [conn_process_quiet _ hq]
      refine ⟨rfl, ?_⟩
      obtain ⟨_, _, _, _, _, s₁, -, -, -, rfl, rfl | rfl⟩ := hq <;> exact le_rfl
    | reset st hctl hlisten hq =>
      left
      obtain ⟨_, _, _, _, _, s₁, -, -, -, rfl, rfl | rfl⟩ := hq <;>
        exact ⟨hzero hlisten rfl, le_rfl⟩
    | accepted ha =>
      right
      by_cases hlisten : y.socket.state = .listen
      · cases ha.advances with
        | listen hst hst' =>
          left
          rw [Conn.process, if_pos ⟨hst, by rw [hst']; decide⟩]
          rfl
        | syn hst => simp [hlisten] at hst
        | synAck last hst => simp [hlisten] at hst
        | data n hne hst => exact absurd hlisten hst.ne.2.1
        | fin n hn hfin hst => exact absurd hlisten hst.ne.2.1
      · have htuple := hreach.base.connected ha.accepts.1 hlisten
        by_cases hack : repr.ackNumber = none
        · left
          cases ha.advances with
          | listen hst => exact absurd hst hlisten
          | syn hst hst' hack hloc =>
            rw [hzero hlisten hloc]
            exact (hreach.sending htuple).opening (.inr (.inl hst))
          | synAck last hst hst' hack' => simp [hack] at hack'
          | data n hne hst hn hlt hack' => simp [hack] at hack'
          | fin n hn hfin hst hlt hack' => simp [hack] at hack'
        · obtain ⟨n, hn⟩ := hreach.flight.acknowledges hreach.base ha.advances hack
          refine .inr ⟨cx, ipRepr, repr, n, rfl, ha.control_ne, hn.lt, ?_, ?_, ha.remoteWinLen_eq,
            ha.syn_or_opened⟩
          · rw [hn.ackNumber, (hreach.sending htuple).localSeqNo, shift_shift]
          · rw [Socket.process_acked _ hn.lt hlisten hn.localSeqNo]
  | dispatch cx emit s' e hs => exact .inl ⟨(conn_dispatch _ _ _).2.1, hs.remoteWinLen_le⟩

end Sys

end Smoltcp.Tcp
