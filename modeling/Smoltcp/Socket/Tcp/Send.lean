import Smoltcp.Socket.Tcp.Flight
import Smoltcp.Socket.Tcp.Sample
import Smoltcp.Socket.Tcp.Transmits

/-!
# The send side

The application enqueues a stream `T` of octets. In the sequence space of a connection the SYN has
position 0, octet `k` of `T` has position `1 + k`, and the FIN comes behind the last octet. The
record of the connection counts positions without wrapping, and `Sending` ties the socket to it.
-/

namespace Smoltcp.Tcp

open Serial

namespace Socket

variable {s s' : Socket} {c : Conn} {cx : Context} {ipRepr : IpRepr} {repr : TcpRepr}

/-- The transmit buffer is what is not acknowledged of the octets enqueued, and `localSeqNo` is the
first number that is not acknowledged. -/
structure Sending (s : Socket) (c : Conn) : Prop where
  localSeqNo : s.localSeqNo = shift c.iss c.acked
  txBuffer : s.txBuffer.toList = c.enqueued.drop (c.acked - 1)
  unopened : c.acked = 0 → c.enqueued = []
  opening : s.state.Opening → c.acked = 0
  opened : s.maySend → 1 ≤ c.acked
  acked_le : s.state ≠ .finWait2 → s.state ≠ .timeWait → s.state ≠ .closed →
    c.acked ≤ c.enqueued.length + 1

namespace Sending

lemma len_eq (h : Sending s c) : s.txBuffer.len = c.enqueued.length - (c.acked - 1) := by
  rw [← RingBuffer.length_toList, h.txBuffer, List.length_drop]

/-- Fields of the send side that are left alone, and a state that may become CLOSED. -/
lemma congr (h : Sending s c) {c' : Conn} (hloc : s'.localSeqNo = s.localSeqNo)
    (htx : s'.txBuffer = s.txBuffer) (hst : s'.state = s.state ∨ s'.state = .closed)
    (hc : c'.iss = c.iss ∧ c'.acked = c.acked ∧ c'.enqueued = c.enqueued) : Sending s' c' := by
  obtain ⟨h₁, h₂, h₃, h₄, h₅, h₆⟩ := h
  obtain ⟨hiss, hacked, henq⟩ := hc
  refine ⟨?_, ?_, ?_, ?_, ?_, ?_⟩ <;> rw [hacked]
  · rw [hloc, hiss, h₁]
  · rw [htx, henq, h₂]
  · rw [henq]
    exact h₃
  · rcases hst with hst | hst
    · rwa [hst]
    · simp [hst, State.Opening]
  · rcases hst with hst | hst
    · rwa [maySend, hst]
    · simp [hst, maySend]
  · rw [henq]
    rcases hst with hst | hst
    · rwa [hst]
    · exact fun _ _ hc => absurd hst hc

end Sending

lemma StateStep.maySend {control : TcpControl} (h : StateStep false s.state control s'.state)
    (hne : s.state ≠ .synReceived) (hmay : s'.maySend) : s.maySend := by
  unfold Socket.maySend at *
  generalize s.state = st at h hne ⊢
  generalize s'.state = st' at h hmay
  cases h <;> simp_all

lemma StateStep.of_ackOfFin {control : TcpControl} {st st' : State}
    (h : StateStep true st control st') (hfin : st = .finWait1 ∨ st = .lastAck ∨ st = .closing) :
    st' = .finWait2 ∨ st' = .timeWait ∨ st' = .closed := by
  cases h <;> simp_all

/-- A SYN in LISTEN starts a record. -/
lemma Sending.start (htx : s.txBuffer.len = 0) (hst : s.state.Opening) :
    Sending s (.start s.localSeqNo) := by
  have hnil : s.txBuffer.toList = [] :=
    List.length_eq_zero_iff.mp (by rw [RingBuffer.length_toList, htx])
  refine ⟨by simp [Conn.start], hnil, fun _ => rfl, fun _ => rfl, ?_, fun _ _ _ => Nat.zero_le _⟩
  intro hmay
  rcases hst with hst | hst | hst <;> simp [maySend, hst] at hmay

/-- The record after a segment that moves `localSeqNo` by `n`. -/
lemma process_acked (c : Conn) {n : ℕ} (hn : n < 2 ^ 31) (hst : s.state ≠ .listen)
    (hloc : s'.localSeqNo = shift s.localSeqNo n) :
    c.process s s' = { c with acked := c.acked + n } := by
  rw [Conn.process, if_neg fun h => hst h.1, hloc, SeqNumber.dist_shift_nat hn]
  rfl

lemma Sending.advances {control : TcpControl} {ack : AckInfo} (hbase : s.Base)
    (h : s.tuple ≠ none → Sending s c) (hfresh : s.state.Opening → c.enqueued = [])
    (ha : Advances s repr control s' ack) : Sending s' (c.process s s') := by
  have hsending : s.state ≠ .closed → s.state ≠ .listen → Sending s c :=
    fun hc hl => h (hbase.connected hc hl)
  cases ha with
  | listen hst hst' hack hlast htx =>
    rw [Conn.process, if_pos ⟨hst, by rw [hst']; decide⟩]
    refine .start ?_ (.inr (.inr hst'))
    rw [← RingBuffer.length_toList, htx, RingBuffer.length_toList]
    exact hbase.tx_opening (.inl hst)
  | syn hst hst' hack hloc hlast htx =>
    have hs := hsending (by simp [hst]) (by simp [hst])
    have hopen : s.state.Opening := .inr (.inl hst)
    have hzero := hs.opening hopen
    rw [process_acked c (n := 0) (by omega) (by simp [hst]) (by simpa using hloc)]
    refine ⟨?_, ?_, hs.unopened, fun _ => hzero, by simp [maySend, hst'],
      fun _ _ _ => by simp [hzero]⟩
    · rw [hloc, hs.localSeqNo]
      rfl
    · rw [htx, hs.txBuffer]
      rfl
  | synAck last hst hst' hack hloc hlast htx =>
    have hopen : s.state.Opening := by
      rcases hst with ⟨hst, -⟩ | ⟨hst, -⟩
      · exact .inr (.inl hst)
      · exact .inr (.inr hst)
    have hne : s.state ≠ .closed ∧ s.state ≠ .listen := by
      rcases hst with ⟨hst, -⟩ | ⟨hst, -⟩ <;> simp [hst]
    have hs := hsending hne.1 hne.2
    have hzero := hs.opening hopen
    have hnil := hfresh hopen
    rw [process_acked c (n := 1) (by omega) hne.2 (by simpa using hloc)]
    refine ⟨?_, ?_, fun _ => hnil, ?_, fun _ => Nat.le_add_left _ _, fun _ _ _ => by simp [hzero]⟩
    · rw [hloc, hs.localSeqNo, shift_shift]
      push_cast
      rfl
    · rw [htx, hs.txBuffer, hnil]
      simp
    · intro ho
      rcases hst' with hst' | hst' <;> simp [State.Opening, hst'] at ho
  | data n hne hst hn hlt hack hloc hlast htx =>
    have hs := hsending hst.ne.1 hst.ne.2.1
    have hlen := hs.len_eq
    rw [process_acked c (by omega) hst.ne.2.1 hloc]
    refine ⟨?_, ?_, ?_, fun ho => absurd ho hst.not_opening, ?_, ?_⟩
    · rw [hloc, hs.localSeqNo, shift_shift]
      push_cast
      rfl
    · rw [htx, hs.txBuffer, List.drop_drop]
      rcases Nat.eq_zero_or_pos c.acked with hz | hz
      · simp [hs.unopened hz]
      · congr 1
        simp only
        omega
    · intro hz
      exact hs.unopened (by simp only at hz; omega)
    · intro hmay
      have := hs.opened (hst.maySend hne hmay)
      simp only
      omega
    · intro h1 h2 h3
      have hfw2 : s.state ≠ .finWait2 := by
        intro hfw
        rw [hfw] at hst
        generalize s'.state = st' at hst h1 h2 h3
        cases hst <;> simp_all
      have := hs.acked_le hfw2 hst.ne.2.2.1 hst.ne.1
      simp only
      omega
  | fin n hn hfin hst hlt hack hloc hlast htx =>
    have hs := hsending hst.ne.1 hst.ne.2.1
    have hlen := hs.len_eq
    have hctl := controlLen_of_sentFin hfin
    simp only [sentFin, decide_eq_true_eq] at hfin
    rw [process_acked c (n := n + 1) (by omega) hst.ne.2.1 (by rw [hloc]; push_cast; rfl)]
    have hto := hst.of_ackOfFin hfin
    refine ⟨?_, ?_, by simp, fun ho => absurd ho hst.not_opening, ?_, ?_⟩
    · rw [hloc, hs.localSeqNo, shift_shift]
      push_cast
      rfl
    · rw [htx]
      refine (List.drop_eq_nil_of_le ?_).symm
      simp only
      omega
    · intro hmay
      rcases hto with h | h | h <;> simp [Socket.maySend, h] at hmay
    · intro h1 h2 h3
      rcases hto with h | h | h
      · exact absurd h h1
      · exact absurd h h2
      · exact absurd h h3

lemma Sending.enqueues {data : List UInt8} (h : Sending s c) (hs : s.Enqueues s' data) :
    Sending s' { c with enqueued := c.enqueued ++ data } := by
  obtain ⟨hmay, tx, ts, htx, -, -, rfl⟩ := hs
  have hopened := h.opened hmay
  have hle : c.acked ≤ c.enqueued.length + 1 := by
    rcases hmay with hst | hst <;> exact h.acked_le (by simp [hst]) (by simp [hst]) (by simp [hst])
  refine ⟨h.localSeqNo, ?_, ?_, h.opening, h.opened, ?_⟩
  · simp only
    rw [htx, h.txBuffer, List.drop_append_of_le_length (by omega)]
  · intro hz
    simp only at hz
    omega
  · intro _ _ _
    simp only [List.length_append]
    omega

lemma Sending.close (h : Sending s c) : Sending s.close c := by
  obtain ⟨st, heq, hst⟩ := s.close_eq
  rw [heq]
  obtain ⟨h₁, h₂, h₃, h₄, h₅, h₆⟩ := h
  rcases hst with ⟨-, rfl⟩ | ⟨hs, rfl⟩ | ⟨hs, rfl⟩ | ⟨-, rfl⟩
  · exact ⟨h₁, h₂, h₃, by simp [State.Opening, setState], by simp [maySend, setState],
      fun _ _ hc => absurd rfl hc⟩
  · refine ⟨h₁, h₂, h₃, by simp [State.Opening, setState], by simp [maySend, setState], ?_⟩
    intro _ _ _
    rcases hs with hs | hs <;> simp [hs] at h₆ <;> exact h₆
  · refine ⟨h₁, h₂, h₃, by simp [State.Opening, setState], by simp [maySend, setState], ?_⟩
    intro _ _ _
    simp [hs] at h₆
    exact h₆
  · exact ⟨h₁, h₂, h₃, h₄, h₅, h₆⟩

/-! ### Dispatch -/

lemma Timed.send_eq (h : Timed s cx s') :
    s'.localSeqNo = s.localSeqNo ∧ s'.txBuffer = s.txBuffer ∧ s'.tuple = s.tuple := by
  cases h <;> exact ⟨rfl, rfl, rfl⟩

lemma DispatchRule.send_eq {e : Option Emission} (h : DispatchRule s cx s' e)
    (htuple : s'.tuple ≠ none) :
    s'.localSeqNo = s.localSeqNo ∧ s'.txBuffer = s.txBuffer := by
  cases h with
  | noTuple => exact ⟨rfl, rfl⟩
  | idle _ htimed => exact ⟨htimed.send_eq.1, htimed.send_eq.2.1⟩
  | reset => exact absurd rfl htuple
  | failed _ htimed => exact ⟨htimed.send_eq.1, htimed.send_eq.2.1⟩
  | sent _ htimed hsend hemits hsends =>
    obtain ⟨htx, -, hloc, -⟩ := hsends.send_eq
    obtain ⟨hloc', htx', -⟩ := htimed.send_eq
    exact ⟨hloc.trans hloc', htx.trans htx'⟩

/-- `dispatch` never adds a connection. -/
lemma DispatchRule.tuple_ne {e : Option Emission} (h : DispatchRule s cx s' e)
    (htuple : s'.tuple ≠ none) : s.tuple ≠ none := by
  cases h with
  | noTuple => exact htuple
  | idle hne => exact hne
  | reset hne => exact hne
  | failed hne => exact hne
  | sent hne => exact hne

lemma ProcessRule.tuple_ne (h : ProcessRule s cx ipRepr repr s') (hl : s.state ≠ .listen)
    (htuple : s'.tuple ≠ none) : s.tuple ≠ none := by
  cases h with
  | quiet hq =>
    obtain ⟨_, _, _, _, _, s₁, -, -, -, rfl, rfl | rfl⟩ := hq <;> exact htuple
  | reset => exact absurd rfl htuple
  | @accepted w ack payload offset s₁ s₂ s₃ _ ha =>
    have ht := ha.transits
    have hacked := ha.acked
    obtain ⟨_, _, _, -, -, rfl⟩ := ha.noted
    rw [ha.received.send_eq.2.2.2.1] at htuple
    cases hacked
    cases ht with
    | synListen _ hst => exact absurd hst hl
    | synSent => exact htuple
    | moved st hst =>
      simp only [moved] at htuple
      split_ifs at htuple
      · exact absurd rfl htuple
      · exact htuple

end Socket

namespace Sys

variable {y y' : Sys} {op : Op}

lemma conn_dispatch (c : Conn) (s : Socket) (e : Option Emission) :
    (c.dispatch s e).iss = c.iss ∧ (c.dispatch s e).acked = c.acked ∧
      (c.dispatch s e).enqueued = c.enqueued := by
  unfold Conn.dispatch
  split
  · exact ⟨rfl, rfl, rfl⟩
  · split_ifs <;> exact ⟨rfl, rfl, rfl⟩

lemma conn_process_quiet (c : Conn) {s s' : Socket} (h : s.Quiet s') : c.process s s' = c := by
  have hst := h.state_eq
  obtain ⟨_, _, _, _, _, s₁, -, -, -, rfl, rfl | rfl⟩ := h <;>
    simp_all [Conn.process, Socket.acknowledged]

/-- One step keeps the record in line with the send side. -/
lemma sending_step (hbase : y.socket.Base) (hfresh : y.Fresh)
    (h : y.socket.tuple ≠ none → y.socket.Sending y.conn) (hs : StepRule y op y')
    (htuple : y'.socket.tuple ≠ none) : y'.socket.Sending y'.conn := by
  cases hs with
  | same => exact h htuple
  | listen => exact absurd rfl htuple
  | connect => exact .start rfl (.inr (.inl rfl))
  | close =>
    obtain ⟨st, heq, -⟩ := y.socket.close_eq
    refine (h ?_).close
    simp only [heq] at htuple
    exact htuple
  | abort => exact (h htuple).congr rfl rfl (.inr rfl) ⟨rfl, rfl, rfl⟩
  | set x s' hs =>
    obtain ⟨_, _, _, _, _, _, cc, _, timer, -, -, rfl⟩ := Socket.set_eq_ok hs
    exact (h htuple).congr rfl rfl (.inl rfl) ⟨rfl, rfl, rfl⟩
  | send op s' data hs =>
    refine (h ?_).enqueues hs
    obtain ⟨-, tx, ts, -, -, -, rfl⟩ := hs
    exact htuple
  | recv op s' n hs =>
    obtain ⟨-, rx, -, -, rfl⟩ := hs
    exact (h htuple).congr rfl rfl (.inl rfl) ⟨rfl, rfl, rfl⟩
  | process cx ipRepr repr s' hs =>
    cases hs with
    | quiet hq =>
      have hst := hq.state_eq
      rw [conn_process_quiet _ hq]
      obtain ⟨_, _, _, _, _, s₁, -, -, -, rfl, rfl | rfl⟩ := hq <;>
        exact (h htuple).congr rfl rfl (.inl rfl) ⟨rfl, rfl, rfl⟩
    | reset => exact absurd rfl htuple
    | accepted ha => exact .advances hbase h (fun ho => (hfresh ho).1) ha.advances
  | dispatch cx emit s' e hs =>
    obtain ⟨hloc, htx⟩ := hs.send_eq htuple
    exact (h (hs.tuple_ne htuple)).congr hloc htx hs.state_eq (conn_dispatch _ _ _)

/-- In every reachable state the record is in line with the send side. -/
theorem ReachableBy.sending {ok : Sys → Op → Prop} (h : ReachableBy ok y)
    (htuple : y.socket.tuple ≠ none) : y.socket.Sending y.conn := by
  have hinv : y.socket.Base ∧ y.Fresh ∧ (y.socket.tuple ≠ none → y.socket.Sending y.conn) := by
    refine h.invariant (I := fun y =>
      y.socket.Base ∧ y.Fresh ∧ (y.socket.tuple ≠ none → y.socket.Sending y.conn)) ?_ ?_
    · rintro y ⟨cfg, rx, tx, hnew, hconn⟩
      refine ⟨Socket.base_new hnew, fun _ => by rw [hconn]; exact ⟨rfl, rfl⟩, fun htuple => ?_⟩
      unfold Socket.new at hnew
      split_ifs at hnew
      simp only [Except.ok.injEq] at hnew
      rw [← hnew] at htuple
      exact absurd rfl htuple
    · rintro y op y' ⟨hbase, hfresh, hsend⟩ _ hstep
      have hrule := StepRule.of_step hstep
      exact ⟨hbase.step hrule, hfresh.step hbase hrule, sending_step hbase hfresh hsend hrule⟩
  exact hinv.2.2 htuple

end Sys

/-! ### Integrity of the stream -/

namespace Socket

variable {s s' : Socket} {c : Conn} {cx : Context} {r : TcpRepr} {zwp : Bool}

/-- A segment with a payload carries octets of the stream, from among those that are not
acknowledged, at their place. -/
lemma Builds.payload_isPrefix (h : Builds s cx r zwp) (hs : Sending s c) (hne : r.payload ≠ []) :
    ∃ k : ℕ, r.seqNumber = shift c.iss (1 + k) ∧ r.payload <+: c.enqueued.drop k ∧
      c.enqueued.length ≤ k + s.txBuffer.len := by
  cases h with
  | rst _ _ _ hpay => exact absurd hpay hne
  | syn _ _ _ hpay => exact absurd hpay hne
  | ack _ _ _ hpay => exact absurd hpay hne
  | data offset room mss zwp hstate hmss hwinLen hroom hzwp hoff hseq hpay hctl =>
    have hpre : r.payload <+: s.txBuffer.toList.drop offset := by
      rw [hpay, RingBuffer.getAllocated_eq]
      exact List.take_prefix _ _
    have hlen := hs.len_eq
    rw [hs.txBuffer, List.drop_drop] at hpre
    have hacked : 1 ≤ c.acked := by
      by_contra hz
      rw [hs.unopened (by omega), List.drop_nil] at hpre
      exact hne (List.prefix_nil.mp hpre)
    refine ⟨c.acked - 1 + offset, ?_, hpre, by omega⟩
    rw [hseq, ← shift_dist s.remoteLastSeq s.localSeqNo, hoff, hs.localSeqNo, shift_shift]
    congr 1
    push_cast
    omega

lemma Builds.sentFin_of_fin (h : Builds s cx r zwp) (hfin : r.control = .fin) :
    s.sentFin = true := by
  cases h with
  | rst _ hctl => simp [hctl] at hfin
  | syn _ hctl => simp [hctl] at hfin
  | ack _ hctl => simp [hctl] at hfin
  | data offset room mss zwp hstate hmss hwinLen hroom hzwp hoff hseq hpay hctl =>
    have hle := (s.dataControl_len offset r.payload).1
    rw [← hctl, hfin] at hle
    cases hs : s.sentFin with
    | true => rfl
    | false =>
      rw [hs] at hle
      cases hle

lemma Timed.state_of_sentFin (h : Timed s cx s') (hfin : s'.sentFin = true) :
    ¬ s.state.Opening ∧ s.state ≠ .closed := by
  simp only [sentFin, decide_eq_true_eq] at hfin
  rcases h.state_eq with hst | hst
  · rw [hst] at hfin
    rcases hfin with h | h | h <;> simp [h, State.Opening]
  · simp [hst] at hfin

/-- A FIN comes behind the last octet of the stream, if our SYN is acknowledged. -/
lemma Builds.fin_eq (h : Builds s cx r zwp) (hs : Sending s c) (hacked : 1 ≤ c.acked)
    (hfin : r.control = .fin) :
    dist r.seqNumber s.localSeqNo + r.payload.length = s.txBuffer.len ∧
      c.acked + s.txBuffer.len = c.enqueued.length + 1 := by
  cases h with
  | rst _ hctl => simp [hctl] at hfin
  | syn _ hctl => simp [hctl] at hfin
  | ack _ hctl => simp [hctl] at hfin
  | data offset room mss zwp hstate hmss hwinLen hroom hzwp hoff hseq hpay hctl =>
    have hend := (s.dataControl_len offset r.payload).2 (by rw [← hctl, hfin]; decide)
    have hlen := hs.len_eq
    have hle : c.acked ≤ c.enqueued.length + 1 := by
      rcases hstate with h | h | h | h | h <;>
        exact hs.acked_le (by simp [h]) (by simp [h]) (by simp [h])
    refine ⟨?_, by omega⟩
    rw [hseq, hoff]
    omega

lemma DispatchRule.tuple_ne_of_some {e : Emission} (h : DispatchRule s cx s' (some e)) :
    s.tuple ≠ none := by
  cases h with
  | failed htuple => exact htuple
  | sent htuple => exact htuple

/-- What is handed to `emit` is built from the socket after its timers. -/
lemma DispatchRule.emits {e : Emission} (h : DispatchRule s cx s' (some e)) :
    ∃ s₁ e₀, Timed s cx s₁ ∧ Emits s₁ cx e₀ ∧ e.repr = e₀.repr ∧
      e.isKeepAlive = e₀.isKeepAlive := by
  cases h with
  | failed _ htimed _ hemits => exact ⟨_, _, htimed, hemits, rfl, rfl⟩
  | sent _ htimed _ hemits => exact ⟨_, _, htimed, hemits, rfl, rfl⟩

lemma keepAliveSegment_eq (r : TcpRepr) :
    (keepAliveSegment r).seqNumber = shift r.seqNumber (-1) ∧
      (keepAliveSegment r).control = r.control ∧ (keepAliveSegment r).payload = [0] := by
  unfold keepAliveSegment
  exact ⟨rfl, rfl, rfl⟩

/-- A segment that is no keep-alive, or that carries a FIN, is the one that the state calls for. -/
lemma Emits.builds {e : Emission} (h : Emits s cx e)
    (hkind : e.isKeepAlive = false ∨ e.repr.control = .fin) :
    ∃ r zwp, Builds s cx r zwp ∧ e.repr.seqNumber = r.seqNumber ∧ e.repr.payload = r.payload ∧
      e.repr.control = r.control := by
  cases h with
  | segment r hbuilds _ _ _ hrepr =>
    obtain ⟨mss, hr⟩ := hrepr
    exact ⟨r, _, hbuilds, by rw [hr], by rw [hr], by rw [hr]⟩
  | keepAlive r hbuilds hkeep _ hempty _ hrepr =>
    obtain ⟨mss, hr⟩ := hrepr
    have hctl : e.repr.control = r.control := by simp only [hr, (keepAliveSegment_eq r).2.1]
    rw [hkeep, hctl] at hkind
    rcases hempty.2 with h | h <;> simp [h] at hkind

end Socket

namespace Sys

variable {y y' : Sys} {op : Op}

/-- The guard of a run in which `close` is not called in SYN-RECEIVED. -/
def NoEarlyClose (y : Sys) : Op → Prop
  | .close => y.socket.state ≠ .synReceived
  | _ => True

instance (y : Sys) : (op : Op) → Decidable (y.NoEarlyClose op)
  | .close => inferInstanceAs (Decidable (_ ≠ _))
  | .listen _ | .connect _ _ _ | .abort | .set _ | .send _ | .sendSlice _ | .recv _
  | .recvSlice _ | .peek _ | .process _ _ _ | .dispatch _ _ => .isTrue trivial

/-- A connection that is past its opening has its SYN acknowledged. -/
def Opened (y : Sys) : Prop :=
  y.socket.tuple ≠ none →
    1 ≤ y.conn.acked ∨ y.socket.state.Opening ∨ y.socket.state = .closed

lemma Opened.step (h : y.Opened) (hbase : y.socket.Base) (hok : y.NoEarlyClose op)
    (hs : StepRule y op y') : y'.Opened := by
  intro htuple
  cases hs with
  | same => exact h htuple
  | listen => exact absurd rfl htuple
  | connect => exact .inr (.inl (.inr (.inl rfl)))
  | close =>
    obtain ⟨st, heq, hst⟩ := y.socket.close_eq
    simp only [heq] at htuple ⊢
    rcases hst with ⟨-, rfl⟩ | ⟨hs, rfl⟩ | ⟨hs, rfl⟩ | ⟨-, rfl⟩
    · exact .inr (.inr rfl)
    · have hest := hs.resolve_left hok
      have := h htuple
      simp [State.Opening, hest] at this
      exact .inl this
    · have := h htuple
      simp [State.Opening, hs] at this
      exact .inl this
    · exact h htuple
  | abort => exact .inr (.inr rfl)
  | set x s' hs =>
    obtain ⟨_, _, _, _, _, _, cc, _, timer, -, -, rfl⟩ := Socket.set_eq_ok hs
    exact h htuple
  | send op s' data hs =>
    obtain ⟨-, tx, ts, -, -, -, rfl⟩ := hs
    exact h htuple
  | recv op s' n hs =>
    obtain ⟨-, rx, -, -, rfl⟩ := hs
    exact h htuple
  | process cx ipRepr repr s' hs =>
    cases hs with
    | quiet hq =>
      rw [conn_process_quiet _ hq]
      obtain ⟨_, _, _, _, _, s₁, -, -, -, rfl, rfl | rfl⟩ := hq <;> exact h htuple
    | reset => exact absurd rfl htuple
    | @accepted w ack payload offset s₁ s₂ s₃ _ ha =>
      have hold : ∀ {aof control st'}, Socket.StateStep aof y.socket.state control st' →
          y.socket.state ≠ .synReceived → 1 ≤ y.conn.acked := by
        intro aof control st' hst hne
        obtain ⟨hc, hl, -, hss, -⟩ := hst.ne
        rcases h (hbase.connected hc hl) with h | h | h
        · exact h
        · rcases h with h | h | h
          · exact absurd h hl
          · exact absurd h hss
          · exact absurd h hne
        · exact absurd h hc
      cases ha.advances with
      | listen _ hst' => exact .inr (.inl (.inr (.inr hst')))
      | syn _ hst' => exact .inr (.inl (.inr (.inr hst')))
      | synAck last hst hst' hack hloc =>
        left
        rw [Socket.process_acked _ (n := 1) (by omega) _ (by simpa using hloc)]
        · exact Nat.le_add_left _ _
        · rcases hst with ⟨hst, -⟩ | ⟨hst, -⟩ <;> simp [hst]
      | data n hne hst hn hlt hack hloc =>
        left
        rw [Socket.process_acked _ (by omega) hst.ne.2.1 hloc]
        exact Nat.le_add_right_of_le (hold hst hne)
      | fin n hn hfin hst hlt hack hloc =>
        left
        have hctl := Socket.controlLen_of_sentFin hfin
        rw [Socket.process_acked _ (n := n + 1) (by omega) hst.ne.2.1
          (by rw [hloc]; push_cast; rfl)]
        exact Nat.le_add_left_of_le (Nat.le_add_left _ _)
  | dispatch cx emit s' e hs =>
    rw [(conn_dispatch _ _ _).2.1]
    rcases hs.state_eq with hst | hst
    · rw [hst]
      exact h (hs.tuple_ne htuple)
    · exact .inr (.inr hst)

theorem ReachableBy.opened (h : ReachableBy NoEarlyClose y) : y.Opened := by
  have hinv : y.socket.Base ∧ y.Opened := by
    refine h.invariant (I := fun y => y.socket.Base ∧ y.Opened) ?_ ?_
    · rintro y ⟨cfg, rx, tx, hnew, hconn⟩
      refine ⟨Socket.base_new hnew, fun htuple => ?_⟩
      unfold Socket.new at hnew
      split_ifs at hnew
      simp only [Except.ok.injEq] at hnew
      rw [← hnew] at htuple
      exact absurd rfl htuple
    · rintro y op y' ⟨hbase, hopened⟩ hok hstep
      have hrule := StepRule.of_step hstep
      exact ⟨hbase.step hrule, hopened.step hbase hok hrule⟩
  exact hinv.2

/-- In every run, a segment that `dispatch` hands to `emit` and that is no keep-alive carries octets
of the enqueued stream at their place. -/
theorem payload_isPrefix {cx : Context} {emit : IpRepr → TcpRepr → Bool} {s : Socket} {e : Emission}
    (h : Reachable y) (hd : y.socket.dispatch cx emit = .ok (s, some e))
    (hkeep : e.isKeepAlive = false) (hne : e.repr.payload ≠ []) :
    ∃ k : ℕ, e.repr.seqNumber = shift y.conn.iss (1 + k) ∧
      e.repr.payload <+: y.conn.enqueued.drop k ∧
      y.conn.enqueued.length ≤ k + y.socket.txBuffer.len := by
  have hrule := Socket.DispatchRule.of_dispatch hd
  have htuple := hrule.tuple_ne_of_some
  obtain ⟨s₁, e₀, htimed, hemits, hrepr, hkeep₀⟩ := hrule.emits
  rw [hkeep₀] at hkeep
  rw [hrepr] at hne ⊢
  obtain ⟨r, zwp, hbuilds, hseq₀, hpay₀, -⟩ := hemits.builds (.inl hkeep)
  obtain ⟨hloc, htx, -⟩ := htimed.send_eq
  have hsend := (h.sending htuple).congr hloc htx htimed.state_eq ⟨rfl, rfl, rfl⟩
  rw [hseq₀, hpay₀]
  rw [hpay₀] at hne
  obtain ⟨k, hseq, hpre, hle⟩ := hbuilds.payload_isPrefix hsend hne
  rw [htx] at hle
  exact ⟨k, hseq, hpre, hle⟩

/-- Where `close` is not called in SYN-RECEIVED, every emitted segment that is no keep-alive carries
octets of the enqueued stream at their place, every emitted FIN comes behind the last octet, and
replies carry neither. -/
theorem emitted_isPrefix (h : ReachableBy NoEarlyClose y) :
    (∀ cx emit s e, y.socket.dispatch cx emit = .ok (s, some e) → e.isKeepAlive = false →
      e.repr.payload ≠ [] → ∃ k : ℕ, e.repr.seqNumber = shift y.conn.iss (1 + k) ∧
        e.repr.payload <+: y.conn.enqueued.drop k ∧
        y.conn.enqueued.length ≤ k + y.socket.txBuffer.len) ∧
      (∀ cx emit s e, y.socket.dispatch cx emit = .ok (s, some e) → e.repr.control = .fin →
        shift e.repr.seqNumber e.repr.payload.length =
          shift y.conn.iss (1 + y.conn.enqueued.length)) ∧
      ∀ cx ipRepr repr s ip r, y.socket.process cx ipRepr repr = .ok (s, some (ip, r)) →
        r.payload = [] ∧ r.control ≠ .fin := by
  refine ⟨?_, ?_, ?_⟩
  · intro cx emit s e hd hkeep hne
    exact payload_isPrefix h.reachable hd hkeep hne
  · intro cx emit s e hd hfin
    have hrule := Socket.DispatchRule.of_dispatch hd
    have htuple := hrule.tuple_ne_of_some
    obtain ⟨s₁, e₀, htimed, hemits, hrepr, -⟩ := hrule.emits
    rw [hrepr] at hfin ⊢
    obtain ⟨r, zwp, hbuilds, hseq, hpay, hctl⟩ := hemits.builds (.inr hfin)
    rw [hctl] at hfin
    obtain ⟨hloc, htx, -⟩ := htimed.send_eq
    have hsend := (h.sending htuple).congr hloc htx htimed.state_eq ⟨rfl, rfl, rfl⟩
    have hacked : 1 ≤ y.conn.acked := by
      have hst : ¬ y.socket.state.Opening ∧ y.socket.state ≠ .closed :=
        htimed.state_of_sentFin (hbuilds.sentFin_of_fin hfin)
      rcases h.opened htuple with ho | ho | ho
      · exact ho
      · exact absurd ho hst.1
      · exact absurd ho hst.2
    obtain ⟨hend, hlen⟩ := hbuilds.fin_eq hsend hacked hfin
    rw [hseq, hpay, ← shift_dist r.seqNumber s₁.localSeqNo, shift_shift, hend, hsend.localSeqNo,
      shift_shift]
    congr 1
    omega
  · intro cx ipRepr repr s ip r hp
    obtain ⟨-, hpay, hctl⟩ := Socket.process_answers hp ip r rfl
    refine ⟨hpay, fun hfin => ?_⟩
    rw [hfin] at hctl
    cases hctl

/-- The last octets of a stream, with the FIN. -/
theorem emitted_isPrefix_fin : ∃ y s e, ReachableBy NoEarlyClose y ∧
    y.socket.dispatch (Sample.context 0) (fun _ _ => true) = .ok (s, some e) ∧
    e.repr.payload = [1, 2, 3] ∧ e.repr.control = .fin ∧ y.conn.enqueued = [1, 2, 3] ∧
    shift e.repr.seqNumber 3 = shift y.conn.iss 4 ∧
    ∃ k : ℕ, e.repr.seqNumber = shift y.conn.iss (1 + k) ∧
      [1, 2, 3] <+: y.conn.enqueued.drop k := by
  obtain ⟨y, hreach, hP⟩ := exists_sample NoEarlyClose (fun y op => y.NoEarlyClose op) 8
    [.listen ⟨none, 80⟩, Sample.process 0 (Sample.segment .syn 99 none 256 []), Sample.dispatch 0,
      Sample.process 0 (Sample.segment .none 100 (some 10001) 256 []), .sendSlice [1, 2, 3], .close]
    (fun y => y.conn.enqueued = [1, 2, 3] ∧ (Sample.emitted 0 y.socket).any fun e =>
      e.repr.payload = [1, 2, 3] ∧ e.repr.control = .fin ∧ e.isKeepAlive = false)
    (fun _ _ => of_decide_eq_true) (by decide)
  obtain ⟨henq, hemit⟩ := of_decide_eq_true hP
  obtain ⟨e, he, hprop⟩ := (Option.any_eq_true _ _).mp hemit
  obtain ⟨hpay, hctl, hkeep⟩ := of_decide_eq_true hprop
  obtain ⟨s, hd⟩ := Sample.dispatch_of_emitted he
  obtain ⟨hpieces, hfin, -⟩ := emitted_isPrefix hreach
  have hend := hfin _ _ s e hd hctl
  obtain ⟨k, hseq, hpre, -⟩ := hpieces _ _ s e hd hkeep (by rw [hpay]; simp)
  rw [hpay, henq] at hend
  rw [hpay] at hpre
  exact ⟨y, s, e, hreach, hd, hpay, hctl, henq, hend, k, hseq, hpre⟩

/-- `close` before our SYN was sent: the FIN takes the number of the SYN. -/
theorem fin_at_iss : ∃ y s e, Reachable y ∧
    y.socket.dispatch (Sample.context 0) (fun _ _ => true) = .ok (s, some e) ∧
    e.repr.control = .fin ∧ e.repr.seqNumber = y.conn.iss ∧
    shift e.repr.seqNumber e.repr.payload.length ≠
      shift y.conn.iss (1 + y.conn.enqueued.length) := by
  obtain ⟨y, hreach, hP⟩ := exists_sample (fun _ _ => True) (fun _ _ => true) 8
    [.listen ⟨none, 80⟩, Sample.process 0 (Sample.segment .syn 99 none 256 []), .close]
    (fun y => (Sample.emitted 0 y.socket).any fun e =>
      e.repr.control = .fin ∧ e.repr.seqNumber = y.conn.iss ∧
        shift e.repr.seqNumber e.repr.payload.length ≠
          shift y.conn.iss (1 + y.conn.enqueued.length))
    (fun _ _ _ => trivial) (by decide)
  obtain ⟨e, he, hprop⟩ := (Option.any_eq_true _ _).mp hP
  obtain ⟨s, hd⟩ := Sample.dispatch_of_emitted he
  exact ⟨y, s, e, hreach, hd, of_decide_eq_true hprop⟩

end Sys

end Smoltcp.Tcp
