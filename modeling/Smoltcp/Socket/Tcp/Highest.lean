import Smoltcp.Socket.Tcp.Send

/-!
# What was sent and what is acknowledged

`process` compares an acknowledgement number with the end of the transmit buffer, not with the end
of what was sent. As long as the remote does not acknowledge octets that are enqueued and not sent
yet, everything that leaves the transmit buffer has been on the wire. If moreover our SYN is
acknowledged before `close`, a FIN that counts as acknowledged was sent.
-/

namespace Smoltcp.Tcp

open Serial

namespace Conn

variable {c : Conn} {e : Sent}

@[simp] lemma highest_start (iss : SeqNumber) : (start iss).highest = 0 := rfl

@[simp] lemma highest_cons (c : Conn) (e : Sent) :
    highest { c with sent := e :: c.sent } = max e.endPos c.highest := rfl

/-- Octet `k` of the stream was sent at its place. -/
def Carried (c : Conn) (k : ℕ) : Prop :=
  ∃ e ∈ c.sent, ∃ i : ℕ, e.pos + i = 1 + k ∧ i < e.repr.payload.length ∧
    e.repr.payload[i]? = c.enqueued[k]?

/-- A FIN was sent behind the last octet of the stream. -/
def FinSent (c : Conn) (e : Sent) : Prop :=
  e ∈ c.sent ∧ e.repr.control = .fin ∧ e.pos + e.repr.payload.length = c.enqueued.length + 1

end Conn

namespace Socket

variable {s s' s₁ : Socket} {c : Conn} {cx : Context} {ipRepr : IpRepr} {repr : TcpRepr}

/-! ### Where a segment lies -/

/-- The place of a segment that `dispatch` hands to `emit`. -/
inductive Placed (s : Socket) (r : TcpRepr) : Prop where
  | syn (hst : s.state.Opening) (hseq : r.seqNumber = s.localSeqNo) (hpay : r.payload = [])
      (hctl : r.control = .syn)
  | data (offset : ℕ) (hoff : s.inFlight = offset) (hseq : r.seqNumber = s.remoteLastSeq)
      (hpay : r.payload <+: s.txBuffer.toList.drop offset)
      (hctl : r.control.len = 0 ∨ r.control = .fin ∧ s.sentFin ∧
        offset + r.payload.length = s.txBuffer.len)
  | keepAlive (hseq : dist r.seqNumber s.localSeqNo = s.inFlight - 1) (hlen : r.segmentLen = 1)
      (hctl : r.control ≠ .fin)

lemma dataControl_cases (s : Socket) (offset : ℕ) (payload : List UInt8) :
    (s.dataControl offset payload).len = 0 ∨ s.dataControl offset payload = .fin ∧ s.sentFin ∧
      offset + payload.length = s.txBuffer.len := by
  unfold dataControl
  by_cases hend : offset + payload.length = s.txBuffer.len
  · rw [if_pos hend]
    cases hst : s.state <;> simp only
    case finWait1 | lastAck | closing => exact .inr ⟨trivial, by simp [sentFin, hst], hend⟩
    case established | closeWait =>
      left
      split_ifs <;> rfl
    all_goals exact .inl rfl
  · rw [if_neg hend]
    exact .inl rfl

lemma Builds.placed {r : TcpRepr} {zwp : Bool} (h : Builds s cx r zwp) (hf : s.Flight) :
    s.Placed r := by
  obtain ⟨n, hn⟩ := Int.eq_ofNat_of_zero_le hf.nonneg
  have hempty : r.seqNumber = s.remoteLastSeq → r.payload = [] → r.control.len = 0 →
      s.Placed r := by
    intro hseq hpay hctl
    refine .data n hn hseq ?_ (.inl hctl)
    rw [hpay]
    exact List.nil_prefix
  cases h with
  | rst hstate hctl hseq hpay => exact hempty hseq hpay (by rw [hctl]; rfl)
  | ack hstate hctl hseq hpay => exact hempty hseq hpay (by rw [hctl]; rfl)
  | syn hstate hctl hseq hpay => exact .syn (.inr hstate) hseq hpay hctl
  | data offset room mss zwp hstate hmss hwinLen hroom hzwp hoff hseq hpay hctl =>
    refine .data offset hoff hseq ?_ ?_
    · rw [hpay, RingBuffer.getAllocated_eq]
      exact List.take_prefix _ _
    · rw [hctl]
      exact s.dataControl_cases offset r.payload

lemma Emits.placed {e : Emission} (h : Emits s cx e) (hf : s.Flight) : s.Placed e.repr := by
  cases h with
  | segment r hbuilds _ _ _ hrepr =>
    obtain ⟨mss, hr⟩ := hrepr
    rw [hr]
    cases hbuilds.placed hf with
    | syn hst hseq hpay hctl => exact .syn hst hseq hpay hctl
    | data offset hoff hseq hpay hctl => exact .data offset hoff hseq hpay hctl
    | keepAlive hseq hlen hctl => exact .keepAlive hseq hlen hctl
  | keepAlive r hbuilds hkeep _ hempty _ hrepr =>
    obtain ⟨mss, hr⟩ := hrepr
    obtain ⟨hseq, hctl, hpay⟩ := keepAliveSegment_eq r
    have hnone : r.control.len = 0 ∧ r.control ≠ .fin ∧ r.control ≠ .syn := by
      rcases hempty.2 with hc | hc <;> simp [hc, TcpControl.len]
    have hlast : r.seqNumber = s.remoteLastSeq := by
      generalize e.isZeroWindowProbe = zwp at hbuilds
      cases hbuilds with
      | rst _ _ hseq => exact hseq
      | ack _ _ hseq => exact hseq
      | syn _ hctl => exact absurd hctl hnone.2.2
      | data offset room mss zwp hstate hmss hwinLen hroom hzwp hoff hseq => exact hseq
    have hpos := hf.nonneg
    have hlt := s.inFlight_lt
    rw [hr]
    refine .keepAlive ?_ ?_ ?_
    · simp only [hseq, hlast]
      rw [s.remoteLastSeq_eq, shift_shift]
      have hd := dist_shift_shift_of_lt s.localSeqNo (j := s.inFlight + -1) (k := 0) (by omega)
        (by omega)
      rw [shift_zero] at hd
      omega
    · simp only [TcpRepr.segmentLen, hpay, hctl, hnone.1]
      rfl
    · simp only [hctl]
      exact hnone.2.1

lemma Emits.unsent {e : Emission} (h : Emits s cx e) : e.sent = false := by
  cases h with
  | segment _ _ _ _ hsent => exact hsent
  | keepAlive _ _ _ _ _ hsent => exact hsent

/-- The record after a segment was sent. -/
lemma conn_dispatch_sent (c : Conn) {e : Emission} (hsent : e.sent = true) : c.dispatch s (some e) =
    { c with sent := ⟨c.acked + dist e.repr.seqNumber s.localSeqNo, e.repr⟩ :: c.sent } := by
  simp only [Conn.dispatch, if_pos hsent]

/-- A segment does not go beyond the octets enqueued, unless it carries a FIN or repeats what was
sent. -/
lemma Placed.endPos_le {r : TcpRepr} (h : s.Placed r) (hs : Sending s c)
    (hlast : c.acked + s.inFlight ≤ max c.highest 1) :
    Sent.endPos ⟨c.acked + dist r.seqNumber s.localSeqNo, r⟩ ≤
      max c.highest (c.enqueued.length + 1) ∨
      r.control = .fin ∧ s.sentFin ∧
        c.acked + dist r.seqNumber s.localSeqNo + r.payload.length = c.acked + s.txBuffer.len := by
  simp only [Sent.endPos]
  cases h with
  | syn hst hseq hpay hctl =>
    have hzero := hs.opening hst
    left
    rw [hseq, dist_self, TcpRepr.segmentLen, hpay, hctl, hzero]
    simp [TcpControl.len]
  | keepAlive hseq hlen hctl =>
    left
    omega
  | data offset hoff hseq hpay hctl =>
    have hdist : dist r.seqNumber s.localSeqNo = offset := by rw [hseq]; exact hoff
    have hlen := hs.len_eq
    have hle := hpay.length_le
    rw [List.length_drop, RingBuffer.length_toList] at hle
    rw [hdist, TcpRepr.segmentLen]
    rcases hctl with hctl | ⟨hfin, hsent, hend⟩
    · left
      rw [hctl]
      rcases Nat.eq_zero_or_pos c.acked with hz | hz
      · have hnil := congrArg List.length (hs.unopened hz)
        simp only [List.length_nil] at hnil
        omega
      · omega
    · exact .inr ⟨hfin, hsent, by omega⟩

end Socket

/-! ### What is acknowledged was sent -/

namespace Sys

variable {y y' : Sys} {op : Op}

/-- The position that an acknowledgement number names. -/
def position (y : Sys) (ackNumber : SeqNumber) : ℤ :=
  y.conn.acked + dist ackNumber y.socket.localSeqNo

/-- The guard of a run in which the remote does not acknowledge what is enqueued and not sent. -/
def OnlySent (y : Sys) : Op → Prop
  | .process _ _ repr => repr.control ≠ .rst → ∀ a ∈ repr.ackNumber,
      ¬ (y.conn.highest < y.position a ∧
        y.position a ≤ y.conn.acked + y.socket.txBuffer.len + y.socket.controlLen)
  | _ => True

instance (y : Sys) : (op : Op) → Decidable (y.OnlySent op)
  | .process _ _ repr => decidable_of_iff (repr.control = .rst ∨ repr.ackNumber.all fun a =>
      ¬ (y.conn.highest < y.position a ∧
        y.position a ≤ y.conn.acked + y.socket.txBuffer.len + y.socket.controlLen))
      (by cases h : repr.ackNumber <;> simp [OnlySent, or_iff_not_imp_left, h])
  | .listen _ | .connect _ _ _ | .close | .abort | .set _ | .send _ | .sendSlice _ | .recv _
  | .recvSlice _ | .peek _ | .dispatch _ _ => .isTrue trivial

/-- What is acknowledged was sent. -/
structure Backed (y : Sys) : Prop where
  acked_le : (y.conn.acked : ℤ) ≤ y.conn.highest
  carried : ∀ k < y.conn.enqueued.length, 1 + (k : ℤ) < y.conn.highest → y.conn.Carried k
  flight_le : y.socket.tuple ≠ none → y.conn.acked + y.socket.inFlight ≤ max y.conn.highest 1
  open_le : y.socket.maySend ∨ y.socket.state.Opening →
    y.conn.highest ≤ y.conn.enqueued.length + 1

namespace Backed

lemma not_open {s : Socket} (hst : s.state = .closed) : ¬ (s.maySend ∨ s.state.Opening) := by
  simp [Socket.maySend, State.Opening, hst]

/-- The record after a segment that acknowledges no more than was sent. -/
lemma acknowledges (h : y.Backed) {s : Socket} {n : ℕ}
    (hconn : y.conn.process y.socket s = { y.conn with acked := y.conn.acked + n })
    (hn : ((y.conn.acked + n : ℕ) : ℤ) ≤ y.conn.highest)
    (hflight : s.inFlight = max y.socket.inFlight n - n)
    (htuple : y.socket.tuple ≠ none)
    (hopen : s.maySend ∨ s.state.Opening → y.socket.maySend ∨ y.socket.state.Opening) :
    Backed ⟨s, y.conn.process y.socket s⟩ := by
  have hflight₀ := h.flight_le htuple
  rw [hconn]
  refine ⟨hn, h.carried, fun _ => ?_, fun ho => h.open_le (hopen ho)⟩
  change ((y.conn.acked + n : ℕ) : ℤ) + s.inFlight ≤ max y.conn.highest 1
  push_cast at hn ⊢
  omega

/-- A step that leaves the record alone, and the send side but for a rewind. -/
lemma congr (h : y.Backed) {s : Socket} (htuple : s.tuple ≠ none → y.socket.tuple ≠ none)
    (hflight : s.inFlight = y.socket.inFlight ∨ s.inFlight = 0)
    (hopen : s.maySend ∨ s.state.Opening → y.socket.maySend ∨ y.socket.state.Opening) :
    Backed { y with socket := s } := by
  refine ⟨h.acked_le, h.carried, fun ht => ?_, fun ho => h.open_le (hopen ho)⟩
  have hacked := h.acked_le
  have hold := h.flight_le (htuple ht)
  change y.conn.acked + s.inFlight ≤ max y.conn.highest 1
  omega

lemma start {s : Socket} {iss : SeqNumber} (hflight : s.inFlight = 0) : Backed ⟨s, .start iss⟩ := by
  refine ⟨le_refl 0, fun k hk => absurd hk (Nat.not_lt_zero k), fun _ => ?_, fun _ => ?_⟩
  · change ((0 : ℕ) : ℤ) + s.inFlight ≤ max 0 1
    omega
  · change (0 : ℤ) ≤ ((0 : ℕ) : ℤ) + 1
    omega

lemma accepted (h : y.Backed) (hbase : y.socket.Base) (hf : y.socket.Flight)
    (hsend : y.socket.tuple ≠ none → y.socket.Sending y.conn) {cx : Context}
    {ipRepr : IpRepr} {repr : TcpRepr} {control : TcpControl} {ack : Socket.AckInfo} {s : Socket}
    (hok : y.OnlySent (.process cx ipRepr repr)) (hctl : repr.control ≠ .rst)
    (ha : y.socket.Advances repr control s ack) : Backed ⟨s, y.conn.process y.socket s⟩ := by
  by_cases hack : repr.ackNumber = none
  · cases ha with
    | listen hst hst' hnone hlast htx =>
      rw [Conn.process, if_pos ⟨hst, by rw [hst']; decide⟩]
      exact .start (by rw [Socket.inFlight, hlast, dist_self])
    | syn hst hst' hnone hloc hlast htx =>
      have hone : s.inFlight = 1 := by
        rw [← shift_zero y.socket.localSeqNo] at hloc
        rw [Socket.inFlight_of_shift (j := 1) (by simpa using hlast) hloc (by omega) (by omega)]
        rfl
      have hconn : y.conn.process y.socket s = y.conn := by
        rw [Socket.process_acked _ (n := 0) (by omega) (by simp [hst]) (by simpa using hloc)]
        rfl
      have hopen : y.socket.state.Opening := .inr (.inl hst)
      have hzero := (hsend (hbase.connected (by simp [hst]) (by simp [hst]))).opening hopen
      rw [hconn]
      refine ⟨h.acked_le, h.carried, fun _ => ?_, fun _ => h.open_le (.inr hopen)⟩
      change y.conn.acked + s.inFlight ≤ max y.conn.highest 1
      omega
    | synAck last hst hst' hsome => simp [hack] at hsome
    | data n hne hst hn hlt hsome => simp [hack] at hsome
    | fin n hn hfin hst hlt hsome => simp [hack] at hsome
  · obtain ⟨n, hn⟩ := hf.acknowledges hbase ha hack
    have hpos : y.position (shift y.socket.localSeqNo n) = y.conn.acked + n := by
      rw [position, SeqNumber.dist_shift_nat hn.lt]
    have hle := hok hctl _ hn.ackNumber
    rw [hpos, not_and_or] at hle
    have hsent : ((y.conn.acked + n : ℕ) : ℤ) ≤ y.conn.highest := by
      have := hn.le
      push_cast
      omega
    have hst : y.socket.state ≠ .closed ∧ y.socket.state ≠ .listen ∧
        (s.maySend ∨ s.state.Opening → y.socket.maySend ∨ y.socket.state.Opening) := by
      cases ha with
      | listen hst hst' hnone => exact absurd hnone hack
      | syn hst hst' hnone => exact absurd hnone hack
      | synAck last hst hst' =>
        rcases hst with ⟨hst, -⟩ | ⟨hst, -⟩ <;> simp [hst, State.Opening]
      | data n hne hst =>
        refine ⟨hst.ne.1, hst.ne.2.1, ?_⟩
        rintro (hmay | hopen)
        · exact .inl (hst.maySend hne hmay)
        · exact absurd hopen hst.not_opening
      | fin n hn hfin hst =>
        refine ⟨hst.ne.1, hst.ne.2.1, ?_⟩
        simp only [Socket.sentFin, decide_eq_true_eq] at hfin
        rcases hst.of_ackOfFin hfin with hs | hs | hs <;> simp [Socket.maySend, State.Opening, hs]
    obtain ⟨hclosed, hlisten, hopen⟩ := hst
    exact h.acknowledges (Socket.process_acked _ hn.lt hlisten hn.localSeqNo) hsent hn.inFlight
      (hbase.connected hclosed hlisten) hopen

/-- A segment leaves the socket. What it adds to the octets sent, it carries. -/
lemma sent (h : y.Backed) {s : Socket} {r : TcpRepr} (hs : s.Sending y.conn) (hp : s.Placed r)
    (hflight : y.conn.acked + s.inFlight ≤ max y.conn.highest 1) (k : ℕ)
    (hk : k < y.conn.enqueued.length)
    (hlt : 1 + (k : ℤ) <
      max (Sent.endPos ⟨y.conn.acked + dist r.seqNumber s.localSeqNo, r⟩) y.conn.highest) :
    Conn.Carried { y.conn with
      sent := ⟨y.conn.acked + dist r.seqNumber s.localSeqNo, r⟩ :: y.conn.sent } k := by
  by_cases hold : 1 + (k : ℤ) < y.conn.highest
  · obtain ⟨e, he, hcarried⟩ := h.carried k hk hold
    exact ⟨e, List.mem_cons_of_mem _ he, hcarried⟩
  have hnew := (lt_max_iff.mp hlt).resolve_right hold
  simp only [Sent.endPos] at hnew
  have hpos : y.conn.acked ≠ 0 := fun hz => by simp [hs.unopened hz] at hk
  cases hp with
  | syn hst => exact absurd (hs.opening hst) hpos
  | keepAlive hseq hlen => omega
  | data offset hoff hseq hpay hctl =>
    have hdist : dist r.seqNumber s.localSeqNo = offset := by rw [hseq]; exact hoff
    have hlen := hs.len_eq
    rw [hdist, TcpRepr.segmentLen] at hnew
    have hin : 1 + (k : ℤ) < y.conn.acked + offset + r.payload.length := by
      rcases hctl with hctl | ⟨hfin, -, hend⟩
      · omega
      · have hone : r.control.len = 1 := by rw [hfin]; rfl
        omega
    refine ⟨_, List.mem_cons_self, 1 + k - y.conn.acked - offset, ?_, ?_, ?_⟩
    · simp only [hdist]
      omega
    · simp only
      omega
    · obtain ⟨rest, hrest⟩ := hpay
      have hget : (r.payload ++ rest)[1 + k - y.conn.acked - offset]? =
          r.payload[1 + k - y.conn.acked - offset]? := List.getElem?_append_left (by omega)
      rw [hrest, hs.txBuffer, List.drop_drop, List.getElem?_drop] at hget
      rw [← hget]
      congr 1
      omega

lemma timed (h : y.Backed) {cx : Context} {s₁ : Socket} (ht : y.socket.Timed cx s₁) :
    Backed { y with socket := s₁ } := by
  cases ht with
  | timeout hto => exact h.congr id (.inl rfl) fun ho => absurd ho (not_open rfl)
  | rewind hto hseq hre => exact h.congr id (.inr (dist_self _)) id
  | same seq hto hseq hre => exact h.congr id (.inl rfl) id

lemma dispatch (h : y.Backed) (hbase : y.socket.Base) (hf : y.socket.Flight)
    (hsend : y.socket.tuple ≠ none → y.socket.Sending y.conn) {cx : Context} {s' : Socket}
    {e : Option Emission} (hd : y.socket.DispatchRule cx s' e) :
    Backed ⟨s', y.conn.dispatch y.socket e⟩ := by
  cases hd with
  | noTuple htuple => exact h
  | idle htuple htimed => exact h.timed htimed
  | reset htuple htimed =>
    exact (h.timed htimed).congr (absurd rfl) (.inr (dist_self _))
      fun ho => absurd ho (not_open rfl)
  | @failed s₁ e htuple htimed hdec hemits =>
    have hconn : y.conn.dispatch y.socket (some e) = y.conn := if_neg (by simp [hemits.unsent])
    rw [hconn]
    exact h.timed htimed
  | @sent s₁ _ e htuple htimed hdec hemits hsends =>
    have h₁ := h.timed htimed
    obtain ⟨hloc, htx, htuple₁⟩ := htimed.send_eq
    have hs := (hsend htuple).congr hloc htx htimed.state_eq ⟨rfl, rfl, rfl⟩
    have hf₁ := hf.timed htimed
    have hp := hemits.placed hf₁
    have hflight : y.conn.acked + s₁.inFlight ≤ max y.conn.highest 1 :=
      h₁.flight_le (by rw [htuple₁]; exact htuple)
    rw [Socket.conn_dispatch_sent _ rfl, ← hloc]
    refine ⟨?_, ?_, fun _ => ?_, fun ho => ?_⟩
    · exact le_max_of_le_right h.acked_le
    · intro k hk hlt
      exact h.sent hs hp hflight k hk hlt
    · change y.conn.acked + s'.inFlight ≤ max (max _ y.conn.highest) 1
      rcases hf₁.inFlight_sends (hbase.timed htimed) hemits hsends with ⟨heq, -⟩ | ⟨heq, -⟩
      · omega
      · rw [heq, Socket.endOf]
        simp only [Sent.endPos]
        omega
    · have hst := hsends.send_eq.2.1
      have ho₁ : s₁.maySend ∨ s₁.state.Opening := by
        simpa only [Socket.maySend, hst] using ho
      have hold := h₁.open_le ho₁
      have hfin : s₁.sentFin = false := by
        rcases ho₁ with hm | hm | hm | hm
        · rcases hm with hm | hm <;> simp [Socket.sentFin, hm]
        all_goals simp [Socket.sentFin, hm]
      refine max_le ?_ hold
      rcases hp.endPos_le hs hflight with hle | ⟨-, hsent, -⟩
      · exact hle.trans (max_le hold le_rfl)
      · rw [hfin] at hsent
        cases hsent

lemma step (h : y.Backed) (hbase : y.socket.Base) (hf : y.socket.Flight)
    (hsend : y.socket.tuple ≠ none → y.socket.Sending y.conn) (hok : y.OnlySent op)
    (hs : StepRule y op y') : y'.Backed := by
  cases hs with
  | same => exact h
  | listen => exact .start (dist_self _)
  | connect => exact .start (dist_self _)
  | close =>
    obtain ⟨st, heq, hst⟩ := y.socket.close_eq
    rw [heq]
    refine h.congr id (.inl rfl) ?_
    rcases hst with ⟨-, rfl⟩ | ⟨-, rfl⟩ | ⟨-, rfl⟩ | ⟨-, rfl⟩
    · exact fun ho => absurd ho (not_open rfl)
    · simp [Socket.setState, Socket.maySend, State.Opening]
    · simp [Socket.setState, Socket.maySend, State.Opening]
    · exact id
  | abort => exact h.congr id (.inl rfl) fun ho => absurd ho (not_open rfl)
  | set x s' hs =>
    obtain ⟨_, _, _, _, _, _, cc, _, timer, -, -, rfl⟩ := Socket.set_eq_ok hs
    exact h.congr id (.inl rfl) id
  | send op s' data hs =>
    have hmay := hs.maySend
    obtain ⟨-, tx, ts, htx, -, -, rfl⟩ := hs
    have hle := h.open_le (.inl hmay)
    refine ⟨h.acked_le, ?_, h.flight_le, fun _ => ?_⟩
    · -- what was sent lies below the new octets
      intro k hk hlt
      have hlt : 1 + (k : ℤ) < y.conn.highest := hlt
      have hold : k < y.conn.enqueued.length := by omega
      obtain ⟨e, he, i, hi, hlen, hget⟩ := h.carried k hold hlt
      exact ⟨e, he, i, hi, hlen, hget.trans (List.getElem?_append_left hold).symm⟩
    · simp only [List.length_append]
      push_cast
      change y.conn.highest ≤ _
      omega
  | recv op s' n hs =>
    obtain ⟨-, rx, -, -, rfl⟩ := hs
    exact ⟨h.acked_le, h.carried, h.flight_le, h.open_le⟩
  | process cx ipRepr repr s' hs =>
    cases hs with
    | quiet hq =>
      rw [conn_process_quiet _ hq]
      obtain ⟨_, _, _, _, _, s₁, -, -, -, rfl, rfl | rfl⟩ := hq <;> exact h.congr id (.inl rfl) id
    | @reset s₁ st hctl hlisten hq hst =>
      have hsend : s₁.localSeqNo = y.socket.localSeqNo ∧ s₁.inFlight = y.socket.inFlight := by
        obtain ⟨_, _, _, _, _, s₁, -, -, -, rfl, rfl | rfl⟩ := hq <;> exact ⟨rfl, rfl⟩
      have hconn : y.conn.process y.socket { s₁ with tuple := none, state := st } = y.conn :=
        Socket.process_acked (n := 0) _ (by omega) hlisten (by simpa using hsend.1)
      rw [hconn]
      refine h.congr (absurd rfl) (.inl hsend.2) ?_
      rcases hst with ⟨rfl, hst, -⟩ | rfl
      · exact fun _ => .inr (.inr (.inr hst))
      · exact fun ho => absurd ho (not_open rfl)
    | accepted ha => exact h.accepted hbase hf hsend hok ha.control_ne ha.advances
  | dispatch cx emit s' e hs => exact h.dispatch hbase hf hsend hs

end Backed

lemma ReachableBy.backed (h : ReachableBy OnlySent y) : y.Backed := by
  refine h.induct ?_ ?_
  · intro y hy
    obtain ⟨hst, htuple, hconn⟩ := hy.new_eq
    refine ⟨?_, ?_, fun ht => absurd htuple ht, ?_⟩ <;> rw [hconn]
    · exact le_refl 0
    · exact fun k hk => absurd hk (Nat.not_lt_zero k)
    · simp [Socket.maySend, State.Opening, hst]
  · intro y op y' hreach hI hok hs
    exact hI.step hreach.base hreach.flight (fun ht => hreach.sending ht) hok hs

/-- An acknowledgement number beyond what was sent is not accepted. -/
lemma process_beyond {cx : Context} {ipRepr : IpRepr} {repr : TcpRepr} {a : SeqNumber}
    (hbase : y.socket.Base) (hf : y.socket.Flight) (hok : y.OnlySent (.process cx ipRepr repr))
    (hack : repr.ackNumber = some a) (hlt : y.conn.highest < y.position a) {s : Socket}
    (hp : y.socket.ProcessRule cx ipRepr repr s) :
    s.txBuffer = y.socket.txBuffer ∧ s.localSeqNo = y.socket.localSeqNo ∧
      s.remoteLastSeq = y.socket.remoteLastSeq ∧
      (repr.control ≠ .rst → s.state = y.socket.state) := by
  cases hp with
  | quiet hq =>
    obtain ⟨_, _, _, _, _, s₁, -, -, -, rfl, rfl | rfl⟩ := hq <;>
      exact ⟨rfl, rfl, rfl, fun _ => rfl⟩
  | reset st hctl hlisten hq hst =>
    obtain ⟨_, _, _, _, _, s₁, -, -, -, rfl, rfl | rfl⟩ := hq <;>
      exact ⟨rfl, rfl, rfl, fun hne => absurd hctl hne⟩
  | accepted ha =>
    obtain ⟨n, hn⟩ := hf.acknowledges hbase ha.advances (by simp [hack])
    have hpos : y.position (shift y.socket.localSeqNo n) = y.conn.acked + n := by
      rw [position, SeqNumber.dist_shift_nat hn.lt]
    rw [hn.ackNumber] at hack
    cases hack
    have hle := hok ha.control_ne _ hn.ackNumber
    have := hn.le
    rw [hpos] at hle hlt
    omega

/-- In every run in which the remote does not acknowledge octets that are enqueued and not sent, an
octet leaves the transmit buffer only after it was sent, and an acknowledgement number beyond the
end of what was sent changes nothing on the send side, nor the state if it does not come with an
RST. -/
theorem acknowledged_was_sent (h : ReachableBy OnlySent y) :
    (y.socket.tuple ≠ none → y.socket.txBuffer.toList = y.conn.enqueued.drop (y.conn.acked - 1)) ∧
      (y.conn.acked : ℤ) ≤ y.conn.highest ∧
      (∀ k < y.conn.enqueued.length, k + 1 < y.conn.acked → y.conn.Carried k) ∧
      ∀ cx ipRepr repr a y', Step y (.process cx ipRepr repr) y' →
        y.OnlySent (.process cx ipRepr repr) → repr.ackNumber = some a →
        y.conn.highest < y.position a →
        y'.socket.txBuffer = y.socket.txBuffer ∧ y'.socket.localSeqNo = y.socket.localSeqNo ∧
          y'.socket.remoteLastSeq = y.socket.remoteLastSeq ∧
          (repr.control ≠ .rst → y'.socket.state = y.socket.state) := by
  have hbacked := h.backed
  refine ⟨fun htuple => (h.sending htuple).txBuffer, hbacked.acked_le, ?_, ?_⟩
  · intro k hk hlt
    have := hbacked.acked_le
    exact hbacked.carried k hk (by omega)
  · intro cx ipRepr repr a y' hstep hok hack hlt
    obtain ⟨s, hs, rfl⟩ := hstep.process_rule
    exact process_beyond h.base h.flight hok hack hlt hs

/-- Three octets are sent, the first is acknowledged, and then a fourth that does not exist. -/
theorem acknowledged_was_sent_partly : ∃ y, ReachableBy OnlySent y ∧ y.conn.acked = 2 ∧
    y.conn.enqueued = [1, 2, 3] ∧ y.conn.Carried 0 ∧
    ∃ y', Step y (Sample.process 0 (Sample.segment .none 100 (some 10005) 256 [])) y' ∧
      y'.socket.txBuffer.toList = [2, 3] ∧ y'.socket.state = .established := by
  obtain ⟨y, hreach, hP⟩ := exists_sample OnlySent (fun y op => y.OnlySent op) 8
    [.listen ⟨none, 80⟩, Sample.process 0 (Sample.segment .syn 99 none 256 []), Sample.dispatch 0,
      Sample.process 0 (Sample.segment .none 100 (some 10001) 256 []), .sendSlice [1, 2, 3],
      Sample.dispatch 0, Sample.process 0 (Sample.segment .none 100 (some 10002) 256 [])]
    (fun y => y.conn.acked = 2 ∧ y.conn.enqueued = [1, 2, 3] ∧ y.socket.state = .established ∧
      y.socket.txBuffer.toList = [2, 3] ∧ y.conn.highest < y.position 10005 ∧
      y.OnlySent (Sample.process 0 (Sample.segment .none 100 (some 10005) 256 [])) ∧
      ((y.step (Sample.process 0 (Sample.segment .none 100 (some 10005) 256 []))).toOption).isSome)
    (fun _ _ => of_decide_eq_true) (by decide)
  obtain ⟨hacked, henq, hst, htx, hlt, hok, hsome⟩ := of_decide_eq_true hP
  obtain ⟨y', hy'⟩ := Option.isSome_iff_exists.mp hsome
  have hstep := step_of_toOption hy'
  obtain ⟨-, -, hcarried, hbeyond⟩ := acknowledged_was_sent hreach
  obtain ⟨htx', -, -, hst'⟩ := hbeyond _ _ _ 10005 y' hstep hok rfl hlt
  refine ⟨y, hreach, hacked, henq, hcarried 0 (by simp [henq]) (by omega), y', hstep, ?_, ?_⟩
  · rw [htx', htx]
  · rw [hst' (by decide), hst]

/-- Octets that were never sent are acknowledged. -/
theorem acknowledged_unsent : ∃ y y', Reachable y ∧
    Step y (Sample.process 0 (Sample.segment .none 100 (some 10004) 256 [])) y' ∧
    y.conn.highest < y.position 10004 ∧ (∀ e ∈ y.conn.sent, e.repr.payload = []) ∧
    y.socket.txBuffer.toList = [1, 2, 3] ∧ y'.socket.txBuffer.toList = [] := by
  obtain ⟨y, hreach, hP⟩ := exists_sample (fun _ _ => True) (fun _ _ => true) 8
    [.listen ⟨none, 80⟩, Sample.process 0 (Sample.segment .syn 99 none 256 []), Sample.dispatch 0,
      Sample.process 0 (Sample.segment .none 100 (some 10001) 256 []), .sendSlice [1, 2, 3]]
    (fun y => y.conn.highest < y.position 10004 ∧ (∀ e ∈ y.conn.sent, e.repr.payload = []) ∧
      y.socket.txBuffer.toList = [1, 2, 3] ∧
      ((y.step (Sample.process 0 (Sample.segment .none 100 (some 10004) 256 []))).toOption).any
        fun y' => y'.socket.txBuffer.toList = [])
    (fun _ _ _ => trivial) (by decide)
  obtain ⟨hlt, hsent, htx, hany⟩ := of_decide_eq_true hP
  obtain ⟨y', hy', htx'⟩ := (Option.any_eq_true _ _).mp hany
  exact ⟨y, y', hreach, step_of_toOption hy', hlt, hsent, htx, of_decide_eq_true htx'⟩

/-! ### A FIN that counts as acknowledged was sent -/

/-- The guard of a run in which the remote acknowledges at most what was sent. -/
def Honest (y : Sys) : Op → Prop
  | .process _ _ repr => ∀ a ∈ repr.ackNumber, y.position a ≤ y.conn.highest
  | _ => True

instance (y : Sys) : (op : Op) → Decidable (y.Honest op)
  | .process _ _ repr => decidable_of_iff
      (repr.ackNumber.all fun a => y.position a ≤ y.conn.highest)
      (by cases h : repr.ackNumber <;> simp [Honest, h])
  | .listen _ | .connect _ _ _ | .close | .abort | .set _ | .send _ | .sendSlice _ | .recv _
  | .recvSlice _ | .peek _ | .dispatch _ _ => .isTrue trivial

lemma Honest.onlySent (h : y.Honest op) : y.OnlySent op := by
  cases op with
  | process cx ipRepr repr =>
    intro _ a ha hlt
    have := h a ha
    omega
  | _ => trivial

/-- The guard of a run with an honest remote in which `close` is not called in SYN-RECEIVED. -/
def Orderly (y : Sys) (op : Op) : Prop := y.NoEarlyClose op ∧ y.Honest op

instance (y : Sys) (op : Op) : Decidable (y.Orderly op) := inferInstanceAs (Decidable (_ ∧ _))

/-- Nothing was sent beyond the octets enqueued, unless a FIN was. -/
def FinBacked (y : Sys) : Prop :=
  y.conn.highest ≤ y.conn.enqueued.length + 1 ∨ ∃ e, y.conn.FinSent e

namespace FinBacked

lemma start {s : Socket} {iss : SeqNumber} : FinBacked ⟨s, .start iss⟩ := by
  left
  change (0 : ℤ) ≤ ((0 : ℕ) : ℤ) + 1
  omega

lemma dispatch (h : y.FinBacked) (hb : y.Backed) (hf : y.socket.Flight) (ho : y.Opened)
    (hsend : y.socket.tuple ≠ none → y.socket.Sending y.conn) {cx : Context} {s' : Socket}
    {e : Option Emission} (hd : y.socket.DispatchRule cx s' e) :
    FinBacked ⟨s', y.conn.dispatch y.socket e⟩ := by
  cases hd with
  | noTuple htuple => exact h
  | idle htuple htimed => exact h
  | reset htuple htimed => exact h
  | @failed s₁ e htuple htimed hdec hemits =>
    have hconn : y.conn.dispatch y.socket (some e) = y.conn := if_neg (by simp [hemits.unsent])
    rw [hconn]
    exact h
  | @sent s₁ _ e htuple htimed hdec hemits hsends =>
    obtain ⟨hloc, htx, htuple₁⟩ := htimed.send_eq
    have hs := (hsend htuple).congr hloc htx htimed.state_eq ⟨rfl, rfl, rfl⟩
    have hflight := (hb.timed htimed).flight_le (by rw [htuple₁]; exact htuple)
    rw [Socket.conn_dispatch_sent _ rfl, ← hloc]
    rcases h with h | ⟨e₀, hmem, hfin, hend⟩
    · rcases (hemits.placed (hf.timed htimed)).endPos_le hs hflight with hle | ⟨hfin, hsent, hend⟩
      · exact .inl (max_le (hle.trans (max_le h le_rfl)) h)
      · right
        obtain ⟨hopen, hclosed⟩ := htimed.state_of_sentFin hsent
        have hacked : 1 ≤ y.conn.acked := by
          rcases ho htuple with h | h | h
          · exact h
          · exact absurd h hopen
          · exact absurd h hclosed
        simp only [Socket.sentFin, decide_eq_true_eq] at hsent
        have hle : y.conn.acked ≤ y.conn.enqueued.length + 1 := by
          rcases hsent with h | h | h <;>
            exact hs.acked_le (by simp [h]) (by simp [h]) (by simp [h])
        have hlen := hs.len_eq
        refine ⟨_, List.mem_cons_self, hfin, ?_⟩
        simp only
        omega
    · exact .inr ⟨e₀, List.mem_cons_of_mem _ hmem, hfin, hend⟩

lemma step (h : y.FinBacked) (hb : y.Backed) (hf : y.socket.Flight) (ho : y.Opened)
    (hsend : y.socket.tuple ≠ none → y.socket.Sending y.conn) (hs : StepRule y op y') :
    y'.FinBacked := by
  cases hs with
  | same => exact h
  | listen => exact .start
  | connect => exact .start
  | close => exact h
  | abort => exact h
  | set x s' hs => exact h
  | send op s' data hs =>
    have hle := hb.open_le (.inl hs.maySend)
    left
    change y.conn.highest ≤ ((y.conn.enqueued ++ data).length : ℤ) + 1
    rw [List.length_append]
    push_cast
    omega
  | recv op s' n hs => exact h
  | process cx ipRepr repr s' hs =>
    unfold Conn.process
    split_ifs
    · exact .start
    · exact h
  | dispatch cx emit s' e hs => exact h.dispatch hb hf ho hsend hs

end FinBacked

lemma ReachableBy.finBacked (h : ReachableBy Orderly y) : y.FinBacked := by
  refine h.induct ?_ ?_
  · intro y hy
    unfold FinBacked
    rw [hy.new_eq.2.2]
    exact @FinBacked.start y.socket 0
  · intro y op y' hreach hI hok hs
    have hearly : ReachableBy NoEarlyClose y := hreach.mono fun _ _ h => h.1
    have honest : ReachableBy OnlySent y := hreach.mono fun _ _ h => h.2.onlySent
    exact hI.step honest.backed hreach.flight hearly.opened (fun ht => hreach.sending ht) hs

/-- The transitions of a connection whose FIN is acknowledged. -/
inductive FinAcked : State → State → Prop where
  | finWait2 : FinAcked .finWait1 .finWait2
  | timeWait : FinAcked .finWait1 .timeWait
  | closing : FinAcked .closing .timeWait
  | lastAck : FinAcked .lastAck .closed

/-- An accepted segment takes these transitions only by an acknowledgement behind the FIN. -/
lemma finAcked_advances {repr : TcpRepr} {control : TcpControl} {ack : Socket.AckInfo}
    {s s' : Socket}
    (ha : s.Advances repr control s' ack) (hmove : FinAcked s.state s'.state) :
    s.sentFin ∧ s.txBuffer.len + 1 < 2 ^ 31 ∧
      repr.ackNumber = some (shift s.localSeqNo (s.txBuffer.len + 1)) := by
  cases ha with
  | listen hst => rw [hst] at hmove; cases hmove
  | syn hst => rw [hst] at hmove; cases hmove
  | synAck last hst =>
    rcases hst with ⟨hst, -⟩ | ⟨hst, -⟩ <;> rw [hst] at hmove <;> cases hmove
  | data n hne hst =>
    generalize s.state = st at hst hmove
    generalize s'.state = st' at hst hmove
    cases hst <;> cases hmove <;> contradiction
  | fin n hn hfin hst hlt hack =>
    rw [Socket.controlLen_of_sentFin hfin] at hlt
    exact ⟨hfin, hlt, by rw [hack, hn]⟩

/-- In every run in which the remote acknowledges at most what was sent and `close` is not called in
SYN-RECEIVED: a segment that is no RST takes a connection past its FIN only if a FIN was sent, and
the segment acknowledges it. -/
theorem fin_acknowledged_was_sent (h : ReachableBy Orderly y) {cx : Context} {ipRepr : IpRepr}
    {repr : TcpRepr} (hstep : Step y (.process cx ipRepr repr) y')
    (hok : y.Honest (.process cx ipRepr repr)) (hctl : repr.control ≠ .rst)
    (hmove : FinAcked y.socket.state y'.socket.state) :
    ∃ a e, repr.ackNumber = some a ∧ e ∈ y.conn.sent ∧ e.repr.control = .fin ∧
      e.pos + e.repr.payload.length < y.position a := by
  obtain ⟨s, hs, rfl⟩ := hstep.process_rule
  have hne : ∀ st, ¬ FinAcked st st := by rintro st ⟨⟩
  cases hs with
  | quiet hq =>
    rw [hq.state_eq] at hmove
    exact absurd hmove (hne _)
  | reset st hrst => exact absurd hrst hctl
  | accepted ha =>
    obtain ⟨hfin, hlt, hack⟩ := finAcked_advances ha.advances hmove
    simp only [Socket.sentFin, decide_eq_true_eq] at hfin
    have hopen : ¬ y.socket.state.Opening ∧ y.socket.state ≠ .closed ∧
      y.socket.state ≠ .listen := by
      rcases hfin with hf | hf | hf <;> simp [hf, State.Opening]
    have htuple := h.base.connected hopen.2.1 hopen.2.2
    have hsend := h.sending htuple
    have hearly : ReachableBy NoEarlyClose y := h.mono fun _ _ h => h.1
    have hacked : 1 ≤ y.conn.acked := by
      rcases hearly.opened htuple with h | h | h
      · exact h
      · exact absurd h hopen.1
      · exact absurd h hopen.2.1
    have hle : y.conn.acked ≤ y.conn.enqueued.length + 1 := by
      rcases hfin with h | h | h <;> exact hsend.acked_le (by simp [h]) (by simp [h]) (by simp [h])
    have hlen := hsend.len_eq
    have hpos : y.position (shift y.socket.localSeqNo (y.socket.txBuffer.len + 1)) =
        y.conn.enqueued.length + 2 := by
      have hd := SeqNumber.dist_shift_nat (a := y.socket.localSeqNo) hlt
      push_cast at hd
      rw [position, hd]
      omega
    have honest := hok _ hack
    rcases h.finBacked with hhigh | ⟨e, hmem, hctl, hend⟩
    · omega
    · exact ⟨_, e, hack, hmem, hctl, by omega⟩

/-- A FIN is sent and acknowledged. -/
theorem fin_acknowledged_was_sent_close : ∃ y y', ReachableBy Orderly y ∧
    Step y (Sample.process 0 (Sample.segment .none 100 (some 10002) 256 [])) y' ∧
    y.socket.state = .finWait1 ∧ y'.socket.state = .finWait2 ∧
    ∃ e ∈ y.conn.sent, e.repr.control = .fin ∧
      e.pos + e.repr.payload.length < y.position 10002 := by
  obtain ⟨y, hreach, hP⟩ := exists_sample Orderly (fun y op => y.Orderly op) 8
    [.listen ⟨none, 80⟩, Sample.process 0 (Sample.segment .syn 99 none 256 []), Sample.dispatch 0,
      Sample.process 0 (Sample.segment .none 100 (some 10001) 256 []), .close, Sample.dispatch 0]
    (fun y => y.socket.state = .finWait1 ∧
      y.Honest (Sample.process 0 (Sample.segment .none 100 (some 10002) 256 [])) ∧
      ((y.step (Sample.process 0 (Sample.segment .none 100 (some 10002) 256 []))).toOption).any
        fun y' => y'.socket.state = .finWait2)
    (fun _ _ => of_decide_eq_true) (by decide)
  obtain ⟨hst, hok, hany⟩ := of_decide_eq_true hP
  obtain ⟨y', hy', hst'⟩ := (Option.any_eq_true _ _).mp hany
  have hst' := of_decide_eq_true hst'
  have hstep := step_of_toOption hy'
  obtain ⟨a, e, ha, hmem, hfin, hlt⟩ := fin_acknowledged_was_sent hreach hstep hok (by decide)
    (by rw [hst, hst']; exact .finWait2)
  cases ha
  exact ⟨y, y', hreach, hstep, hst, hst', e, hmem, hfin, hlt⟩

/-- `close` before our SYN is acknowledged: its acknowledgement counts as one of a FIN that was not
sent. -/
theorem fin_acknowledged_unsent : ∃ y y', ReachableBy Honest y ∧
    Step y (Sample.process 0 (Sample.segment .none 100 (some 10001) 256 [])) y' ∧
    y.Honest (Sample.process 0 (Sample.segment .none 100 (some 10001) 256 [])) ∧
    y.socket.state = .finWait1 ∧ y'.socket.state = .finWait2 ∧
    ∀ e ∈ y.conn.sent, e.repr.control ≠ .fin := by
  obtain ⟨y, hreach, hP⟩ := exists_sample Honest (fun y op => y.Honest op) 8
    [.listen ⟨none, 80⟩, Sample.process 0 (Sample.segment .syn 99 none 256 []), Sample.dispatch 0,
      .close]
    (fun y => y.Honest (Sample.process 0 (Sample.segment .none 100 (some 10001) 256 [])) ∧
      y.socket.state = .finWait1 ∧ (∀ e ∈ y.conn.sent, e.repr.control ≠ .fin) ∧
      ((y.step (Sample.process 0 (Sample.segment .none 100 (some 10001) 256 []))).toOption).any
        fun y' => y'.socket.state = .finWait2)
    (fun _ _ => of_decide_eq_true) (by decide)
  obtain ⟨hok, hst, hsent, hany⟩ := of_decide_eq_true hP
  obtain ⟨y', hy', hst'⟩ := (Option.any_eq_true _ _).mp hany
  exact ⟨y, y', hreach, step_of_toOption hy', hok, hst, of_decide_eq_true hst', hsent⟩

end Sys

end Smoltcp.Tcp
