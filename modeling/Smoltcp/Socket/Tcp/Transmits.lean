import Smoltcp.Socket.Tcp.Invariants

/-!
# What a step puts on the wire

A segment leaves the socket as the reply to another one or by `dispatch`. Whichever way it takes,
an acknowledgement number in it names the octet behind the last one the socket has stored.
-/

namespace Smoltcp.Tcp

open Serial

/-- The segment that a step puts on the wire. -/
def Sys.transmits (y : Sys) : Op → Option TcpRepr
  | .process cx ipRepr repr =>
    match y.socket.process cx ipRepr repr with
    | .ok (_, some (_, reply)) => some reply
    | _ => none
  | .dispatch cx emit =>
    match y.socket.dispatch cx emit with
    | .ok (_, some e) => if e.sent then some e.repr else none
    | _ => none
  | _ => none

/-- Where a segment on the wire comes from: it is a reply, or `dispatch` has sent it. -/
inductive Sys.Transmitted (y : Sys) (r : TcpRepr) : Op → Sys → Prop where
  | reply {cx : Context} {ipRepr ip : IpRepr} {repr : TcpRepr} {s : Socket}
      (h : y.socket.process cx ipRepr repr = .ok (s, some (ip, r))) :
      Transmitted y r (.process cx ipRepr repr) ⟨s, y.conn.process y.socket s⟩
  | sent {cx : Context} {emit : IpRepr → TcpRepr → Bool} {s : Socket} {e : Emission}
      (h : y.socket.dispatch cx emit = .ok (s, some e)) (hsent : e.sent) (hr : e.repr = r) :
      Transmitted y r (.dispatch cx emit) ⟨s, y.conn.dispatch y.socket (some e)⟩

lemma Sys.Transmitted.of_step {y y' : Sys} {op : Op} {r : TcpRepr} (hstep : Step y op y')
    (ht : y.transmits op = some r) : Transmitted y r op y' := by
  unfold Step step at hstep
  unfold transmits at ht
  split at ht
  · obtain ⟨⟨s, p⟩, hs, hstep⟩ := Checked.bind_eq_ok.mp hstep
    cases hstep
    rw [hs] at ht
    split at ht
    · rename_i heq
      cases heq
      cases ht
      exact .reply hs
    · cases ht
  · obtain ⟨⟨s, e⟩, hs, hstep⟩ := Checked.bind_eq_ok.mp hstep
    cases hstep
    rw [hs] at ht
    split at ht
    · rename_i e heq
      cases heq
      split_ifs at ht with hsent
      cases ht
      exact .sent hs hsent rfl
    · cases ht
  · cases ht

namespace Socket

variable {s s' : Socket} {cx : Context} {ipRepr : IpRepr} {repr : TcpRepr} {p : Option Packet}

/-- The number of the next octet to receive. -/
def nextAck (s : Socket) : SeqNumber := shift s.remoteSeqNo s.rxBuffer.len

/-! ### Replies -/

/-- A reply takes no sequence space, and acknowledges what the socket has stored if it acknowledges
at all. -/
def Answers (s : Socket) (p : Option Packet) : Prop :=
  ∀ ip r, p = some (ip, r) →
    (∀ a, r.ackNumber = some a → a = s.nextAck) ∧ r.payload = [] ∧ r.control.len = 0

/-- The replies of `process`: none, an acknowledgement, or an RST for a segment that acknowledges
something or is no SYN. -/
inductive Replies (cx : Context) (ipRepr : IpRepr) (repr : TcpRepr) (s' : Socket) :
    Option Packet → Prop where
  | none : Replies cx ipRepr repr s' none
  | ack {s : Socket} {q : Packet} (h : s.ackReply cx ipRepr repr = .ok (s', q)) :
      Replies cx ipRepr repr s' (some q)
  | rst {q : Packet} (hctl : repr.control ≠ .syn ∨ repr.ackNumber ≠ .none)
      (h : rstReply ipRepr repr = .ok q) : Replies cx ipRepr repr s' (some q)

lemma challengeAckReply_replies (h : s.challengeAckReply cx ipRepr repr = .ok (s', p)) :
    Replies cx ipRepr repr s' p := by
  unfold challengeAckReply at h
  split_ifs at h
  · cases h
    exact .none
  · obtain ⟨⟨s₁, q⟩, hack, h⟩ := Checked.bind_eq_ok.mp h
    cases h
    exact .ack hack

lemma checkAckOfSyn_replies {a : SeqNumber} (hack : repr.ackNumber = some a)
    (h : s.checkAckOfSyn ipRepr repr a = .ok (.ret s' p)) : Replies cx ipRepr repr s' p := by
  unfold checkAckOfSyn at h
  split_ifs at h
  · obtain ⟨q, hq, h⟩ := Checked.bind_eq_ok.mp h
    cases h
    exact .rst (.inr (by rw [hack]; simp)) hq
  · cases h

lemma checkAckSynSent_replies (h : s.checkAckSynSent ipRepr repr = .ok (.ret s' p)) :
    Replies cx ipRepr repr s' p := by
  unfold checkAckSynSent at h
  split at h
  · cases hack : repr.ackNumber with
    | none =>
      rw [hack] at h
      cases h
    | some a =>
      rw [hack] at h
      exact checkAckOfSyn_replies hack h
  · rename_i hctl
    split_ifs at h
    · cases h
      exact .none
    · obtain ⟨q, hq, h⟩ := Checked.bind_eq_ok.mp h
      cases h
      exact .rst (.inl (by rw [hctl]; decide)) hq
  · cases h
    exact .none

lemma checkAckRange_replies {a : SeqNumber}
    (h : s.checkAckRange cx ipRepr repr a = .ok (.ret s' p)) : Replies cx ipRepr repr s' p := by
  unfold checkAckRange at h
  obtain ⟨ackMax, -, h⟩ := Checked.bind_eq_ok.mp h
  generalize (if s.sentSyn then shift s.localSeqNo 1 else s.localSeqNo) = ackMin at h
  split_ifs at h
  · cases h
    exact .none
  · obtain ⟨⟨s₁, q⟩, hc, h⟩ := Checked.bind_eq_ok.mp h
    cases h
    exact challengeAckReply_replies hc
  · cases h

lemma checkAckNumber_replies (h : s.checkAckNumber cx ipRepr repr = .ok (.ret s' p)) :
    Replies cx ipRepr repr s' p := by
  unfold checkAckNumber at h
  split at h
  · split_ifs at h
    cases h
  · exact checkAckSynSent_replies h
  all_goals
    cases hack : repr.ackNumber with
    | none =>
      rw [hack] at h
      cases h
      exact .none
    | some a =>
      rw [hack] at h
      first
      | exact checkAckOfSyn_replies hack h
      | exact checkAckRange_replies h

lemma checkAck_replies (h : s.checkAck cx ipRepr repr = .ok (.ret s' p)) :
    Replies cx ipRepr repr s' p := by
  unfold checkAck at h
  split_ifs at h
  · cases h
    exact .none
  · cases h
  · exact checkAckNumber_replies h

lemma trimPayload_replies {w : Span} (h : s.trimPayload cx ipRepr repr w = .ok (.ret s' p)) :
    Replies cx ipRepr repr s' p := by
  unfold trimPayload at h
  split at h
  · cases h
  · cases h
  · split_ifs at h
    · simp only [Checked.bind_eq_ok, Checked.pure_eq_ok] at h
      obtain ⟨_, _, _, _, _, _, _, _, _, _, h⟩ := h
      cases h
    · obtain ⟨⟨s₁, q⟩, hc, h⟩ := Checked.bind_eq_ok.mp h
      cases h
      unfold rejectSegment at hc
      exact challengeAckReply_replies hc

/-- Where `process` stops at the change of the state, it does not reply. -/
lemma transition_ret_reply {control : TcpControl} {aof : Bool}
    (h : s.transition cx ipRepr repr control aof = .ret s' p) : p = none := by
  unfold transition at h
  split at h
  · unfold processRst at h
    split_ifs at h <;> cases h <;> rfl
  · unfold processSyn at h
    split_ifs at h
    · cases h
      rfl
    · split at h <;> cases h
      rfl
  · unfold processFin at h
    split at h <;> (try split_ifs at h) <;> cases h
    rfl
  · unfold processNone at h
    split at h <;> (try split_ifs at h) <;> cases h
    rfl
  · cases h
    rfl

lemma receivePayload_replies {payload : List UInt8} {offset : ℕ}
    (h : s.receivePayload cx ipRepr repr payload offset = .ok (s', p)) :
    Replies cx ipRepr repr s' p := by
  unfold receivePayload at h
  split_ifs at h
  · cases h
    exact .none
  · obtain ⟨o, -, h⟩ := Checked.bind_eq_ok.mp h
    cases o with
    | none =>
      cases h
      exact .none
    | some s₁ =>
      obtain ⟨s₂, -, h⟩ := Checked.bind_eq_ok.mp h
      split_ifs at h
      · obtain ⟨⟨s₃, q⟩, hack, h⟩ := Checked.bind_eq_ok.mp h
        cases h
        exact .ack hack
      · cases h
        exact .none

theorem process_replies (h : s.process cx ipRepr repr = .ok (s', p)) :
    Replies cx ipRepr repr s' p := by
  cases Stages.of_process h with
  | checked hcheck => exact checkAck_replies hcheck
  | trimmed w hw htrim => exact trimPayload_replies htrim
  | stopped hreaches htr =>
    rw [transition_ret_reply htr]
    exact .none
  | finished s₂ hreaches htr hfin =>
    obtain ⟨s₁, -, hrecv⟩ := Checked.bind_eq_ok.mp hfin
    exact receivePayload_replies hrecv

lemma reply_empty {q : Packet} (h : reply ipRepr repr = .ok q) :
    q.2.payload = [] ∧ q.2.control = .none := by
  unfold reply at h
  obtain ⟨ip, -, h⟩ := Checked.bind_eq_ok.mp h
  cases h
  exact ⟨rfl, rfl⟩

lemma ackReply_repr {q : Packet} (h : s.ackReply cx ipRepr repr = .ok (s', q)) :
    q.2.ackNumber = some s'.nextAck ∧ q.2.windowLen = s'.scaledWindow ∧ q.2.payload = [] ∧
      q.2.control = .none := by
  unfold ackReply at h
  simp only [Checked.bind_eq_ok, SeqNumber.add_eq_ok, Checked.pure_eq_ok] at h
  obtain ⟨q₀, hreply, ack, ⟨_, rfl⟩, h⟩ := h
  cases h
  obtain ⟨hpay, hctl⟩ := reply_empty hreply
  exact ⟨rfl, rfl, hpay, hctl⟩

/-- The RST for a segment that acknowledges something, or that is no SYN, acknowledges nothing. -/
lemma rstReply_repr {q : Packet} (hctl : repr.control ≠ .syn ∨ repr.ackNumber ≠ none)
    (h : rstReply ipRepr repr = .ok q) :
    q.2.ackNumber = none ∧ q.2.payload = [] ∧ q.2.control = .rst := by
  have hnone : rstAckNumber repr = .ok none := by
    unfold rstAckNumber
    rw [if_neg]
    rintro ⟨hsyn, hack⟩
    exact hctl.elim (absurd hsyn) (absurd hack)
  unfold rstReply at h
  rw [hnone] at h
  simp only [Checked.bind_eq_ok, Checked.pure_eq_ok] at h
  obtain ⟨_, _, q₀, hreply, ack, hack, h⟩ := h
  cases hack
  cases h
  exact ⟨rfl, (reply_empty hreply).1, rfl⟩

theorem process_answers (h : s.process cx ipRepr repr = .ok (s', p)) : s'.Answers p := by
  rintro ip r rfl
  cases process_replies h with
  | ack hack =>
    obtain ⟨hnum, -, hpay, hctl⟩ := ackReply_repr hack
    rw [hnum, hctl]
    refine ⟨?_, hpay, rfl⟩
    rintro a ⟨rfl⟩
    rfl
  | rst hne hrst =>
    obtain ⟨hnum, hpay, hctl⟩ := rstReply_repr hne hrst
    rw [hnum, hctl]
    exact ⟨nofun, hpay, rfl⟩

/-! ### Segments of `dispatch` -/

lemma Builds.ackNumber_eq {r : TcpRepr} {zwp : Bool} {a : SeqNumber} (h : Builds s cx r zwp)
    (ha : r.ackNumber = some a) : a = s.nextAck := by
  cases h with
  | rst hstate hctl hseq hpay hack hwin => exact Option.some.inj (ha.symm.trans hack)
  | syn hstate hctl hseq hpay hack hwin =>
    rw [ha] at hack
    split_ifs at hack
    exact Option.some.inj hack
  | data offset room mss zwp hstate hmss hwinLen hroom hzwp hoff hseq hpay hctl hack hwin =>
    exact Option.some.inj (ha.symm.trans hack)
  | ack hstate hctl hseq hpay hack hwin => exact Option.some.inj (ha.symm.trans hack)

lemma Emits.ackNumber_eq {e : Emission} {a : SeqNumber} (h : Emits s cx e)
    (ha : e.repr.ackNumber = some a) : a = s.nextAck := by
  cases h with
  | segment r hbuilds hkeep hempty hsent hrepr =>
    obtain ⟨mss, hr⟩ := hrepr
    have heq : e.repr.ackNumber = r.ackNumber := by rw [hr]
    exact hbuilds.ackNumber_eq (heq.symm.trans ha)
  | keepAlive r hbuilds hkeep halive hempty hsent hrepr =>
    obtain ⟨mss, hr⟩ := hrepr
    have heq : e.repr.ackNumber = r.ackNumber := by
      rw [hr]
      unfold keepAliveSegment
      rfl
    exact hbuilds.ackNumber_eq (heq.symm.trans ha)

/-- Sending changes nothing on the receive side. -/
lemma Sends.rx_eq {e : Emission} (h : Sends s cx e s') :
    s'.rxBuffer = s.rxBuffer ∧ s'.remoteSeqNo = s.remoteSeqNo ∧ s'.assembler = s.assembler ∧
      s'.rxFinReceived = s.rxFinReceived ∧ s'.state = s.state := by
  cases h <;> exact ⟨rfl, rfl, rfl, rfl, rfl⟩

end Socket

/-- An acknowledgement number on the wire names the octet behind the last one stored. -/
theorem Sys.ackNumber_of_transmits {y y' : Sys} {op : Op} {r : TcpRepr} {a : SeqNumber}
    (hstep : Step y op y') (ht : y.transmits op = some r) (ha : r.ackNumber = some a) :
    a = y'.socket.nextAck := by
  cases Transmitted.of_step hstep ht with
  | reply hs => exact (Socket.process_answers hs _ _ rfl).1 a ha
  | sent hs hsent hr =>
    subst hr
    cases Socket.DispatchRule.of_dispatch hs with
    | failed htuple htimed hsend hemits => exact hemits.ackNumber_eq ha
    | sent htuple htimed hsend hemits hsends =>
      obtain ⟨hrx, hseq, -⟩ := hsends.rx_eq
      rw [hemits.ackNumber_eq ha, Socket.nextAck, Socket.nextAck, hrx, hseq]

end Smoltcp.Tcp
