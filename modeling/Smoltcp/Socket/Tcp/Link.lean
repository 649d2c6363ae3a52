import Smoltcp.Lib.Duplex
import Smoltcp.Socket.Tcp.Offers

/-!
# Two sockets and a network

Two sockets talk to each other over a network that loses, repeats, delays and reorders segments.
Each party opens one connection, and hears nothing but what the other one has said. Whatever the
order of their steps, what the application of one party is given is what the other one has enqueued.
-/

namespace Smoltcp.Tcp

open Serial Duplex

/-! ### The parties -/

/-- A socket at the network, with all segments that it has sent. -/
abbrev Peer := Party Sys Carried

/-- What a step puts on the wire is kept there. -/
def machine : Machine Sys Op Carried where
  step := Sys.Step
  sends y op y' := (y.transmits op).toList.map y'.carried

/-- Nothing but RSTs was sent. -/
def Silent (p : Peer) : Prop := ∀ c ∈ p.sent, c.repr.control = .rst

/-- The numbers in a segment are not half of the sequence space away from what its receiver has
received and has had acknowledged. -/
structure Carried.Timely (c : Carried) (y : Sys) : Prop where
  pos_ge : -2 ^ 31 ≤ c.pos - (1 + y.received)
  pos_lt : c.pos - (1 + y.received) < 2 ^ 31
  ack_ge : -2 ^ 31 ≤ (1 + c.received : ℤ) - y.conn.acked
  ack_lt : (1 + c.received : ℤ) - y.conn.acked < 2 ^ 31

/-- The segment as it was sent, but for the window, which a device may have lowered. -/
def Carried.Arrives (c : Carried) (repr : TcpRepr) : Prop :=
  ∃ windowLen ≤ c.repr.windowLen, repr = { c.repr with windowLen := windowLen }

namespace Link

/-- What is asked of a single operation: keep-alives stay off, closures leave alone what they do not
take, and a segment was sent by the peer. -/
def Heeds (p q : Peer) : Op → Prop
  | .set (.keepAlive interval) => interval = none
  | .recv f => f.KeepsRest
  | .process _ _ repr => ∃ c ∈ q.sent, c.Arrives repr ∧ c.Timely p.state
  | _ => True

/-- The guard of a run. A party may open a connection until it has spoken, and does not close it in
SYN-RECEIVED. -/
structure Ok (p q : Peer) (op : Op) : Prop where
  opens : p.state.Restarts op → Silent p
  closes : p.state.NoEarlyClose op
  heeds : Heeds p q op

/-- A new socket, whose receive buffer is empty. -/
structure Starts (p : Peer) : Prop where
  initial : p.state.Initial
  empty : p.state.socket.rxBuffer.isEmpty
  sent : p.sent = []

/-- The states of two new sockets and of what they have made of each other. -/
def Reachable (l : Pair Sys Carried) : Prop := ∃ l₀, (∀ i, Starts (l₀ i)) ∧ Run machine Ok l₀ l

end Link

/-! ### What a party hears -/

/-- A party that has heard nothing. -/
structure Sys.Blank (y : Sys) : Prop where
  state : y.socket.state = .closed ∨ y.socket.state = .listen ∨ y.socket.state = .synSent
  delivered : y.conn.delivered = []
  len : y.socket.rxBuffer.len = 0
  fin : y.socket.rxFinReceived = false

/-- What a party has received is what its peer has sent. -/
inductive Hears (p q : Peer) : Prop where
  | blank (h : p.state.Blank)
  | receiving (hspoke : ¬ Silent q)
      (h : p.state.socket.Receiving q.state.conn.iss q.state.conn.enqueued p.state.conn.delivered)
      (hfin : p.state.socket.rxFinReceived = true → ∃ c ∈ q.sent, c.repr.control = .fin)
  | gone (hspoke : ¬ Silent q) (h : p.state.socket.Gone)
      (hpre : p.state.conn.delivered <+: q.state.conn.enqueued)

/-- The window of a party and what its peer knows of it: no window that was told reaches beyond the
receive window, the peer scales it as it was meant, and the FIN of the peer lies inside it. -/
structure Link.Offers (p q : Peer) : Prop where
  scales : ∀ c ∈ q.sent, c.repr.control = .syn → ∃ k, c.repr.windowScale = some k ∧
    (k = q.state.socket.remoteWinShift ∨ q.state.socket.Gone)
  edges : ∀ c ∈ q.sent, c.repr.control ≠ .rst → c.repr.ackNumber ≠ none →
    c.received + q.state.socket.windowSize c.repr ≤ q.state.limit ∨ q.state.socket.Gone
  scale : p.state.socket.state.Unopened ∨ ¬ Silent q ∧
    ∃ k, p.state.socket.remoteWinScale = some k ∧
      (k = q.state.socket.remoteWinShift ∨ q.state.socket.Gone)
  window : p.state.conn.acked = 0 ∨ ¬ Silent q ∧
    (p.state.conn.acked + p.state.socket.remoteWinLen ≤ 1 + q.state.limit ∨ q.state.socket.Gone)
  fins : ∀ c ∈ p.sent, c.repr.control = .fin → c.repr.payload.length ≤ 1 ∨ ¬ Silent q ∧
    (c.pos + c.repr.payload.length ≤ 1 + q.state.limit ∨ q.state.socket.Gone)

/-- What holds of a party and its peer. -/
structure Link.Inv (p q : Peer) : Prop where
  reachable : p.state.ReachableBy Sys.NoEarlyClose
  noKeepAlive : p.state.socket.NoKeepAlive
  tells : ∀ c ∈ p.sent, c.Tells p.state.conn
  closed : ∀ c ∈ p.sent, c.repr.control = .fin → p.state.socket.state.HalfClosed
  acks : ∀ c ∈ p.sent, c.repr.control ≠ .rst → ∀ a, c.repr.ackNumber = some a →
    ¬ Silent q ∧ a = shift q.state.conn.iss (1 + c.received) ∧
      (c.received ≤ p.state.received ∨ p.state.socket.Gone)
  hears : Hears p q
  acked : p.state.conn.acked = 0 ∨ ¬ Silent q ∧
    (p.state.conn.acked ≤ 1 + q.state.received ∨ q.state.socket.Gone)
  offers : Offers p q

variable {p q p' : Peer} {op : Op} {y y' : Sys}

lemma Silent.of_moves (hmove : machine.Moves p op p') (h : Silent p') : Silent p :=
  fun c hc => h c (hmove.mem hc)

lemma mem_sent_of_moves {c : Carried} (hmove : machine.Moves p op p') (hc : c ∈ p'.sent) :
    c ∈ p.sent ∨ ∃ r, p.state.transmits op = some r ∧ c = p'.state.carried r := by
  rw [hmove.sent, List.mem_append] at hc
  rcases hc with hc | hc
  · obtain ⟨r, hr, rfl⟩ := List.mem_map.mp hc
    exact .inr ⟨r, Option.mem_toList.mp hr, rfl⟩
  · exact .inl hc

/-! ### Receiving -/

/-- What is received of a stream is received of every stream that continues it, unless the end was
already seen. -/
lemma Socket.Receiving.grow {isn : SeqNumber} {S delivered data : List UInt8} {s : Socket}
    (h : s.Receiving isn S delivered) (hdata : data = [] ∨ s.rxFinReceived = false) :
    s.Receiving isn (S ++ data) delivered := by
  rcases hdata with rfl | hfin
  · rw [List.append_nil]
    exact h
  · have hdrop : (S ++ data).drop delivered.length = S.drop delivered.length ++ data :=
      List.drop_append_of_le_length h.taken.length_le
    refine ⟨h.taken.trans (List.prefix_append S data), ⟨?_, ?_⟩, h.nextAck, ?_, h.state⟩
    · rw [hdrop]
      exact h.reassembles.stored.trans (List.prefix_append _ data)
    · intro p hp
      obtain ⟨hlt, hview⟩ := h.reassembles.ahead p hp
      rw [hdrop, List.length_append, hview, List.getElem?_append_left hlt]
      exact ⟨Nat.lt_add_right _ hlt, rfl⟩
    · intro hf
      rw [hfin] at hf
      cases hf

namespace Socket

variable {s : Socket} {cx : Context}

/-- Without a remote there is nothing to acknowledge. -/
lemma Builds.mute {r : TcpRepr} {zwp : Bool} (h : Builds s cx r zwp)
    (hst : s.state = .closed ∨ s.state = .listen ∨ s.state = .synSent) :
    r.control = .rst ∨ r.ackNumber = none := by
  cases h with
  | rst hstate hctl => exact .inl hctl
  | syn hstate hctl hseq hpay hack =>
    right
    rw [hack, if_pos]
    rcases hst with hst | hst | hst
    · simp [hst] at hstate
    · simp [hst] at hstate
    · exact hst
  | data offset room mss zwp hstate => rcases hst with hst | hst | hst <;> simp [hst] at hstate
  | ack hstate => rcases hst with hst | hst | hst <;> simp [hst] at hstate

lemma Emits.mute {e : Emission} (h : Emits s cx e)
    (hst : s.state = .closed ∨ s.state = .listen ∨ s.state = .synSent) :
    e.repr.control = .rst ∨ e.repr.ackNumber = none := by
  cases h with
  | segment r hb _ _ _ hrepr =>
    obtain ⟨mss, hr⟩ := hrepr
    have hmute := hb.mute hst
    rw [hr]
    exact hmute
  | keepAlive r hb _ _ _ _ hrepr =>
    obtain ⟨mss, hr⟩ := hrepr
    have hctl : e.repr.control = r.control := by simp only [hr, (keepAliveSegment_eq r).2.1]
    have hack : e.repr.ackNumber = r.ackNumber := by
      rw [hr]
      unfold keepAliveSegment
      rfl
    rw [hctl, hack]
    exact hb.mute hst

end Socket

namespace Sys

/-- A segment that is processed is for a socket that is not closed. -/
lemma state_ne_of_process {cx : Context} {ipRepr : IpRepr} {repr : TcpRepr}
    (hstep : Step y (.process cx ipRepr repr) y') : y.socket.state ≠ .closed := by
  obtain ⟨_, hs, -⟩ := Checked.bind_eq_ok.mp hstep
  obtain ⟨_, haccepts, -⟩ := Checked.bind_eq_ok.mp hs
  exact (Checked.assert_eq_ok.mp haccepts).1

/-- A reset connection hears nothing any more. -/
lemma gone_of_step (h : y.socket.Gone) (hstart : ¬ y.Restarts op) (hok : op.KeepsRest)
    (hstep : Step y op y') : y'.socket.Gone := by
  refine @gone_step y y' op (fun _ _ => True) h ?_ (.of_step hstep)
  cases op with
  | listen => exact hstart trivial
  | connect => exact hstart trivial
  | process cx ipRepr repr => exact absurd h.state (state_ne_of_process hstep)
  | recv f => exact hok
  | _ => trivial

/-- An RST ends the connection, or takes it back to where nothing was heard. -/
lemma receiving_of_rst {isn : SeqNumber} {S : List UInt8} {cx : Context} {ipRepr : IpRepr}
    {repr : TcpRepr} {s' : Socket} (hbase : y.socket.Base) (hfresh : y.Fresh)
    (h : y.socket.Receiving isn S y.conn.delivered) (hctl : repr.control = .rst)
    (hs : y.socket.ProcessRule cx ipRepr repr s') :
    s'.Receiving isn S (y.conn.process y.socket s').delivered ∧
        s'.rxFinReceived = y.socket.rxFinReceived ∨
      Blank ⟨s', y.conn.process y.socket s'⟩ ∧ s'.state = .listen := by
  cases hs with
  | accepted ha => exact absurd hctl ha.control_ne
  | quiet hq =>
    left
    rw [conn_process_quiet _ hq]
    refine ⟨h.quiet hq, ?_⟩
    obtain ⟨_, _, _, _, _, s₁, -, -, -, rfl, rfl | rfl⟩ := hq <;> rfl
  | @reset s₁ st _ hlisten hq hst =>
    have hconn : (y.conn.process y.socket { s₁ with tuple := none, state := st }).delivered =
        y.conn.delivered := conn_process_delivered _ hlisten
    have hfin : s₁.rxFinReceived = y.socket.rxFinReceived := by
      obtain ⟨_, _, _, _, _, s₂, -, -, -, rfl, rfl | rfl⟩ := hq <;> rfl
    rcases hst with ⟨rfl, hsr, -⟩ | rfl
    · right
      have hopen : y.socket.state.Opening := .inr (.inr hsr)
      obtain ⟨hlen, hnofin⟩ := hbase.rx_opening hopen
      refine ⟨⟨.inr (.inl rfl), hconn.trans (hfresh hopen).2, ?_, hfin.trans hnofin⟩, rfl⟩
      obtain ⟨_, _, _, _, _, s₂, -, -, -, rfl, rfl | rfl⟩ := hq <;> exact hlen
    · left
      simp only [hconn]
      exact ⟨(h.quiet hq).congr rfl rfl rfl rfl (.inl rfl), hfin⟩

/-- The only thing a party that has heard nothing pays attention to is a SYN. -/
lemma Blank.step (h : y.Blank) (hs : StepRule y op y') : y'.Blank ∨
    y'.socket.state ≠ y.socket.state ∧
      ∃ cx ipRepr repr, op = .process cx ipRepr repr ∧ repr.control = .syn := by
  obtain ⟨hst, hdel, hlen, hfin⟩ := h
  cases hs with
  | same => exact .inl ⟨hst, hdel, hlen, hfin⟩
  | listen => exact .inl ⟨.inr (.inl rfl), rfl, rfl, rfl⟩
  | connect => exact .inl ⟨.inr (.inr rfl), rfl, rfl, rfl⟩
  | close =>
    obtain ⟨st, heq, hst'⟩ := y.socket.close_eq
    rw [heq]
    refine .inl ⟨?_, hdel, hlen, hfin⟩
    rcases hst with hst | hst | hst <;> simp [hst] at hst' <;> simp [Socket.setState, hst']
  | abort => exact .inl ⟨.inl rfl, hdel, hlen, hfin⟩
  | set x s' hs =>
    obtain ⟨_, _, _, _, _, _, cc, _, timer, -, -, rfl⟩ := Socket.set_eq_ok hs
    exact .inl ⟨hst, hdel, hlen, hfin⟩
  | send op s' data hs =>
    have hmay := hs.maySend
    rcases hst with hst | hst | hst <;> simp [Socket.maySend, hst] at hmay
  | recv op s' n hs =>
    have hmay := hs.mayRecv
    rcases hst with hst | hst | hst <;>
      simp [Socket.mayRecv, RingBuffer.isEmpty, hst, hlen] at hmay
  | process cx ipRepr repr s' hs =>
    have hconn : (y.conn.process y.socket s').delivered = [] := by
      unfold Conn.process
      split_ifs
      · rfl
      · exact hdel
    cases hs with
    | quiet hq =>
      left
      refine ⟨?_, hconn, ?_, ?_⟩
      · rw [hq.state_eq]
        exact hst
      · obtain ⟨_, _, _, _, _, s₁, -, -, -, rfl, rfl | rfl⟩ := hq <;> exact hlen
      · obtain ⟨_, _, _, _, _, s₁, -, -, -, rfl, rfl | rfl⟩ := hq <;> exact hfin
    | reset st hctl hlisten hq hst' =>
      left
      refine ⟨?_, hconn, ?_, ?_⟩
      · rcases hst' with ⟨rfl, -⟩ | rfl
        · exact .inr (.inl rfl)
        · exact .inl rfl
      · obtain ⟨_, _, _, _, _, s₁, -, -, -, rfl, rfl | rfl⟩ := hq <;> exact hlen
      · obtain ⟨_, _, _, _, _, s₁, -, -, -, rfl, rfl | rfl⟩ := hq <;> exact hfin
    | @accepted w ack payload offset s₁ s₂ s₃ _ ha =>
      right
      have hctl : repr.control = .syn := by
        have hst₁ := ha.state_eq
        cases ha.transits with
        | synListen hctl => exact Socket.control_of_effectiveControl hctl
        | synSent hctl => exact Socket.control_of_effectiveControl hctl
        | moved st hmove =>
          rw [hst₁] at hmove
          rcases hst with hst | hst | hst
          · exact absurd hst hmove.ne.1
          · exact absurd hst hmove.ne.2.1
          · exact absurd hst hmove.ne.2.2.2.1
      obtain ⟨hfrom, hto, -⟩ := ha.of_syn hctl
      refine ⟨?_, cx, ipRepr, repr, rfl, hctl⟩
      rcases hfrom with h | h <;> rcases hto with h' | h' <;> simp [h, h']
  | dispatch cx emit s' e hs =>
    left
    have hconn : (y.conn.dispatch y.socket e).delivered = [] :=
      (conn_dispatch_delivered _ _ _).trans hdel
    have hst' : s'.state = .closed ∨ s'.state = .listen ∨ s'.state = .synSent := by
      rcases hs.state_eq with heq | heq
      · rw [heq]
        exact hst
      · exact .inl heq
    refine ⟨hst', hconn, ?_, ?_⟩
    · cases hs with
      | noTuple => exact hlen
      | idle _ htimed =>
        simp only
        rw [htimed.rx_eq.1]
        exact hlen
      | reset => rfl
      | failed _ htimed =>
        simp only
        rw [htimed.rx_eq.1]
        exact hlen
      | sent _ htimed _ _ hsends =>
        simp only
        rw [hsends.rx_eq.1, htimed.rx_eq.1]
        exact hlen
    · cases hs with
      | noTuple => exact hfin
      | idle _ htimed => exact htimed.fin_eq.trans hfin
      | reset => rfl
      | failed _ htimed => exact htimed.fin_eq.trans hfin
      | sent _ htimed _ _ hsends =>
        exact hsends.rx_eq.2.2.2.1.trans (htimed.fin_eq.trans hfin)

/-- A party that has heard nothing acknowledges nothing. -/
lemma Blank.mute (h : y.Blank) {r : TcpRepr} (hstep : Step y op y')
    (ht : y.transmits op = some r) : r.control = .rst ∨ r.ackNumber = none := by
  cases Transmitted.of_step hstep ht with
  | reply hs =>
    left
    refine Socket.control_of_reply hs ?_
    rcases h.state with hst | hst | hst
    · exact absurd hst (state_ne_of_process hstep)
    · exact .inl hst
    · exact .inr (.inl hst)
  | sent hs hsent hr =>
    obtain ⟨s₁, e₀, htimed, hemits, hrepr, -⟩ := (Socket.DispatchRule.of_dispatch hs).emits
    rw [← hr, hrepr]
    refine hemits.mute ?_
    rcases htimed.state_eq with hst | hst
    · rw [hst]
      exact h.state
    · exact .inl hst

/-- A party that listens, before a step or after it, sends nothing but RSTs. -/
lemma rst_of_transmits {r : TcpRepr} (hstep : Step y op y') (ht : y.transmits op = some r)
    (hst : y.Restarts op ∨ y'.socket.state = .listen) : r.control = .rst := by
  cases Transmitted.of_step hstep ht with
  | reply hs =>
    refine Socket.control_of_reply hs ?_
    rcases hst with hst | hst
    · exact .inl hst
    · exact .inr (.inr hst)
  | sent hs hsent hr =>
    have hlisten := hst.resolve_left id
    cases Socket.DispatchRule.of_dispatch hs with
    | failed _ _ _ hemits => exact absurd hlisten hemits.state_ne
    | sent _ _ _ hemits hsends =>
      rw [hsends.state_eq] at hlisten
      exact absurd hlisten hemits.state_ne

/-- A connection that is received stays in line with what the peer has enqueued, whatever the peer
has sent. -/
lemma receiving_of_step {isn : SeqNumber} {S : List UInt8} {ok : Sys → Op → Prop}
    (hreach : ReachableBy ok y) (h : y.socket.Receiving isn S y.conn.delivered)
    (hkeeps : op.KeepsRest)
    (hpeer : ∀ cx ipRepr repr, op = .process cx ipRepr repr → FinFits y.socket repr ∧
      (repr.control ≠ .rst → FromPeer isn S y.received repr))
    (hs : StepRule y op y') :
    y'.socket.Receiving isn S y'.conn.delivered ∧
        (y'.socket.rxFinReceived = true → y.socket.rxFinReceived = true ∨
          ∃ cx ipRepr repr, op = .process cx ipRepr repr ∧ repr.control = .fin) ∨
      y'.socket.Gone ∧ (∃ cx emit, op = .dispatch cx emit) ∧ y.socket.rxFinReceived = true ∨
      y'.Blank ∧ (y.Restarts op ∨ y'.socket.state = .listen) := by
  have hcall : y.InConnection (fun z repr => FromPeer isn S z.received repr ∧
      FinFits z.socket repr) op →
      y'.socket.Receiving isn S y'.conn.delivered ∧
          (y'.socket.rxFinReceived = true → y.socket.rxFinReceived = true ∨
            ∃ cx ipRepr repr, op = .process cx ipRepr repr ∧ repr.control = .fin) ∨
        y'.socket.Gone ∧ (∃ cx emit, op = .dispatch cx emit) ∧ y.socket.rxFinReceived = true ∨
        y'.Blank ∧ (y.Restarts op ∨ y'.socket.state = .listen) := by
    intro hok
    rcases receiving_step hreach.base h (fun _ => id) hok hs with h' | ⟨hfin, hgone, hop⟩
    · exact .inl h'
    · exact .inr (.inl ⟨hgone, hop, hfin⟩)
  cases hs with
  | same => exact .inl ⟨h, .inl⟩
  | listen => exact .inr (.inr ⟨⟨.inr (.inl rfl), rfl, rfl, rfl⟩, .inl trivial⟩)
  | connect => exact .inr (.inr ⟨⟨.inr (.inr rfl), rfl, rfl, rfl⟩, .inl trivial⟩)
  | close => exact hcall trivial
  | abort => exact hcall trivial
  | set => exact hcall trivial
  | dispatch => exact hcall trivial
  | send op s' data hs =>
    obtain ⟨-, tx, ts, -, -, -, rfl⟩ := hs
    exact .inl ⟨h.congr rfl rfl rfl rfl h.state, .inl⟩
  | recv op s' n hs =>
    have hs' : y.socket.Dequeues s' n True := by
      obtain ⟨hmay, rx, hshrinks, hlist, rfl⟩ := hs
      exact ⟨hmay, rx, hshrinks, fun _ => hlist hkeeps, rfl⟩
    refine .inl ⟨h.dequeues hreach.base hs', ?_⟩
    obtain ⟨-, rx, -, -, rfl⟩ := hs'
    exact .inl
  | process cx ipRepr repr s' hs =>
    obtain ⟨hfits, hfrom⟩ := hpeer cx ipRepr repr rfl
    by_cases hctl : repr.control = .rst
    · rcases receiving_of_rst hreach.base hreach.fresh h hctl hs with ⟨h', hfin⟩ | ⟨hb, hl⟩
      · exact .inl ⟨h', fun hf => .inl (hfin ▸ hf)⟩
      · exact .inr (.inr ⟨hb, .inr hl⟩)
    · exact hcall ⟨hctl, hfrom hctl, hfits⟩

end Sys

/-! ### The invariant -/

namespace Link

lemma Ok.keepsRest (h : Ok p q op) : op.KeepsRest := by
  have hop := h.heeds
  cases op with
  | recv f => exact hop
  | _ => trivial

lemma Ok.not_keepAlive (h : Ok p q op) (interval : Duration) :
    op ≠ .set (.keepAlive (some interval)) := by
  rintro rfl
  exact absurd h.heeds (by simp [Heeds])

/-- A party that has spoken does not open another connection. -/
lemma Ok.not_restarts (h : Ok p q op) (hspoke : ¬ Silent p) : ¬ p.state.Restarts op :=
  fun hop => hspoke (h.opens hop)

lemma not_silent {c : Carried} (hc : c ∈ p.sent) (hctl : c.repr.control ≠ .rst) : ¬ Silent p :=
  fun hs => hctl (hs c hc)

/-- What was told stays true. -/
lemma Inv.tells_step (h : Inv p q) (hok : Ok p q op) (hmove : machine.Moves p op p') {c : Carried}
    (hc : c ∈ p'.sent) :
    c.Tells p'.state.conn ∧ (c.repr.control = .fin → p'.state.socket.state.HalfClosed) := by
  have hrule := StepRule.of_step hmove.step
  rcases mem_sent_of_moves hmove hc with hc | ⟨r, hr, rfl⟩
  · by_cases hrst : c.repr.control = .rst
    · exact ⟨.rst hrst, fun hfin => by simp [hrst] at hfin⟩
    · have hstart := hok.not_restarts (not_silent hc hrst)
      obtain ⟨hiss, data, henq, hdata⟩ := Sys.enqueued_step hrule hstart
      constructor
      · refine (h.tells c hc).grow hiss henq ?_
        rcases hdata with hdata | hmay
        · exact .inl hdata
        · exact .inr fun hfin => (h.closed c hc hfin).not_maySend hmay
      · intro hfin
        refine (h.closed c hc hfin).step ?_ ?_ hrule
        · rintro endpoint rfl
          exact hstart trivial
        · rintro cx remote endpoint rfl
          exact hstart trivial
  · exact Sys.tells_of_transmits h.reachable h.noKeepAlive hmove.step hr

lemma received_or_gone (hok : Ok p q op) (hmove : machine.Moves p op p') (hspoke : ¬ Silent p)
    {n : ℕ}
    (h : n ≤ p.state.received ∨ p.state.socket.Gone) :
    n ≤ p'.state.received ∨ p'.state.socket.Gone := by
  have hstart := hok.not_restarts hspoke
  rcases h with h | h
  · exact (Sys.received_step (.of_step hmove.step) hstart).imp (h.trans ·) id
  · exact .inr (Sys.gone_of_step h hstart hok.keepsRest hmove.step)

/-- A FIN of the peer that is next in line has a payload that fits the window. -/
lemma Inv.finFits (h : Inv q p) (hmove : machine.Moves p op p') {cx : Context} {ipRepr : IpRepr}
    {repr : TcpRepr} (hop : op = .process cx ipRepr repr)
    (hr : p.state.socket.Receiving q.state.conn.iss q.state.conn.enqueued p.state.conn.delivered)
    {c : Carried} (hc : c ∈ q.sent) (harrives : c.Arrives repr) (htimely : c.Timely p.state) :
    FinFits p.state.socket repr := by
  subst hop
  obtain ⟨w, -, rfl⟩ := harrives
  intro (hctl : c.repr.control = .fin) (hseq : c.repr.seqNumber = _)
  rcases h.offers.fins c hc hctl with hle | ⟨-, hle | hgone⟩
  · simp only
    omega
  · have hpos : c.pos = 1 + p.state.received := by
      cases h.tells c hc with
      | rst hrst => simp [hctl] at hrst
      | empty hne => exact absurd hctl hne.2
      | syn hsyn => simp [hctl] at hsyn
      | data o _ hpos hnum =>
        have hge := htimely.pos_ge
        have hlt := htimely.pos_lt
        rw [hr.nextAck, ← Sys.received_eq] at hseq
        have hdist := congrArg (dist · (shift q.state.conn.iss (1 + p.state.received)))
          (hnum.symm.trans hseq)
        rw [dist_shift_shift_of_lt _ (by omega) (by omega), Serial.dist_self] at hdist
        omega
    left
    simp only
    unfold Sys.limit at hle
    push_cast at hle
    omega
  · exact absurd hgone.state (Sys.state_ne_of_process hmove.step)

/-- What a segment of the peer tells its receiver. -/
lemma Inv.fromPeer (h : Inv q p) (hok : Ok p q op) (hmove : machine.Moves p op p')
    (hr : p.state.socket.Receiving q.state.conn.iss q.state.conn.enqueued p.state.conn.delivered)
    (cx : Context) (ipRepr : IpRepr) (repr : TcpRepr) (hop : op = .process cx ipRepr repr) :
    FinFits p.state.socket repr ∧ (repr.control ≠ .rst →
      FromPeer q.state.conn.iss q.state.conn.enqueued p.state.received repr) := by
  obtain ⟨c, hc, harrives, htimely⟩ : ∃ c ∈ q.sent, c.Arrives repr ∧ c.Timely p.state := by
    have hheeds := hok.heeds
    rw [hop] at hheeds
    exact hheeds
  refine ⟨h.finFits hmove hop hr hc harrives htimely, fun hctl => ?_⟩
  obtain ⟨w, -, rfl⟩ := harrives
  cases (h.tells c hc).fromPeer hctl htimely.pos_ge htimely.pos_lt with
  | empty hpay hfin => exact .empty hpay hfin
  | data o hseq hpay hfin hlo hhi => exact .data o hseq hpay hfin hlo hhi

lemma Inv.hears_blank (hq : Inv q p) (hreach : p.state.ReachableBy Sys.NoEarlyClose)
    (h : p.state.Blank) (hok : Ok p q op) (hmove : machine.Moves p op p') : Hears p' q := by
  rcases h.step (.of_step hmove.step) with h' | ⟨hne, cx, ipRepr, repr, rfl, hctl⟩
  · exact .blank h'
  · obtain ⟨c, hc, ⟨w, -, rfl⟩, -⟩ := hok.heeds
    have hspoke : ¬ Silent q := not_silent hc (by rw [hctl]; decide)
    have hopen : p.state.Opens q.state.conn.iss p'.state :=
      ⟨hreach.reachable, ⟨cx, ipRepr, _, hctl, (hq.tells c hc).seqNumber_of_syn hctl,
        hmove.step⟩, hne⟩
    obtain ⟨hr, hfin⟩ := hopen.receiving (S := q.state.conn.enqueued)
    refine .receiving hspoke hr fun hf => ?_
    rw [hfin] at hf
    cases hf

lemma hears_gone (hspoke : ¬ Silent q) (h : p.state.socket.Gone)
    (hpre : p.state.conn.delivered <+: q.state.conn.enqueued) (hok : Ok p q op)
    (hmove : machine.Moves p op p') : Hears p' q := by
  have hrule := StepRule.of_step hmove.step
  have hgone : ¬ p.state.Restarts op → p'.state.socket.Gone :=
    fun hstart => Sys.gone_of_step h hstart hok.keepsRest hmove.step
  generalize hy : p'.state = y' at hrule hgone
  cases hrule with
  | same => exact .gone hspoke (hy ▸ h) (hy ▸ hpre)
  | listen => exact .blank (hy ▸ ⟨.inr (.inl rfl), rfl, rfl, rfl⟩)
  | connect => exact .blank (hy ▸ ⟨.inr (.inr rfl), rfl, rfl, rfl⟩)
  | close => exact .gone hspoke (hy ▸ hgone id) (hy ▸ hpre)
  | abort => exact .gone hspoke (hy ▸ hgone id) (hy ▸ hpre)
  | set => exact .gone hspoke (hy ▸ hgone id) (hy ▸ hpre)
  | send op s' data hs =>
    have hmay := hs.maySend
    simp [Socket.maySend, h.state] at hmay
  | recv op s' n hs =>
    have hmay := hs.mayRecv
    simp [Socket.mayRecv, RingBuffer.isEmpty, h.state, h.len] at hmay
  | process => exact absurd h.state (Sys.state_ne_of_process hmove.step)
  | dispatch cx emit s' e hs =>
    refine .gone hspoke (hy ▸ hgone id) ?_
    rw [hy, Sys.conn_dispatch_delivered]
    exact hpre

lemma Inv.hears_step (h : Inv p q) (hq : Inv q p) (hok : Ok p q op)
    (hmove : machine.Moves p op p') : Hears p' q := by
  cases h.hears with
  | blank hb => exact hq.hears_blank h.reachable hb hok hmove
  | gone hspoke hgone hpre => exact hears_gone hspoke hgone hpre hok hmove
  | receiving hspoke hr hfin =>
    rcases Sys.receiving_of_step h.reachable hr hok.keepsRest (hq.fromPeer hok hmove hr)
      (.of_step hmove.step) with ⟨hr', hf⟩ | ⟨hgone, ⟨cx, emit, rfl⟩, -⟩ | ⟨hb, -⟩
    · refine .receiving hspoke hr' fun hf' => ?_
      rcases hf hf' with hf | ⟨cx, ipRepr, repr, rfl, hctl⟩
      · exact hfin hf
      · obtain ⟨c, hc, ⟨w, -, rfl⟩, -⟩ := hok.heeds
        exact ⟨c, hc, hctl⟩
    · refine .gone hspoke hgone ?_
      obtain ⟨⟨s, e⟩, -, hstep⟩ := Checked.bind_eq_ok.mp hmove.step
      rw [← Except.ok.inj hstep, Sys.conn_dispatch_delivered]
      exact hr.taken
    · exact .blank hb

/-- An acknowledgement names what was received of the peer. -/
lemma Inv.ack_of_transmits (h : Inv p q) (hq : Inv q p) (hok : Ok p q op)
    (hmove : machine.Moves p op p') {r : TcpRepr} {a : SeqNumber}
    (ht : p.state.transmits op = some r) (hctl : r.control ≠ .rst) (ha : r.ackNumber = some a) :
    ¬ Silent q ∧ a = shift q.state.conn.iss (1 + p'.state.received) := by
  cases h.hears with
  | blank hb =>
    rcases hb.mute hmove.step ht with hrst | hnone
    · exact absurd hrst hctl
    · rw [hnone] at ha
      cases ha
  | gone _ hgone =>
    rw [Sys.gone_transmits hgone] at ht
    cases ht
  | receiving hspoke hr =>
    refine ⟨hspoke, ?_⟩
    rcases Sys.receiving_of_step h.reachable hr hok.keepsRest (hq.fromPeer hok hmove hr)
      (.of_step hmove.step) with ⟨hr', -⟩ | ⟨hgone, ⟨cx, emit, rfl⟩, hfin⟩ | ⟨-, hl⟩
    · rw [Sys.ackNumber_of_transmits hmove.step ht ha, hr'.nextAck, Sys.received_eq]
    · have hkeep := Sys.fin_of_dispatch_transmits hmove.step ht
      rw [hfin, hgone.fin] at hkeep
      cases hkeep
    · exact absurd (Sys.rst_of_transmits hmove.step ht hl) hctl

/-- The segment that an acknowledgement came with. -/
lemma Inv.exists_ack (hq : Inv q p) {cx : Context} {ipRepr : IpRepr} {repr : TcpRepr}
    (hok : Ok p q (.process cx ipRepr repr)) (hctl : repr.control ≠ .rst) {n : ℕ} (hn : n < 2 ^ 31)
    (hack : repr.ackNumber = some (shift p.state.conn.iss (p.state.conn.acked + n))) :
    ∃ c ∈ q.sent, c.Arrives repr ∧ p.state.conn.acked + n = 1 + c.received ∧
      (c.received ≤ q.state.received ∨ q.state.socket.Gone) := by
  obtain ⟨c, hc, harrives, htimely⟩ := hok.heeds
  obtain ⟨w, -, rfl⟩ := id harrives
  obtain ⟨-, hnum, hle⟩ := hq.acks c hc hctl _ hack
  refine ⟨c, hc, harrives, ?_, hle⟩
  have hge := htimely.ack_ge
  have hlt := htimely.ack_lt
  have hdist := congrArg (dist · (shift p.state.conn.iss p.state.conn.acked)) hnum
  rw [dist_shift_shift_of_lt _ (by omega) (by omega),
    dist_shift_shift_of_lt _ (by omega) (by omega)] at hdist
  omega

/-- What is acknowledged was received. -/
lemma Inv.acked_le (h : Inv p q) (hq : Inv q p) (hok : Ok p q op)
    (hmove : machine.Moves p op p') : p'.state.conn.acked = 0 ∨ ¬ Silent q ∧
      (p'.state.conn.acked ≤ 1 + q.state.received ∨ q.state.socket.Gone) := by
  rcases Sys.acked_step h.reachable (.of_step hmove.step) with
    ⟨heq, -⟩ | hzero | ⟨cx, ipRepr, repr, n, rfl, hctl, hn, hack, heq, -⟩
  · rw [heq]
    exact h.acked
  · exact .inl hzero
  · right
    obtain ⟨c, hc, ⟨w, -, rfl⟩, hnum, hle⟩ := hq.exists_ack hok hctl hn hack
    refine ⟨not_silent hc hctl, ?_⟩
    rw [heq, hnum]
    exact hle.imp (fun hle => Nat.add_le_add_left hle 1) id

/-! ### Windows -/

/-- The end of the receive window is not taken back. -/
lemma limit_or_gone (hok : Ok p q op) (hmove : machine.Moves p op p') (hspoke : ¬ Silent p) {n : ℤ}
    (h : n ≤ p.state.limit ∨ p.state.socket.Gone) :
    n ≤ p'.state.limit ∨ p'.state.socket.Gone := by
  have hstart := hok.not_restarts hspoke
  rcases h with h | h
  · exact (Sys.limit_step (.of_step hmove.step) hstart).imp (fun hle => by omega) id
  · exact .inr (Sys.gone_of_step h hstart hok.keepsRest hmove.step)

namespace Offers

/-- The own scale stays what it was offered to be. -/
lemma winShift_or_gone (h : Offers p q) (hok : Ok p q op) (hmove : machine.Moves p op p')
    (hspoke : ¬ Silent p) {k : UInt8}
    (hk : k = p.state.socket.remoteWinShift ∨ p.state.socket.Gone) :
    k = p'.state.socket.remoteWinShift ∨ p'.state.socket.Gone := by
  have hstart := hok.not_restarts hspoke
  rcases hk with rfl | hgone
  · rcases Sys.winShift_step (.of_step hmove.step) hstart with
      heq | hgone | ⟨cx, ipRepr, repr, rfl, hctl, hnone⟩
    · exact .inl heq.symm
    · exact .inr hgone
    · obtain ⟨c, hc, ⟨w, -, rfl⟩, -⟩ := hok.heeds
      obtain ⟨k, hk, -⟩ := h.scales c hc hctl
      rw [hnone] at hk
      cases hk
  · exact .inr (Sys.gone_of_step hgone hstart hok.keepsRest hmove.step)

lemma scale_step (h : Offers p q) (hok : Ok p q op) (hmove : machine.Moves p op p') :
    p'.state.socket.state.Unopened ∨ ¬ Silent q ∧ ∃ k, p'.state.socket.remoteWinScale = some k ∧
      (k = q.state.socket.remoteWinShift ∨ q.state.socket.Gone) := by
  rcases Sys.winScale_step (.of_step hmove.step) with
    hun | ⟨hopen, heq⟩ | ⟨cx, ipRepr, repr, rfl, hctl, heq⟩
  · exact .inl hun
  · rw [heq]
    exact .inr (h.scale.resolve_left hopen)
  · obtain ⟨c, hc, ⟨w, -, rfl⟩, -⟩ := hok.heeds
    obtain ⟨k, hk, hshift⟩ := h.scales c hc hctl
    exact .inr ⟨not_silent hc (by rw [hctl]; decide), k, heq.trans hk, hshift⟩

/-- The owner of the window moves. -/
lemma move_owner (h : Offers p q) (hq : Offers q p) (hok : Ok q p op) {q' : Peer}
    (hmove : machine.Moves q op q') : Offers p q' := by
  have hspeaks : ¬ Silent q → ¬ Silent q' := fun hspoke hs => hspoke (hs.of_moves hmove)
  constructor
  case scales =>
    intro c hc hctl
    rcases mem_sent_of_moves hmove hc with hc | ⟨r, hr, rfl⟩
    · obtain ⟨k, hk, hshift⟩ := h.scales c hc hctl
      exact ⟨k, hk, hq.winShift_or_gone hok hmove (not_silent hc (by rw [hctl]; decide)) hshift⟩
    · rcases Sys.windowScale_of_transmits hmove.step hr hctl with hscale | ⟨hst, hnone⟩
      · exact ⟨_, hscale, .inl rfl⟩
      · rcases hq.scale_step hok hmove with hun | ⟨-, k, hk, -⟩
        · rw [hst] at hun
          rcases hun with hun | hun | hun <;> cases hun
        · rw [hnone] at hk
          cases hk
  case edges =>
    intro c hc hctl hack
    rcases mem_sent_of_moves hmove hc with hc | ⟨r, hr, rfl⟩
    · have hspoke := not_silent hc hctl
      rcases hq.winShift_or_gone hok hmove hspoke (.inl rfl) with hshift | hgone
      · have hsize : q'.state.socket.windowSize c.repr = q.state.socket.windowSize c.repr := by
          rw [Socket.windowSize, Socket.windowSize, hshift]
        rw [hsize]
        have hedge := limit_or_gone hok hmove hspoke
          ((h.edges c hc hctl hack).imp Int.ofNat_le.mpr id)
        exact hedge.imp Int.ofNat_le.mp id
      · exact .inr hgone
    · exact .inl (Nat.add_le_add_left (Sys.windowSize_of_transmits hmove.step hr hack) _)
  case scale =>
    refine h.scale.imp id ?_
    rintro ⟨hspoke, k, hk, hshift⟩
    exact ⟨hspeaks hspoke, k, hk, hq.winShift_or_gone hok hmove hspoke hshift⟩
  case window =>
    refine h.window.imp id ?_
    rintro ⟨hspoke, hle⟩
    have hle' := limit_or_gone hok hmove hspoke
      (n := p.state.conn.acked + p.state.socket.remoteWinLen - 1) (hle.imp (fun hle => by omega) id)
    exact ⟨hspeaks hspoke, hle'.imp (fun hle => by omega) id⟩
  case fins =>
    intro c hc hctl
    refine (h.fins c hc hctl).imp id ?_
    rintro ⟨hspoke, hle⟩
    have hle' := limit_or_gone hok hmove hspoke
      (n := c.pos + c.repr.payload.length - 1) (hle.imp (fun hle => by omega) id)
    exact ⟨hspeaks hspoke, hle'.imp (fun hle => by omega) id⟩

end Offers

/-- The window that a party is told ends where the receive window of its peer does, or before. -/
lemma Inv.window_step (h : Inv p q) (hq : Inv q p) (hok : Ok p q op)
    (hmove : machine.Moves p op p') : p'.state.conn.acked = 0 ∨ ¬ Silent q ∧
      (p'.state.conn.acked + p'.state.socket.remoteWinLen ≤ 1 + q.state.limit ∨
        q.state.socket.Gone) := by
  rcases Sys.acked_step h.reachable (.of_step hmove.step) with
    ⟨heq, hle⟩ | hzero | ⟨cx, ipRepr, repr, n, rfl, hctl, hn, hack, heq, hwin, hopen⟩
  · rw [heq]
    refine h.offers.window.imp id ?_
    rintro ⟨hspoke, hwin⟩
    exact ⟨hspoke, hwin.imp (fun hwin => by omega) id⟩
  · exact .inl hzero
  · right
    obtain ⟨c, hc, ⟨w, hw, rfl⟩, hnum, -⟩ := hq.exists_ack hok hctl hn hack
    refine ⟨not_silent hc hctl, ?_⟩
    rw [heq, hwin, hnum]
    have hshift := hq.reachable.base.winShift
    have hedge := h.offers.edges c hc hctl (by simp only at hack; simp [hack])
    rcases hopen with hsyn | hopen
    · have hle : p.state.socket.newRemoteWinLen { c.repr with windowLen := w } ≤
          q.state.socket.windowSize c.repr :=
        Socket.newRemoteWinLen_le rfl hw hshift (.inl hsyn)
      exact hedge.imp (fun hedge => by omega) id
    · obtain ⟨-, k, hk, rfl | hgone⟩ := h.offers.scale.resolve_left hopen
      · have hle : p.state.socket.newRemoteWinLen { c.repr with windowLen := w } ≤
            q.state.socket.windowSize c.repr :=
          Socket.newRemoteWinLen_le rfl hw hshift (.inr hk)
        exact hedge.imp (fun hedge => by omega) id
      · exact .inr hgone

/-- A FIN that is sent ends inside that window. -/
lemma Inv.offers_step (h : Inv p q) (hq : Inv q p) (hok : Ok p q op)
    (hmove : machine.Moves p op p') : Offers p' q := by
  have hwindow := h.window_step hq hok hmove
  refine ⟨h.offers.scales, h.offers.edges, h.offers.scale_step hok hmove, hwindow, ?_⟩
  intro c hc hctl
  rcases mem_sent_of_moves hmove hc with hc | ⟨r, hr, rfl⟩
  · exact h.offers.fins c hc hctl
  · obtain ⟨hacked, hle⟩ := Sys.fin_of_transmits h.reachable h.noKeepAlive hmove.step hr hctl
    refine hle.imp id fun hle => ?_
    obtain ⟨hspoke, hwin⟩ := hwindow.resolve_left (by omega)
    refine ⟨hspoke, hwin.imp (fun hwin => ?_) id⟩
    unfold Sys.carried
    simp only
    omega

/-- A move of the party. -/
theorem Inv.move (h : Inv p q) (hq : Inv q p) (hok : Ok p q op) (hmove : machine.Moves p op p') :
    Inv p' q := by
  constructor
  case reachable => exact h.reachable.trans (.tail op .refl hok.closes hmove.step)
  case noKeepAlive => exact h.noKeepAlive.step hok.not_keepAlive (.of_step hmove.step)
  case tells => exact fun c hc => (h.tells_step hok hmove hc).1
  case closed => exact fun c hc => (h.tells_step hok hmove hc).2
  case hears => exact h.hears_step hq hok hmove
  case acked => exact h.acked_le hq hok hmove
  case offers => exact h.offers_step hq hok hmove
  case acks =>
    intro c hc hctl a ha
    rcases mem_sent_of_moves hmove hc with hc | ⟨r, hr, rfl⟩
    · obtain ⟨hspoke, hnum, hle⟩ := h.acks c hc hctl a ha
      exact ⟨hspoke, hnum, received_or_gone hok hmove (not_silent hc hctl) hle⟩
    · obtain ⟨hspoke, hnum⟩ := h.ack_of_transmits hq hok hmove hr hctl ha
      exact ⟨hspoke, hnum, .inl le_rfl⟩

/-- A move of the peer. -/
theorem Inv.move_peer (h : Inv p q) (hq : Inv q p) (hok : Ok q p op)
    {q' : Peer} (hmove : machine.Moves q op q') : Inv p q' := by
  have hspeaks : ¬ Silent q → ¬ Silent q' := fun hspoke hs => hspoke (hs.of_moves hmove)
  have hgrows : ¬ Silent q → q'.state.conn.iss = q.state.conn.iss ∧ ∃ data,
      q'.state.conn.enqueued = q.state.conn.enqueued ++ data ∧
        (data = [] ∨ q.state.socket.maySend) :=
    fun hspoke => Sys.enqueued_step (.of_step hmove.step) (hok.not_restarts hspoke)
  refine ⟨h.reachable, h.noKeepAlive, h.tells, h.closed, ?_, ?_, ?_,
    h.offers.move_owner hq.offers hok hmove⟩
  · intro c hc hctl a ha
    obtain ⟨hspoke, hnum, hle⟩ := h.acks c hc hctl a ha
    rw [(hgrows hspoke).1]
    exact ⟨hspeaks hspoke, hnum, hle⟩
  · cases h.hears with
    | blank hb => exact .blank hb
    | receiving hspoke hr hfin =>
      obtain ⟨hiss, data, henq, hdata⟩ := hgrows hspoke
      refine .receiving (hspeaks hspoke) ?_ ?_
      · rw [hiss, henq]
        refine hr.grow ?_
        rcases hdata with hdata | hmay
        · exact .inl hdata
        · right
          by_contra hf
          obtain ⟨c, hc, hctl⟩ := hfin (by simpa using hf)
          exact (hq.closed c hc hctl).not_maySend hmay
      · intro hf
        obtain ⟨c, hc, hctl⟩ := hfin hf
        exact ⟨c, hmove.mem hc, hctl⟩
    | gone hspoke hgone hpre =>
      obtain ⟨-, data, henq, -⟩ := hgrows hspoke
      refine .gone (hspeaks hspoke) hgone ?_
      rw [henq]
      exact hpre.trans (List.prefix_append _ data)
  · rcases h.acked with hzero | ⟨hspoke, hle⟩
    · exact .inl hzero
    · refine .inr ⟨hspeaks hspoke, ?_⟩
      have hle' : p.state.conn.acked - 1 ≤ q.state.received ∨ q.state.socket.Gone :=
        hle.imp (fun hle => by omega) id
      exact (received_or_gone hok hmove hspoke hle').imp (fun hle => by omega) id

lemma Starts.inv (h : Starts p) (hq : Starts q) : Inv p q := by
  obtain ⟨hinit, hempty, hsent⟩ := h
  have hpeer : ∀ c, c ∉ q.sent := by
    intro c hc
    rw [hq.sent] at hc
    cases hc
  have hnone : ∀ c, c ∉ p.sent := by
    intro c hc
    rw [hsent] at hc
    cases hc
  obtain ⟨hst, -, hconn⟩ := hinit.new_eq
  obtain ⟨cfg, rx, tx, hnew, -⟩ := id hinit
  unfold Socket.new at hnew
  split_ifs at hnew
  have hnew := Except.ok.inj hnew
  have hacked : p.state.conn.acked = 0 := by
    rw [hconn]
    rfl
  refine ⟨⟨_, hinit, .refl⟩, ?_, ?_, ?_, ?_, .blank ⟨.inl hst, ?_, hempty, ?_⟩, .inl hacked, ?_⟩
  · rw [← hnew]
    exact ⟨rfl, fun _ => rfl⟩
  · exact fun c hc => absurd hc (hnone c)
  · exact fun c hc => absurd hc (hnone c)
  · exact fun c hc => absurd hc (hnone c)
  · rw [hconn]
    rfl
  · rw [← hnew]
  · exact ⟨fun c hc => absurd hc (hpeer c), fun c hc => absurd hc (hpeer c), .inl (.inl hst),
      .inl hacked, fun c hc => absurd hc (hnone c)⟩

theorem Reachable.inv {l : Pair Sys Carried} (h : Reachable l) (i : Side) :
    Inv (l i) (l i.other) := by
  obtain ⟨l₀, hstarts, hrun⟩ := h
  refine hrun.invariant ?_ ?_ (fun i => (hstarts i).inv (hstarts i.other)) i
  · exact fun p q op p' h hq hok hmove => h.move hq hok hmove
  · exact fun p q op p' h hq hok hmove => hq.move_peer h hok hmove

/-! ### Sample conversations -/

/-- An act of a party: a call, or the processing of the `k`-th latest segment of the peer. -/
inductive Act where
  | call (op : Op)
  | hear (ipRepr : IpRepr) (k : ℕ)

/-- The calls that nothing is asked of but that they are made in the right state. -/
def Plain : Op → Bool
  | .listen _ | .connect _ _ _ | .close | .sendSlice _ | .recvSlice _ | .dispatch _ _ => true
  | _ => false

def Act.toOp (q : Peer) : Act → Option Op
  | .call op => if Plain op then some op else none
  | .hear ipRepr k => (q.sent[k]?).map fun c => .process (Sample.context 0) ipRepr c.repr

instance (c : Carried) (y : Sys) : Decidable (c.Timely y) :=
  decidable_of_iff (_ ∧ _ ∧ _ ∧ _)
    ⟨fun ⟨h₁, h₂, h₃, h₄⟩ => ⟨h₁, h₂, h₃, h₄⟩, fun ⟨h₁, h₂, h₃, h₄⟩ => ⟨h₁, h₂, h₃, h₄⟩⟩

/-- `Ok` as a test of an act. -/
def Act.ok (p q : Peer) (a : Act) (op : Op) : Bool :=
  (!decide (p.state.Restarts op) || p.sent.all fun c => c.repr.control = .rst) &&
    decide (p.state.NoEarlyClose op) &&
    match a with
    | .call _ => true
    | .hear _ k => (q.sent[k]?).any fun c => decide (c.Timely p.state)

def Act.next (p q : Peer) (a : Act) : Option Peer :=
  (a.toOp q).bind fun op =>
    if a.ok p q op then
      (p.state.step op).toOption.map fun y' =>
        ⟨y', (p.state.transmits op).toList.map y'.carried ++ p.sent⟩
    else none

lemma Act.moves_of_next {a : Act} (h : a.next p q = some p') :
    ∃ op, Ok p q op ∧ machine.Moves p op p' := by
  unfold next at h
  obtain ⟨op, hop, h⟩ := Option.bind_eq_some_iff.mp h
  split_ifs at h with hok
  obtain ⟨y', hstep, rfl⟩ := Option.map_eq_some_iff.mp h
  simp only [ok, Bool.and_eq_true, Bool.or_eq_true, Bool.not_eq_true', decide_eq_false_iff_not,
    decide_eq_true_eq, List.all_eq_true] at hok
  obtain ⟨⟨hopens, hcloses⟩, hheeds⟩ := hok
  refine ⟨op, ⟨fun hr => hopens.resolve_left (not_not_intro hr), hcloses, ?_⟩,
    Sys.step_of_toOption hstep, rfl⟩
  cases a with
  | call op' =>
    simp only [toOp] at hop
    split_ifs at hop with hplain
    cases hop
    cases op with
    | set | recv | process | send | peek | abort => cases hplain
    | _ => trivial
  | hear ipRepr k =>
    obtain ⟨c, hc, rfl⟩ := Option.map_eq_some_iff.mp hop
    simp only [hc, Option.any_some, decide_eq_true_eq] at hheeds
    exact ⟨c, List.mem_of_getElem? hc, ⟨c.repr.windowLen, UInt16.le_refl _, rfl⟩, hheeds⟩

/-- Two new sockets with buffers of `n` octets hold the given conversation, and come to a state with
a given property. -/
lemma exists_talk (n : ℕ) (acts : List (Side × Act)) (P : Sys → Sys → Bool)
    (h : ((Sys.start Sample.config (Sample.buffer n) (Sample.buffer n)).bind fun y₀ =>
      exec Act.next acts ⟨y₀, []⟩ ⟨y₀, []⟩).any (fun l => P l.1.state l.2.state) = true) :
    ∃ l, Reachable l ∧ P (l .left).state (l .right).state = true := by
  obtain ⟨⟨p, q⟩, hexec, hP⟩ := (Option.any_eq_true _ _).mp h
  obtain ⟨y₀, hstart, hexec⟩ := Option.bind_eq_some_iff.mp hexec
  refine ⟨pair p q, ⟨_, ?_, .of_exec (fun p q a p' => Act.moves_of_next) hexec⟩, hP⟩
  have hstarts : Starts ⟨y₀, []⟩ := by
    refine ⟨Sys.initial_of_start hstart, ?_, rfl⟩
    unfold Sys.start Socket.new at hstart
    split_ifs at hstart
    · cases hstart
    · cases hstart
      rfl
  intro i
  cases i <;> exact hstarts

namespace Sample

def toServer : IpRepr := Tcp.Sample.ipRepr

def toClient : IpRepr := .ipv4 ⟨0x0a000001, 0x0a000002, .tcp, 20, 64⟩

/-- The left party listens, and the right one connects. -/
def handshake : List (Side × Act) :=
  [(.left, .call (.listen ⟨none, 80⟩)),
    (.right, .call (.connect (Tcp.Sample.context 0) ⟨.ipv4 0x0a000001, 80⟩
      ⟨some (.ipv4 0x0a000002), 49500⟩)),
    (.right, .call (Tcp.Sample.dispatch 0)), (.left, .hear toServer 0),
    (.left, .call (Tcp.Sample.dispatch 0)), (.right, .hear toClient 0),
    (.right, .call (Tcp.Sample.dispatch 0)), (.left, .hear toServer 0)]

/-- The left party sends three octets and closes. The segment with the octets comes twice, the
second time behind the FIN. -/
def greeting : List (Side × Act) :=
  handshake ++
    [(.left, .call (.sendSlice [1, 2, 3])), (.left, .call (Tcp.Sample.dispatch 0)),
      (.right, .hear toClient 0), (.right, .call (.recvSlice 2)), (.left, .call .close),
      (.left, .call (Tcp.Sample.dispatch 0)), (.right, .hear toClient 0),
      (.right, .hear toClient 1), (.right, .call (.recvSlice 2))]

end Sample

/-! ### Results -/

variable {l l' : Pair Sys Carried}

lemma Inv.isPrefix_stored (h : Inv p q) : p.state.stored <+: q.state.conn.enqueued := by
  unfold Sys.stored
  cases h.hears with
  | blank hb =>
    have hnil : p.state.socket.rxBuffer.toList = [] := (RingBuffer.isEmpty_iff _).mp hb.len
    rw [hb.delivered, hnil]
    exact List.nil_prefix
  | receiving hspoke hr => exact hr.isPrefix
  | gone hspoke hgone hpre =>
    have hnil : p.state.socket.rxBuffer.toList = [] := (RingBuffer.isEmpty_iff _).mp hgone.len
    rw [hnil, List.append_nil]
    exact hpre

lemma Inv.stored_eq_of_fin (h : Inv p q) (hfin : p.state.socket.rxFinReceived = true) :
    p.state.stored = q.state.conn.enqueued := by
  cases h.hears with
  | blank hb =>
    rw [hb.fin] at hfin
    cases hfin
  | receiving hspoke hr => exact hr.stored_eq hfin
  | gone hspoke hgone =>
    rw [hgone.fin] at hfin
    cases hfin

lemma Inv.drop_isSuffix (h : Inv p q) (hq : Inv q p) (hgone : ¬ q.state.socket.Gone)
    (htuple : p.state.socket.tuple ≠ none) :
    p.state.conn.enqueued.drop q.state.stored.length <:+ p.state.socket.txBuffer.toList := by
  rw [(h.reachable.sending htuple).txBuffer]
  have hacked : p.state.conn.acked - 1 ≤ q.state.received := by
    rcases h.acked with hzero | ⟨-, hle | hgone'⟩
    · omega
    · omega
    · exact absurd hgone' hgone
  have hpre := hq.isPrefix_stored.length_le
  cases hfin : q.state.socket.rxFinReceived with
  | true =>
    have hall := congrArg List.length (hq.stored_eq_of_fin hfin)
    rw [hall, List.drop_length]
    exact List.nil_suffix
  | false =>
    unfold Sys.received at hacked
    rw [hfin] at hacked
    have hle : p.state.conn.acked - 1 ≤ q.state.stored.length := hacked
    rw [← Nat.add_sub_cancel' hle, ← List.drop_drop]
    exact List.drop_suffix _ _

/-- No octet is lost: what is not stored at the receiver is still in the transmit buffer of the
sender. -/
theorem lossless (h : Reachable l) (i : Side) (hgone : ¬ (l i.other).state.socket.Gone)
    (htuple : (l i).state.socket.tuple ≠ none) :
    ∃ rest, rest <:+ (l i).state.socket.txBuffer.toList ∧
      (l i).state.conn.enqueued = (l i.other).state.stored ++ rest := by
  have hother := h.inv i.other
  rw [Side.other_other] at hother
  refine ⟨_, (h.inv i).drop_isSuffix hother hgone htuple, ?_⟩
  obtain ⟨rest, hrest⟩ := hother.isPrefix_stored
  rw [← hrest, List.drop_left]

/-- The third octet is still on its way. -/
theorem lossless_greeting : ∃ l, Reachable l ∧ (l .left).state.conn.enqueued = [1, 2, 3] ∧
    ∃ rest, rest <:+ (l .left).state.socket.txBuffer.toList ∧
      (l .left).state.conn.enqueued = (l .right).state.stored ++ rest := by
  obtain ⟨l, hreach, hP⟩ := exists_talk 8 Sample.greeting
    (fun y z => y.conn.enqueued = [1, 2, 3] ∧ y.socket.tuple ≠ none ∧ z.socket.state ≠ .closed)
    (by decide)
  obtain ⟨henq, htuple, hst⟩ := of_decide_eq_true hP
  exact ⟨l, hreach, henq, lossless hreach .left (fun hgone => hst hgone.state) htuple⟩

lemma Inv.fin_sent (h : Inv p q) (hfin : p.state.socket.rxFinReceived = true) :
    ∃ c ∈ q.sent, c.repr.control = .fin := by
  cases h.hears with
  | blank hb =>
    rw [hb.fin] at hfin
    cases hfin
  | receiving hspoke hr hsent => exact hsent hfin
  | gone hspoke hgone =>
    rw [hgone.fin] at hfin
    cases hfin

/-- A party that has sent its FIN enqueues nothing any more. -/
lemma enqueued_eq_of_fin (hrun : Run machine Ok l l') {i : Side} {c : Carried} (hc : c ∈ (l i).sent)
    (hctl : c.repr.control = .fin) (hclosed : (l i).state.socket.state.HalfClosed) :
    (l' i).state.conn.enqueued = (l i).state.conn.enqueued := by
  have hinv := hrun.party (I := fun p => c ∈ p.sent ∧ p.state.socket.state.HalfClosed ∧
    p.state.conn.enqueued = (l i).state.conn.enqueued) (i := i) ?_ ⟨hc, hclosed, rfl⟩
  · exact hinv.2.2
  · rintro p q op p' ⟨hc, hclosed, heq⟩ hok hmove
    have hstart := hok.not_restarts (not_silent hc (by rw [hctl]; decide))
    have hrule := StepRule.of_step hmove.step
    obtain ⟨-, data, henq, hdata⟩ := Sys.enqueued_step hrule hstart
    refine ⟨hmove.mem hc, hclosed.step ?_ ?_ hrule, ?_⟩
    · rintro endpoint rfl
      exact hstart trivial
    · rintro cx remote endpoint rfl
      exact hstart trivial
    · rcases hdata with rfl | hmay
      · rw [henq, List.append_nil, heq]
      · exact absurd hmay hclosed.not_maySend

lemma fin_of_recvSlice {s s' : Socket} {n : ℕ} (h : s.recvSlice n = .ok (s', .error .finished)) :
    s.rxFinReceived = true ∧ s.rxBuffer.isEmpty := by
  have hcheck : s.recvErrorCheck = .error .finished := by
    unfold Socket.recvSlice at h
    split at h
    · rename_i heq
      cases h
      exact heq
    · obtain ⟨_, -, h⟩ := Checked.bind_eq_ok.mp h
      obtain ⟨_, -, h⟩ := Checked.bind_eq_ok.mp h
      cases h
  unfold Socket.recvErrorCheck at hcheck
  split_ifs at hcheck with hmay hfin
  · refine ⟨hfin, ?_⟩
    by_contra hne
    exact hmay (.inr (.inr (.inr hne)))
  · cases hcheck

/-- When an application is told that the stream is finished, it was given everything that the other
one has enqueued, and will ever enqueue. -/
theorem finished (h : Reachable l) (i : Side) {n : ℕ} {s : Socket}
    (hrecv : (l i).state.socket.recvSlice n = .ok (s, .error .finished))
    (hrun : Run machine Ok l l') :
    (l i).state.conn.delivered = (l' i.other).state.conn.enqueued := by
  obtain ⟨hfin, hempty⟩ := fin_of_recvSlice hrecv
  have hinv := h.inv i
  have hother := h.inv i.other
  obtain ⟨c, hc, hctl⟩ := hinv.fin_sent hfin
  rw [enqueued_eq_of_fin hrun hc hctl (hother.closed c hc hctl), ← hinv.stored_eq_of_fin hfin,
    Sys.stored, (RingBuffer.isEmpty_iff _).mp hempty, List.append_nil]

theorem finished_greeting : ∃ l s, Reachable l ∧
    (l .right).state.socket.recvSlice 2 = .ok (s, .error .finished) ∧
    (l .right).state.conn.delivered = (l .left).state.conn.enqueued := by
  obtain ⟨l, hreach, hP⟩ := exists_talk 8 Sample.greeting
    (fun _ z => (z.socket.recvSlice 2).map Prod.snd = .ok (.error .finished)) (by decide)
  have hP := of_decide_eq_true hP
  cases hrecv : (l .right).state.socket.recvSlice 2 with
  | error e =>
    rw [hrecv] at hP
    cases hP
  | ok r =>
    obtain ⟨s, r⟩ := r
    rw [hrecv] at hP
    cases hP
    exact ⟨l, s, hreach, hrecv, finished hreach .right hrecv .refl⟩

end Link

/-! ### A half-close that is acknowledged -/

lemma Socket.StateStep.of_drained {control : TcpControl} {st st' : State}
    (h : Socket.StateStep false st control st') (hst : st' = .finWait2 ∨ st' = .timeWait) :
    st = .finWait2 := by
  cases h <;> simp_all

/-- In FIN-WAIT-2 and TIME-WAIT the FIN is acknowledged, and with it all that was enqueued. -/
theorem Sys.ReachableBy.drained (h : Sys.ReachableBy Sys.NoEarlyClose y)
    (hst : y.socket.state = .finWait2 ∨ y.socket.state = .timeWait) :
    y.conn.acked = y.conn.enqueued.length + 2 := by
  suffices hinv : y.socket.state = .finWait2 ∨ y.socket.state = .timeWait →
      y.conn.acked = y.conn.enqueued.length + 2 from hinv hst
  clear hst
  refine h.induct (I := fun y => y.socket.state = .finWait2 ∨ y.socket.state = .timeWait →
    y.conn.acked = y.conn.enqueued.length + 2) ?_ ?_
  · intro y hinit hst
    rw [hinit.new_eq.1] at hst
    rcases hst with hst | hst <;> cases hst
  · intro y op y' hreach ih hok hs hst
    cases hs with
    | same => exact ih hst
    | listen => rcases hst with hst | hst <;> cases hst
    | connect => rcases hst with hst | hst <;> cases hst
    | close =>
      obtain ⟨st, heq, hst'⟩ := y.socket.close_eq
      simp only [heq, Socket.setState] at hst
      rcases hst' with ⟨-, rfl⟩ | ⟨-, rfl⟩ | ⟨-, rfl⟩ | ⟨-, rfl⟩
      · rcases hst with hst | hst <;> cases hst
      · rcases hst with hst | hst <;> cases hst
      · rcases hst with hst | hst <;> cases hst
      · exact ih hst
    | abort => rcases hst with hst | hst <;> cases hst
    | set x s' hs =>
      obtain ⟨_, _, _, _, _, _, cc, _, timer, -, -, rfl⟩ := Socket.set_eq_ok hs
      exact ih hst
    | send op s' data hs =>
      have hmay := hs.maySend
      obtain ⟨-, tx, ts, -, -, -, rfl⟩ := hs
      rcases hst with hst | hst <;> simp only at hst <;> simp [Socket.maySend, hst] at hmay
    | recv op s' n hs =>
      obtain ⟨-, rx, -, -, rfl⟩ := hs
      exact ih hst
    | process cx ipRepr repr s' hs =>
      cases hs with
      | quiet hq =>
        simp only [hq.state_eq] at hst
        rw [Sys.conn_process_quiet _ hq]
        exact ih hst
      | reset st hctl hlisten hq hst' =>
        rcases hst' with ⟨rfl, -⟩ | rfl <;> rcases hst with hst | hst <;> cases hst
      | accepted ha =>
        have htuple : y.socket.state ≠ .listen → y.socket.tuple ≠ none :=
          hreach.base.connected ha.accepts.1
        cases ha.advances with
        | listen _ hst' => simp [hst'] at hst
        | syn _ hst' => simp [hst'] at hst
        | synAck last _ hst' => rcases hst' with hst' | hst' <;> simp [hst'] at hst
        | data n hne hmove hn hlt hack hloc =>
          have hfrom := hmove.of_drained hst
          have hacked := ih (.inl hfrom)
          have hlen := (hreach.sending (htuple (by simp [hfrom]))).len_eq
          rw [Socket.process_acked _ (by omega) (by simp [hfrom]) hloc]
          simp only
          omega
        | fin n hn hfin hmove hlt hack hloc =>
          have hlisten := hmove.ne.2.1
          have hctl := Socket.controlLen_of_sentFin hfin
          have hsend := hreach.sending (htuple hlisten)
          have hlen := hsend.len_eq
          simp only [Socket.sentFin, decide_eq_true_eq] at hfin
          have hle := hsend.acked_le (by rcases hfin with h | h | h <;> simp [h])
            (by rcases hfin with h | h | h <;> simp [h]) (by rcases hfin with h | h | h <;>
            simp [h])
          have hpos : 1 ≤ y.conn.acked := by
            rcases hreach.opened (htuple hlisten) with ho | ho | ho
            · exact ho
            · rcases hfin with h | h | h <;> simp [h, State.Opening] at ho
            · rcases hfin with h | h | h <;> simp [h] at ho
          rw [Socket.process_acked _ (n := n + 1) (by omega) hlisten (by rw [hloc]; push_cast; rfl)]
          simp only
          omega
    | dispatch cx emit s' e hs =>
      obtain ⟨-, hacked, henq⟩ := Sys.conn_dispatch y.conn y.socket e
      simp only [hacked, henq]
      rcases hs.state_eq with heq | heq
      · simp only [heq] at hst
        exact ih hst
      · simp [heq] at hst

namespace Link

variable {l l' : Pair Sys Carried}

/-- A party in FIN-WAIT-2 or TIME-WAIT knows that its peer has stored all that was enqueued, and the
end of it, unless the peer is through with the connection. -/
theorem half_closed (h : Reachable l) (i : Side)
    (hst : (l i).state.socket.state = .finWait2 ∨ (l i).state.socket.state = .timeWait)
    (hgone : ¬ (l i.other).state.socket.Gone) :
    (l i.other).state.stored = (l i).state.conn.enqueued ∧
      (l i.other).state.socket.rxFinReceived = true := by
  have hinv := h.inv i
  have hother := h.inv i.other
  rw [Side.other_other] at hother
  have hacked := hinv.reachable.drained hst
  have hle := hother.isPrefix_stored.length_le
  have hreceived : (l i).state.conn.acked ≤ 1 + (l i.other).state.received := by
    rcases hinv.acked with hzero | ⟨-, hle | hgone'⟩
    · omega
    · exact hle
    · exact absurd hgone' hgone
  unfold Sys.received at hreceived
  cases hfin : (l i.other).state.socket.rxFinReceived with
  | true => exact ⟨hother.stored_eq_of_fin hfin, rfl⟩
  | false =>
    rw [hfin] at hreceived
    simp only [Bool.toNat_false] at hreceived
    omega

theorem half_closed_greeting : ∃ l, Reachable l ∧ (l .left).state.socket.state = .finWait2 ∧
    (l .left).state.conn.enqueued = [1, 2, 3] ∧
    (l .right).state.stored = (l .left).state.conn.enqueued := by
  obtain ⟨l, hreach, hP⟩ := exists_talk 8
    (Sample.greeting ++ [(.right, .call (Tcp.Sample.dispatch 0)), (.left, .hear Sample.toServer 0)])
    (fun y z => y.socket.state = .finWait2 ∧ y.conn.enqueued = [1, 2, 3] ∧
      z.socket.state ≠ .closed) (by decide +kernel)
  obtain ⟨hst, henq, hne⟩ := of_decide_eq_true hP
  exact ⟨l, hreach, hst, henq,
    (half_closed hreach .left (.inl hst) fun hgone => hne hgone.state).1⟩

end Link

end Smoltcp.Tcp
