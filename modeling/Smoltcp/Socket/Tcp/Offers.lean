import Smoltcp.Socket.Tcp.Carried
import Smoltcp.Socket.Tcp.Sizes

/-!
# Windows between two sockets

What a socket tells its peer of the receive window is not taken back, the peer scales it as it was
told to, and a FIN that the peer sends ends inside it, but for a zero-window probe.
-/

namespace Smoltcp.Tcp

open Serial

namespace Socket

variable {s s' s₁ : Socket} {cx : Context} {ipRepr : IpRepr} {repr : TcpRepr}

/-! ### Scales -/

/-- Where the scales come from: a SYN, or the state before. -/
inductive Rescales (s : Socket) (repr : TcpRepr) (s' : Socket) : Prop where
  | same (hscale : s'.remoteWinScale = s.remoteWinScale)
      (hshift : s'.remoteWinShift = s.remoteWinShift)
      (hst : s'.state.Unopened ∨ ¬ s.state.Unopened)
  | syn (hctl : repr.control = .syn) (hscale : s'.remoteWinScale = repr.windowScale)
      (hshift : s'.remoteWinShift = if repr.windowScale.isNone then 0 else s.remoteWinShift)

lemma ProcessRule.rescales (h : ProcessRule s cx ipRepr repr s') : Rescales s repr s' := by
  cases h with
  | quiet hq =>
    have hst : s'.state = s.state := hq.state_eq
    refine .same ?_ ?_ (by rw [hst]; exact em _) <;>
      obtain ⟨_, _, _, _, _, s₁, -, -, -, rfl, rfl | rfl⟩ := hq <;> rfl
  | reset st hctl hlisten hq hst =>
    have hun : st.Unopened := by
      rcases hst with ⟨rfl, -⟩ | rfl
      · exact .inr (.inl rfl)
      · exact .inl rfl
    refine .same ?_ ?_ (.inl hun) <;>
      obtain ⟨_, _, _, _, _, s₁, -, -, -, rfl, rfl | rfl⟩ := hq <;> rfl
  | @accepted w ack payload offset s₁ s₂ s₃ _ ha =>
    have hlast : s'.remoteWinScale = s₂.remoteWinScale ∧ s'.remoteWinShift = s₂.remoteWinShift := by
      have hacked := ha.acked
      cases hacked
      cases ha.received <;> exact ⟨rfl, rfl⟩
    have hst₁ := ha.state_eq
    have ht := ha.transits
    obtain ⟨_, _, _, -, -, rfl⟩ := ha.noted
    cases ht with
    | synListen hctl => exact .syn (control_of_effectiveControl hctl) hlast.1 hlast.2
    | synSent hctl => exact .syn (control_of_effectiveControl hctl) hlast.1 hlast.2
    | moved st hst => exact .same hlast.1 hlast.2 (.inr hst.not_unopened)

lemma Timed.winScale_eq (h : Timed s cx s') : s'.remoteWinScale = s.remoteWinScale := by
  cases h <;> rfl

lemma Sends.winScale_eq {e : Emission} (h : Sends s cx e s') :
    s'.remoteWinScale = s.remoteWinScale := by
  cases h <;> rfl

/-- A SYN offers the own scale, unless it answers one that has none. -/
lemma Options.windowScale_of_syn {r : TcpRepr} (h : s.Options r) (hctl : r.control = .syn) :
    r.windowScale = some s.remoteWinShift ∨ s.state = .synReceived ∧ s.remoteWinScale = none := by
  have hsome := h.windowScale
  cases hk : r.windowScale with
  | some k =>
    left
    rw [h.ownScale k hk]
  | none =>
    right
    rw [hk] at hsome
    have hst := h.syn.mp hctl
    simp only [Option.isSome_none, Bool.false_eq, decide_eq_false_iff_not, not_or, not_and,
      Option.not_isSome_iff_eq_none] at hsome
    have hreceived := hst.resolve_left hsome.1
    exact ⟨hreceived, hsome.2 hreceived⟩

lemma kept_of_dispatch {emit : IpRepr → TcpRepr → Bool} {e : Emission}
    (h : s.dispatch cx emit = .ok (s', some e)) :
    s'.remoteWinShift = (s.due cx).remoteWinShift ∧
      s'.remoteWinScale = (s.due cx).remoteWinScale ∧ s'.state = (s.due cx).state := by
  cases DispatchRule.of_dispatch h with
  | failed _ htimed =>
    obtain rfl := htimed.eq_due
    exact ⟨rfl, rfl, rfl⟩
  | sent _ htimed _ _ hsends =>
    obtain rfl := htimed.eq_due
    exact ⟨hsends.winShift_eq, hsends.winScale_eq, hsends.state_eq⟩

/-! ### Windows -/

lemma shl_mono {m n : ℕ} {k : UInt8} (hk : k.toNat ≤ 15) (hn : n < 2 ^ 16) (h : m ≤ n) :
    shl m k ≤ shl n k := by
  have hlt : n * 2 ^ k.toNat < 2 ^ 64 := by
    calc n * 2 ^ k.toNat ≤ n * 2 ^ 15 :=
          Nat.mul_le_mul_left _ (Nat.pow_le_pow_right (by omega) hk)
      _ < 2 ^ 64 := by omega
  unfold shl
  rw [Nat.mod_eq_of_lt (show k.toNat < 64 by omega), Nat.shiftLeft_eq, Nat.shiftLeft_eq,
    Nat.mod_eq_of_lt hlt]
  exact (Nat.mod_le _ _).trans (Nat.mul_le_mul_right _ h)

/-- The window that is understood is no larger than the one that was meant. -/
lemma newRemoteWinLen_le {peer : Socket} {r : TcpRepr} (hctl : repr.control = r.control)
    (hle : repr.windowLen ≤ r.windowLen) (hshift : peer.remoteWinShift.toNat ≤ 15)
    (hscale : repr.control = .syn ∨ s.remoteWinScale = some peer.remoteWinShift) :
    s.newRemoteWinLen repr ≤ peer.windowSize r := by
  have hle : repr.windowLen.toNat ≤ r.windowLen.toNat := hle
  unfold newRemoteWinLen windowSize
  rw [← hctl]
  by_cases hsyn : repr.control = .syn
  · rw [if_pos hsyn, if_pos hsyn]
    refine le_trans ?_ hle
    exact Nat.mod_le _ _
  · rw [if_neg hsyn, if_neg hsyn, hscale.resolve_left hsyn, Option.getD_some]
    exact shl_mono hshift r.windowLen.toNat_lt hle

/-- A segment with a FIN is no longer than the window of the remote, but for a zero-window probe. -/
lemma Builds.fin_within {r : TcpRepr} {zwp : Bool} (h : Builds s cx r zwp) (hflight : s.Flight)
    (hctl : r.control = .fin) : r.payload.length ≤ 1 ∨
      dist r.seqNumber s.localSeqNo + r.payload.length ≤ s.remoteWinLen := by
  cases h with
  | rst _ hr => simp [hctl] at hr
  | syn _ hr => simp [hctl] at hr
  | ack _ hr => simp [hctl] at hr
  | data offset room mss zwp hstate hmss hwinLen hroom hzwp hoff hseq hpay =>
    cases zwp with
    | true =>
      left
      rw [hpay, RingBuffer.length_getAllocated]
      refine (RingBuffer.allocatedSize_le _ _ _).trans ?_
      simp only [if_true]
      omega
    | false =>
      simp only [Bool.false_eq_true, if_false] at hpay
      rcases hflight.data_le hroom hwinLen hoff hpay with hzero | ⟨hle, -⟩
      · exact .inl (by omega)
      · right
        rw [hseq]
        exact hle

end Socket

namespace Sys

variable {y y' : Sys} {op : Op} {r : TcpRepr}

/-- Within a connection the own scale stays, unless the remote's SYN has none. -/
lemma winShift_step (hs : StepRule y op y') (hstart : ¬ y.Restarts op) :
    y'.socket.remoteWinShift = y.socket.remoteWinShift ∨ y'.socket.Gone ∨
      ∃ cx ipRepr repr, op = .process cx ipRepr repr ∧ repr.control = .syn ∧
        repr.windowScale = none := by
  cases hs with
  | same => exact .inl rfl
  | listen => exact absurd trivial hstart
  | connect => exact absurd trivial hstart
  | close =>
    obtain ⟨st, heq, -⟩ := y.socket.close_eq
    rw [heq]
    exact .inl rfl
  | abort => exact .inl rfl
  | set x s' hs =>
    obtain ⟨_, _, _, _, _, _, cc, _, timer, -, -, rfl⟩ := Socket.set_eq_ok hs
    exact .inl rfl
  | send op s' data hs =>
    obtain ⟨-, tx, ts, -, -, -, rfl⟩ := hs
    exact .inl rfl
  | recv op s' n hs =>
    obtain ⟨-, rx, -, -, rfl⟩ := hs
    exact .inl rfl
  | process cx ipRepr repr s' hs =>
    cases hs.rescales with
    | same _ hshift => exact .inl hshift
    | syn hctl _ hshift =>
      cases hscale : repr.windowScale with
      | none => exact .inr (.inr ⟨cx, ipRepr, repr, rfl, hctl, hscale⟩)
      | some k =>
        rw [hscale] at hshift
        exact .inl hshift
  | dispatch cx emit s' e hs =>
    cases hs with
    | noTuple => exact .inl rfl
    | idle _ htimed => exact .inl htimed.rx_eq.2.2
    | reset => exact .inr (.inl ⟨rfl, rfl, rfl, rfl⟩)
    | failed _ htimed => exact .inl htimed.rx_eq.2.2
    | sent _ htimed _ _ hsends => exact .inl (hsends.winShift_eq.trans htimed.rx_eq.2.2)

/-- The scale of the remote is the one of its SYN. -/
lemma winScale_step (hs : StepRule y op y') :
    y'.socket.state.Unopened ∨
      ¬ y.socket.state.Unopened ∧ y'.socket.remoteWinScale = y.socket.remoteWinScale ∨
      ∃ cx ipRepr repr, op = .process cx ipRepr repr ∧ repr.control = .syn ∧
        y'.socket.remoteWinScale = repr.windowScale := by
  have hkeep : y'.socket.remoteWinScale = y.socket.remoteWinScale →
      (y'.socket.state.Unopened ∨ ¬ y.socket.state.Unopened) →
      y'.socket.state.Unopened ∨
        ¬ y.socket.state.Unopened ∧ y'.socket.remoteWinScale = y.socket.remoteWinScale ∨
        ∃ cx ipRepr repr, op = .process cx ipRepr repr ∧ repr.control = .syn ∧
          y'.socket.remoteWinScale = repr.windowScale :=
    fun hscale hst => hst.imp id fun hst => .inl ⟨hst, hscale⟩
  cases hs with
  | same => exact hkeep rfl (em _)
  | listen => exact .inl (.inr (.inl rfl))
  | connect => exact .inl (.inr (.inr rfl))
  | close =>
    obtain ⟨st, heq, hst⟩ := y.socket.close_eq
    rw [heq] at hkeep ⊢
    refine hkeep rfl ?_
    rcases hst with ⟨-, rfl⟩ | ⟨hst, rfl⟩ | ⟨hst, rfl⟩ | ⟨-, rfl⟩
    · exact .inl (.inl rfl)
    · right
      rcases hst with hst | hst <;> simp [State.Unopened, hst]
    · simp [State.Unopened, Socket.setState, hst]
    · exact em _
  | abort => exact .inl (.inl rfl)
  | set x s' hs =>
    obtain ⟨_, _, _, _, _, _, cc, _, timer, -, -, rfl⟩ := Socket.set_eq_ok hs
    exact hkeep rfl (em _)
  | send op s' data hs =>
    obtain ⟨-, tx, ts, -, -, -, rfl⟩ := hs
    exact hkeep rfl (em _)
  | recv op s' n hs =>
    obtain ⟨-, rx, -, -, rfl⟩ := hs
    exact hkeep rfl (em _)
  | process cx ipRepr repr s' hs =>
    cases hs.rescales with
    | same hscale _ hst => exact hkeep hscale hst
    | syn hctl hscale => exact .inr (.inr ⟨cx, ipRepr, repr, rfl, hctl, hscale⟩)
  | dispatch cx emit s' e hs =>
    have hst : s'.state = y.socket.state ∨ s'.state = .closed := hs.state_eq
    rcases hst with hst | hst
    · have hun : s'.state.Unopened ∨ ¬ y.socket.state.Unopened := by
        rw [hst]
        exact em _
      cases hs with
      | noTuple => exact hkeep rfl hun
      | idle _ htimed => exact hkeep htimed.winScale_eq hun
      | reset => exact .inl (.inl rfl)
      | failed _ htimed => exact hkeep htimed.winScale_eq hun
      | sent _ htimed _ _ hsends => exact hkeep (hsends.winScale_eq.trans htimed.winScale_eq) hun
    · exact .inl (.inl hst)

/-- A SYN that is sent offers the own scale, unless it answers one that has none. -/
lemma windowScale_of_transmits (hstep : Step y op y') (ht : y.transmits op = some r)
    (hctl : r.control = .syn) : r.windowScale = some y'.socket.remoteWinShift ∨
      y'.socket.state = .synReceived ∧ y'.socket.remoteWinScale = none := by
  cases Transmitted.of_step hstep ht with
  | reply hs =>
    have hlen := (Socket.process_answers hs _ _ rfl).2.2
    rw [hctl] at hlen
    cases hlen
  | sent hs hsent hr =>
    subst hr
    obtain ⟨htimed, -, e₀, sent, hsegment, rfl⟩ := Socket.dispatch_segment hs
    obtain ⟨hshift, hscale, hst⟩ := Socket.kept_of_dispatch hs
    rw [hshift, hscale, hst]
    exact (Socket.segment_headers hsegment).2.windowScale_of_syn hctl

/-- A FIN that is sent ends inside the window of the remote, but for a zero-window probe. -/
lemma fin_of_transmits (h : ReachableBy NoEarlyClose y) (hkeep : y.socket.NoKeepAlive)
    (hstep : Step y op y') (ht : y.transmits op = some r) (hctl : r.control = .fin) :
    1 ≤ y'.conn.acked ∧ (r.payload.length ≤ 1 ∨
      dist r.seqNumber y'.socket.localSeqNo + r.payload.length ≤ y'.socket.remoteWinLen) := by
  cases Transmitted.of_step hstep ht with
  | reply hs =>
    have hlen := (Socket.process_answers hs _ _ rfl).2.2
    rw [hctl] at hlen
    cases hlen
  | sent hs hsent hr =>
    subst hr
    have hrule := Socket.DispatchRule.of_dispatch hs
    have hopened := h.opened hrule.tuple_ne_of_some
    cases hrule with
    | failed _ _ _ hemits =>
      cases hemits with
      | segment _ _ _ _ hfalse => simp [hfalse] at hsent
      | keepAlive _ _ _ _ _ hfalse => simp [hfalse] at hsent
    | @sent s₁ _ e htuple htimed hsend hemits hsends =>
      have hnone := (hkeep.timed htimed).emits hemits
      cases hemits with
      | keepAlive _ _ htrue => simp [htrue] at hnone
      | segment r hbuilds _ _ _ hrepr =>
        obtain ⟨mss, hr⟩ := hrepr
        simp only [hr] at hctl
        have hfin := hbuilds.sentFin_of_fin hctl
        have hle := hbuilds.fin_within (h.flight.timed htimed) hctl
        simp only [Socket.sentFin, decide_eq_true_eq] at hfin
        refine ⟨?_, ?_⟩
        · rw [(conn_dispatch _ _ _).2.1]
          rcases htimed.state_eq with hst | hst
          · rw [hst] at hfin
            refine hopened.resolve_right ?_
            rcases hfin with hfin | hfin | hfin <;> simp [State.Opening, hfin]
          · simp [hst] at hfin
        · simp only [hr]
          rw [hsends.send_eq.2.2.1, hsends.remoteWinLen_eq]
          exact hle

/-! ### The end of the window -/

/-- Where the receive window ends, in octets of the remote's stream with its FIN. -/
def limit (y : Sys) : ℕ := y.received + y.socket.rxBuffer.window

lemma limit_eq (y : Sys) : y.limit = y.conn.delivered.length + y.socket.rxBuffer.capacity +
    y.socket.rxFinReceived.toNat := by
  have hwin := y.socket.rxBuffer.len_add_window
  rw [limit, received_eq]
  omega

/-- Within a connection the end of the receive window is not taken back. -/
lemma limit_step (hs : StepRule y op y') (hstart : ¬ y.Restarts op) :
    y.limit ≤ y'.limit ∨ y'.socket.Gone := by
  rw [limit_eq, limit_eq]
  cases hs with
  | same => exact .inl le_rfl
  | listen => exact absurd trivial hstart
  | connect => exact absurd trivial hstart
  | close =>
    obtain ⟨st, heq, -⟩ := y.socket.close_eq
    rw [heq]
    exact .inl le_rfl
  | abort => exact .inl le_rfl
  | set x s' hs =>
    obtain ⟨_, _, _, _, _, _, cc, _, timer, -, -, rfl⟩ := Socket.set_eq_ok hs
    exact .inl le_rfl
  | send op s' data hs =>
    obtain ⟨-, tx, ts, -, -, -, rfl⟩ := hs
    exact .inl le_rfl
  | recv op s' n hs =>
    obtain ⟨-, rx, hshrinks, -, rfl⟩ := hs
    left
    simp only [List.length_append, hshrinks.capacity]
    omega
  | process cx ipRepr repr s' hs =>
    left
    simp only [conn_process_delivered _ hstart]
    obtain ⟨-, hfin, hcap⟩ := hs.rx_le hstart
    omega
  | dispatch cx emit s' e hs =>
    simp only [conn_dispatch_delivered]
    cases hs with
    | noTuple => exact .inl le_rfl
    | idle _ htimed =>
      left
      rw [htimed.fin_eq, htimed.rx_eq.1]
    | reset => exact .inr ⟨rfl, rfl, rfl, rfl⟩
    | failed _ htimed =>
      left
      rw [htimed.fin_eq, htimed.rx_eq.1]
    | sent _ htimed _ _ hsends =>
      left
      rw [hsends.rx_eq.2.2.2.1, hsends.rx_eq.1, htimed.fin_eq, htimed.rx_eq.1]

end Sys

end Smoltcp.Tcp
