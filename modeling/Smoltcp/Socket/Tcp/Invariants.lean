import Smoltcp.Socket.Tcp.StepRules

/-!
# Invariants of every reachable socket

What holds of a socket whatever the application and the network do, stage by stage.
-/

namespace Smoltcp.Tcp

open Serial

/-! ### Congestion window -/

/-- The controller always allows some octet to be sent. -/
def AnyController.Positive : AnyController → Prop
  | .none => True
  | .reno r => 0 < r.cwnd ∧ 0 < r.minCwnd
  | .cubic q => 0 < q.cwnd ∧ 0 < q.minCwnd ∧ 0 < q.rwnd

namespace AnyController

variable {cc : AnyController}

lemma Positive.window_pos (h : cc.Positive) : 0 < cc.window := by
  cases cc with
  | none => exact Nat.sub_pos_of_lt (by norm_num)
  | reno r => exact h.1
  | cubic q => exact h.1

lemma positive_ofControl (c : CongestionControl) : (ofControl c).Positive := by
  cases c <;> simp [ofControl, Positive]

lemma Positive.setRemoteWindow (h : cc.Positive) (n : ℕ) : (cc.setRemoteWindow n).Positive := by
  cases cc with
  | none => trivial
  | reno r =>
    simp only [AnyController.setRemoteWindow, Reno.setRemoteWindow]
    split_ifs <;> exact h
  | cubic q =>
    simp only [AnyController.setRemoteWindow, Cubic.setRemoteWindow]
    split_ifs with hlt
    · exact ⟨h.1, h.2.1, by simp only; omega⟩
    · exact h

lemma Positive.onAck (h : cc.Positive) (n : ℕ) : (cc.onAck n).Positive := by
  cases cc with
  | none => trivial
  | reno r =>
    obtain ⟨hc, hm⟩ := h
    exact ⟨by simp only [Reno.onAck]; omega, hm⟩
  | cubic q =>
    simp only [AnyController.onAck, Cubic.onAck]
    split_ifs
    · obtain ⟨hc, hm, hr⟩ := h
      exact ⟨by simp only; omega, hm, hr⟩
    · exact h

lemma Positive.onRetransmit (h : cc.Positive) (now : Instant) : (cc.onRetransmit now).Positive := by
  cases cc with
  | none => trivial
  | reno r => exact ⟨by have := h.2; simp only [Reno.onRetransmit]; omega, h.2⟩
  | cubic q => exact h

lemma Positive.onDuplicateAck (h : cc.Positive) (now : Instant) :
    (cc.onDuplicateAck now).Positive := by
  cases cc <;> exact h

lemma Positive.preTransmit (h : cc.Positive) (now : Instant) : (cc.preTransmit now).Positive := by
  cases cc with
  | none => trivial
  | reno r => exact h
  | cubic q =>
    obtain ⟨hc, hm, hr⟩ := h
    simp only [AnyController.preTransmit, Cubic.preTransmit]
    split
    · exact ⟨hc, hm, hr⟩
    · split_ifs
      · exact ⟨hc, hm, hr⟩
      · exact ⟨hc, hm, hr⟩
      · split
        · exact ⟨hc, hm, hr⟩
        · exact ⟨by simp only; omega, hm, hr⟩

lemma Positive.setMss (h : cc.Positive) {n : ℕ} (hn : 0 < n) : (cc.setMss n).Positive := by
  cases cc with
  | none => trivial
  | reno r => exact ⟨h.1, hn⟩
  | cubic q => exact ⟨h.1, hn, h.2.2⟩

end AnyController

/-! ### The invariant -/

/-- No connection is open to data yet. -/
def State.Opening (st : State) : Prop := st = .listen ∨ st = .synSent ∨ st = .synReceived

/-- The invariant of every reachable socket. -/
structure Socket.Base (s : Socket) : Prop where
  capacity : s.rxBuffer.capacity ≤ 2 ^ 30
  winShift : s.remoteWinShift.toNat ≤ 15
  version : ∀ t, s.tuple = some t → t.localEnd.addr.version = t.remoteEnd.addr.version
  listening : s.state = .listen → s.tuple = none
  connected : s.state ≠ .closed → s.state ≠ .listen → s.tuple ≠ none
  rx_opening : s.state.Opening → s.rxBuffer.len = 0 ∧ s.rxFinReceived = false
  tx_opening : s.state.Opening → s.txBuffer.len = 0
  covers : ∀ p, s.assembler.Covers p → p < s.rxBuffer.window
  covers_opening : s.state.Opening → ∀ p, ¬ s.assembler.Covers p
  closeTimer : ∀ t, s.timer = .close t → s.state = .timeWait ∨ s.state = .closed
  mss : 0 < s.remoteMss ∧ s.remoteMss < 2 ^ 16
  winLen : s.remoteWinLen + 1 ≠ 2 ^ 31
  cwnd : s.congestionController.Positive

namespace Socket

variable {s s' : Socket} {cx : Context} {ipRepr : IpRepr} {repr : TcpRepr}

lemma winShift_le {n : ℕ} (h : n ≤ 2 ^ 30) : (Smoltcp.Tcp.winShift n).toNat ≤ 15 := by
  have hlog : n ≠ 0 → Nat.log2 n ≤ 30 := by
    intro hn
    have hlt : n < 2 ^ 31 := by omega
    have := (Nat.log2_lt hn).mpr hlt
    omega
  unfold Smoltcp.Tcp.winShift
  simp only
  rw [UInt8.toNat_ofNat']
  refine (Nat.mod_le _ _).trans ?_
  split_ifs with hn
  · omega
  · have := hlog hn
    omega

/-- A scaled window is at most `u16::MAX` or even. -/
lemma shl_add_one_ne {x : ℕ} (hx : x < 2 ^ 16) (k : UInt8) : shl x k + 1 ≠ 2 ^ 31 := by
  unfold shl
  rw [Nat.shiftLeft_eq]
  cases hk : k.toNat % 64 with
  | zero =>
    rw [pow_zero, Nat.mul_one]
    omega
  | succ n =>
    rw [pow_succ, ← Nat.mul_assoc]
    omega

lemma newRemoteWinLen_add_one_ne : s.newRemoteWinLen repr + 1 ≠ 2 ^ 31 :=
  shl_add_one_ne (UInt16.toNat_lt _) _

lemma base_new {cfg : Config} {rx tx : SocketBuffer} (h : Socket.new cfg rx tx = .ok s) :
    s.Base := by
  unfold Socket.new at h
  split_ifs at h with hcap
  cases h
  have hle : rx.capacity ≤ 2 ^ 30 := by omega
  constructor
  case capacity => exact hle
  case winShift => exact winShift_le hle
  case covers => exact fun p hp => absurd hp (Assembler.not_covers_new _ cfg.count_ne)
  case covers_opening => exact fun _ p => Assembler.not_covers_new _ cfg.count_ne
  case mss => simp [defaultMss]
  case cwnd => exact AnyController.positive_ofControl _
  all_goals simp [State.Opening, Timer.new]

lemma Base.reset (h : s.Base) : s.reset.Base := by
  constructor
  case capacity => exact h.capacity
  case winShift => exact winShift_le h.capacity
  case covers => exact fun p hp => absurd hp (Assembler.not_covers_clear _)
  case covers_opening => exact fun _ p => Assembler.not_covers_clear _
  case mss => simp [Socket.reset, defaultMss]
  case cwnd => exact h.cwnd
  all_goals simp [Socket.reset, State.Opening, Timer.new]

lemma Base.setState {st : State} (h : s.Base) (hopen : ¬ st.Opening)
    (htuple : st ≠ .closed → s.tuple ≠ none)
    (hclose : ∀ t, s.timer = .close t → st = .timeWait ∨ st = .closed) : (s.setState st).Base :=
  { h with
    listening := fun hl => absurd (.inl hl) hopen
    connected := fun hc _ => htuple hc
    rx_opening := fun ho => absurd ho hopen
    tx_opening := fun ho => absurd ho hopen
    covers_opening := fun ho => absurd ho hopen
    closeTimer := hclose }

lemma Base.setClosed (h : s.Base) : (s.setState .closed).Base :=
  h.setState (by simp [State.Opening]) (fun hc => absurd rfl hc) (fun _ _ => .inr rfl)

/-! ### Stages of `process` -/

lemma Base.quiet (h : s.Base) (hq : Quiet s s') : s'.Base := by
  obtain ⟨timer, lastSeq, rtte, cc, chal, s₁, htimer, -, hcc, rfl, hs'⟩ := hq
  have hclose : ∀ t, timer = .close t → s.state = .timeWait ∨ s.state = .closed := by
    rcases htimer with rfl | ⟨hstate, -⟩
    · exact h.closeTimer
    · exact fun _ _ => .inl hstate
  have hpos : cc.Positive := by
    rcases hcc with rfl | ⟨n, rfl⟩
    · exact h.cwnd
    · exact h.cwnd.onAck n
  rcases hs' with rfl | rfl <;> exact { h with closeTimer := hclose, cwnd := hpos }

lemma StateStep.not_opening {aof : Bool} {st st' : State} {control : TcpControl}
    (h : StateStep aof st control st') : ¬ st'.Opening := by
  cases h <;> simp [State.Opening]

lemma StateStep.ne {aof : Bool} {st st' : State} {control : TcpControl}
    (h : StateStep aof st control st') :
    st ≠ .closed ∧ st ≠ .listen ∧ st ≠ .timeWait ∧ st ≠ .synSent ∧ st' ≠ .listen := by
  cases h <;> simp

lemma Base.setRemoteOptions (h : s.Base) (hmss : repr.maxSegSize ≠ some 0) :
    (s.setRemoteOptions repr).Base := by
  have hm : ∀ m : UInt16, repr.maxSegSize = some m → 0 < m.toNat := by
    rintro m hm
    have hne : m ≠ 0 := fun h0 => hmss (by rw [hm, h0])
    rw [Nat.pos_iff_ne_zero]
    exact fun h0 => hne (UInt16.toNat_inj.mp h0)
  refine { h with winShift := ?_, mss := ?_, cwnd := ?_ }
  · simp only [Socket.setRemoteOptions]
    split_ifs
    · exact Nat.zero_le _
    · exact h.winShift
  · simp only [Socket.setRemoteOptions]
    cases hopt : repr.maxSegSize with
    | none => exact h.mss
    | some m => exact ⟨hm m hopt, m.toNat_lt⟩
  · simp only [Socket.setRemoteOptions]
    cases hopt : repr.maxSegSize with
    | none => exact h.cwnd
    | some m => exact h.cwnd.setMss (hm m hopt)

lemma Base.transits {control : TcpControl} {aof : Bool} (h : s.Base)
    (ht : Transits s cx ipRepr repr control aof s') : s'.Base := by
  cases ht with
  | synListen hctl hstate hmss =>
    have hopen : s.state.Opening := .inl hstate
    refine { h.setRemoteOptions hmss with
      version := ?_, listening := nofun, connected := nofun, rx_opening := ?_, tx_opening := ?_,
      covers_opening := ?_, closeTimer := nofun }
    · rintro t ⟨rfl⟩
      exact (IpRepr.version_srcAddr_eq ipRepr).symm
    · exact fun _ => h.rx_opening hopen
    · exact fun _ => h.tx_opening hopen
    · exact fun _ => h.covers_opening hopen
  | synSent hctl hstate hmss =>
    have hopen : s.state.Opening := .inr (.inl hstate)
    have htuple : s.tuple ≠ none := h.connected (by rw [hstate]; decide) (by rw [hstate]; decide)
    refine { h.setRemoteOptions hmss with
      version := h.version, listening := ?_, connected := fun _ _ => htuple, rx_opening := ?_,
      tx_opening := ?_, covers_opening := ?_, closeTimer := ?_ }
    · simp only [Socket.synSynSent]
      split_ifs <;> simp
    · exact fun _ => h.rx_opening hopen
    · exact fun _ => h.tx_opening hopen
    · exact fun _ => h.covers_opening hopen
    · intro t htimer
      have := h.closeTimer t htimer
      simp [hstate] at this
  | moved st hst =>
    obtain ⟨hclosed, hlisten, htw, hss, hlisten'⟩ := hst.ne
    have hno := hst.not_opening
    have hmoved : (s.moved cx control st).state = st := rfl
    refine { h with
      version := ?_, listening := ?_, connected := ?_, rx_opening := ?_, tx_opening := ?_,
      covers_opening := ?_, closeTimer := ?_ }
    · intro t htuple
      simp only [moved] at htuple
      split_ifs at htuple
      exact h.version t htuple
    · exact fun hl => absurd hl hlisten'
    · intro hc _
      have hc' : st ≠ .closed := hc
      simp only [moved, if_neg hc']
      exact h.connected hclosed hlisten
    · exact fun ho => absurd ho hno
    · exact fun ho => absurd ho hno
    · exact fun ho => absurd ho hno
    · intro t htimer
      simp only [moved] at htimer ⊢
      split_ifs at htimer with hst'
      · exact .inl hst'
      · rcases h.closeTimer t htimer with h' | h'
        · exact absurd h' htw
        · exact absurd h' hclosed

/-- The stages for the send side never start the close timer. -/
lemma finishTimer_eq_close {now : Instant} {keepAlive : Option Duration} {rto : Duration}
    {ack : AckInfo} {winLen txLen : ℕ} {t : Timer} {x : Instant}
    (h : finishTimer now keepAlive rto ack winLen txLen t = .close x) : t = .close x := by
  unfold finishTimer at h
  cases t <;> simp only [Timer.setForIdle, Timer.setForRetransmit, Timer.setForZeroWindowProbe] at h
    <;> split_ifs at h <;> simp_all [Timer.isZeroWindowProbe]

lemma Base.acked {ack : AckInfo} (h : s.Base) (ha : Acked s cx repr ack s') : s'.Base := by
  obtain ⟨tx, cc₁, cc, dup, last, fast, tsval, hlen, htx, -, rfl, hcc, -⟩ := ha
  refine { h with
    tx_opening := ?_, closeTimer := ?_, cwnd := ?_, winLen := newRemoteWinLen_add_one_ne }
  · intro hopen
    have hzero := h.tx_opening hopen
    change tx.len = 0
    rw [← RingBuffer.length_toList, htx, List.length_drop, RingBuffer.length_toList]
    omega
  · intro t htimer
    have hfin := finishTimer_eq_close htimer
    split_ifs at hfin
    exact h.closeTimer t hfin
  · have hwin := h.cwnd.setRemoteWindow (s.newRemoteWinLen repr)
    rcases hcc with rfl | ⟨now, rfl⟩
    · exact hwin
    · exact hwin.onDuplicateAck now

lemma Base.stores {payload : List UInt8} {offset n : ℕ} {asm : Assembler} {rx : SocketBuffer}
    (h : s.Base) (hopen : ¬ s.state.Opening) (hwin : offset + payload.length ≤ s.rxBuffer.window)
    (hs : Stores s payload offset asm rx n) (t : AckDelayTimer) :
    Base { s with assembler := asm, rxBuffer := rx, ackDelayTimer := t } := by
  obtain ⟨-, -, hcovers⟩ := Assembler.addThenRemoveFront_spec hs.add
  refine { h with
    capacity := ?_, rx_opening := fun ho => absurd ho hopen, covers := ?_,
    covers_opening := fun ho => absurd ho hopen }
  · change rx.capacity ≤ _
    rw [hs.capacity]
    exact h.capacity
  · intro p hp
    have hlt : p + n < s.rxBuffer.window := by
      rcases (hcovers p).mp hp with hp | hp
      · exact h.covers _ hp
      · omega
    have h₁ := s.rxBuffer.len_add_window
    have h₂ := rx.len_add_window
    have hlen := hs.len
    have hcap := hs.capacity
    change p < rx.window
    omega

lemma Base.acknowledged (h : s.Base) : s.acknowledged.Base := { h with }

lemma Base.received {payload : List UInt8} {offset : ℕ} (h : s.Base)
    (hopen : s.state.Opening → payload = []) (hwin : offset + payload.length ≤ s.rxBuffer.window)
    (hr : Received s payload offset s') : s'.Base := by
  cases hr with
  | dropped => exact h
  | stored asm rx n t hpay hs => exact h.stores (fun ho => hpay (hopen ho)) hwin hs t
  | acked asm rx n t hpay hs =>
    exact (h.stores (fun ho => hpay (hopen ho)) hwin hs t).acknowledged

/-- A connection that is still opening takes no payload. -/
lemma Accepted.payload_of_opening {w : Span} {ack : AckInfo} {payload : List UInt8} {offset : ℕ}
    {s₁ s₂ s₃ : Socket} (h : Accepted s cx ipRepr repr w ack payload offset s₁ s₂ s₃ s')
    (hopen : s₃.state.Opening) : payload = [] := by
  rw [h.rx_eq.2.2] at hopen
  have htr := h.transits
  rcases h.trimmed with ⟨-, hpay, -⟩ | ⟨hlisten, hss, -⟩
  · exact hpay
  · rw [← h.state_eq] at hlisten hss
    cases htr with
    | synListen hctl hstate hmss => exact absurd hstate hlisten
    | synSent hctl hstate hmss => exact absurd hstate hss
    | moved st hst => exact absurd hopen hst.not_opening

lemma Base.process (h : s.Base) (hp : ProcessRule s cx ipRepr repr s') : s'.Base := by
  cases hp with
  | quiet hq => exact h.quiet hq
  | @reset s₁ st hctl hlisten hq hst =>
    have h₁ := h.quiet hq
    obtain ⟨hstate, htimer⟩ : s₁.state = s.state ∧
        ∀ t, s₁.timer = .close t → s.state = .timeWait ∨ s.state = .closed := by
      have hclose := h₁.closeTimer
      obtain ⟨timer, lastSeq, rtte, cc, chal, s₂, -, -, -, rfl, rfl | rfl⟩ := hq <;>
        exact ⟨rfl, hclose⟩
    have hfrom : State.Opening st → s₁.state.Opening := by
      rcases hst with ⟨-, hsr, -⟩ | rfl
      · exact fun _ => .inr (.inr (hstate.trans hsr))
      · simp [State.Opening]
    refine { h₁ with
      version := nofun, listening := fun _ => rfl, connected := ?_, closeTimer := ?_,
      rx_opening := fun ho => h₁.rx_opening (hfrom ho),
      tx_opening := fun ho => h₁.tx_opening (hfrom ho),
      covers_opening := fun ho => h₁.covers_opening (hfrom ho) }
    · rcases hst with ⟨rfl, -⟩ | rfl <;> simp
    · intro t ht
      rcases hst with ⟨rfl, hsr, -⟩ | rfl
      · have := htimer t ht
        simp [hsr] at this
      · exact .inr rfl
  | @accepted w ack payload offset s₁ s₂ s₃ _ ha =>
    have h₃ := ((h.quiet ha.noted.quiet).transits ha.transits).acked ha.acked
    exact h₃.received ha.payload_of_opening ha.offset_add_length_le ha.received

/-! ### Dispatch -/

lemma Base.timed (h : s.Base) (ht : Timed s cx s') : s'.Base := by
  have htouch : (s.touch cx).Base := { h with cwnd := h.cwnd.preTransmit cx.now }
  cases ht with
  | timeout hto => exact htouch.setClosed
  | rewind hto hseq hre =>
    exact { htouch with closeTimer := nofun, cwnd := htouch.cwnd.onRetransmit cx.now }
  | same seq hto hseq hre => exact htouch

lemma rewindKeepAlive_eq_close {t : Timer} {now : Instant} {interval : Option Duration}
    {x : Instant}
    (h : t.rewindKeepAlive now interval = .close x) : t = .close x := by
  cases t <;> simp_all [Timer.rewindKeepAlive]

lemma Base.noteEmit (h : s.Base) : (s.noteEmit cx).Base :=
  { h with closeTimer := fun t ht => h.closeTimer t (rewindKeepAlive_eq_close ht) }

lemma Base.sends {e : Emission} (h : s.Base) (hstate : s.state ≠ .listen)
    (hs : Sends s cx e s') : s'.Base := by
  have h₁ : (s.noteEmit cx).Base := h.noteEmit
  cases hs with
  | probe hzwp =>
    refine { h₁ with closeTimer := fun t ht => h₁.closeTimer t ?_ }
    simp only at ht
    cases htimer : (s.noteEmit cx).timer <;> rw [htimer] at ht <;>
      simp_all [Timer.rewindZeroWindowProbe]
  | keepAlive hzwp hkeep => exact h₁
  | segment hzwp hkeep hlen =>
    refine { h₁ with version := ?_, listening := ?_, connected := ?_, closeTimer := ?_ }
    · intro t ht
      simp only [forget, noteData] at ht
      split_ifs at ht
      exact h.version t ht
    · exact fun hl => absurd hl hstate
    · intro hc hl
      have hc' : s.state ≠ .closed := hc
      change (if s.state = .closed then none else s.tuple) ≠ none
      rw [if_neg hc']
      exact h.connected hc' hstate
    · intro t ht
      refine h₁.closeTimer t ?_
      simp only [forget, noteData] at ht
      split_ifs at ht
      all_goals
        first
        | exact ht
        | (cases htimer : (s.noteEmit cx).timer <;> simp only [htimer] at ht <;>
            simp_all [Timer.setForRetransmit])

/-- No segment is built in LISTEN. -/
lemma Emits.state_ne {e : Emission} (h : Emits s cx e) : s.state ≠ .listen := by
  have hb : ∀ r zwp, Builds s cx r zwp → s.state ≠ .listen := by
    intro r zwp hb
    cases hb with
    | rst hstate => rw [hstate]; decide
    | syn hstate => rcases hstate with h | h <;> rw [h] <;> decide
    | data offset room mss zwp hstate =>
      rcases hstate with h | h | h | h | h <;> rw [h] <;> decide
    | ack hstate => rcases hstate with h | h <;> rw [h] <;> decide
  cases h with
  | segment r hbuilds => exact hb r _ hbuilds
  | keepAlive r hbuilds => exact hb r _ hbuilds

lemma Base.dispatch {e : Option Emission} (h : s.Base) (hd : DispatchRule s cx s' e) : s'.Base := by
  cases hd with
  | noTuple htuple => exact h
  | idle htuple htimed => exact h.timed htimed
  | reset htuple htimed => exact (h.timed htimed).reset
  | failed htuple htimed => exact h.timed htimed
  | sent htuple htimed hsend hemits hsends => exact (h.timed htimed).sends hemits.state_ne hsends

/-! ### Calls -/

lemma Base.close (h : s.Base) : s.close.Base := by
  have hopen : ∀ {st : State}, s.state = st → st ≠ .closed → st ≠ .listen → st ≠ .timeWait →
      s.tuple ≠ none ∧ ∀ t, s.timer ≠ .close t := by
    rintro st rfl hc hl ht
    exact ⟨h.connected hc hl, fun t htimer => (h.closeTimer t htimer).elim ht hc⟩
  unfold Socket.close
  split
  · exact h.setClosed
  · exact h.setClosed
  · rename_i hst
    obtain ⟨ht, hcl⟩ := hopen hst (by decide) (by decide) (by decide)
    exact h.setState (by simp [State.Opening]) (fun _ => ht) (fun t htm => absurd htm (hcl t))
  · rename_i hst
    obtain ⟨ht, hcl⟩ := hopen hst (by decide) (by decide) (by decide)
    exact h.setState (by simp [State.Opening]) (fun _ => ht) (fun t htm => absurd htm (hcl t))
  · rename_i hst
    obtain ⟨ht, hcl⟩ := hopen hst (by decide) (by decide) (by decide)
    exact h.setState (by simp [State.Opening]) (fun _ => ht) (fun t htm => absurd htm (hcl t))
  all_goals exact h

lemma setKeepAlive_eq_close {t : Timer} {x : Instant} (h : t.setKeepAlive = .close x) :
    t = .close x := by
  rcases t with (_ | _) | _ | _ | _ | _ <;> simp_all [Timer.setKeepAlive]

lemma Base.set {x : Setting} (h : s.Base) (hs : s.set x = .ok s') : s'.Base := by
  obtain ⟨_, _, _, _, _, _, cc, _, timer, htimer, hcc, rfl⟩ := set_eq_ok hs
  refine { h with closeTimer := ?_, cwnd := ?_ }
  · intro t ht
    rcases htimer with rfl | rfl
    · exact h.closeTimer t ht
    · exact h.closeTimer t (setKeepAlive_eq_close ht)
  · rcases hcc with rfl | ⟨c, rfl⟩
    · exact h.cwnd
    · exact AnyController.positive_ofControl c

lemma Base.enqueues {data : List UInt8} (h : s.Base) (hs : s.Enqueues s' data) : s'.Base := by
  obtain ⟨hmay, tx, ts, htx, -, -, rfl⟩ := hs
  refine { h with tx_opening := ?_, closeTimer := ?_ }
  · intro hopen
    unfold maySend at hmay
    rcases hopen with ho | ho | ho <;> simp only at ho <;> simp [ho] at hmay
  · intro t ht
    simp only at ht
    split_ifs at ht
    · cases ht
    · exact h.closeTimer t ht

lemma Base.dequeues {n : ℕ} {keeps : Prop} (h : s.Base) (hs : s.Dequeues s' n keeps) : s'.Base := by
  obtain ⟨-, rx, hshrinks, -, rfl⟩ := hs
  refine { h with capacity := ?_, rx_opening := ?_, covers := ?_ }
  · exact hshrinks.capacity.trans_le h.capacity
  · intro hopen
    obtain ⟨hlen, hfin⟩ := h.rx_opening hopen
    refine ⟨?_, hfin⟩
    have := hshrinks.len
    change rx.len = 0
    omega
  · intro p hp
    have hlt := h.covers p hp
    have := hshrinks.window
    change p < rx.window
    omega

end Socket

/-- One step keeps the invariant. -/
lemma Socket.Base.step {y y' : Sys} {op : Op} (h : y.socket.Base) (hs : StepRule y op y') :
    y'.socket.Base := by
  cases hs with
  | same => exact h
  | listen endpoint hopen hport =>
    have h₁ := h.reset
    refine { h₁ with
      listening := fun _ => rfl, connected := fun _ hl => absurd rfl hl, closeTimer := nofun,
      rx_opening := fun _ => ⟨rfl, rfl⟩, tx_opening := fun _ => rfl,
      covers_opening := fun _ _ => Assembler.not_covers_clear _ }
  | connect cx remote endpoint tuple hopen hversion =>
    have h₁ := h.reset
    refine { h₁ with
      version := ?_, listening := nofun, connected := nofun, closeTimer := nofun,
      rx_opening := fun _ => ⟨rfl, rfl⟩, tx_opening := fun _ => rfl,
      covers_opening := fun _ _ => Assembler.not_covers_clear _ }
    rintro t ⟨rfl⟩
    exact hversion
  | close => exact h.close
  | abort => exact h.setClosed
  | set x s' hs => exact h.set hs
  | send op s' data hs => exact h.enqueues hs
  | recv op s' n hs => exact h.dequeues hs
  | process cx ipRepr repr s' hs => exact h.process hs
  | dispatch cx emit s' e hs => exact h.dispatch hs

theorem Sys.ReachableBy.base {ok : Sys → Op → Prop} {y : Sys} (h : Sys.ReachableBy ok y) :
    y.socket.Base := by
  refine h.invariant (I := fun y => y.socket.Base) ?_ ?_
  · rintro y ⟨cfg, rx, tx, hnew, -⟩
    exact Socket.base_new hnew
  · intro y op y' hbase _ hstep
    exact hbase.step (.of_step hstep)

/-! ### The record of an opening connection -/

namespace Socket

variable {s s' s₁ : Socket} {cx : Context} {ipRepr : IpRepr} {repr : TcpRepr}

lemma Quiet.state_eq (h : Quiet s s') : s'.state = s.state := by
  obtain ⟨_, _, _, _, _, s₁, -, -, -, rfl, rfl | rfl⟩ := h <;> rfl

lemma Received.state_eq {payload : List UInt8} {offset : ℕ} (h : Received s payload offset s') :
    s'.state = s.state ∧ s'.remoteSeqNo = s.remoteSeqNo ∧
      s'.rxFinReceived = s.rxFinReceived := by
  cases h <;> exact ⟨rfl, rfl, rfl⟩

lemma Received.eq_of_nil {offset : ℕ} (h : Received s [] offset s') : s' = s := by
  cases h with
  | dropped => rfl
  | stored asm rx n t hne => exact absurd rfl hne
  | acked asm rx n t hne => exact absurd rfl hne

lemma Timed.state_eq (h : Timed s cx s') : s'.state = s.state ∨ s'.state = .closed := by
  cases h with
  | timeout => exact .inr rfl
  | rewind => exact .inl rfl
  | same => exact .inl rfl

lemma Sends.state_eq {e : Emission} (h : Sends s cx e s') : s'.state = s.state := by
  cases h <;> rfl

/-- A segment leads to an opening connection only from one. -/
lemma ProcessRule.opening (h : ProcessRule s cx ipRepr repr s') (hopen : s'.state.Opening) :
    s.state.Opening := by
  cases h with
  | quiet hq => rwa [hq.state_eq] at hopen
  | reset st hctl hlisten hq hst =>
    rcases hst with ⟨-, hsr, -⟩ | rfl
    · exact .inr (.inr hsr)
    · simp [State.Opening] at hopen
  | accepted ha =>
    have ht := ha.transits
    rw [ha.received.state_eq.1, ha.rx_eq.2.2] at hopen
    rw [← ha.state_eq]
    cases ht with
    | synListen hctl hstate hmss => exact .inl hstate
    | synSent hctl hstate hmss => exact .inr (.inl hstate)
    | moved st hst => exact absurd hopen hst.not_opening

lemma DispatchRule.state_eq {e : Option Emission} (h : DispatchRule s cx s' e) :
    s'.state = s.state ∨ s'.state = .closed := by
  cases h with
  | noTuple htuple => exact .inl rfl
  | idle htuple htimed => exact htimed.state_eq
  | reset htuple htimed => exact .inr rfl
  | failed htuple htimed => exact htimed.state_eq
  | sent htuple htimed hsend hemits hsends =>
    rw [hsends.state_eq]
    exact htimed.state_eq

end Socket

/-- While a connection is opening, the application has neither sent nor received an octet. -/
def Sys.Fresh (y : Sys) : Prop :=
  y.socket.state.Opening → y.conn.enqueued = [] ∧ y.conn.delivered = []

lemma Sys.Fresh.step {y y' : Sys} {op : Op} (h : y.Fresh) (hbase : y.socket.Base)
    (hs : StepRule y op y') : y'.Fresh := by
  have hclosed : ¬ State.Opening .closed := by simp [State.Opening]
  intro hopen
  cases hs with
  | same => exact h hopen
  | listen => exact ⟨rfl, rfl⟩
  | connect => exact ⟨rfl, rfl⟩
  | close =>
    refine h ?_
    revert hopen
    simp only [Socket.close]
    split <;> simp_all [Socket.setState, State.Opening]
  | abort => exact absurd hopen hclosed
  | set x s' hs =>
    obtain ⟨_, _, _, _, _, _, cc, _, timer, -, -, rfl⟩ := Socket.set_eq_ok hs
    exact h hopen
  | send op s' data hs =>
    obtain ⟨hmay, tx, ts, -, -, -, rfl⟩ := hs
    rcases hopen with ho | ho | ho <;> simp only at ho <;> simp [Socket.maySend, ho] at hmay
  | recv op s' n hs =>
    obtain ⟨hmay, rx, -, -, rfl⟩ := hs
    have hzero := (hbase.rx_opening hopen).1
    rcases hopen with ho | ho | ho <;> simp only at ho <;>
      simp [Socket.mayRecv, RingBuffer.isEmpty, ho, hzero] at hmay
  | process cx ipRepr repr s' hs =>
    have hold := h (hs.opening hopen)
    simp only [Conn.process]
    split_ifs
    · exact ⟨rfl, rfl⟩
    · exact hold
  | dispatch cx emit s' e hs =>
    have hold : y.conn.enqueued = [] ∧ y.conn.delivered = [] := by
      rcases hs.state_eq with heq | heq
      · exact h (heq ▸ hopen)
      · exact absurd (heq ▸ hopen) hclosed
    simp only [Conn.dispatch]
    split
    · exact hold
    · split_ifs <;> exact hold

theorem Sys.ReachableBy.fresh {ok : Sys → Op → Prop} {y : Sys} (h : Sys.ReachableBy ok y) :
    y.Fresh := by
  have hinv : y.socket.Base ∧ y.Fresh := by
    refine h.invariant (I := fun y => y.socket.Base ∧ y.Fresh) ?_ ?_
    · rintro y ⟨cfg, rx, tx, hnew, hconn⟩
      refine ⟨Socket.base_new hnew, fun _ => ?_⟩
      rw [hconn]
      exact ⟨rfl, rfl⟩
    · rintro y op y' ⟨hbase, hfresh⟩ _ hstep
      exact ⟨hbase.step (.of_step hstep), hfresh.step hbase (.of_step hstep)⟩
  exact hinv.2

end Smoltcp.Tcp
