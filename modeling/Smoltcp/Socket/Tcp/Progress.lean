import Smoltcp.Socket.Tcp.Armed
import Smoltcp.Socket.Tcp.Measurement
import Smoltcp.Socket.Tcp.Returns

/-!
# Runs without a panic

A remote that sends beyond the window it was last told of, and finds room for it, makes
`lastScaledWindow` panic. The edge of that window can move back, since windows are rounded to what
their field can express, so the condition is about the window told last and not about the highest
edge. `Heeds` keeps a remote within it. In runs of such a remote no call ever panics, and every call
whose arguments are valid is a step.
-/

namespace Smoltcp.Tcp

open Serial Checked

namespace Socket

variable {s s' : Socket} {cx : Context} {ipRepr : IpRepr} {repr : TcpRepr}

/-! ### A remote that heeds the window -/

/-- The right edge of the window that was last advertised with the acknowledgement `a`. -/
def edge (s : Socket) (a : SeqNumber) : SeqNumber :=
  shift a (shl s.remoteLastWin.toNat s.remoteWinShift)

/-- The payload ends at or before the right edge of the window that was last advertised. -/
def WithinEdge (s : Socket) (repr : TcpRepr) : Prop :=
  ∀ a, s.remoteLastAck = some a → repr.payload ≠ [] →
    dist repr.seqNumber (s.edge a) + repr.payload.length ≤ 0

/-- The remote answers a SYN of ours after it was sent, with the window it offers, and sends no
octet beyond a window. An RST in SYN-RECEIVED leaves the acknowledgement of the connection that it
ends behind, which says nothing of the next one until that is acknowledged in turn. -/
def Heeds (s : Socket) (repr : TcpRepr) : Prop :=
  (s.state = .synSent → s.remoteLastWin ≠ 0) ∧
  (s.state = .synReceived → repr.ackNumber ≠ none → ¬ s.Overrun) ∧
  (s.state = .synReceived ∨ s.state = .established ∨ s.state = .finWait1 ∨ s.state = .finWait2 →
    s.WithinEdge repr)

instance : Decidable s.Overrun :=
  match h : s.remoteLastAck with
  | none => .isFalse (by simp [Overrun, h])
  | some a =>
    decidable_of_iff (dist (shift a (shl s.remoteLastWin.toNat s.remoteWinShift)) s.nextAck < 0)
      (by simp [Overrun, h])

instance : Decidable (s.WithinEdge repr) :=
  match h : s.remoteLastAck with
  | none => .isTrue (by simp [WithinEdge, h])
  | some a =>
    decidable_of_iff (repr.payload ≠ [] → dist repr.seqNumber (s.edge a) + repr.payload.length ≤ 0)
      (by simp [WithinEdge, h])

instance : Decidable (s.Heeds repr) := inferInstanceAs (Decidable (_ ∧ _ ∧ _))

/-- No octet has arrived from behind the edge, where a window update may be considered. A
connection in SYN-RECEIVED has told of no window before its SYN is sent. -/
structure Edge (s : Socket) : Prop where
  synReceived : s.state = .synReceived → s.dataInFlight → ¬ s.Overrun
  opened : s.state = .established ∨ s.state = .finWait1 ∨ s.state = .finWait2 → ¬ s.Overrun

lemma overrun_congr (hack : s'.remoteLastAck = s.remoteLastAck)
    (hwin : s'.remoteLastWin = s.remoteLastWin) (hshift : s'.remoteWinShift = s.remoteWinShift)
    (hnext : s'.nextAck = s.nextAck) : s'.Overrun ↔ s.Overrun := by
  unfold Overrun
  rw [hack, hwin, hshift, hnext]

lemma not_overrun_of_none (h : s.remoteLastAck = none) : ¬ s.Overrun := by
  rintro ⟨a, ha, -⟩
  cases h.symm.trans ha

/-- Where the next acknowledgement is the one that was last sent, nothing has arrived since. -/
lemma not_overrun_of_nextAck (hbase : s.Base) (h : s.remoteLastAck = some s.nextAck) :
    ¬ s.Overrun := by
  rintro ⟨a, ha, hlt⟩
  cases h.symm.trans ha
  rw [SeqNumber.dist_shift_nat (shl_lt _ hbase.winShift)] at hlt
  omega

lemma not_overrun_acknowledged (hbase : s.Base) : ¬ s.acknowledged.Overrun :=
  not_overrun_of_nextAck hbase.acknowledged rfl

/-- Nothing that the edge is computed from has changed. -/
lemma Edge.congr (h : s.Edge) (hover : s'.Overrun ↔ s.Overrun)
    (hst : s'.state = s.state ∨ s'.state = .closed ∨ s'.state = .listen)
    (hflight : s'.dataInFlight → s.dataInFlight) : s'.Edge := by
  rcases hst with hst | hst | hst
  · refine ⟨fun hs hf => ?_, fun hs => ?_⟩
    · rw [hover]
      exact h.synReceived (hst ▸ hs) (hflight hf)
    · rw [hover]
      exact h.opened (hst ▸ hs)
  · exact ⟨by simp [hst], by simp [hst]⟩
  · exact ⟨by simp [hst], by simp [hst]⟩

/-- Where nothing was sent beyond the edge, a window update does not panic. -/
lemma Edge.not_overrun (h : s.Edge) (hsyn : s.state = .synSent → s.remoteLastAck = none)
    (hseq : s.seqToTransmit cx = .ok false) (hup : s.Updates) : ¬ s.Overrun := by
  rcases hup with hs | hs | hs | hs | hs
  · exact not_overrun_of_none (hsyn hs)
  · apply h.synReceived hs
    by_contra hflight
    unfold seqToTransmit at hseq
    simp only [bind_eq_ok] at hseq
    obtain ⟨_, -, _, -, hseq⟩ := hseq
    rw [if_pos ⟨.inr hs, hflight⟩] at hseq
    cases hseq
  · exact h.opened (.inl hs)
  · exact h.opened (.inr (.inl hs))
  · exact h.opened (.inr (.inr hs))

/-! ### The payload -/

lemma receivePayload_cases {payload : List UInt8} {offset : ℕ} {p : Option Packet} (hbase : s.Base)
    (hwin : offset + payload.length ≤ s.rxBuffer.window)
    (hopen : s.state.Opening → payload = [])
    (h : s.receivePayload cx ipRepr repr payload offset = .ok (s', p)) :
    s' = s ∨ ¬ s'.Overrun ∧ payload ≠ [] ∨ ∃ asm rx n t, payload ≠ [] ∧
      s' = { s with assembler := asm, rxBuffer := rx, ackDelayTimer := t } ∧
      Stores s payload offset asm rx n ∧ s.assembler.isEmpty := by
  unfold receivePayload at h
  split_ifs at h with hlen
  · cases h
    exact .inl rfl
  · have hne : payload ≠ [] := fun hnil => hlen (by rw [hnil]; rfl)
    obtain ⟨o, ho, h⟩ := bind_eq_ok.mp h
    rcases storePayload_eq_ok hwin ho with ⟨rfl, -⟩ | ⟨asm, rx, n, rfl, hstore⟩
    · cases h
      exact .inl rfl
    · obtain ⟨s₁, hs₁, h⟩ := bind_eq_ok.mp h
      obtain ⟨t, rfl⟩ := delayAck_eq_ok hs₁
      split_ifs at h with hack
      · obtain ⟨⟨s₂, p₂⟩, hreply, h⟩ := bind_eq_ok.mp h
        cases h
        rw [ackReply_eq_ok hreply]
        refine .inr (.inl ⟨not_overrun_acknowledged ?_, hne⟩)
        exact hbase.stores (fun ho => hne (hopen ho)) hwin hstore t
      · cases h
        rw [not_or, not_not, not_not] at hack
        exact .inr (.inr ⟨asm, rx, n, t, hne, rfl, hstore, hack.2⟩)

/-- Where the assembler was empty, no more becomes contiguous than has arrived. -/
lemma contigLen_of_isEmpty {payload : List UInt8} {offset n : ℕ} {asm : Assembler}
    (hempty : s.assembler.isEmpty)
    (hadd : s.assembler.addThenRemoveFront offset payload.length = .ok (asm, n)) :
    n ≤ offset + payload.length := by
  obtain ⟨hfront, -⟩ := Assembler.addThenRemoveFront_spec hadd
  by_contra hlt
  rcases hfront (offset + payload.length) (by omega) with h | h
  · exact hempty.not_covers h
  · omega

/-- Octets from within the edge do not overrun it. -/
lemma not_overrun_of_stores {payload : List UInt8} {offset n : ℕ} {d : ℤ} {asm : Assembler}
    {rx : SocketBuffer} {t : AckDelayTimer} (hbase : s.Base) (hover : ¬ s.Overrun)
    (hseq : repr.seqNumber = shift s.nextAck d)
    (hd : -2 ^ 31 ≤ d) (hd' : d < 2 ^ 31) (hn : (n : ℤ) ≤ d + repr.payload.length)
    (hwithin : ∀ a, s.remoteLastAck = some a →
      dist repr.seqNumber (s.edge a) + repr.payload.length ≤ 0)
    (hstore : Stores s payload offset asm rx n) :
    ¬ Overrun { s with assembler := asm, rxBuffer := rx, ackDelayTimer := t } := by
  rintro ⟨a, ha, hlt⟩
  have hle := hwithin a ha
  have hnot : 0 ≤ dist (s.edge a) s.nextAck := by
    by_contra h
    exact hover ⟨a, ha, by unfold edge at h; omega⟩
  have hedge : dist (s.edge a) s.nextAck < 2 ^ 31 := by
    have h := dist_lt (s.edge a) s.nextAck
    omega
  have hnext : shift s.remoteSeqNo rx.len = shift s.nextAck n := by
    rw [nextAck, shift_shift, hstore.len]
    push_cast
    rfl
  have hlt' : dist (s.edge a) (shift s.nextAck n) < 0 := by
    rw [← hnext]
    exact hlt
  rw [hseq] at hle
  have hat : s.edge a = shift s.nextAck (dist (s.edge a) s.nextAck) := (shift_dist _ _).symm
  generalize dist (s.edge a) s.nextAck = m at hat hnot hedge
  rw [hat, dist_shift_shift] at hle hlt'
  have hcap : n ≤ 2 ^ 30 :=
    hstore.le_window.trans (s.rxBuffer.window_le_capacity.trans hbase.capacity)
  have h₁ : (d - m).bmod (2 ^ 32) = d - m ∨ 0 < (d - m).bmod (2 ^ 32) := by
    rcases bmod_cases (x := d - m) (by omega) (by omega) with h | h | h <;> omega
  have h₂ : (m - n).bmod (2 ^ 32) = m - n := by
    rcases bmod_cases (x := m - n) (by omega) (by omega) with h | h | h <;> omega
  omega

/-! ### Segments -/

/-- What `process` comes to: it stops without touching the connection, resets it, or finishes. -/
lemma process_cases {p : Option Packet} (h : s.process cx ipRepr repr = .ok (s', p)) :
    Quiet s s' ∨ s'.state = .listen ∨ s'.state = .closed ∨
      ∃ w ack payload offset s₂, s.span repr = .ok w ∧
        Moves s cx ipRepr repr w ack payload offset s₂ ∧
        s₂.finishProcess cx ipRepr repr ack payload offset = .ok (s', p) := by
  cases Stages.of_process h with
  | checked hcheck => exact .inl (checkAck_ret hcheck)
  | trimmed w hw htrim => exact .inl (trimPayload_ret htrim)
  | stopped hreaches htr =>
    rcases transition_ret htr with rfl | ⟨-, -, st', rfl, ⟨rfl, -⟩ | rfl⟩
    · exact .inl hreaches.noted.quiet
    · exact .inr (.inl rfl)
    · exact .inr (.inr (.inl rfl))
  | finished s₂ hreaches htr hfin =>
    exact .inr (.inr (.inr ⟨_, _, _, _, s₂, hreaches.span,
      moves_of_transition hreaches.checked hreaches.span hreaches.trims hreaches.ackInfo htr,
      hfin⟩))

lemma finishProcess_cases {ack : AckInfo} {payload : List UInt8} {offset : ℕ} {p : Option Packet}
    (h : s.finishProcess cx ipRepr repr ack payload offset = .ok (s', p)) :
    ∃ s₁, Acked s cx repr ack s₁ ∧
      s₁.receivePayload cx ipRepr repr payload offset = .ok (s', p) := by
  unfold finishProcess at h
  obtain ⟨s₁, hs₁, h⟩ := bind_eq_ok.mp h
  obtain ⟨hlen, tx, rfl, htx, hcap⟩ := dequeueAcked_eq_ok hs₁
  obtain ⟨dup, last, cc, fast, hcc, hfast, heq⟩ := updateAck_eq
    { s.updateWindow cx (s.newRemoteWinLen repr) with txBuffer := tx } cx repr
    (decide (s.newRemoteWinLen repr ≠ s.remoteWinLen))
  simp only [heq] at h
  exact ⟨_, .intro tx _ cc dup last fast _ hlen htx hcap rfl hcc hfast, h⟩

lemma Edge.quiet (h : s.Edge) (hbase : s.Base) (hq : Quiet s s') : s'.Edge := by
  obtain ⟨_, _, _, _, _, s₁, -, -, -, rfl, rfl | rfl⟩ := hq
  · exact h.congr (overrun_congr rfl rfl rfl rfl) (.inl rfl) id
  · have hnot : ¬ s.acknowledged.Overrun := not_overrun_acknowledged hbase
    exact ⟨fun _ _ => hnot, fun _ => hnot⟩

/-- The receive side and the window before the payload is received. -/
lemma Acked.edge_eq {ack : AckInfo} (h : Acked s cx repr ack s') :
    s'.state = s.state ∧ s'.rxBuffer = s.rxBuffer ∧ s'.assembler = s.assembler ∧
      s'.nextAck = s.nextAck ∧ s'.remoteLastAck = s.remoteLastAck ∧
      (s'.Overrun ↔ s.Overrun) ∧ ∀ a, s'.edge a = s.edge a := by
  cases h
  exact ⟨rfl, rfl, rfl, rfl, rfl, overrun_congr rfl rfl rfl rfl, fun _ => rfl⟩

lemma StateStep.opened {aof : Bool} {st st' : State} {control : TcpControl}
    (h : StateStep aof st control st')
    (hst : st' = .established ∨ st' = .finWait1 ∨ st' = .finWait2) :
    control = .none ∧ (st = .synReceived ∨ st = .established ∨ st = .finWait1 ∨
      st = .finWait2) := by
  cases h <;> simp_all

/-- The SYN of the remote in SYN-SENT takes the first number of the window offered to it. -/
lemma not_overrun_synSynSent (hbase : s.Base) (hst : s.state = .synSent)
    (hwin : s.remoteLastWin ≠ 0) : ¬ (s.synSynSent repr).Overrun := by
  rintro ⟨a, ha, hlt⟩
  cases ha
  have hrx : s.rxBuffer.len = 0 := (hbase.rx_opening (.inr (.inl hst))).1
  have hk : (s.synSynSent repr).remoteWinShift.toNat ≤ 15 := by
    simp only [synSynSent, setRemoteOptions]
    split_ifs
    · simp
    · exact hbase.winShift
  have hw : (s.synSynSent repr).remoteLastWin = s.remoteLastWin := rfl
  have hnext : (s.synSynSent repr).nextAck = shift repr.seqNumber 1 := by
    simp [nextAck, synSynSent, setRemoteOptions, hrx]
  have hpos : 0 < shl s.remoteLastWin.toNat (s.synSynSent repr).remoteWinShift := by
    have hne : 0 < s.remoteLastWin.toNat := by
      rw [Nat.pos_iff_ne_zero]
      exact fun h => hwin (UInt16.toNat_inj.mp h)
    by_contra hzero
    have hback := shr_shl (x := s.remoteLastWin.toNat) s.remoteLastWin.toNat_lt hk
    rw [Nat.eq_zero_of_not_pos hzero] at hback
    simp [shr] at hback
    omega
  have hlt₁ := shl_lt s.remoteLastWin hk
  rw [hnext, hw, dist_shift_shift_of_lt _ (by omega) (by omega)] at hlt
  omega

/-- A segment that makes the state move on comes to a socket that was not overrun. -/
lemma Edge.not_overrun_of_moves (h : s.Edge) (hheeds : s.Heeds repr) (hacc : AckAcceptable s repr)
    (hst : s.state = .synReceived ∨ s.state = .established ∨ s.state = .finWait1 ∨
      s.state = .finWait2) : ¬ s.Overrun := by
  rcases hst with hs | hs | hs | hs
  · have hack : repr.ackNumber ≠ none := by
      cases hacc <;> simp_all
    exact hheeds.2.1 hs hack
  · exact h.opened (.inl hs)
  · exact h.opened (.inr (.inl hs))
  · exact h.opened (.inr (.inr hs))

lemma Edge.process {p : Option Packet} (h : s.Edge) (hbase : s.Base) (hheeds : s.Heeds repr)
    (hp : s.process cx ipRepr repr = .ok (s', p)) : s'.Edge := by
  rcases process_cases hp with hq | hst | hst | ⟨w, ack, payload, offset, s₂, hw, hmoves, hfin⟩
  · exact h.quiet hbase hq
  · exact ⟨by simp [hst], by simp [hst]⟩
  · exact ⟨by simp [hst], by simp [hst]⟩
  obtain ⟨s₃, hacked, hrecv⟩ := finishProcess_cases hfin
  obtain ⟨hstate, hrx, hasm, hnext, hlast, hover, hedge⟩ := hacked.edge_eq
  have hbase₃ := (hmoves.base hbase).acked hacked
  have hwin : offset + payload.length ≤ s₃.rxBuffer.window := by
    rw [hrx]
    exact hmoves.offset_add_length_le
  obtain ⟨s₁, hnoted, ht⟩ := hmoves.exists_transits
  have hbase₁ := hbase.quiet hnoted.quiet
  have htrimmed := hmoves.trimmed
  have hacc := hmoves.acceptable
  have hsame : s₁.state = s.state ∧ s₁.remoteLastWin = s.remoteLastWin ∧
      s₁.remoteLastAck = s.remoteLastAck ∧ s₁.nextAck = s.nextAck ∧
      (s₁.Overrun ↔ s.Overrun) ∧ ∀ a, s₁.edge a = s.edge a := by
    obtain ⟨_, _, _, -, -, rfl⟩ := hnoted
    exact ⟨rfl, rfl, rfl, rfl, overrun_congr rfl rfl rfl rfl, fun _ => rfl⟩
  obtain ⟨hstate₁, hwin₁, hlast₁, hnext₁, hover₁, hedge₁⟩ := hsame
  have hkept : payload = [] → s' = s₃ := by
    rintro rfl
    cases hrecv
    rfl
  cases ht with
  | synListen hctl hs hmss =>
    -- the SYN of the remote is not answered yet
    have hlisten : s.state = .listen := hstate₁.symm.trans hs
    obtain rfl := hkept (by rcases htrimmed with h | h <;> simp_all)
    have hnone : repr.ackNumber = none := by cases hacc <;> simp_all
    have hsr : s'.state = .synReceived := hstate
    refine ⟨fun _ hflight => absurd ?_ hflight, by simp [hsr]⟩
    cases hacked
    simp [hnone, synListen]
  | synSent hctl hs hmss =>
    have hss : s.state = .synSent := hstate₁.symm.trans hs
    obtain rfl := hkept (by rcases htrimmed with h | h <;> simp_all)
    have hwin : s₁.remoteLastWin ≠ 0 := by
      rw [hwin₁]
      exact hheeds.1 hss
    have hnot : ¬ s'.Overrun := by
      rw [hover]
      exact not_overrun_synSynSent hbase₁ hs hwin
    exact ⟨fun _ _ => hnot, fun _ => hnot⟩
  | moved st hst =>
    have hst₃ : s₃.state = st := hstate
    have hno := hst.not_opening
    have hrecv' := receivePayload_cases hbase₃ hwin (fun ho => absurd (hst₃ ▸ ho) hno) hrecv
    have hst' : s'.state = st := by
      rcases receivePayload_eq_ok hwin hrecv with _ | _ | _ <;> exact hst₃
    refine ⟨fun hsr => absurd (.inr (.inr (hst' ▸ hsr))) hno, fun hop => ?_⟩
    obtain ⟨hctl, hold⟩ := hst.opened (hst' ▸ hop)
    rw [hstate₁] at hold
    have hnext₂ : (s₁.moved cx (effectiveControl repr w) st).nextAck = s₁.nextAck := by
      simp [nextAck, moved, hctl]
    have hmoved : (s₁.moved cx (effectiveControl repr w) st).Overrun ↔ s₁.Overrun :=
      overrun_congr rfl rfl rfl hnext₂
    have hnot : ¬ s₃.Overrun := by
      rw [hover, hmoved, hover₁]
      exact h.not_overrun_of_moves hheeds hacc hold
    rcases hrecv' with rfl | ⟨hnot', -⟩ | ⟨asm, rx, n, t, hne, rfl, hstore, hempty⟩
    · exact hnot
    · exact hnot'
    · rcases htrimmed with ⟨-, hnil, -⟩ | ⟨-, -, htrim⟩
      · exact absurd hnil hne
      have hpay : repr.payload ≠ [] := by
        intro hnil
        apply hne
        rw [htrim.payload_eq, hnil]
        simp
      have hlen := htrim.length_payload
      have hoff := htrim.offset_eq
      have hn := contigLen_of_isEmpty hempty hstore.add
      have hlo := le_dist w.segmentStart w.windowStart
      have hhi := dist_lt w.segmentStart w.windowStart
      generalize dist w.segmentStart w.windowStart = d at htrim hlen hoff hlo hhi
      have hseq : repr.seqNumber = shift s₃.nextAck d := by
        rw [htrim.seqNumber, hnext, hnext₂, hnext₁, nextAck, shift_shift]
      refine not_overrun_of_stores hbase₃ hnot hseq (by omega) (by omega) (by omega) ?_ hstore
      intro a ha
      rw [hedge, show (s₁.moved cx (effectiveControl repr w) st).edge a = s.edge a from hedge₁ a]
      exact hheeds.2.2 hold a (hlast₁.symm.trans (hlast.symm.trans ha)) hpay

/-! ### Dispatching -/

lemma Edge.timed (h : s.Edge) (ht : Timed s cx s') : s'.Edge := by
  cases ht with
  | timeout => exact h.congr (overrun_congr rfl rfl rfl rfl) (.inr (.inl rfl)) id
  | rewind =>
    refine h.congr (overrun_congr rfl rfl rfl rfl) (.inl rfl) fun hflight => ?_
    exact absurd rfl hflight
  | same => exact h.congr (overrun_congr rfl rfl rfl rfl) (.inl rfl) id

/-- Every segment advertises a window for all that has arrived. -/
lemma Edge.sends {e : Emission} (h : s.Edge) (hbase : s.Base) (hemits : Emits s cx e)
    (hs : Sends s cx e s') : s'.Edge := by
  have hbase' : s'.Base := hbase.sends hemits.state_ne hs
  cases hs with
  | probe => exact h.congr (overrun_congr rfl rfl rfl rfl) (.inl rfl) id
  | keepAlive => exact h.congr (overrun_congr rfl rfl rfl rfl) (.inl rfl) id
  | segment hzwp hkeep hlen =>
    have hnot : ∀ {t : Socket}, t.Base → t.remoteLastAck = e.repr.ackNumber →
        t.nextAck = s.nextAck → ¬ t.Overrun := by
      intro t hbase ht hnext
      cases hack : e.repr.ackNumber with
      | none => exact not_overrun_of_none (ht.trans hack)
      | some a =>
        apply not_overrun_of_nextAck hbase
        rw [ht, hack, hnext, hemits.ackNumber_eq hack]
    exact ⟨fun _ _ => hnot hbase' rfl rfl, fun _ => hnot hbase' rfl rfl⟩

lemma Edge.dispatch {o : Option Emission} (h : s.Edge) (hbase : s.Base)
    (hd : DispatchRule s cx s' o) : s'.Edge := by
  cases hd with
  | noTuple => exact h
  | idle htuple htimed => exact h.timed htimed
  | reset htuple htimed => exact ⟨by rintro ⟨⟩, by simp [Socket.reset]⟩
  | failed htuple htimed => exact h.timed htimed
  | sent htuple htimed hsend hemits hsends =>
    exact (h.timed htimed).sends (hbase.timed htimed) hemits hsends

/-! ### The window of the remote -/

/-- The scale of the remote's window is one that the parser lets through, so that the window spans
less than half the sequence space. -/
structure Scaled (s : Socket) : Prop where
  scale : ∀ k, s.remoteWinScale = some k → k.toNat ≤ 14
  winLen : s.remoteWinLen < 2 ^ 31

lemma Scaled.congr (h : s.Scaled) (hscale : s'.remoteWinScale = s.remoteWinScale)
    (hwin : s'.remoteWinLen = s.remoteWinLen) : s'.Scaled := by
  refine ⟨fun k hk => ?_, ?_⟩
  · exact h.scale k (hscale.symm.trans hk)
  · rw [hwin]
    exact h.winLen

lemma newRemoteWinLen_lt (h : ∀ k, s.remoteWinScale = some k → k.toNat ≤ 14) :
    s.newRemoteWinLen repr < 2 ^ 31 := by
  unfold newRemoteWinLen
  apply shl_lt
  split_ifs
  · simp
  · cases hk : s.remoteWinScale with
    | none => simp
    | some k =>
      have hle := h k hk
      simp only [Option.getD_some]
      omega

lemma Scaled.process (h : s.Scaled) (hscale : ∀ k, repr.windowScale = some k → k.toNat ≤ 14)
    (hp : ProcessRule s cx ipRepr repr s') : s'.Scaled := by
  cases hp with
  | quiet hq =>
    obtain ⟨_, _, _, _, _, s₁, -, -, -, rfl, rfl | rfl⟩ := hq <;> exact h.congr rfl rfl
  | reset st hctl hlisten hq hst =>
    obtain ⟨_, _, _, _, _, s₁, -, -, -, rfl, rfl | rfl⟩ := hq <;> exact h.congr rfl rfl
  | @accepted _ _ _ _ _ s₂ s₃ _ ha =>
    have hscale₂ : ∀ k, s₂.remoteWinScale = some k → k.toNat ≤ 14 := by
      have ht := ha.transits
      obtain ⟨_, _, _, -, -, rfl⟩ := ha.noted
      cases ht with
      | synListen => exact hscale
      | synSent => exact hscale
      | moved => exact h.scale
    have h₃ : s₃.Scaled := by
      have hacked := ha.acked
      cases hacked
      exact ⟨hscale₂, newRemoteWinLen_lt hscale₂⟩
    cases ha.received <;> exact h₃.congr rfl rfl

lemma Scaled.dispatch {o : Option Emission} (h : s.Scaled) (hd : DispatchRule s cx s' o) :
    s'.Scaled := by
  have htimed : ∀ {s₁ : Socket}, Timed s cx s₁ → s₁.Scaled := by
    intro s₁ ht
    cases ht <;> exact h.congr rfl rfl
  cases hd with
  | noTuple => exact h
  | idle htuple ht => exact htimed ht
  | reset htuple ht => exact ⟨by rintro k ⟨⟩, by simp [Socket.reset]⟩
  | failed htuple ht => exact htimed ht
  | sent htuple ht hsend hemits hsends =>
    have h₁ := htimed ht
    cases hsends <;> exact h₁.congr rfl rfl

end Socket

namespace Sys

variable {y y' : Sys} {op : Op}

/-! ### Runs -/

/-- The parser lets no window scale above 14 through. -/
def Parsed (_ : Sys) : Op → Prop
  | .process _ _ repr => ∀ k ∈ repr.windowScale, k.toNat ≤ 14
  | _ => True

instance (y : Sys) : (op : Op) → Decidable (y.Parsed op)
  | .process _ _ repr => inferInstanceAs (Decidable (∀ k ∈ repr.windowScale, k.toNat ≤ 14))
  | .listen _ | .connect _ _ _ | .close | .abort | .set _ | .send _ | .sendSlice _ | .recv _
  | .recvSlice _ | .peek _ | .dispatch _ _ => .isTrue trivial

/-- A segment comes from the parser and from a remote that heeds the window. The application closes
a connection in SYN-RECEIVED only where the remote was told of a window in that connection. -/
def Heeds (y : Sys) : Op → Prop
  | .process cx ipRepr repr => y.Parsed (.process cx ipRepr repr) ∧ y.socket.Heeds repr
  | .close => y.socket.state = .synReceived → ¬ y.socket.Overrun
  | _ => True

instance (y : Sys) : (op : Op) → Decidable (y.Heeds op)
  | .process _ _ _ => inferInstanceAs (Decidable (_ ∧ _))
  | .close => inferInstanceAs (Decidable (_ → _))
  | .listen _ | .connect _ _ _ | .abort | .set _ | .send _ | .sendSlice _ | .recv _
  | .recvSlice _ | .peek _ | .dispatch _ _ => .isTrue trivial

lemma Heeds.parsed (h : y.Heeds op) : y.Parsed op := by
  cases op with
  | process => exact h.1
  | _ => trivial

lemma scaled_step (h : y.socket.Scaled) (hok : y.Parsed op) (hs : StepRule y op y') :
    y'.socket.Scaled := by
  cases hs with
  | same => exact h
  | listen => exact ⟨by rintro k ⟨⟩, by simp [Socket.reset]⟩
  | connect => exact ⟨by rintro k ⟨⟩, by simp [Socket.reset]⟩
  | close =>
    obtain ⟨st, heq, -⟩ := y.socket.close_eq
    rw [heq]
    exact h.congr rfl rfl
  | abort => exact h.congr rfl rfl
  | set x s' hset =>
    obtain ⟨_, _, _, _, _, _, _, _, timer, -, -, rfl⟩ := Socket.set_eq_ok hset
    exact h.congr rfl rfl
  | send op s' data hsend =>
    obtain ⟨-, tx, ts, -, -, -, rfl⟩ := hsend
    exact h.congr rfl rfl
  | recv op s' n hrecv =>
    obtain ⟨-, rx, -, -, rfl⟩ := hrecv
    exact h.congr rfl rfl
  | process cx ipRepr repr s' hp => exact h.process hok hp
  | dispatch cx emit s' e hd => exact h.dispatch hd

lemma edge_step (h : y.socket.Edge) (hbase : y.socket.Base) (hok : y.Heeds op)
    (hstep : Step y op y') : y'.socket.Edge := by
  have hrule := StepRule.of_step hstep
  cases hrule with
  | same => exact h
  | listen => exact ⟨by rintro ⟨⟩, by simp⟩
  | connect => exact ⟨by rintro ⟨⟩, by simp⟩
  | close =>
    have hover : ∀ st, (y.socket.setState st).Overrun ↔ y.socket.Overrun :=
      fun st => Socket.overrun_congr rfl rfl rfl rfl
    simp only [Socket.close]
    split
    · exact h.congr (hover _) (.inr (.inl rfl)) id
    · exact h.congr (hover _) (.inr (.inl rfl)) id
    · rename_i hst
      exact ⟨by rintro ⟨⟩, fun _ => (hover _).not.mpr (hok hst)⟩
    · rename_i hst
      exact ⟨by rintro ⟨⟩, fun _ => (hover _).not.mpr (h.opened (.inl hst))⟩
    · exact ⟨by rintro ⟨⟩, by simp [Socket.setState]⟩
    all_goals exact h
  | abort => exact h.congr (Socket.overrun_congr rfl rfl rfl rfl) (.inr (.inl rfl)) id
  | set x s' hset =>
    obtain ⟨_, _, _, _, _, _, _, _, timer, -, -, rfl⟩ := Socket.set_eq_ok hset
    exact h.congr (Socket.overrun_congr rfl rfl rfl rfl) (.inl rfl) id
  | send op s' data hsend =>
    obtain ⟨-, tx, ts, -, -, -, rfl⟩ := hsend
    exact h.congr (Socket.overrun_congr rfl rfl rfl rfl) (.inl rfl) id
  | recv op s' n hrecv =>
    -- what is taken out of the buffer was acknowledged as a part of it
    obtain ⟨-, rx, hshrinks, -, rfl⟩ := hrecv
    refine h.congr (Socket.overrun_congr rfl rfl rfl ?_) (.inl rfl) id
    have hle := hshrinks.le
    rw [Socket.nextAck, Socket.nextAck, hshrinks.len, shift_shift, Nat.cast_sub hle,
      add_sub_cancel]
  | process cx ipRepr repr s' hp =>
    obtain ⟨p, hproc⟩ := process_of_step hstep
    exact h.process hbase hok.2 hproc
  | dispatch cx emit s' e hd => exact h.dispatch hbase hd

lemma ReachableBy.scaled (h : ReachableBy Parsed y) : y.socket.Scaled := by
  refine h.invariant (I := fun y => y.socket.Scaled) ?_ ?_
  · rintro y ⟨cfg, rx, tx, hnew, -⟩
    unfold Socket.new at hnew
    split_ifs at hnew
    simp only [Except.ok.injEq] at hnew
    rw [← hnew]
    exact ⟨by rintro k ⟨⟩, by simp⟩
  · exact fun y op y' hscaled hok hs => scaled_step hscaled hok (.of_step hs)

lemma ReachableBy.edge (h : ReachableBy Heeds y) : y.socket.Edge := by
  obtain ⟨y₀, h₀, hrun⟩ := h
  refine hrun.invariant_of (I := fun y => y.socket.Edge) (J := fun y => y.socket.Base)
    (fun t ht => ReachableBy.base ⟨y₀, h₀, ht⟩) ?_ ?_
  · exact fun t op u hbase hedge hok hs => edge_step hedge hbase hok hs
  · have hclosed := h₀.new_eq.1
    exact ⟨by simp [hclosed], by simp [hclosed]⟩

end Sys

/-! ### No call panics -/

/-- What a caller has to see to: the segment is addressed to the socket and no longer than an IP
packet can be, the MTU leaves room for the headers, a hop limit is not zero, and a closure takes no
more than it is given. -/
def Op.Valid (s : Socket) : Op → Prop
  | .process _ ipRepr repr => s.accepts ipRepr repr ∧ repr.segmentLen < 2 ^ 31
  | .dispatch cx _ => 60 ≤ cx.ipMtu
  | .set (.hopLimit hopLimit) => hopLimit ≠ some 0
  | .send f => ∀ buf, (f buf).size ≤ buf.length
  | .recv f => ∀ buf, (f buf).size ≤ buf.length
  | _ => True

namespace Socket

variable {s : Socket} {cx : Context} {ρ : Type}

lemma send_returns {f : Callback UInt8 ρ} (hf : ∀ buf, (f buf).size ≤ buf.length) :
    Returns (s.send f) := by
  unfold send
  refine .ite (fun _ => .bind' ?_ fun _ => returns_ok _) fun _ => returns_ok _
  have hsize := (hf s.txBuffer.writeSlice).trans_eq s.txBuffer.length_writeSlice
  unfold RingBuffer.enqueueManyWith
  exact ⟨_, dif_pos hsize⟩

lemma sendSlice_returns (data : List UInt8) : Returns (s.sendSlice data) := by
  unfold sendSlice
  refine .ite (fun _ => .bind' ?_ fun _ => returns_ok _) fun _ => returns_ok _
  obtain ⟨tx, n, htx, -⟩ := s.txBuffer.enqueueSlice_spec data
  exact ⟨_, htx⟩

lemma noteReceived_returns {n : ℕ} (h : n < 2 ^ 31) : Returns (s.noteReceived n) := by
  unfold noteReceived
  exact (SeqNumber.returns_add h).bind' fun _ => returns_ok _

lemma recv_returns {f : Callback UInt8 ρ} (hrx : s.rxBuffer.capacity ≤ 2 ^ 30)
    (hf : ∀ buf, (f buf).size ≤ buf.length) : Returns (s.recv f) := by
  unfold recv
  split
  · exact returns_ok _
  · have hdequeue : Returns (s.rxBuffer.dequeueManyWith f) := by
      have hsize := (hf s.rxBuffer.readSlice).trans_eq s.rxBuffer.length_readSlice
      unfold RingBuffer.dequeueManyWith
      exact ⟨_, dif_pos hsize⟩
    refine hdequeue.bind fun q hq => ?_
    obtain ⟨-, -, hshrinks, -⟩ := s.rxBuffer.dequeueManyWith_eq_ok hq
    exact (noteReceived_returns (hshrinks.le.trans_lt (rxLen_lt hrx))).bind' fun _ => returns_ok _

lemma recvSlice_returns (hrx : s.rxBuffer.capacity ≤ 2 ^ 30) (n : ℕ) :
    Returns (s.recvSlice n) := by
  unfold recvSlice
  split
  · exact returns_ok _
  · obtain ⟨rx, m, hdequeue, hshrinks, -⟩ := s.rxBuffer.dequeueSlice_spec n
    rw [hdequeue, ok_bind]
    refine (noteReceived_returns ?_).bind' fun _ => returns_ok _
    have hle := hshrinks.le
    have hlt := rxLen_lt hrx
    rw [List.length_take, RingBuffer.length_toList]
    omega

lemma Edge.pollAt_returns (h : s.Edge) (hbase : s.Base)
    (hsyn : s.state = .synSent → s.remoteLastAck = none) (htx : s.txBuffer.capacity ≤ 2 ^ 30)
    (hmtu : 60 ≤ cx.ipMtu) : Returns (s.pollAt cx) := by
  rw [pollAt_returns_iff hbase htx hmtu]
  intro _ _ hseq hup
  exact h.not_overrun hsyn hseq hup

lemma Edge.dispatch_returns {emit : IpRepr → TcpRepr → Bool} (h : s.Edge) (hbase : s.Base)
    (hsyn : s.SynOnce) (hflight : s.Flight) (hscaled : s.Scaled)
    (htx : s.txBuffer.capacity ≤ 2 ^ 30) (hmtu : 60 ≤ cx.ipMtu) :
    Returns (s.dispatch cx emit) := by
  rw [dispatch_returns_iff hbase hflight htx hscaled.winLen hmtu]
  intro htuple _ hidle hup
  obtain ⟨s₁, hs₁⟩ : Returns ((s.touch cx).checkTimers cx) := checkTimers_returns htx htuple hmtu
  have htimed := checkTimers_eq_ok hs₁
  rw [htimed.eq_due] at htimed
  exact (h.timed htimed).not_overrun (hsyn.timed htimed).synSent hidle.1 hup

end Socket

namespace Sys

variable {y : Sys} {cx : Context} {ipRepr : IpRepr} {repr : TcpRepr}

/-- No segment makes `process` panic, whatever the history of the socket. -/
theorem process_never_panics (h : Reachable y) (htx : y.socket.txBuffer.capacity ≤ 2 ^ 30)
    (hacc : y.socket.accepts ipRepr repr) (hlen : repr.segmentLen < 2 ^ 31) :
    ∃ s p, y.socket.process cx ipRepr repr = .ok (s, p) := by
  obtain ⟨⟨s, p⟩, hp⟩ : Returns (y.socket.process cx ipRepr repr) :=
    Socket.process_returns h.base htx hacc hlen
  exact ⟨s, p, hp⟩

open Sample in
/-- A listening socket opened by the remote takes a segment with more than its window. -/
theorem process_never_panics_long : ∃ y s p, Reachable y ∧ y.socket.process (context 3)
    Sample.ipRepr (segment .none 101 (some 10001) 1000 (List.replicate 9 1)) = .ok (s, p) := by
  obtain ⟨y, hreach, hP⟩ := exists_sample (fun _ _ => True) (fun _ _ => true) 4
    [.listen ⟨none, 80⟩, process 0 (segment .syn 100 none 1000 []), dispatch 1,
      process 2 (segment .none 101 (some 10001) 1000 [])]
    (fun y => decide (y.socket.txBuffer.capacity ≤ 2 ^ 30 ∧ y.socket.accepts Sample.ipRepr
      (segment .none 101 (some 10001) 1000 (List.replicate 9 1)))) (fun _ _ _ => trivial)
    (by decide)
  obtain ⟨htx, hacc⟩ := of_decide_eq_true hP
  obtain ⟨s, p, hp⟩ := process_never_panics hreach htx hacc (by decide)
  exact ⟨y, s, p, hreach, hp⟩

/-- `dispatch` and `pollAt` panic exactly where they come to a window update of a socket whose
receive buffer has been overrun. -/
theorem emit_panics_iff {emit : IpRepr → TcpRepr → Bool} (h : ReachableBy Parsed y)
    (htx : y.socket.txBuffer.capacity ≤ 2 ^ 30) (hmtu : 60 ≤ cx.ipMtu) :
    ((∃ p, y.socket.dispatch cx emit = .error p) ↔ y.socket.tuple ≠ none ∧
        ¬ ((y.socket.due cx).state = .synReceived ∧ (y.socket.due cx).synackPaused) ∧
        (y.socket.due cx).Idle cx ∧ (y.socket.due cx).Updates ∧ (y.socket.due cx).Overrun) ∧
      ((∃ p, y.socket.pollAt cx = .error p) ↔ y.socket.tuple ≠ none ∧
        y.socket.remoteLastTs ≠ none ∧ y.socket.seqToTransmit cx = .ok false ∧
        y.socket.Updates ∧ y.socket.Overrun) := by
  have hreach := h.reachable
  constructor
  · rw [exists_error_iff, Socket.dispatch_returns_iff hreach.base hreach.flight htx
      h.scaled.winLen hmtu]
    simp only [Classical.not_imp, not_not]
  · rw [exists_error_iff, Socket.pollAt_returns_iff hreach.base htx hmtu]
    simp only [Classical.not_imp, not_not]

open Sample in
/-- The remote fills the receive buffer, and again when the application has read it, before it is
told of the room. -/
theorem emit_panics_iff_overrun : ∃ y, ReachableBy Parsed y ∧ y.socket.Overrun := by
  obtain ⟨y, hreach, hP⟩ := exists_sample Parsed (fun y op => decide (y.Parsed op)) 4
    [.listen ⟨none, 80⟩, process 0 (segment .syn 100 none 1000 []), dispatch 1,
      process 2 (segment .none 101 (some 10001) 1000 []),
      process 2 (segment .none 101 (some 10001) 1000 [1, 2, 3, 4]), .recvSlice 4,
      process 2 (segment .none 105 (some 10001) 1000 [5, 6, 7, 8])]
    (fun y => decide (y.socket.txBuffer.capacity ≤ 2 ^ 30) &&
      (y.socket.pollAt (context 3)).toOption.isNone) (fun _ _ h => of_decide_eq_true h)
    (by decide +kernel)
  obtain ⟨htx, hpoll⟩ := Bool.and_eq_true_iff.mp hP
  have hpanic : ∃ p, y.socket.pollAt (context 3) = .error p := by
    cases hp : y.socket.pollAt (context 3) with
    | error p => exact ⟨p, rfl⟩
    | ok t =>
      rw [hp] at hpoll
      cases hpoll
  have hiff := @emit_panics_iff y (context 3) (fun _ _ => true) hreach (of_decide_eq_true htx)
    (by decide)
  exact ⟨y, hreach, (hiff.2.mp hpanic).2.2.2.2⟩

end Sys

end Smoltcp.Tcp
