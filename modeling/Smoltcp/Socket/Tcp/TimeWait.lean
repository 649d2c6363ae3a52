import Smoltcp.Socket.Tcp.Armed

/-!
# TIME-WAIT

A socket in TIME-WAIT waits for its close timer and for nothing else: all it has sent is
acknowledged, and the timer is left alone or restarted until it expires. How long the wait can be is
counted from the last segment, on a clock that does not run backwards.
-/

namespace Smoltcp.Tcp

open Serial

namespace Socket

variable {s s' s₁ s₂ s₃ : Socket} {cx : Context} {ipRepr : IpRepr} {repr : TcpRepr}
  {p : Option Packet}

/-! ### Segments that arrive in TIME-WAIT -/

lemma challengeAckReply_timer (h : s.challengeAckReply cx ipRepr repr = .ok (s', p)) :
    s'.timer = s.timer := by
  obtain ⟨chal, rfl | rfl⟩ := challengeAckReply_eq_ok h
  · rfl
  · rfl

lemma checkAck_timeWait (hst : s.state = .timeWait)
    (h : s.checkAck cx ipRepr repr = .ok (.ret s' p)) : s'.timer = s.timer := by
  unfold checkAck at h
  split_ifs at h with hrst hsyn
  · cases h
    rfl
  · cases h
  · simp only [checkAckNumber, hst] at h
    cases hack : repr.ackNumber with
    | none =>
      rw [hack] at h
      cases h
      rfl
    | some a =>
      rw [hack] at h
      simp only [Option.elim, checkAckRange] at h
      obtain ⟨ackMax, -, h⟩ := Checked.bind_eq_ok.mp h
      generalize (if s.sentSyn then shift s.localSeqNo 1 else s.localSeqNo) = ackMin at h
      split_ifs at h
      · cases h
        rfl
      · obtain ⟨⟨s₁, q⟩, hc, h⟩ := Checked.bind_eq_ok.mp h
        cases h
        exact challengeAckReply_timer hc
      · cases h

/-- Only a segment outside the receive window restarts the close timer. -/
lemma trimPayload_timeWait {w : Span} (hst : s.state = .timeWait)
    (h : s.trimPayload cx ipRepr repr w = .ok (.ret s' p)) : s'.timer = .setForClose cx.now := by
  simp only [trimPayload, hst] at h
  split_ifs at h
  · simp only [Checked.bind_eq_ok, Checked.pure_eq_ok] at h
    obtain ⟨_, _, _, _, _, _, _, _, _, _, h⟩ := h
    cases h
  · obtain ⟨⟨s₁, q⟩, hc, h⟩ := Checked.bind_eq_ok.mp h
    cases h
    unfold rejectSegment at hc
    rw [if_pos hst] at hc
    exact challengeAckReply_timer hc

/-- A segment leaves the close timer alone or restarts it. -/
lemma process_timeWait (hst : s.state = .timeWait)
    (hp : s.process cx ipRepr repr = .ok (s', p)) :
    s'.timer = s.timer ∨ s'.timer = .setForClose cx.now := by
  cases Stages.of_process hp with
  | checked hcheck => exact .inl (checkAck_timeWait hst hcheck)
  | trimmed w hw htrim => exact .inr (trimPayload_timeWait hst htrim)
  | stopped hreaches hret =>
    left
    obtain ⟨lastSeq, rtte, cc, -, -, heq⟩ := hreaches.noted
    rw [heq] at hret
    rcases transition_ret hret with rfl | ⟨-, -, st, rfl, -⟩
    · rfl
    · rfl
  | finished s₂ hreaches hnext =>
    obtain ⟨lastSeq, rtte, cc, -, -, heq⟩ := hreaches.noted
    rw [heq] at hnext
    exact absurd hst (transition_next hnext).state_ne

/-! ### The way into TIME-WAIT -/

lemma finishTimer_close (now : Instant) (keepAlive : Option Duration) (rto : Duration)
    (ack : AckInfo)
    (winLen : ℕ) (e : Instant) :
    finishTimer now keepAlive rto ack winLen 0 (.close e) = .close e := by
  unfold finishTimer
  simp only [not_true_eq_false, false_and, and_false, if_false]
  exact if_neg fun h => h.2

lemma Flight.inFlight_timeWait (h : s.Flight) (hst : s.state = .timeWait) : s.inFlight = 0 := by
  have htx := h.drained (.inr hst)
  have hctl : s.controlLen = 0 := by simp [controlLen, sentSyn, sentFin, hst]
  have hle := h.le_control (by simp [hst]) (by simp [hst])
  have hpos := h.nonneg
  omega

/-- All that was sent is acknowledged by the segment that leads into TIME-WAIT, so that it starts no
fast retransmission. -/
lemma Accepted.not_lt {w : Span} {ack : AckInfo} {payload : List UInt8} {offset : ℕ}
    (h : Accepted s cx ipRepr repr w ack payload offset s₁ s₂ s₃ s') (hbase : s.Base)
    (hf : s.Flight)
    (hf' : s'.Flight) (hst' : s'.state = .timeWait) {a : SeqNumber}
      (hack : repr.ackNumber = some a) :
    ¬ SeqNumber.lt a s.remoteLastSeq := by
  obtain ⟨n, hA⟩ := hf.acknowledges hbase h.advances (by simp [hack])
  have hnum := hA.ackNumber
  rw [hack, Option.some.injEq] at hnum
  have hzero := hf'.inFlight_timeWait hst'
  have hin := hA.inFlight
  rw [hnum, s.lt_iff_inFlight hA.lt hf.nonneg]
  omega

/-- TIME-WAIT is entered with the close timer. -/
lemma ProcessRule.timer_timeWait (h : ProcessRule s cx ipRepr repr s') (hbase : s.Base)
    (hf : s.Flight) (hst : s.state ≠ .timeWait) (hst' : s'.state = .timeWait) :
    s'.timer = .setForClose cx.now := by
  have hf' := hf.process hbase h
  cases h with
  | quiet hq => exact absurd (hq.state_eq ▸ hst') hst
  | reset st _ _ _ hreset =>
    simp only at hst'
    rcases hreset with ⟨rfl, -⟩ | rfl <;> cases hst'
  | accepted ha =>
    have htx' := hf'.drained (.inr hst')
    have hnot := fun a => ha.not_lt hbase hf hf' hst' (a := a)
    obtain ⟨-, -, htx, -, htimer, -⟩ := ha.received.send_eq
    rw [ha.received.state_eq.1] at hst'
    have ht := ha.transits
    have hacked := ha.acked
    obtain ⟨_, _, _, -, -, rfl⟩ := ha.noted
    obtain ⟨tx, cc₁, cc, dup, last, fast, tsval, -, -, -, -, -, hfast⟩ := hacked
    simp only at htx htimer hst'
    rw [htimer, ← htx, htx']
    cases ht with
    | synListen _ hlisten _ => simp [synListen] at hst'
    | synSent _ hs _ =>
      simp only [synSynSent] at hst'
      split_ifs at hst'
    | moved st hstep =>
      obtain rfl : st = .timeWait := hst'
      have hslow : fast = false := by
        refine Bool.eq_false_of_not_eq_true fun hf => ?_
        obtain ⟨a, hack, hlt⟩ := hfast hf
        exact hnot a hack hlt
      simp only [moved, hslow, Bool.false_eq_true, if_false, if_true]
      exact finishTimer_close ..

/-! ### Calls of `dispatch` in TIME-WAIT -/

lemma Sends.timer_close {e : Emission} {t : Instant} (h : Sends s cx e s')
    (ht : s.timer = .close t) : s'.timer = .close t := by
  cases h with
  | probe => simp [noteEmit, ht, Timer.rewindKeepAlive, Timer.rewindZeroWindowProbe]
  | keepAlive => simp [noteEmit, ht, Timer.rewindKeepAlive]
  | segment =>
    simp only [forget, noteData, noteEmit, ht, Timer.rewindKeepAlive, Timer.setForRetransmit,
      ite_self]

/-- The state does not matter as long as the close timer is armed: `dispatch` resets the socket when
it expires, or leaves the timer alone. -/
lemma DispatchRule.timer_close {o : Option Emission} {t : Instant} (h : DispatchRule s cx s' o)
    (ht : s.timer = .close t) : s'.timer = .close t ∨ s'.state = .closed ∧ t ≤ cx.now := by
  have htimed : ∀ {s₁ : Socket}, Timed s cx s₁ → s₁.timer = .close t := by
    intro s₁ h₁
    cases h₁ with
    | timeout => exact ht
    | rewind _ _ hre =>
      rw [ht] at hre
      exact hre.elim
    | same => exact ht
  cases h with
  | noTuple => exact .inl ht
  | idle _ h₁ => exact .inl (htimed h₁)
  | reset _ h₁ hclose =>
    have hexp := (decision_close hclose).2
    rw [htimed h₁] at hexp
    exact .inr ⟨rfl, hexp⟩
  | failed _ h₁ => exact .inl (htimed h₁)
  | sent _ h₁ _ _ hsends => exact .inl (hsends.timer_close (htimed h₁))

/-- There is nothing to transmit, so that only the room for a header is computed. -/
lemma seqToTransmit_timeWait {tuple : Tuple} (hf : s.Flight) (hst : s.state = .timeWait)
    (htuple : s.tuple = some tuple) :
    s.seqToTransmit cx =
      (localMss cx (IpRepr.headerLenOf tuple.localEnd.addr)).map fun _ => false := by
  have htx := hf.drained (.inr hst)
  have hzero := hf.inFlight_timeWait hst
  have hlast : s.remoteLastSeq = s.localSeqNo := (dist_eq_zero_iff _ _).mp hzero
  have hflight : ¬ s.dataInFlight := fun hne => hne hlast
  have hfin : ¬ s.wantFin := by simp [wantFin, hst]
  have hroom : s.roomTo (shift s.localSeqNo ((0 : ℕ) : ℤ)) = .ok 0 := by
    rw [hf.roomTo_eq (by omega), hzero]
    rfl
  have hmax : s.maxSend = .ok 0 := by
    unfold maxSend
    rw [htx, Nat.min_zero, SeqNumber.add_of_lt (by omega), Checked.ok_bind, hroom, Checked.ok_bind,
      Nat.zero_min]
    rfl
  unfold seqToTransmit
  rw [htuple, show Checked.unwrap (some tuple) = .ok tuple from rfl, Checked.ok_bind]
  cases localMss cx (IpRepr.headerLenOf tuple.localEnd.addr) with
  | error e => rfl
  | ok mss =>
    have hcan : s.canFin = .ok false := if_neg hfin
    rw [Checked.ok_bind, if_neg (by simp [hst]), hmax, Checked.ok_bind, hcan, Checked.ok_bind]
    simp only [hflight, false_and, and_false, if_false, ne_eq, not_true_eq_false,
      Bool.false_eq_true, or_self, decide_false]
    rfl

/-- A call after the close timer has expired resets the socket, if no acknowledgement is due and the
timeout of the application has not expired. -/
lemma dispatch_timeWait {tuple : Tuple} {emit : IpRepr → TcpRepr → Bool} (hf : s.Flight)
    (hst : s.state = .timeWait) (htuple : s.tuple = some tuple)
    (hclose : s.timer.shouldClose cx.now) (hack : s.ackToTransmit = .ok false)
    (hto : ¬ (s.touch cx).timedOut cx.now) :
    s.dispatch cx emit = (localMss cx (IpRepr.headerLenOf tuple.localEnd.addr)).map
      fun _ => ((s.touch cx).reset, none) := by
  have hf' : (s.touch cx).Flight := hf.congr rfl rfl rfl (.inl rfl)
  have hst' : (s.touch cx).state = .timeWait := hst
  have htuple' : (s.touch cx).tuple = some tuple := htuple
  have hack' : (s.touch cx).ackToTransmit = .ok false := hack
  obtain ⟨t, ht⟩ : ∃ t, (s.touch cx).timer = .close t := by
    change ∃ t, s.timer = .close t
    cases htimer : s.timer with
    | close t => exact ⟨t, rfl⟩
    | _ =>
      rw [htimer] at hclose
      exact hclose.elim
  have hclose' : (s.touch cx).timer.shouldClose cx.now := hclose
  unfold dispatch checkTimers
  rw [if_neg (by simp [htuple])]
  generalize s.touch cx = s₁ at *
  have hseq : s₁.seqToTransmit cx =
      (localMss cx (IpRepr.headerLenOf tuple.localEnd.addr)).map fun _ => false :=
    seqToTransmit_timeWait hf' hst' htuple'
  have hwin : s₁.windowToUpdate = .ok false := by simp only [windowToUpdate, hst']
  have hre : ¬ s₁.timer.shouldRetransmit cx.now := by
    rw [ht]
    exact id
  have hkeep : ¬ s₁.timer.shouldKeepAlive cx.now := by
    rw [ht]
    exact id
  have hprobe : ¬ s₁.timer.shouldZeroWindowProbe cx.now := by
    rw [ht]
    exact id
  rw [if_neg hto, hseq]
  cases hmss : localMss cx (IpRepr.headerLenOf tuple.localEnd.addr) with
  | error e => rfl
  | ok mss =>
    rw [hmss] at hseq
    have hdecision : s₁.decision cx = .ok .close := by
      unfold decision
      rw [hseq]
      simp [Except.map, hack', hwin, hst', hkeep, hprobe, hclose']
    simp [Except.map, hre, hst', hdecision]

end Socket

/-! ### Steps -/

/-- The calls that open a socket anew, which they also do in TIME-WAIT. -/
def Op.Opens : Op → Prop
  | .listen _ | .connect _ _ _ => True
  | _ => False

lemma toInt_add_closeDelay_le (t : Instant) :
    (t.add closeDelay).toInt ≤ t.toInt + closeDelay.toNat := by
  have hle := t.le_toInt
  have hcast : closeDelay.toInt64.toInt = 10000000 := by decide
  have hnat : closeDelay.toNat = 10000000 := by decide
  rw [Instant.add, Int64.toInt_add, hcast, hnat, Int.bmod_def]
  split_ifs <;> omega

namespace Sys

variable {y y' : Sys} {op : Op}

/-- In TIME-WAIT the close timer is left alone, or restarted by a segment, or it expires. -/
lemma timer_of_step {t : Instant} (hst : y.socket.state = .timeWait)
    (ht : y.socket.timer = .close t) (hstep : Step y op y') (hopens : ¬ op.Opens) :
    y'.socket.timer = .close t ∨
      (∃ cx ipRepr repr, op = .process cx ipRepr repr ∧
        y'.socket.timer = .setForClose cx.now) ∨
      ∃ cx emit, op = .dispatch cx emit ∧ t ≤ cx.now ∧ y'.socket.state = .closed := by
  have hrule := StepRule.of_step hstep
  cases hrule with
  | same => exact .inl ht
  | listen | connect => exact absurd trivial hopens
  | close =>
    obtain ⟨st, heq, -⟩ := y.socket.close_eq
    rw [heq]
    exact .inl ht
  | abort => exact .inl ht
  | set x s' hset =>
    obtain ⟨_, _, _, _, _, _, _, _, timer, htimer, -, rfl⟩ := Socket.set_eq_ok hset
    rcases htimer with rfl | rfl
    · exact .inl ht
    · exact .inl (by simp only [ht, Timer.setKeepAlive])
  | send op s' data hsend =>
    rcases hsend.maySend with hs | hs <;> simp [hst] at hs
  | recv op s' n hrecv =>
    obtain ⟨-, rx, -, -, rfl⟩ := hrecv
    exact .inl ht
  | process cx ipRepr repr s' hp =>
    obtain ⟨p, hproc⟩ := process_of_step hstep
    rcases Socket.process_timeWait hst hproc with htimer | htimer
    · exact .inl (htimer.trans ht)
    · exact .inr (.inl ⟨cx, ipRepr, repr, rfl, htimer⟩)
  | dispatch cx emit s' e hd =>
    rcases hd.timer_close ht with htimer | ⟨hclosed, hexp⟩
    · exact .inl htimer
    · exact .inr (.inr ⟨cx, emit, rfl, hexp, hclosed⟩)

/-- TIME-WAIT is entered by a segment, which starts the close timer. -/
lemma enters_timeWait (hreach : y.Reachable) (hst : y.socket.state ≠ .timeWait)
    (hst' : y'.socket.state = .timeWait) (hstep : Step y op y') :
    ∃ cx ipRepr repr, op = .process cx ipRepr repr ∧ y'.socket.timer = .setForClose cx.now := by
  have hrule := StepRule.of_step hstep
  cases hrule with
  | same => exact absurd hst' hst
  | listen | connect | abort => cases hst'
  | close =>
    obtain ⟨st, heq, hcases⟩ := y.socket.close_eq
    rw [heq] at hst'
    obtain rfl : st = .timeWait := hst'
    rcases hcases with ⟨-, h⟩ | ⟨-, h⟩ | ⟨-, h⟩ | ⟨-, h⟩
    · cases h
    · cases h
    · cases h
    · exact absurd h.symm hst
  | set x s' hset =>
    obtain ⟨_, _, _, _, _, _, _, _, timer, -, -, rfl⟩ := Socket.set_eq_ok hset
    exact absurd hst' hst
  | send op s' data hsend =>
    obtain ⟨-, tx, ts, -, -, -, rfl⟩ := hsend
    exact absurd hst' hst
  | recv op s' n hrecv =>
    obtain ⟨-, rx, -, -, rfl⟩ := hrecv
    exact absurd hst' hst
  | process cx ipRepr repr s' hp =>
    exact ⟨cx, ipRepr, repr, rfl, hp.timer_timeWait hreach.base hreach.flight hst hst'⟩
  | dispatch cx emit s' e hd =>
    rcases hd.state_eq with h | h
    · exact absurd (h.symm.trans hst') hst
    · cases h.symm.trans hst'

/-- A socket that is opened anew leaves TIME-WAIT. -/
lemma timer_of_opens (hst' : y'.socket.state = .timeWait) (hstep : Step y op y')
    (hopens : op.Opens) : y'.socket.timer = y.socket.timer := by
  have hrule := StepRule.of_step hstep
  cases hrule with
  | same => rfl
  | listen | connect => cases hst'
  | close | abort | set | process | dispatch => exact hopens.elim
  | send op s' data hsend =>
    obtain ⟨hmay, tx, ts, -, -, -, rfl⟩ := hsend
    rcases hmay with hs | hs <;> cases hs.symm.trans hst'
  | recv op s' n hrecv =>
    obtain ⟨-, rx, -, -, rfl⟩ := hrecv
    rfl

end Sys

/-! ### The clock -/

/-- A run with the time of the last segment. -/
structure Clocked where
  sys : Sys
  lastSegment : Option Instant

namespace Clocked

def next (g : Clocked) (op : Op) (y : Sys) : Clocked :=
  match op with
  | .process cx _ _ => ⟨y, some cx.now⟩
  | _ => ⟨y, g.lastSegment⟩

def step (g : Clocked) (op : Op) : Checked Clocked := do
  let y ← g.sys.step op
  return g.next op y

/-- The clock does not run backwards from one segment to the next. -/
def Timely (g : Clocked) : Op → Prop
  | .process cx _ _ => ∀ t ∈ g.lastSegment, t ≤ cx.now
  | _ => True

/-- The states reached on such a clock. -/
def Reachable (g : Clocked) : Prop :=
  ∃ y₀ : Sys, y₀.Initial ∧
    Transition.Run (fun g op g' => g.step op = .ok g') Timely ⟨y₀, none⟩ g

/-- The close timer runs, and expires at most ten seconds after the last segment. -/
def Lingers (g : Clocked) : Prop :=
  ∃ expiresAt last, g.sys.socket.timer = .close expiresAt ∧ g.lastSegment = some last ∧
    expiresAt.toInt ≤ last.toInt + closeDelay.toNat

variable {g g' : Clocked} {op : Op}

lemma step_eq_ok (h : g.step op = .ok g') :
    Sys.Step g.sys op g'.sys ∧ g'.lastSegment = (g.next op g'.sys).lastSegment := by
  obtain ⟨y, hy, h⟩ := Checked.bind_eq_ok.mp h
  cases h
  have hsys : (g.next op y).sys = y := by
    unfold next
    split <;> rfl
  rw [hsys]
  exact ⟨hy, rfl⟩

lemma Reachable.sys (h : g.Reachable) : g.sys.Reachable := by
  obtain ⟨y₀, h₀, hrun⟩ := h
  refine hrun.invariant (I := fun g => g.sys.Reachable) (fun t op u ht _ hstep => ?_) ?_
  · exact ht.trans (.tail op .refl trivial (step_eq_ok hstep).1)
  · exact ⟨y₀, h₀, .refl⟩

/-- The last segment only moves on, so that a timer that is left alone stays within its bound. -/
lemma Lingers.congr (h : g.Lingers) (hok : g.Timely op)
    (hlast : g'.lastSegment = (g.next op g'.sys).lastSegment)
    (htimer : g'.sys.socket.timer = g.sys.socket.timer) : g'.Lingers := by
  obtain ⟨expiresAt, last, hclose, hsegment, hle⟩ := h
  cases op with
  | process cx ipRepr repr =>
    have hnow := hok last hsegment
    rw [Int64.le_iff_toInt_le] at hnow
    exact ⟨expiresAt, cx.now, htimer.trans hclose, hlast, by omega⟩
  | _ => exact ⟨expiresAt, last, htimer.trans hclose, hlast.trans hsegment, hle⟩

lemma lingers_of_process {cx : Context} {ipRepr : IpRepr} {repr : TcpRepr}
    (hlast : g'.lastSegment = (g.next (.process cx ipRepr repr) g'.sys).lastSegment)
    (htimer : g'.sys.socket.timer = .setForClose cx.now) : g'.Lingers :=
  ⟨_, cx.now, htimer, hlast, toInt_add_closeDelay_le cx.now⟩

lemma lingers_step (hreach : g.sys.Reachable) (h : g.sys.socket.state = .timeWait → g.Lingers)
    (hok : g.Timely op) (hstep : g.step op = .ok g') (hst' : g'.sys.socket.state = .timeWait) :
    g'.Lingers := by
  obtain ⟨hstep, hlast⟩ := step_eq_ok hstep
  by_cases hst : g.sys.socket.state = .timeWait
  · have hlingers := h hst
    by_cases hopens : op.Opens
    · exact hlingers.congr hok hlast (Sys.timer_of_opens hst' hstep hopens)
    obtain ⟨expiresAt, -, hclose, -⟩ := id hlingers
    rcases Sys.timer_of_step hst hclose hstep hopens with
      htimer | ⟨cx, ipRepr, repr, rfl, htimer⟩ | ⟨_, _, -, -, hclosed⟩
    · exact hlingers.congr hok hlast (htimer.trans hclose.symm)
    · exact lingers_of_process hlast htimer
    · cases hclosed.symm.trans hst'
  · obtain ⟨cx, ipRepr, repr, rfl, htimer⟩ := Sys.enters_timeWait hreach hst hst' hstep
    exact lingers_of_process hlast htimer

lemma Reachable.lingers (h : g.Reachable) : g.sys.socket.state = .timeWait → g.Lingers := by
  obtain ⟨y₀, h₀, hrun⟩ := h
  refine hrun.invariant_of (I := fun g => g.sys.socket.state = .timeWait → g.Lingers)
    (J := fun g => g.sys.Reachable) (fun t ht => ?_) ?_ fun hst => ?_
  · exact Reachable.sys ⟨y₀, h₀, ht⟩
  · exact fun t op u hreach hI hok hstep hst' => lingers_step hreach hI hok hstep hst'
  · obtain ⟨cfg, rx, tx, hnew, -⟩ := h₀
    unfold Socket.new at hnew
    split_ifs at hnew
    simp only [Except.ok.injEq] at hnew
    rw [← hnew] at hst
    cases hst

/-- In TIME-WAIT nothing is left to send, and the close timer runs until it expires at most ten
seconds after the last segment. A call that does not open the socket anew leaves it alone, a segment
may restart it, and the first `dispatch` that finds it expired resets the socket, if there is
nothing to acknowledge and the timeout of the application has not expired too. -/
theorem timeWait_ends (h : g.Reachable) (hst : g.sys.socket.state = .timeWait) :
    g.Lingers ∧ g.sys.socket.txBuffer.len = 0 ∧
      g.sys.socket.localSeqNo = g.sys.socket.remoteLastSeq ∧
      (∀ op y', ¬ op.Opens → Sys.Step g.sys op y' →
        y'.socket.timer = g.sys.socket.timer ∨
          (∃ cx ipRepr repr, op = .process cx ipRepr repr ∧
            y'.socket.timer = .setForClose cx.now) ∨
          ∃ cx emit, op = .dispatch cx emit ∧ g.sys.socket.timer.shouldClose cx.now ∧
            y'.socket.state = .closed) ∧
      ∃ tuple, g.sys.socket.tuple = some tuple ∧
        ∀ cx emit, g.sys.socket.timer.shouldClose cx.now → g.sys.socket.ackToTransmit = .ok false →
          ¬ (g.sys.socket.touch cx).timedOut cx.now →
          g.sys.socket.dispatch cx emit =
            (Socket.localMss cx (IpRepr.headerLenOf tuple.localEnd.addr)).map
              fun _ => ((g.sys.socket.touch cx).reset, none) := by
  have hflight := h.sys.flight
  have hlingers := h.lingers hst
  obtain ⟨tuple, htuple⟩ := Option.ne_none_iff_exists'.mp
    (h.sys.base.connected (by simp [hst]) (by simp [hst]))
  have hlast : g.sys.socket.remoteLastSeq = g.sys.socket.localSeqNo :=
    (dist_eq_zero_iff _ _).mp (hflight.inFlight_timeWait hst)
  refine ⟨hlingers, hflight.drained (.inr hst), hlast.symm, fun op y' hopens hstep => ?_, tuple,
    htuple, fun cx emit => Socket.dispatch_timeWait hflight hst htuple⟩
  obtain ⟨t, -, hclose, -⟩ := hlingers
  rw [hclose]
  exact Sys.timer_of_step hst hclose hstep hopens

/-! ### Samples -/

def checkTimely (g : Clocked) : Op → Bool
  | .process cx _ _ => g.lastSegment.all fun t => decide (t ≤ cx.now)
  | _ => true

lemma timely_of_check (h : g.checkTimely op = true) : g.Timely op := by
  cases op with
  | process cx ipRepr repr =>
    intro t ht
    unfold checkTimely at h
    rw [Option.mem_def.mp ht] at h
    exact of_decide_eq_true h
  | _ => trivial

lemma exists_clocked (ops : List Op) (P : Clocked → Bool)
    (h : ((Sys.start Sample.config (Sample.buffer 8) (Sample.buffer 8)).bind fun y =>
      Transition.exec step checkTimely ops ⟨y, none⟩).any P = true) :
    ∃ g : Clocked, g.Reachable ∧ P g = true := by
  obtain ⟨g, hg, hP⟩ := (Option.any_eq_true _ _).mp h
  obtain ⟨y, hy, hexec⟩ := Option.bind_eq_some_iff.mp hg
  exact ⟨g, ⟨y, Sys.initial_of_start hy, .of_exec (fun _ _ h => timely_of_check h) hexec⟩, hP⟩

/-- Both halves are closed, ours first, and the last acknowledgement is sent. -/
def closedBoth : List Op :=
  Siege.handshake ++ [.close, Sample.dispatch 0,
    Sample.process 0 (Sample.segment .fin 100 (some 10002) 256 []), Sample.dispatch 0]

/-- Ten seconds after the FIN of the remote the socket is reset. -/
theorem timeWait_ends_reset : ∃ g : Clocked, g.Reachable ∧ g.sys.socket.state = .timeWait ∧
    g.Lingers ∧ g.sys.socket.dispatch (Sample.context 10000000) (fun _ _ => true) =
      .ok ((g.sys.socket.touch (Sample.context 10000000)).reset, none) := by
  obtain ⟨g, hreach, hP⟩ := exists_clocked closedBoth
    (fun g => g.sys.socket.state = .timeWait ∧ g.sys.socket.timer.shouldClose 10000000 ∧
      ¬ (g.sys.socket.touch (Sample.context 10000000)).timedOut 10000000 ∧
      g.sys.socket.ackToTransmit.toOption.any fun ack => ack = false)
    (by decide)
  obtain ⟨hst, hclose, hto, hany⟩ := of_decide_eq_true hP
  obtain ⟨ack, hack, hfalse⟩ := Checked.exists_of_any hany
  obtain rfl := of_decide_eq_true hfalse
  obtain ⟨hlingers, -, -, -, tuple, -, hreset⟩ := timeWait_ends hreach hst
  refine ⟨g, hreach, hst, hlingers, (hreset (Sample.context 10000000) _ hclose hack hto).trans ?_⟩
  cases tuple.localEnd.addr <;> rfl

/-- `listen` takes a socket out of TIME-WAIT, and where the timeout of the application has expired
as well as the close timer, `dispatch` sends an RST in place of the reset. -/
theorem not_timeWait_ends :
    (∃ (g : Clocked) (s' : Socket), g.Reachable ∧ g.sys.socket.state = .timeWait ∧
      g.sys.socket.listen ⟨none, 80⟩ = .ok s' ∧ s'.timer = .new) ∧
    ∃ (g : Clocked) (s' : Socket) (e : Emission), g.Reachable ∧
      g.sys.socket.state = .timeWait ∧ g.sys.socket.timer.shouldClose 10000000 ∧
      g.sys.socket.ackToTransmit = .ok false ∧
      g.sys.socket.dispatch (Sample.context 10000000) (fun _ _ => true) = .ok (s', some e) ∧
      e.repr.control = .rst := by
  constructor
  · obtain ⟨g, hreach, hP⟩ := exists_clocked closedBoth
      (fun g => g.sys.socket.state = .timeWait ∧
        (g.sys.socket.listen ⟨none, 80⟩).toOption.any fun s => s.timer = .new)
      (by decide)
    obtain ⟨hst, hany⟩ := of_decide_eq_true hP
    obtain ⟨s', hs, htimer⟩ := (Option.any_eq_true _ _).mp hany
    refine ⟨g, s', hreach, hst, ?_, of_decide_eq_true htimer⟩
    cases hl : g.sys.socket.listen ⟨none, 80⟩ with
    | error e =>
      rw [hl] at hs
      cases hs
    | ok s =>
      rw [hl] at hs
      cases hs
      rfl
  · obtain ⟨g, hreach, hP⟩ :=
      exists_clocked (.set (.timeout (some (.fromMillis 1000))) :: closedBoth)
      (fun g => g.sys.socket.state = .timeWait ∧ g.sys.socket.timer.shouldClose 10000000 ∧
        (g.sys.socket.ackToTransmit.toOption.any fun ack => ack = false) ∧
        (Sample.emitted 10000000 g.sys.socket).any fun e => e.repr.control = .rst)
      (by decide +kernel)
    obtain ⟨hst, hclose, hany, hemit⟩ := of_decide_eq_true hP
    obtain ⟨ack, hack, hfalse⟩ := Checked.exists_of_any hany
    obtain rfl := of_decide_eq_true hfalse
    obtain ⟨e, he, hctl⟩ := (Option.any_eq_true _ _).mp hemit
    obtain ⟨s', hs⟩ := Sample.dispatch_of_emitted he
    exact ⟨g, s', e, hreach, hst, hclose, hack, hs, of_decide_eq_true hctl⟩

end Clocked

end Smoltcp.Tcp
