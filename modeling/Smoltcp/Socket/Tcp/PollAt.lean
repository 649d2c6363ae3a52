import Smoltcp.Socket.Tcp.Returns
import Smoltcp.Socket.Tcp.Sample

/-!
# When a socket wants to be polled

`pollAt` repeats the decision of `dispatch` in another order, with timers as instants in place of
tests. The two agree: a poll is due exactly when `dispatch` would hand a segment to `emit` or change
the socket. The exception is a congestion controller that itself changes before a transmission,
which only `dispatch` lets it do.
-/

namespace Smoltcp.Tcp

namespace Timer

variable {t : Timer} {now : Instant}

/-- The timer has something to do. -/
def Expired (t : Timer) (now : Instant) : Prop :=
  t.shouldKeepAlive now ∨ t.shouldRetransmit now ∨ t.shouldZeroWindowProbe now ∨ t.shouldClose now

lemma due_pollAt : t.pollAt.Due now ↔ t.Expired now := by
  constructor
  · intro h
    cases t with
    | idle k =>
      cases k with
      | none => exact h.elim
      | some x => exact .inl h
    | retransmit x => exact .inr (.inl h)
    | fastRetransmit => exact .inr (.inl h)
    | zeroWindowProbe x d => exact .inr (.inr (.inl h))
    | close x => exact .inr (.inr (.inr h))
  · rintro (h | h | h | h)
    · cases t with
      | idle k =>
        cases k with
        | none => exact h.elim
        | some x => exact h
      | _ => exact h.elim
    · cases t with
      | retransmit x => exact h
      | fastRetransmit => trivial
      | _ => exact h.elim
    · cases t with
      | zeroWindowProbe x d => exact h
      | _ => exact h.elim
    · cases t with
      | close x => exact h
      | _ => exact h.elim

end Timer

namespace Socket

variable {s s' s₁ : Socket} {cx : Context} {now : Instant}

/-! ### The reasons to poll -/

lemma due_timeoutPollAt : s.timeoutPollAt.Due now ↔ s.timedOut now := by
  unfold timeoutPollAt timedOut
  split <;> simp [PollAt.Due]

lemma due_delayedAckPollAt {ack : Bool} :
    (s.delayedAckPollAt ack).Due now ↔ ack = true ∧ s.delayedAckExpired now := by
  unfold delayedAckPollAt delayedAckExpired
  cases ack <;> cases s.ackDelayTimer <;> simp [PollAt.Due]

/-- What `pollAt` answers: at once, or when the first of the timers is due. -/
lemma pollAt_cases {t : PollAt} (htuple : s.tuple ≠ none) (h : s.pollAt cx = .ok t) :
    (t = .now ∧ (s.remoteLastTs = none ∨ s.state = .closed ∨ s.seqToTransmit cx = .ok true ∨
      s.seqToTransmit cx = .ok false ∧ s.windowToUpdate = .ok true)) ∨
    s.remoteLastTs ≠ none ∧ s.state ≠ .closed ∧ s.seqToTransmit cx = .ok false ∧
      s.windowToUpdate = .ok false ∧ ∃ ack, s.ackToTransmit = .ok ack ∧
        (t.Due cx.now ↔ s.timer.Expired cx.now ∨ s.timedOut cx.now ∨
          ack = true ∧ s.delayedAckExpired cx.now) := by
  unfold pollAt at h
  rw [if_neg htuple] at h
  by_cases hts : s.remoteLastTs = none
  · rw [if_pos hts] at h
    cases h
    exact .inl ⟨rfl, .inl hts⟩
  rw [if_neg hts] at h
  by_cases hclosed : s.state = .closed
  · rw [if_pos hclosed] at h
    cases h
    exact .inl ⟨rfl, .inr (.inl hclosed)⟩
  rw [if_neg hclosed] at h
  obtain ⟨seq, hseq, h⟩ := Checked.bind_eq_ok.mp h
  cases seq with
  | true =>
    cases h
    exact .inl ⟨rfl, .inr (.inr (.inl hseq))⟩
  | false =>
    obtain ⟨win, hwin, h⟩ := Checked.bind_eq_ok.mp h
    cases win with
    | true =>
      cases h
      exact .inl ⟨rfl, .inr (.inr (.inr ⟨hseq, hwin⟩))⟩
    | false =>
      obtain ⟨ack, hack, h⟩ := Checked.bind_eq_ok.mp h
      cases h
      refine .inr ⟨hts, hclosed, hseq, hwin, ack, hack, ?_⟩
      rw [PollAt.due_min, PollAt.due_min, Timer.due_pollAt, due_timeoutPollAt,
        due_delayedAckPollAt, or_assoc]

/-! ### What dispatching does -/

/-- The congestion controller does nothing before a transmission. No controller and Reno never
do. -/
def Steady (s : Socket) : Prop := ∀ q, s.congestionController ≠ .cubic q

lemma Steady.touch_eq (h : s.Steady) (hts : s.remoteLastTs ≠ none) : s.touch cx = s := by
  obtain ⟨ts, hts⟩ := Option.ne_none_iff_exists'.mp hts
  unfold touch
  have hcc : s.congestionController.preTransmit cx.now = s.congestionController := by
    cases hc : s.congestionController with
    | cubic q => exact absurd hc (h q)
    | none => rfl
    | reno r => rfl
  rw [hts, hcc, Option.getD_some, ← hts]

/-- Where `dispatch` decides to send there is a segment. -/
lemma exists_segment {o : Option Emission} (hstate : s.state ≠ .listen)
    (h : s.segment cx = .ok o) : o ≠ none := by
  rintro rfl
  unfold segment at h
  obtain ⟨tuple, -, h⟩ := Checked.bind_eq_ok.mp h
  obtain ⟨ipRepr, -, h⟩ := Checked.bind_eq_ok.mp h
  obtain ⟨ackNumber, -, h⟩ := Checked.bind_eq_ok.mp h
  obtain ⟨o, ho, h⟩ := Checked.bind_eq_ok.mp h
  cases o with
  | some q =>
    obtain ⟨mss, -, h⟩ := Checked.bind_eq_ok.mp h
    cases h
  | none =>
    unfold stateSegment at ho
    cases hst : s.state <;> rw [hst] at ho
    case listen => exact hstate hst
    case established | finWait1 | closing | closeWait | lastAck =>
      obtain ⟨_, -, ho⟩ := Checked.bind_eq_ok.mp ho
      cases ho
    all_goals cases ho

/-- A call of `dispatch` does something: it hands a segment to `emit` or changes the socket. -/
def Acts (s s' : Socket) (o : Option Emission) : Prop := o ≠ none ∨ s' ≠ s

/-- What `dispatch` decides after the timers is what it does. -/
lemma dispatch_outcome {o : Option Emission} (hbase : s.Base) (htuple : s.tuple ≠ none)
    (hpause : s.synackPaused = false) (hd : DispatchRule s cx s' o) :
    ∃ s₁, Timed s cx s₁ ∧ (s₁.decision cx = .ok .nothing ∧ s' = s₁ ∧ o = none ∨
      s₁.decision cx = .ok .close ∧ s' = s₁.reset ∧ o = none ∨
      s₁.decision cx = .ok .send ∧ o ≠ none) := by
  have hlisten : s.state ≠ .listen := fun hs => htuple (hbase.listening hs)
  cases hd with
  | noTuple hnone => exact absurd hnone htuple
  | idle _ htimed hwhy =>
    refine ⟨s', htimed, ?_⟩
    rcases hwhy with ⟨-, hpaused⟩ | hnothing | ⟨hsend, hnone⟩
    · have heq : s'.synackPaused = s.synackPaused := by cases htimed <;> rfl
      rw [heq, hpause] at hpaused
      cases hpaused
    · exact .inl ⟨hnothing, rfl, rfl⟩
    · refine absurd rfl (exists_segment ?_ hnone)
      rcases htimed.state_eq with heq | heq <;> rw [heq]
      · exact hlisten
      · decide
  | @reset s₁ _ htimed hclose => exact ⟨s₁, htimed, .inr (.inl ⟨hclose, rfl, rfl⟩)⟩
  | failed _ htimed hsend => exact ⟨s', htimed, .inr (.inr ⟨hsend, by simp⟩)⟩
  | @sent s₁ _ e _ htimed hsend => exact ⟨s₁, htimed, .inr (.inr ⟨hsend, by simp⟩)⟩

lemma timerDecision_eq_nothing :
    s.timerDecision cx = .nothing ↔ s.state ≠ .closed ∧ ¬ s.timer.shouldKeepAlive cx.now ∧
      ¬ s.timer.shouldZeroWindowProbe cx.now ∧ ¬ s.timer.shouldClose cx.now := by
  unfold timerDecision
  split_ifs with hsend hclose
  · simp only [false_iff]
    tauto
  · simp [hclose]
  · simp only [true_iff]
    tauto

/-- A decision for nothing means that there is no reason to send or to close. -/
lemma decision_nothing (h : s.decision cx = .ok .nothing) :
    s.seqToTransmit cx = .ok false ∧ s.windowToUpdate = .ok false ∧
      (∃ ack, s.ackToTransmit = .ok ack ∧ ¬ (ack = true ∧ s.delayedAckExpired cx.now)) ∧
      s.timerDecision cx = .nothing := by
  rcases decision_eq_ok h with ⟨-, hd⟩ | ⟨hseq, ack, hack, ⟨-, hd⟩ | ⟨hexp, ⟨-, hd⟩ | ⟨hwin, hd⟩⟩⟩
  · cases hd
  · cases hd
  · cases hd
  · exact ⟨hseq, hwin, ⟨ack, hack, hexp⟩, hd.symm⟩

/-- Where `dispatch` does nothing, the timers leave the socket as it is and it decides for
nothing. -/
lemma timed_of_not_acts {o : Option Emission} (hbase : s.Base) (htuple : s.tuple ≠ none)
    (hpause : s.synackPaused = false) (hd : DispatchRule s cx s' o) (h : ¬ Acts s s' o) :
    Timed s cx s ∧ s.decision cx = .ok .nothing := by
  rw [Acts, not_or, not_not, not_not] at h
  obtain ⟨rfl, rfl⟩ := h
  obtain ⟨s₁, htimed, ⟨hnothing, rfl, -⟩ | ⟨hclose, heq, -⟩ | ⟨-, hsome⟩⟩ :=
    dispatch_outcome hbase htuple hpause hd
  · exact ⟨htimed, hnothing⟩
  · -- a socket that is reset was not closed before
    have hst : s'.state = .closed := by
      rw [heq]
      rfl
    rcases htimed.state_eq with h | h
    · exact absurd (h.trans hst) (decision_close hclose).1
    · exact absurd h (decision_close hclose).1
  · exact absurd rfl hsome

lemma Timed.remoteLastTs_ne (h : Timed s cx s₁) : s₁.remoteLastTs ≠ none := by
  cases h <;> exact Option.some_ne_none _

/-- A socket that the timers leave as it is has not timed out, and has nothing to send again. -/
lemma Timed.not_expired (h : Timed s cx s₁) (heq : s₁ = s) (hsteady : s.Steady)
    (hclosed : s.state ≠ .closed) (hseq : s.seqToTransmit cx = .ok false) :
    ¬ s.timedOut cx.now ∧ ¬ s.timer.shouldRetransmit cx.now := by
  have hts : s.remoteLastTs ≠ none := by
    rw [← heq]
    exact h.remoteLastTs_ne
  cases h with
  | timeout =>
    refine absurd ?_ hclosed
    rw [← heq]
    rfl
  | rewind _ _ hre =>
    -- what is sent again leaves the timer idle
    have hidle : s.timer = .setForIdle cx.now s.keepAlive := congrArg Socket.timer heq.symm
    rw [hidle] at hre
    exact hre.elim
  | same seq hto hseq' hre =>
    rw [hsteady.touch_eq hts] at hto hseq'
    cases hseq.symm.trans hseq'
    exact ⟨hto, hre.resolve_left Bool.false_ne_true⟩

/-- Without an expired timer, `dispatch` takes its decision for the socket as it is. -/
lemma Timed.eq_of_not_expired (h : Timed s cx s₁) (hsteady : s.Steady)
    (hts : s.remoteLastTs ≠ none) (hto : ¬ s.timedOut cx.now)
    (hre : ¬ s.timer.shouldRetransmit cx.now) : s₁ = s := by
  have htouch : s.touch cx = s := hsteady.touch_eq hts
  cases h with
  | timeout hto' =>
    rw [htouch] at hto'
    exact absurd hto' hto
  | rewind _ _ hre' => exact absurd hre' hre
  | same => exact htouch

end Socket

namespace Sys

variable {y : Sys} {cx : Context}

/-- A poll is due exactly when `dispatch` does something. -/
theorem pollAt_due_iff {emit : IpRepr → TcpRepr → Bool} {s' : Socket} {o : Option Emission}
    {t : PollAt} (h : Reachable y) (hsteady : y.socket.Steady)
    (hpause : y.socket.synackPaused = false)
    (hdispatch : y.socket.dispatch cx emit = .ok (s', o)) (hpoll : y.socket.pollAt cx = .ok t) :
    t.Due cx.now ↔ y.socket.Acts s' o := by
  have hd := Socket.DispatchRule.of_dispatch hdispatch
  by_cases htuple : y.socket.tuple = none
  · unfold Socket.pollAt at hpoll
    rw [if_pos htuple] at hpoll
    cases hpoll
    unfold Socket.dispatch at hdispatch
    rw [if_pos htuple] at hdispatch
    cases hdispatch
    simp [PollAt.Due, Socket.Acts]
  rcases Socket.pollAt_cases htuple hpoll with ⟨rfl, hwhy⟩ |
    ⟨hts, hclosed, hseq, hwin, ack, hack, hdue⟩
  · simp only [PollAt.Due, true_iff]
    by_contra hacts
    obtain ⟨htimed, hnothing⟩ := Socket.timed_of_not_acts h.base htuple hpause hd hacts
    obtain ⟨hseq, hwin, -, htimer⟩ := Socket.decision_nothing hnothing
    rw [Socket.timerDecision_eq_nothing] at htimer
    rcases hwhy with hts | hclosed | hseq' | ⟨-, hwin'⟩
    · exact htimed.remoteLastTs_ne hts
    · exact htimer.1 hclosed
    · cases hseq.symm.trans hseq'
    · cases hwin.symm.trans hwin'
  · rw [hdue]
    constructor
    · intro hexp
      by_contra hacts
      obtain ⟨htimed, hnothing⟩ := Socket.timed_of_not_acts h.base htuple hpause hd hacts
      obtain ⟨-, -, ⟨ack', hack', hno⟩, htimer⟩ := Socket.decision_nothing hnothing
      obtain ⟨-, hkeep, hprobe, hclose⟩ := Socket.timerDecision_eq_nothing.mp htimer
      obtain ⟨hto, hre⟩ := htimed.not_expired rfl hsteady hclosed hseq
      rcases hexp with (hexp | hexp | hexp | hexp) | hexp | hexp
      · exact hkeep hexp
      · exact hre hexp
      · exact hprobe hexp
      · exact hclose hexp
      · exact hto hexp
      · cases hack.symm.trans hack'
        exact hno hexp
    · intro hacts
      by_contra hnone
      rw [not_or, not_or] at hnone
      obtain ⟨htimer, hto, hexp⟩ := hnone
      simp only [Timer.Expired, not_or] at htimer
      obtain ⟨hkeep, hre, hprobe, hclose⟩ := htimer
      obtain ⟨s₁, htimed, hout⟩ := Socket.dispatch_outcome h.base htuple hpause hd
      obtain rfl := htimed.eq_of_not_expired hsteady hts hto hre
      have hnothing : ∀ {d}, y.socket.decision cx = .ok d → d = .nothing := by
        intro d hd
        rcases Socket.decision_eq_ok hd with ⟨hseq', -⟩ | ⟨-, ack', hack', ⟨hexp', -⟩ | ⟨-, hd⟩⟩
        · cases hseq.symm.trans hseq'
        · cases hack.symm.trans hack'
          exact absurd hexp' hexp
        · rcases hd with ⟨hwin', -⟩ | ⟨-, rfl⟩
          · cases hwin.symm.trans hwin'
          · exact Socket.timerDecision_eq_nothing.mpr ⟨hclosed, hkeep, hprobe, hclose⟩
      rcases hout with ⟨-, rfl, rfl⟩ | ⟨hd, -⟩ | ⟨hd, -⟩
      · exact hacts.elim (fun h => h rfl) fun h => h rfl
      · cases hnothing hd
      · cases hnothing hd

open Sample in
/-- The application has enqueued octets that are not sent yet. -/
theorem pollAt_due_iff_send : ∃ y s' o t, Reachable y ∧
    y.socket.dispatch (context 3) (fun _ _ => true) = .ok (s', o) ∧
      y.socket.pollAt (context 3) = .ok t ∧ t.Due 3 := by
  obtain ⟨y, hreach, hP⟩ := exists_sample (fun _ _ => True) (fun _ _ => true) 4
    [.listen ⟨none, 80⟩, process 0 (segment .syn 100 none 1000 []), dispatch 1,
      process 2 (segment .none 101 (some 10001) 1000 []), .sendSlice [1, 2, 3]]
    (fun y => (match y.socket.congestionController with | .none => true | _ => false) &&
      (decide (y.socket.synackPaused = false) && ((emitted 3 y.socket).isSome &&
        (y.socket.pollAt (context 3)).toOption.isSome))) (fun _ _ _ => trivial)
    (by decide)
  simp only [Bool.and_eq_true, decide_eq_true_eq] at hP
  obtain ⟨hcc, hpause, hemitted, hpoll⟩ := hP
  have hsteady : y.socket.Steady := by
    intro q hq
    rw [hq] at hcc
    cases hcc
  obtain ⟨e, he⟩ := Option.isSome_iff_exists.mp hemitted
  obtain ⟨s', hd⟩ := dispatch_of_emitted he
  obtain ⟨t, ht⟩ : ∃ t, y.socket.pollAt (context 3) = .ok t := by
    cases hp : y.socket.pollAt (context 3) with
    | error p =>
      rw [hp] at hpoll
      cases hpoll
    | ok t => exact ⟨t, rfl⟩
  exact ⟨y, s', _, t, hreach, hd, ht,
    (pollAt_due_iff hreach hsteady hpause hd ht).mpr (.inl (Option.some_ne_none e))⟩

end Sys

end Smoltcp.Tcp
