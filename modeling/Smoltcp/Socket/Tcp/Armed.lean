import Smoltcp.Socket.Tcp.Discards

/-!
# Timers that stay armed

The one timer slot has to hold a timer as long as an acknowledgement is outstanding. Three kinds of
steps leave it idle all the same: a segment that reopens the window while octets sent before are
outstanding, a SYN that crosses ours before ours is sent, and a retransmission timer that expires
while the window is closed. In runs without them an idle timer means that nothing is in flight and
that nothing is queued for a closed window.
-/

namespace Smoltcp.Tcp

open Serial

lemma Timer.not_isRetransmit {t : Timer} (h : t.isIdle ∨ t.isZeroWindowProbe) :
    ¬ t.isRetransmit := by
  cases t with
  | idle | zeroWindowProbe => exact id
  | retransmit | fastRetransmit | close => exact (h.elim id id).elim

namespace Socket

variable {s s' s₁ s₂ s₃ : Socket} {cx : Context} {ipRepr : IpRepr} {repr : TcpRepr}

/-! ### The steps that leave the timer idle -/

/-- The segment reopens the window, which stops the probe timer, and does not acknowledge all that
is in flight. -/
def Reopens (s : Socket) (repr : TcpRepr) : Prop :=
  s.timer.isZeroWindowProbe ∧ s.newRemoteWinLen repr ≠ 0 ∧
    (∃ a, repr.ackNumber = some a ∧ SeqNumber.lt a s.remoteLastSeq) ∧
    s.state.Synchronized ∧ repr.control ≠ .rst ∧ ¬ s.Refuses repr ∧ ¬ s.Discards repr

/-- A SYN that acknowledges nothing arrives in SYN-SENT while our SYN is not in flight. -/
def Crosses (s : Socket) (repr : TcpRepr) : Prop :=
  s.state = .synSent ∧ repr.control = .syn ∧ repr.ackNumber = none ∧ repr.maxSegSize ≠ some 0 ∧
    ¬ s.timer.isRetransmit

/-- The retransmission timer expires while the window is closed and octets are queued. -/
def GivesUp (s : Socket) (cx : Context) : Prop :=
  s.timer.shouldRetransmit cx.now ∧ s.remoteWinLen = 0 ∧ s.txBuffer.len ≠ 0 ∧ s.state ≠ .closed ∧
    s.tuple ≠ none ∧ ¬ (s.touch cx).timedOut cx.now ∧ (s.touch cx).seqToTransmit cx = .ok false

/-! ### An idle timer -/

/-- With the timer idle nothing is in flight. -/
def Calm (s : Socket) : Prop := s.timer.isIdle → s.inFlight = 0

/-- With the timer idle nothing is queued for a closed window. -/
def Probed (s : Socket) : Prop :=
  s.timer.isIdle → s.state ≠ .closed → s.remoteWinLen = 0 → s.txBuffer.len = 0

/-- What an accepted segment leaves idle. -/
lemma finishTimer_idle {now : Instant} {keepAlive : Option Duration} {rto : Duration}
    {ack : AckInfo}
    {winLen txLen : ℕ} {t : Timer}
    (h : (finishTimer now keepAlive rto ack winLen txLen t).isIdle) :
    (t.isIdle ∨ t.isRetransmit ∧ ack.ackAll = true ∨ t.isZeroWindowProbe ∧ winLen ≠ 0) ∧
      (winLen = 0 → txLen = 0) := by
  unfold finishTimer at h
  cases t with
  | idle k =>
    refine ⟨.inl trivial, fun hwin => ?_⟩
    by_contra htx
    simp [hwin, htx, Timer.setForIdle, Timer.setForZeroWindowProbe, Timer.isIdle] at h
  | retransmit e =>
    cases hall : ack.ackAll with
    | true =>
      refine ⟨.inr (.inl ⟨trivial, rfl⟩), fun hwin => ?_⟩
      by_contra htx
      simp [hwin, htx, hall, Timer.setForIdle, Timer.setForZeroWindowProbe, Timer.isIdle] at h
    | false =>
      exfalso
      simp only [hall] at h
      split_ifs at h <;>
        simp_all [Timer.setForRetransmit, Timer.setForZeroWindowProbe, Timer.isIdle,
          Timer.isZeroWindowProbe]
  | fastRetransmit =>
    cases hall : ack.ackAll with
    | true =>
      refine ⟨.inr (.inl ⟨trivial, rfl⟩), fun hwin => ?_⟩
      by_contra htx
      simp [hwin, htx, hall, Timer.setForIdle, Timer.setForZeroWindowProbe, Timer.isIdle] at h
    | false =>
      exfalso
      simp only [hall] at h
      split_ifs at h <;>
        simp_all [Timer.setForRetransmit, Timer.setForZeroWindowProbe, Timer.isIdle,
          Timer.isZeroWindowProbe]
  | zeroWindowProbe e d =>
    have hwin : winLen ≠ 0 := by
      rintro rfl
      simp only [ne_eq, not_true_eq_false, false_and, if_false] at h
      split_ifs at h <;> exact h
    exact ⟨.inr (.inr ⟨trivial, hwin⟩), fun h0 => absurd h0 hwin⟩
  | close e =>
    exfalso
    simp only at h
    split_ifs at h <;>
      simp_all [Timer.setForZeroWindowProbe, Timer.isIdle, Timer.isZeroWindowProbe]

/-! ### Segments that arrive -/

/-- The timer after an accepted segment. -/
lemma Accepted.exists_timer {w : Span} {ack : AckInfo} {payload : List UInt8} {offset : ℕ}
    (h : Accepted s cx ipRepr repr w ack payload offset s₁ s₂ s₃ s') :
    ∃ (now : Instant) (keepAlive : Option Duration) (rto : Duration) (t : Timer),
      s'.timer = finishTimer now keepAlive rto ack s'.remoteWinLen s'.txBuffer.len t ∧
        (t = s.timer ∨ t = .fastRetransmit ∨ (∃ e, t = .close e) ∨ s.state = .listen) := by
  obtain ⟨-, -, htx, -, htimer, hwin⟩ := h.received.send_eq
  have ht := h.transits
  have hacked := h.acked
  obtain ⟨_, _, _, -, -, rfl⟩ := h.noted
  obtain ⟨tx, cc₁, cc, dup, lastAck, fast, tsval, hle, hdrop, -, -, -, -⟩ := hacked
  simp only at htx htimer hwin
  refine ⟨_, _, _, _, by rw [htimer, htx, hwin], ?_⟩
  cases fast with
  | true => exact .inr (.inl rfl)
  | false =>
    cases ht with
    | synListen _ hlisten => exact .inr (.inr (.inr hlisten))
    | synSent => exact .inl rfl
    | moved st hst =>
      simp only [moved, Bool.false_eq_true, if_false]
      split_ifs
      · exact .inr (.inr (.inl ⟨_, rfl⟩))
      · exact .inl rfl

lemma Calm.refusal {p : Option Packet} (h : s.Calm) (hne : s.state ≠ .timeWait)
    (hr : Refusal s cx s' p) : s'.Calm := by
  cases hr with
  | dropped => exact h
  | reset => exact h
  | limited timer ht =>
    rw [ht hne]
    exact h
  | challenge timer ht =>
    rw [ht hne]
    exact h

lemma le_iff_inFlight (s : Socket) {n : ℕ} (hn : n < 2 ^ 31) (hpos : 0 ≤ s.inFlight) :
    SeqNumber.le s.remoteLastSeq (shift s.localSeqNo n) ↔ s.inFlight ≤ n := by
  have hlt := s.inFlight_lt
  unfold SeqNumber.le
  rw [s.remoteLastSeq_eq, dist_shift_shift_of_lt _ (by omega) (by omega)]
  omega

lemma lt_iff_inFlight (s : Socket) {n : ℕ} (hn : n < 2 ^ 31) (hpos : 0 ≤ s.inFlight) :
    SeqNumber.lt (shift s.localSeqNo n) s.remoteLastSeq ↔ n < s.inFlight := by
  have hlt := s.inFlight_lt
  unfold SeqNumber.lt
  rw [s.remoteLastSeq_eq, dist_shift_shift_of_lt _ (by omega) (by omega)]
  omega

lemma Advances.ackAll_eq {control : TcpControl} {ack : AckInfo} {a : SeqNumber}
    (h : Advances s repr control s' ack) (hack : repr.ackNumber = some a) :
    ack.ackAll = true → SeqNumber.le s.remoteLastSeq a := by
  cases h with
  | listen _ _ hnone => simp [hack] at hnone
  | syn _ _ hnone => simp [hack] at hnone
  | synAck _ _ _ ha | data _ _ _ _ _ ha | fin _ _ _ _ _ ha =>
    rw [hack, Option.some.injEq] at ha
    rw [ha]
    exact of_decide_eq_true

lemma Transits.state_ne {control : TcpControl} {aof : Bool}
    (h : Transits s cx ipRepr repr control aof s') : s.state ≠ .timeWait := by
  cases h with
  | synListen _ hs => simp [hs]
  | synSent _ hs => simp [hs]
  | moved st hst =>
    intro hs
    rw [hs] at hst
    cases hst

/-- A SYN that acknowledges nothing leaves the timer idle only if it crosses ours. -/
lemma Accepted.crosses {w : Span} {ack : AckInfo} {payload : List UInt8} {offset : ℕ}
    (h : Accepted s cx ipRepr repr w ack payload offset s₁ s₂ s₃ s') (hst : s.state = .synSent)
    (hack : repr.ackNumber = none) (ht : ¬ s.timer.isRetransmit) : s.Crosses repr := by
  refine ⟨hst, ?_, hack, ?_, ht⟩
  · cases h.ackAcceptable with
    | syn _ hctl => exact hctl
    | synAck _ hctl => exact hctl
    | listen hs => simp [hst] at hs
    | synReceived hs => simp [hst] at hs
    | range n _ hs => exact absurd hst hs
  · have htransits := h.transits
    have hst₁ := h.state_eq
    cases htransits with
    | synListen _ _ hmss => exact hmss
    | synSent _ _ hmss => exact hmss
    | moved st hstep =>
      rw [hst₁, hst] at hstep
      cases hstep

/-- The acknowledgement that SYN-SENT accepts covers all that is in flight. -/
lemma Accepted.synSent_le {w : Span} {ack : AckInfo} {payload : List UInt8} {offset n : ℕ}
    (h : Accepted s cx ipRepr repr w ack payload offset s₁ s₂ s₃ s') (hbase : s.Base)
    (hf : s.Flight)
    (hst : s.state = .synSent) (hack : repr.ackNumber = some (shift s.localSeqNo n)) :
    s.inFlight ≤ n := by
  have hctl : s.controlLen = 1 := by simp [controlLen, sentSyn, sentFin, hst]
  have htx := hbase.tx_opening (.inr (.inl hst))
  have hle := hf.le_control (by simp [hst]) (by simp [hst])
  have hne : n ≠ 0 := by
    rintro rfl
    cases h.ackAcceptable with
    | synAck _ _ hack' =>
      rw [hack, Option.some.injEq, shift_eq_shift_iff] at hack'
      exact absurd hack' (by decide)
    | syn _ _ hnone => simp [hack] at hnone
    | listen hs => simp [hst] at hs
    | synReceived hs => simp [hst] at hs
    | range _ _ hs => exact hs hst
  omega

lemma Calm.process {p : Option Packet} (h : s.Calm) (hbase : s.Base) (hf : s.Flight)
    (hreopens : ¬ s.Reopens repr) (hcrosses : ¬ s.Crosses repr)
    (hp : s.process cx ipRepr repr = .ok (s', p)) : s'.Calm := by
  have hquiet : ∀ {s₁ : Socket}, Quiet s s₁ → s₁.Calm := by
    rintro s₁ ⟨_, _, _, _, _, s₂, rfl | ⟨-, now, rfl⟩, -, -, rfl, rfl | rfl⟩
    · exact h
    · exact h
    · exact False.elim
    · exact False.elim
  cases ProcessRule.of_process hp with
  | quiet hq => exact hquiet hq
  | reset st hctl hlisten hq =>
    have hcalm := hquiet hq
    exact fun hidle => hcalm hidle
  | @accepted w ack payload offset s₁ s₂ s₃ _ ha =>
    have htimeWait : s.state ≠ .timeWait := ha.state_eq ▸ ha.transits.state_ne
    by_cases hrefuses : s.state.Synchronized ∧ s.Refuses repr
    · exact h.refusal htimeWait (process_refusal hrefuses.1 hrefuses.2 hp)
    by_cases hdiscards : s.Discards repr
    · obtain ⟨-, lastSeq, rfl⟩ := process_discards hdiscards hbase hp
      exact h
    obtain ⟨now, keepAlive, rto, t, htimer, ht⟩ := ha.exists_timer
    have hwin := ha.remoteWinLen_eq
    have hadv := ha.advances
    intro hidle
    rw [htimer] at hidle
    obtain ⟨hwhy, -⟩ := finishTimer_idle hidle
    cases hnum : repr.ackNumber with
    | none =>
      cases hadv with
      | listen _ _ _ hlast => rw [inFlight, hlast, Serial.dist_self]
      | syn hst _ hnone =>
        exfalso
        refine hcrosses (ha.crosses hst hnum fun hre => ?_)
        rcases ht with rfl | rfl | ⟨e, rfl⟩ | hlisten
        · rcases hwhy with hi | ⟨-, hall⟩ | ⟨hz, -⟩
          · exact (Timer.not_isRetransmit (.inl hi)) hre
          · cases hall
          · exact (Timer.not_isRetransmit (.inr hz)) hre
        · rcases hwhy with hi | ⟨-, hall⟩ | ⟨hz, -⟩
          · exact hi
          · cases hall
          · exact hz
        · rcases hwhy with hi | ⟨hr, -⟩ | ⟨hz, -⟩
          · exact hi
          · exact hr
          · exact hz
        · simp [hst] at hlisten
      | synAck _ _ _ hack | data _ _ _ _ _ hack | fin _ _ _ _ _ hack => simp [hnum] at hack
    | some a =>
      obtain ⟨n, hA⟩ := hf.acknowledges hbase hadv (by simp [hnum])
      have hnum' := hA.ackNumber
      have hn := hA.lt
      have hpos := hf.nonneg
      have hall : ack.ackAll = true → s.inFlight ≤ n := by
        intro hall
        exact (s.le_iff_inFlight hn hpos).mp (hadv.ackAll_eq hnum' hall)
      have hle : s.inFlight ≤ n := by
        rcases ht with rfl | rfl | ⟨e, rfl⟩ | hlisten
        · rcases hwhy with hi | ⟨-, ha⟩ | ⟨hz, hne⟩
          · rw [h hi]
            omega
          · exact hall ha
          · -- the probe timer stops: then all that is in flight is acknowledged
            by_contra hlt
            have hlisten : s.state ≠ .listen := by
              intro hs
              cases ha.ackAcceptable with
              | listen _ hack => simp [hnum] at hack
              | syn hs' | synAck hs' | synReceived hs' => simp [hs] at hs'
              | range _ hs' => exact hs' hs
            have hsynSent : s.state ≠ .synSent := fun hs => hlt (ha.synSent_le hbase hf hs hnum')
            refine hreopens ⟨hz, hwin ▸ hne, ⟨_, hnum', ?_⟩,
              ⟨ha.accepts.1, hlisten, hsynSent⟩, ha.control_ne, ?_, hdiscards⟩
            · exact (s.lt_iff_inFlight hn hpos).mpr (by omega)
            · exact fun hr => hrefuses ⟨⟨ha.accepts.1, hlisten, hsynSent⟩, hr⟩
        · rcases hwhy with hi | ⟨-, ha⟩ | ⟨hz, -⟩
          · exact hi.elim
          · exact hall ha
          · exact hz.elim
        · rcases hwhy with hi | ⟨hr, -⟩ | ⟨hz, -⟩
          · exact hi.elim
          · exact hr.elim
          · exact hz.elim
        · cases ha.ackAcceptable with
          | listen _ hack => simp [hnum] at hack
          | syn hs | synAck hs | synReceived hs => simp [hlisten] at hs
          | range _ hs => exact absurd hlisten hs
      have hin := hA.inFlight
      omega

lemma Probed.process (h : s.Probed) (hp : ProcessRule s cx ipRepr repr s') : s'.Probed := by
  have hquiet : ∀ {s₁ : Socket}, Quiet s s₁ → s₁.Probed := by
    rintro s₁ ⟨_, _, _, _, _, s₂, rfl | ⟨-, now, rfl⟩, -, -, rfl, rfl | rfl⟩
    · exact h
    · exact h
    · exact fun hidle => hidle.elim
    · exact fun hidle => hidle.elim
  cases hp with
  | quiet hq => exact hquiet hq
  | reset st hctl hlisten hq hst =>
    rcases hst with ⟨rfl, hs, -⟩ | rfl
    · have hprobed := hquiet hq
      obtain ⟨_, _, _, _, _, s₂, -, -, -, rfl, rfl | rfl⟩ := hq
      · exact fun hidle _ => hprobed hidle (by simp [hs])
      · exact fun hidle _ => hprobed hidle (by simp [acknowledged, hs])
    · exact fun _ hne => absurd rfl hne
  | accepted ha =>
    obtain ⟨_, _, _, _, htimer, -⟩ := ha.exists_timer
    intro hidle _
    rw [htimer] at hidle
    exact (finishTimer_idle hidle).2

/-! ### Segments that are sent -/

@[simp] lemma isIdle_rewindKeepAlive {now : Instant} {interval : Option Duration} {t : Timer} :
    (t.rewindKeepAlive now interval).isIdle ↔ t.isIdle := by
  cases t <;> rfl

@[simp] lemma isIdle_setKeepAlive {t : Timer} : t.setKeepAlive.isIdle ↔ t.isIdle := by
  cases t with
  | idle k => cases k <;> rfl
  | _ => rfl

@[simp] lemma isIdle_rewindZeroWindowProbe {now : Instant} {t : Timer} :
    (t.rewindZeroWindowProbe now).isIdle ↔ t.isIdle := by
  cases t <;> rfl

lemma not_isIdle_setForRetransmit {now : Instant} {delay : Duration} {t : Timer} :
    ¬ (t.setForRetransmit now delay).isIdle := by
  cases t <;> exact id

lemma noteData_idle {r : TcpRepr} {endSeq : SeqNumber}
    (h : (s.noteData cx r endSeq).timer.isIdle) : s.timer.isIdle ∧ r.segmentLen = 0 := by
  unfold noteData at h
  simp only at h
  by_cases hre : 0 < r.segmentLen ∧ ¬ s.timer.isRetransmit
  · rw [if_pos hre] at h
    exact absurd h not_isIdle_setForRetransmit
  · rw [if_neg hre] at h
    refine ⟨h, ?_⟩
    by_contra hpos
    exact hre ⟨Nat.pos_of_ne_zero hpos, Timer.not_isRetransmit (.inl h)⟩

/-- Only what occupies no sequence space leaves the timer idle. -/
lemma Sends.idle {e : Emission} (h : Sends s cx e s') (hidle : s'.timer.isIdle) :
    s.timer.isIdle ∧
      ((e.isZeroWindowProbe ∨ e.isKeepAlive) ∨ e.repr.segmentLen = 0) := by
  cases h with
  | probe hzwp =>
    simp only [noteEmit, isIdle_rewindZeroWindowProbe, isIdle_rewindKeepAlive] at hidle
    exact ⟨hidle, .inl (.inl hzwp)⟩
  | keepAlive hzwp hkeep =>
    simp only [noteEmit, isIdle_rewindKeepAlive] at hidle
    exact ⟨hidle, .inl (.inr hkeep)⟩
  | segment hzwp hkeep hlen =>
    obtain ⟨hidle, hzero⟩ := noteData_idle hidle
    exact ⟨isIdle_rewindKeepAlive.mp hidle, .inr hzero⟩

lemma Builds.seqNumber_eq {r : TcpRepr} {zwp : Bool} (h : Builds s cx r zwp)
    (hlen : r.segmentLen = 0) : r.seqNumber = s.remoteLastSeq := by
  cases h with
  | rst _ _ hseq | ack _ _ hseq => exact hseq
  | data _ _ _ _ _ _ _ _ _ _ hseq => exact hseq
  | syn _ hctl => simp [TcpRepr.segmentLen, hctl, TcpControl.len] at hlen

lemma Calm.timed (h : s.Calm) (ht : Timed s cx s₁) : s₁.Calm := by
  cases ht with
  | timeout => exact h
  | rewind => exact fun _ => Serial.dist_self _
  | same => exact h

lemma Calm.sends {e : Emission} (h : s.Calm)
    (hemits : Emits s cx e) (hs : Sends s cx e s') : s'.Calm := by
  intro hidle
  obtain ⟨hidle₀, hkind⟩ := hs.idle hidle
  have hzero := h hidle₀
  obtain ⟨-, -, hloc, hlast⟩ := hs.send_eq
  split_ifs at hlast with hsame
  · rw [← hzero, inFlight, inFlight, hlast, hloc]
  · have hlen := hkind.resolve_left hsame
    cases hemits with
    | keepAlive r _ hkeep => exact absurd (.inr hkeep) hsame
    | segment r hbuilds _ _ _ hrepr =>
      obtain ⟨mss, hr⟩ := hrepr
      have hseq : e.repr.seqNumber = s.remoteLastSeq := by
        rw [hr] at hlen ⊢
        exact hbuilds.seqNumber_eq hlen
      rw [← hzero, inFlight, inFlight, hlast, hloc, hlen, hseq, Nat.cast_zero, shift_zero]

lemma Calm.dispatch {o : Option Emission} (h : s.Calm) (hd : DispatchRule s cx s' o) : s'.Calm := by
  cases hd with
  | noTuple => exact h
  | idle _ ht => exact h.timed ht
  | reset => exact fun _ => Serial.dist_self _
  | failed _ ht => exact h.timed ht
  | sent _ ht _ hemits hsends =>
    exact (h.timed ht).sends hemits hsends

lemma Probed.dispatch {o : Option Emission} (h : s.Probed) (hgives : ¬ s.GivesUp cx)
    (hd : DispatchRule s cx s' o) : s'.Probed := by
  have htimed : ∀ {s₁}, s.tuple ≠ none → Timed s cx s₁ → s₁.Probed := by
    intro s₁ htuple ht
    cases ht with
    | timeout => exact fun _ hne => absurd rfl hne
    | rewind hto hseq hre =>
      intro _ hne hwin
      by_contra htx
      exact hgives ⟨hre, hwin, htx, hne, htuple, hto, hseq⟩
    | same => exact h
  cases hd with
  | noTuple => exact h
  | idle htuple ht => exact htimed htuple ht
  | reset => exact fun _ hne => absurd rfl hne
  | failed htuple ht => exact htimed htuple ht
  | sent htuple ht _ hemits hsends =>
    intro hidle hne hwin
    obtain ⟨htx, hst, -, -⟩ := hsends.send_eq
    rw [htx]
    exact htimed htuple ht (hsends.idle hidle).1 (hst ▸ hne) (hsends.remoteWinLen_eq ▸ hwin)

/-! ### The decision in `pollAt` -/

lemma maxSend_eq_zero (hcalm : s.inFlight = 0) (hcwnd : 0 < s.congestionController.window)
    (h : s.maxSend = .ok 0) : s.remoteWinLen = 0 ∨ s.txBuffer.len = 0 := by
  have hlast : s.remoteLastSeq = s.localSeqNo := (dist_eq_zero_iff _ _).mp hcalm
  unfold maxSend roomTo at h
  simp only [Checked.bind_eq_ok, SeqNumber.add_eq_ok, Checked.pure_eq_ok] at h
  obtain ⟨_, ⟨hlt, rfl⟩, room, hroom, hmin⟩ := h
  have hd := SeqNumber.dist_shift_nat (a := s.localSeqNo) hlt
  have hge : SeqNumber.ge (shift s.localSeqNo ↑(min s.remoteWinLen s.txBuffer.len))
    s.localSeqNo := by
    unfold SeqNumber.ge
    omega
  rw [hlast, if_pos hge, SeqNumber.sub_eq_ok, hd] at hroom
  have hmin := Except.ok.inj hmin
  omega

/-- Where nothing is in flight and nothing is transmitted, nothing waits to be. -/
lemma not_owes (hcalm : s.inFlight = 0) (hcwnd : 0 < s.congestionController.window)
    (h : s.seqToTransmit cx = .ok false) :
    s.state ≠ .synSent ∧ s.state ≠ .synReceived ∧
      (s.remoteWinLen = 0 ∨ s.txBuffer.len = 0) ∧ ¬ (s.wantFin ∧ s.txBuffer.len = 0) := by
  have hlast : s.remoteLastSeq = s.localSeqNo := (dist_eq_zero_iff _ _).mp hcalm
  have hflight : ¬ s.dataInFlight := fun hne => hne hlast
  unfold seqToTransmit at h
  simp only [Checked.bind_eq_ok] at h
  obtain ⟨tuple, -, mss, -, h⟩ := h
  by_cases hsyn : (s.state = .synSent ∨ s.state = .synReceived) ∧ ¬ s.dataInFlight
  · rw [if_pos hsyn] at h
    cases h
  · rw [if_neg hsyn] at h
    simp only [Checked.bind_eq_ok, Checked.pure_eq_ok] at h
    obtain ⟨maxSend, hmax, canFin, hcan, h⟩ := h
    have hnot := of_decide_eq_false (Except.ok.inj h)
    rw [not_or, canFin_eq_ok hcan] at hnot
    obtain ⟨hsend, hfin⟩ := hnot
    rw [if_neg (fun hn => hflight hn.2.1), not_not] at hsend
    subst hsend
    refine ⟨fun hs => hsyn ⟨.inl hs, hflight⟩, fun hs => hsyn ⟨.inr hs, hflight⟩,
      maxSend_eq_zero hcalm hcwnd hmax, fun hw => hfin ⟨hw.1, ?_⟩⟩
    rw [hlast, hw.2, Nat.cast_zero, shift_zero]

end Socket

namespace Sys

variable {y y' : Sys} {op : Op} {cx : Context} {emit : IpRepr → TcpRepr → Bool} {s' : Socket}
  {e : Emission}

/-- The segments after which the timer is idle with something in flight. -/
def Disarms (y : Sys) : Op → Prop
  | .process _ _ repr => y.socket.Reopens repr ∨ y.socket.Crosses repr
  | _ => False

/-- The steps after which no timer is left for what is in flight or queued. -/
def Strands (y : Sys) (op : Op) : Prop :=
  y.Disarms op ∨ ∃ cx emit, op = .dispatch cx emit ∧ y.socket.GivesUp cx

lemma process_of_step {ipRepr : IpRepr} {repr : TcpRepr}
    (h : Step y (.process cx ipRepr repr) y') :
    ∃ p, y.socket.process cx ipRepr repr = .ok (y'.socket, p) := by
  unfold Step at h
  simp only [step] at h
  obtain ⟨⟨s, p⟩, hp, h⟩ := Checked.bind_eq_ok.mp h
  cases h
  exact ⟨p, hp⟩

lemma calm_step (h : y.socket.Calm) (hreach : y.Reachable) (hok : ¬ y.Disarms op)
    (hs : Step y op y') : y'.socket.Calm := by
  have hrule := StepRule.of_step hs
  cases hrule with
  | same => exact h
  | listen | connect => exact fun _ => Serial.dist_self _
  | close =>
    obtain ⟨st, heq, -⟩ := y.socket.close_eq
    rw [heq]
    exact h
  | abort => exact h
  | set x s' hset =>
    obtain ⟨_, _, _, _, _, _, _, _, timer, htimer, -, rfl⟩ := Socket.set_eq_ok hset
    intro hidle
    refine h ?_
    rcases htimer with rfl | rfl
    · exact hidle
    · exact Socket.isIdle_setKeepAlive.mp hidle
  | send op s' data hsend =>
    obtain ⟨-, tx, ts, -, -, -, rfl⟩ := hsend
    intro hidle
    refine h ?_
    simp only at hidle
    split_ifs at hidle
    · exact hidle.elim
    · exact hidle
  | recv op s' n hrecv =>
    obtain ⟨-, rx, -, -, rfl⟩ := hrecv
    exact h
  | process cx ipRepr repr s' hp =>
    obtain ⟨p, hproc⟩ := process_of_step hs
    exact h.process hreach.base hreach.flight (fun hr => hok (.inl hr)) (fun hc => hok (.inr hc))
      hproc
  | dispatch cx emit s' e hd => exact h.dispatch hd

lemma probed_step (h : y.socket.Probed) (hok : ¬ y.Strands op) (hs : StepRule y op y') :
    y'.socket.Probed := by
  cases hs with
  | same => exact h
  | listen | connect => exact fun _ _ _ => rfl
  | close =>
    obtain ⟨st, heq, hst⟩ := y.socket.close_eq
    rw [heq]
    intro hidle hne
    refine h hidle fun hclosed => hne ?_
    simp only [hclosed, reduceCtorEq, or_self, false_and, false_or, not_false_iff, true_and] at hst
    exact hst
  | abort => exact fun _ hne => absurd rfl hne
  | set x s' hset =>
    obtain ⟨_, _, _, _, _, _, _, _, timer, htimer, -, rfl⟩ := Socket.set_eq_ok hset
    intro hidle
    refine h ?_
    rcases htimer with rfl | rfl
    · exact hidle
    · exact Socket.isIdle_setKeepAlive.mp hidle
  | send op s' data hsend =>
    obtain ⟨-, tx, ts, htx, -, -, rfl⟩ := hsend
    intro hidle hne hwin
    simp only at hidle
    split_ifs at hidle with hstart
    · exact hidle.elim
    · have hdata : data = [] := by
        by_contra hdata
        exact hstart ⟨hdata, hwin, hidle⟩
      have hlen := h hidle hne hwin
      rw [hdata, List.append_nil] at htx
      rwa [← RingBuffer.length_toList, ← htx, RingBuffer.length_toList] at hlen
  | recv op s' n hrecv =>
    obtain ⟨-, rx, -, -, rfl⟩ := hrecv
    exact h
  | process cx ipRepr repr s' hp => exact h.process hp
  | dispatch cx emit s' e hd =>
    exact h.dispatch (fun hg => hok (.inr ⟨cx, emit, rfl, hg⟩)) hd

lemma initial_idle (h : y.Initial) : y.socket.Calm ∧ y.socket.Probed := by
  obtain ⟨cfg, rx, tx, hnew, -⟩ := h
  unfold Socket.new at hnew
  split_ifs at hnew
  simp only [Except.ok.injEq] at hnew
  rw [← hnew]
  exact ⟨fun _ => Serial.dist_self _, fun _ hne => absurd rfl hne⟩

lemma ReachableBy.calm (h : ReachableBy (fun y op => ¬ y.Disarms op) y) : y.socket.Calm := by
  obtain ⟨y₀, h₀, hrun⟩ := h
  refine hrun.invariant_of (I := fun y => y.socket.Calm) (J := Reachable) (fun t ht => ?_) ?_
    (initial_idle h₀).1
  · exact ReachableBy.reachable ⟨y₀, h₀, ht⟩
  · exact fun t op u hreach hcalm hok hs => calm_step hcalm hreach hok hs

lemma ReachableBy.probed (h : ReachableBy (fun y op => ¬ y.Strands op) y) : y.socket.Probed :=
  h.invariant (I := fun y => y.socket.Probed) (fun _ hy => (initial_idle hy).2)
    fun _ _ _ hprobed hok hs => probed_step hprobed hok (.of_step hs)

/-! ### Samples -/

/-- No step of the sample runs comes near the three kinds. -/
def checkArmed (y : Sys) : Op → Bool
  | .process _ _ _ => ¬ y.socket.timer.isZeroWindowProbe ∧ y.socket.state ≠ .synSent
  | .dispatch cx _ => ¬ y.socket.timer.shouldRetransmit cx.now
  | _ => true

lemma not_strands_of_check (h : checkArmed y op = true) : ¬ y.Strands op := by
  rintro (hd | ⟨cx, emit, rfl, hg⟩)
  · cases op with
    | process cx ipRepr repr =>
      obtain ⟨hz, hst⟩ := of_decide_eq_true h
      rcases hd with hr | hc
      · exact hz hr.1
      · exact hst hc.1
    | _ => exact hd
  · exact of_decide_eq_true h hg.1

lemma not_disarms_of_check (h : checkArmed y op = true) : ¬ y.Disarms op :=
  fun hd => not_strands_of_check h (.inl hd)

/-- An open connection with three octets in flight. -/
def threeInFlight : List Op := Siege.handshake ++ [.sendSlice [1, 2, 3], Sample.dispatch 0]

end Sys

/-! ### The results -/

/-- Some of our sequence space is not acknowledged: a SYN, octets or a FIN. -/
def Socket.Owes (s : Socket) : Prop :=
  s.state = .synSent ∨ s.state = .synReceived ∨ s.wantFin ∨
    (s.state = .established ∨ s.state = .closeWait) ∧ s.txBuffer.len ≠ 0

lemma PollAt.min_eq_ingress {p q : PollAt} (h : p.min q = .ingress) :
    p = .ingress ∧ q = .ingress := by
  cases p <;> cases q <;> simp [PollAt.min] at h ⊢
  split_ifs at h

lemma Timer.isIdle_of_pollAt {t : Timer} (h : t.pollAt = .ingress) : t.isIdle := by
  cases t with
  | idle => trivial
  | _ => cases h

namespace Sys

variable {y : Sys} {cx : Context} {emit : IpRepr → TcpRepr → Bool} {s' : Socket} {e : Emission}

/-- In a run without the three kinds of steps a socket that waits for an acknowledgement has
something to do or a timer armed. -/
theorem never_stalls (h : ReachableBy (fun y op => ¬ y.Strands op) y)
    (htuple : y.socket.tuple ≠ none) (howes : y.socket.Owes) :
    y.socket.pollAt cx ≠ .ok .ingress := by
  intro hp
  unfold Socket.pollAt at hp
  rw [if_neg htuple] at hp
  by_cases hts : y.socket.remoteLastTs = none
  · rw [if_pos hts] at hp
    cases hp
  by_cases hclosed : y.socket.state = .closed
  · rw [if_neg hts, if_pos hclosed] at hp
    cases hp
  rw [if_neg hts, if_neg hclosed] at hp
  obtain ⟨seq, hseq, hp⟩ := Checked.bind_eq_ok.mp hp
  cases seq with
  | true => cases hp
  | false =>
    obtain ⟨win, hwin, hp⟩ := Checked.bind_eq_ok.mp hp
    cases win with
    | true => cases hp
    | false =>
      obtain ⟨wantAck, -, hp⟩ := Checked.bind_eq_ok.mp hp
      have hmin := PollAt.min_eq_ingress (Except.ok.inj hp)
      have hidle := Timer.isIdle_of_pollAt (PollAt.min_eq_ingress hmin.1).1
      have hcalm := ReachableBy.calm (h.mono fun _ _ hs hd => hs (.inl hd)) hidle
      have hprobed := h.probed hidle hclosed
      obtain ⟨hsyn, hsyn', hdata, hfin⟩ :=
        Socket.not_owes hcalm h.base.cwnd.window_pos hseq
      have hempty : y.socket.txBuffer.len = 0 := hdata.elim hprobed id
      rcases howes with hs | hs | hs | ⟨-, hs⟩
      · exact hsyn hs
      · exact hsyn' hs
      · exact hfin ⟨hs, hempty⟩
      · exact hs hempty

/-- Three octets in flight keep the retransmission timer armed. -/
theorem never_stalls_sent : ∃ y : Sys, ReachableBy (fun y op => ¬ y.Strands op) y ∧
    y.socket.tuple ≠ none ∧ y.socket.Owes ∧
    y.socket.pollAt (Sample.context 0) ≠ .ok .ingress := by
  obtain ⟨y, hreach, hP⟩ := exists_sample (fun y op => ¬ y.Strands op) checkArmed 8 threeInFlight
    (fun y => y.socket.tuple ≠ none ∧ y.socket.state = .established ∧ y.socket.txBuffer.len ≠ 0)
    (fun _ _ => not_strands_of_check) (by decide)
  obtain ⟨htuple, hst, hlen⟩ := of_decide_eq_true hP
  have howes : y.socket.Owes := .inr (.inr (.inr ⟨.inl hst, hlen⟩))
  exact ⟨y, hreach, htuple, howes, never_stalls hreach htuple howes⟩

/-- The retransmission timer expires while the window is closed. Nothing is left that would probe
the window. -/
theorem stalls : ∃ y : Sys, y.Reachable ∧ y.socket.timeout = none ∧ y.socket.keepAlive = none ∧
    y.socket.congestionController = .none ∧ y.socket.tuple ≠ none ∧
    y.socket.state = .established ∧ y.socket.txBuffer.len = 3 ∧
    y.socket.pollAt (Sample.context 2000000) = .ok .ingress := by
  obtain ⟨y, hreach, hP⟩ := exists_sample (fun _ _ => True) (fun _ _ => true) 8
    (threeInFlight ++ [Sample.process 0 (Sample.segment .none 100 (some 10001) 0 []),
      Sample.dispatch 2000000])
    (fun y => y.socket.timeout = none ∧ y.socket.keepAlive = none ∧
      y.socket.congestionController = .none ∧ y.socket.tuple ≠ none ∧
      y.socket.state = .established ∧ y.socket.txBuffer.len = 3 ∧
      (y.socket.pollAt (Sample.context 2000000)).toOption.any fun p => p = .ingress)
    (fun _ _ _ => trivial) (by decide +kernel)
  obtain ⟨hto, hka, hcc, htuple, hst, hlen, hany⟩ := of_decide_eq_true hP
  obtain ⟨p, hpoll, hp⟩ := Checked.exists_of_any hany
  obtain rfl := of_decide_eq_true hp
  exact ⟨y, hreach, hto, hka, hcc, htuple, hst, hlen, hpoll⟩

lemma keepAlive_lt {s s₁ : Socket} (hcalm : s.Calm) (ht : s.Timed cx s₁) (hemits : s₁.Emits cx e)
    (hkeep : e.isKeepAlive = true) : SeqNumber.lt e.repr.seqNumber s.localSeqNo := by
  have hloc : s₁.localSeqNo = s.localSeqNo := by
    cases ht <;> rfl
  cases hemits with
  | segment r _ hnot => simp [hkeep] at hnot
  | keepAlive r hbuilds _ halive hempty _ hrepr =>
    obtain ⟨mss, hr⟩ := hrepr
    have hidle : s₁.timer.isIdle := by
      cases htimer : s₁.timer with
      | idle => trivial
      | _ => exact absurd halive (by rw [htimer]; exact id)
    have hlen : r.segmentLen = 0 := by
      obtain ⟨hpay, hctl⟩ := hempty
      rcases hctl with hctl | hctl <;> simp [TcpRepr.segmentLen, hpay, hctl, TcpControl.len]
    have hlast : s₁.remoteLastSeq = s₁.localSeqNo :=
      (dist_eq_zero_iff _ _).mp (hcalm.timed ht hidle)
    rw [hr]
    change dist (shift r.seqNumber (-1)) _ < 0
    rw [hbuilds.seqNumber_eq hlen, hlast, hloc]
    have hd := dist_shift_shift_of_lt s.localSeqNo (j := -1) (k := 0) (by omega) (by omega)
    rw [shift_zero] at hd
    omega

/-- In a run without the segments that disarm the timer, a keep-alive repeats an octet in front of
all that is not acknowledged. -/
theorem keepAlive_below (h : ReachableBy (fun y op => ¬ y.Disarms op) y)
    (hd : y.socket.dispatch cx emit = .ok (s', some e)) (hkeep : e.isKeepAlive = true) :
    SeqNumber.lt e.repr.seqNumber y.socket.localSeqNo := by
  cases Socket.DispatchRule.of_dispatch hd with
  | failed _ ht _ hemits => exact keepAlive_lt h.calm ht hemits hkeep
  | sent _ ht _ hemits =>
    have hlt := keepAlive_lt h.calm ht hemits hkeep
    exact hlt

/-- A quiet connection, a second later. -/
theorem keepAlive_below_quiet : ∃ (y : Sys) (s' : Socket) (e : Emission),
    ReachableBy (fun y op => ¬ y.Disarms op) y ∧
    y.socket.dispatch (Sample.context 2000000) (fun _ _ => true) = .ok (s', some e) ∧
    e.isKeepAlive = true ∧ SeqNumber.lt e.repr.seqNumber y.socket.localSeqNo := by
  obtain ⟨y, hreach, hP⟩ := exists_sample (fun y op => ¬ y.Disarms op) checkArmed 8
    (.set (.keepAlive (some (.fromMillis 1000))) :: Siege.handshake)
    (fun y => (Sample.emitted 2000000 y.socket).any fun e => e.isKeepAlive)
    (fun _ _ => not_disarms_of_check) (by decide)
  obtain ⟨e, he, hkeep⟩ := (Option.any_eq_true _ _).mp hP
  obtain ⟨s', hs⟩ := Sample.dispatch_of_emitted he
  exact ⟨y, s', e, hreach, hs, hkeep, keepAlive_below hreach hs hkeep⟩

/-- The window closes and reopens with two octets in flight. The keep-alive then takes the place of
the second. -/
theorem keepAlive_overlaps : ∃ (y : Sys) (s' : Socket) (e : Emission), y.Reachable ∧
    y.socket.dispatch (Sample.context 2000000) (fun _ _ => true) = .ok (s', some e) ∧
    e.isKeepAlive = true ∧ e.repr.payload = [0] ∧
    e.repr.seqNumber = shift y.socket.localSeqNo 1 ∧ y.socket.txBuffer.toList = [2, 3] ∧
    ¬ SeqNumber.lt e.repr.seqNumber y.socket.localSeqNo := by
  obtain ⟨y, hreach, hP⟩ := exists_sample (fun _ _ => True) (fun _ _ => true) 8
    (.set (.keepAlive (some (.fromMillis 1000))) :: threeInFlight ++
      [Sample.process 0 (Sample.segment .none 100 (some 10002) 0 []),
        Sample.process 0 (Sample.segment .none 100 (some 10002) 256 [])])
    (fun y => (Sample.emitted 2000000 y.socket).any fun e =>
      e.isKeepAlive ∧ e.repr.payload = [0] ∧ e.repr.seqNumber = shift y.socket.localSeqNo 1 ∧
        y.socket.txBuffer.toList = [2, 3] ∧ ¬ SeqNumber.lt e.repr.seqNumber y.socket.localSeqNo)
    (fun _ _ _ => trivial) (by decide +kernel)
  obtain ⟨e, he, hany⟩ := (Option.any_eq_true _ _).mp hP
  obtain ⟨s', hs⟩ := Sample.dispatch_of_emitted he
  exact ⟨y, s', e, hreach, hs, of_decide_eq_true hany⟩

end Sys

end Smoltcp.Tcp
