import Smoltcp.Time
import Smoltcp.Lib.Transition

/-!
# The Trickle timer

An interval has a length of a power of two in milliseconds. In its second half a message is to be
sent, unless enough consistent ones were heard. The point in time is drawn when the interval starts,
and once more, counted from then, when a message was sent.

Of the random numbers a poll draws, `draw` is the one after a transmission and `draw'` the one at
the start of an interval.
-/

namespace Smoltcp.Rpl

structure TrickleTimer where
  iMin : UInt32
  iMax : UInt32
  k : ℕ
  i : Duration
  t : Duration
  tExp : Instant
  iExp : Instant
  counter : ℕ
  deriving DecidableEq

namespace TrickleTimer

/-- `Duration::from_millis(2u32.pow(exponent) as u64)`. -/
def interval (exponent : UInt32) : Duration :=
  .fromMillis (UInt32.ofNat (2 ^ exponent.toNat)).toUInt64

section Operations

variable (timer : TrickleTimer) (now : Instant) (draw draw' : UInt32)

/-- The point in the interval that is drawn. -/
def point : Duration :=
  timer.i / 2 + draw.toUInt64 % (timer.i - timer.i / 2 + 1)

def setT : TrickleTimer :=
  { timer with t := timer.point draw, tExp := now.add (timer.point draw) }

def new (iMin iMax : UInt32) (k : ℕ) (now : Instant) (draw : UInt32) : TrickleTimer :=
  setT {
    iMin, iMax, k
    i := interval iMin
    t := 0
    tExp := 0
    iExp := now.add (interval iMin)
    counter := 0 } now draw

def canTransmit : Bool := timer.k ≠ 0 ∧ timer.counter < timer.k

def tExpired : Bool := timer.tExp ≤ now

def iExpired : Bool := timer.iExp ≤ now

def reset (i : Duration) : TrickleTimer :=
  setT { timer with i, iExp := now.add i, counter := 0 } now draw

/-- The length of the interval after this one. -/
def nextInterval : Duration :=
  if interval timer.iMax ≤ timer.i then interval timer.iMax else timer.i + timer.i

def expire : TrickleTimer := timer.reset now draw timer.nextInterval

/-- Poll the timer. `true` tells that a message can be transmitted. -/
def poll : TrickleTimer × Bool :=
  let canTransmit := timer.canTransmit && timer.tExpired now
  let timer := if canTransmit then timer.setT now draw else timer
  let timer := if timer.iExpired now then timer.expire now draw' else timer
  (timer, canTransmit)

/-- The instant at which the timer should be polled again. -/
def pollAt : Instant := min timer.tExp timer.iExp

def hearConsistent : TrickleTimer := { timer with counter := timer.counter + 1 }

def hearInconsistency : TrickleTimer :=
  if interval timer.iMin < timer.i then timer.reset now draw (interval timer.iMin) else timer

end Operations

/-! ### Intervals -/

variable {timer : TrickleTimer} {now : Instant} {draw draw' : UInt32} {exponent : UInt32} {j : ℕ}

/-- The microseconds of an interval. -/
def micros (j : ℕ) : ℕ := 2 ^ j * 1000

lemma micros_le_micros {j j' : ℕ} : micros j ≤ micros j' ↔ j ≤ j' := by
  unfold micros
  rw [Nat.mul_le_mul_right_iff (by decide), Nat.pow_le_pow_iff_right (by decide)]

lemma micros_succ (j : ℕ) : micros (j + 1) = micros j + micros j := by
  unfold micros
  rw [Nat.pow_succ]
  omega

lemma micros_bounds (hj : j ≤ 31) : 1000 ≤ micros j ∧ micros j < 2 ^ 42 := by
  have hlo := micros_le_micros.mpr (Nat.zero_le j)
  have hhi := micros_le_micros.mpr hj
  unfold micros at *
  omega

/-- An interval is a whole number of its halves. -/
lemma micros_half (j : ℕ) : micros j / 2 + micros j / 2 = micros j := by
  unfold micros
  omega

lemma toNat_interval (h : exponent.toNat ≤ 31) :
    (interval exponent).toNat = micros exponent.toNat := by
  have hlt : 2 ^ exponent.toNat < 2 ^ 32 := Nat.pow_lt_pow_right (by decide) (by omega)
  have hmillis : (1000 : UInt64).toNat = 1000 := rfl
  rw [interval, Duration.fromMillis, UInt64.toNat_mul, UInt32.toNat_toUInt64,
    UInt32.toNat_ofNat', Nat.mod_eq_of_lt hlt, hmillis, micros, Nat.mod_eq_of_lt (by omega)]

/-- The length of the interval is a power of two within the limits. -/
structure Regular (timer : TrickleTimer) : Prop where
  iMax_le : timer.iMax.toNat ≤ 31
  exists_exponent :
    ∃ j, timer.iMin.toNat ≤ j ∧ j ≤ timer.iMax.toNat ∧ timer.i.toNat = micros j

lemma toNat_half (d : Duration) : (d / 2).toNat = d.toNat / 2 := UInt64.toNat_div ..

namespace Regular

lemma iMin_le (h : timer.Regular) : timer.iMin.toNat ≤ timer.iMax.toNat := by
  obtain ⟨j, hlo, hhi, -⟩ := h.exists_exponent
  omega

lemma i_bounds (h : timer.Regular) : 1000 ≤ timer.i.toNat ∧ timer.i.toNat < 2 ^ 42 ∧
    timer.i.toNat / 2 + timer.i.toNat / 2 = timer.i.toNat ∧
    timer.i.toNat ≤ (interval timer.iMax).toNat := by
  obtain ⟨j, -, hhi, hi⟩ := h.exists_exponent
  have hmax := h.iMax_le
  have hbounds := micros_bounds (hhi.trans hmax)
  have hhalf := micros_half j
  have hle := micros_le_micros.mpr hhi
  rw [hi, toNat_interval hmax]
  exact ⟨hbounds.1, hbounds.2, hhalf, hle⟩

/-- The half of the interval, and a remainder by the half. -/
lemma toNat_point (h : timer.Regular) (draw : UInt32) : (timer.point draw).toNat =
    timer.i.toNat / 2 + draw.toNat % (timer.i.toNat / 2 + 1) := by
  obtain ⟨hlo, hhi, hhalf, -⟩ := h.i_bounds
  have hle : timer.i / 2 ≤ timer.i := by
    rw [UInt64.le_iff_toNat_le, toNat_half]
    omega
  have hone : (1 : UInt64).toNat = 1 := rfl
  have hrest : (timer.i - timer.i / 2 + 1).toNat = timer.i.toNat / 2 + 1 := by
    rw [UInt64.toNat_add, UInt64.toNat_sub_of_le _ _ hle, toNat_half, hone]
    omega
  have hmod : draw.toNat % (timer.i.toNat / 2 + 1) < timer.i.toNat / 2 + 1 :=
    Nat.mod_lt _ (Nat.succ_pos _)
  rw [point, UInt64.toNat_add, UInt64.toNat_mod, UInt32.toNat_toUInt64, hrest, toNat_half,
    Nat.mod_eq_of_lt (by omega)]

lemma point_bounds (h : timer.Regular) (draw : UInt32) :
    timer.i.toNat / 2 ≤ (timer.point draw).toNat ∧
      (timer.point draw).toNat ≤ timer.i.toNat := by
  obtain ⟨-, -, hhalf, -⟩ := h.i_bounds
  have hmod : draw.toNat % (timer.i.toNat / 2 + 1) < timer.i.toNat / 2 + 1 :=
    Nat.mod_lt _ (Nat.succ_pos _)
  rw [h.toNat_point]
  omega

lemma setT (h : timer.Regular) (now : Instant) (draw : UInt32) : (timer.setT now draw).Regular :=
  ⟨h.iMax_le, h.exists_exponent⟩

/-- The point of the next transmission, unless the clock overflows before it. -/
lemma toInt_tExp (h : timer.Regular) (hclock : now.toInt + (timer.point draw).toNat < 2 ^ 63) :
    (timer.setT now draw).tExp.toInt = now.toInt + timer.i.toNat / 2 +
      ((draw.toNat % (timer.i.toNat / 2 + 1) : ℕ) : ℤ) := by
  have hadd := Instant.toInt_add hclock
  rw [h.toNat_point, Nat.cast_add, ← Int.add_assoc] at hadd
  exact hadd

/-- Doubling, up to the maximum. -/
lemma toNat_nextInterval (h : timer.Regular) :
    timer.nextInterval.toNat = min (2 * timer.i.toNat) (interval timer.iMax).toNat ∧
      ∃ j, timer.iMin.toNat ≤ j ∧ j ≤ timer.iMax.toNat ∧
        timer.nextInterval.toNat = micros j := by
  obtain ⟨j, hlo, hhi, hi⟩ := h.exists_exponent
  have hmax := toNat_interval h.iMax_le
  have hbounds := h.i_bounds
  unfold nextInterval
  split_ifs with hle <;> rw [UInt64.le_iff_toNat_le] at hle
  · exact ⟨by omega, timer.iMax.toNat, h.iMin_le, le_rfl, hmax⟩
  · have hsum : (timer.i + timer.i).toNat = timer.i.toNat + timer.i.toNat := by
      rw [UInt64.toNat_add, Nat.mod_eq_of_lt (by omega)]
    have hlt : j < timer.iMax.toNat := by
      by_contra hge
      exact hle (by rw [hmax, hi, micros_le_micros]; omega)
    have hnext := micros_le_micros.mpr (Nat.succ_le_of_lt hlt)
    rw [micros_succ] at hnext
    refine ⟨by omega, j + 1, by omega, by omega, ?_⟩
    rw [hsum, hi, micros_succ]

lemma reset {i : Duration} (h : timer.Regular) (now : Instant) (draw : UInt32)
    (hi : ∃ j, timer.iMin.toNat ≤ j ∧ j ≤ timer.iMax.toNat ∧ i.toNat = micros j) :
    (timer.reset now draw i).Regular := ⟨h.iMax_le, hi⟩

lemma expire (h : timer.Regular) (now : Instant) (draw : UInt32) :
    (timer.expire now draw).Regular := h.reset now draw h.toNat_nextInterval.2

lemma poll (h : timer.Regular) (now : Instant) (draw draw' : UInt32) :
    (timer.poll now draw draw').1.Regular := by
  have hset := h.setT now draw
  unfold TrickleTimer.poll
  dsimp only
  split_ifs
  · exact hset.expire now draw'
  · exact hset
  · exact h.expire now draw'
  · exact h

lemma hearInconsistency (h : timer.Regular) (now : Instant) (draw : UInt32) :
    (timer.hearInconsistency now draw).Regular := by
  unfold TrickleTimer.hearInconsistency
  split_ifs
  · exact h.reset now draw ⟨_, le_rfl, h.iMin_le, toNat_interval (h.iMin_le.trans h.iMax_le)⟩
  · exact h

end Regular

lemma regular_new {iMin iMax : UInt32} (hle : iMin ≤ iMax) (hmax : iMax.toNat ≤ 31) (k : ℕ)
    (now : Instant) (draw : UInt32) : (new iMin iMax k now draw).Regular := by
  have hle' := UInt32.le_iff_toNat_le.mp hle
  exact ⟨hmax, iMin.toNat, le_rfl, hle', toNat_interval (hle'.trans hmax)⟩

/-! ### Progress -/

/-- A poll leaves the timer to be polled later: it ends the interval, it transmits, or it comes
before the point of transmission; and the clock does not overflow before the instant that is set. -/
def Rearms (timer : TrickleTimer) (now : Instant) (draw : UInt32) : Prop :=
  if timer.iExpired now then now.toInt + timer.nextInterval.toNat < 2 ^ 63
  else if timer.canTransmit ∧ timer.tExpired now then
    now.toInt + (timer.point draw).toNat < 2 ^ 63
  else now < timer.tExp

/-- A sum with the clock is later than it, unless it overflows. -/
lemma lt_add_iff {d : Duration} (hpos : 0 < d.toNat) (hlt : d.toNat < 2 ^ 63) :
    now < now.add d ↔ now.toInt + d.toNat < 2 ^ 63 := by
  constructor
  · intro h
    by_contra hge
    have hnow := now.toInt_lt
    have hcast : d.toInt64.toInt = d.toNat := by
      change d.toBitVec.toInt = _
      exact BitVec.toInt_eq_toNat_of_lt (by change 2 * d.toNat < _; omega)
    have hwrap : (now.add d).toInt = now.toInt + d.toNat - 2 ^ 64 := by
      rw [Instant.add, Int64.toInt_add, hcast, Int.bmod_def]
      split_ifs <;> omega
    rw [Int64.lt_iff_toInt_lt, hwrap] at h
    omega
  · intro h
    rw [Int64.lt_iff_toInt_lt, Instant.toInt_add h]
    omega

lemma lt_pollAt_iff : now < timer.pollAt ↔ now < timer.tExp ∧ now < timer.iExp := by
  rw [Int64.lt_iff_toInt_lt, Int64.lt_iff_toInt_lt, Int64.lt_iff_toInt_lt, pollAt,
    Instant.toInt_min, lt_min_iff]

/-- A new interval is later than the clock as a whole, and so is the point in it. -/
lemma lt_pollAt_reset {i : Duration} (h : (timer.reset now draw i).Regular) :
    now < (timer.reset now draw i).pollAt ↔ now.toInt + i.toNat < 2 ^ 63 := by
  have hi : (timer.reset now draw i).i = i := rfl
  have hbounds := h.i_bounds
  have hpoint := h.point_bounds draw
  rw [hi] at hbounds hpoint
  have hend : now < (timer.reset now draw i).iExp ↔ now.toInt + i.toNat < 2 ^ 63 :=
    lt_add_iff (by omega) (by omega)
  rw [lt_pollAt_iff, hend]
  refine and_iff_right_of_imp fun hclock => ?_
  exact (@lt_add_iff now ((timer.reset now draw i).point draw) (by omega) (by omega)).mpr
    (by omega)

/-- Whether the interval ends does not depend on the transmission before. -/
lemma poll_fst (timer : TrickleTimer) (now : Instant) (draw draw' : UInt32) :
    (timer.poll now draw draw').1 =
      let timer' := if timer.canTransmit ∧ timer.tExpired now then timer.setT now draw else timer
      if timer.iExpired now then timer'.expire now draw' else timer' := by
  have hsame : (timer.setT now draw).iExpired now = timer.iExpired now := rfl
  unfold poll
  by_cases htx : timer.canTransmit = true ∧ timer.tExpired now = true
  · simp only [Bool.and_eq_true, if_pos htx, hsame]
  · simp only [Bool.and_eq_true, if_neg htx]

lemma Regular.lt_pollAt_iff (h : timer.Regular) (now : Instant) (draw draw' : UInt32) :
    now < (timer.poll now draw draw').1.pollAt ↔ timer.Rearms now draw := by
  rw [poll_fst, Rearms]
  dsimp only
  by_cases hi : timer.iExpired now = true
  · rw [if_pos hi, if_pos hi]
    split_ifs
    · exact lt_pollAt_reset ((h.setT now draw).expire now draw')
    · exact lt_pollAt_reset (h.expire now draw')
  · have hend : now < timer.iExp := by
      rw [iExpired, decide_eq_true_eq] at hi
      exact Int64.not_le.mp hi
    have hpoint := h.point_bounds draw
    have hbounds := h.i_bounds
    rw [if_neg hi, if_neg hi, TrickleTimer.lt_pollAt_iff]
    split_ifs
    · refine (and_iff_left hend).trans ?_
      exact @lt_add_iff now (timer.point draw) (by omega) (by omega)
    · exact and_iff_left hend

end TrickleTimer

/-! ### Runs -/

/-- What happens to a timer. -/
inductive TrickleEvent where
  | hearConsistent (now : Instant)
  | hearInconsistency (now : Instant) (draw : UInt32)
  | poll (now : Instant) (draw draw' : UInt32)

def TrickleEvent.time : TrickleEvent → Instant
  | hearConsistent now => now
  | hearInconsistency now _ => now
  | poll now _ _ => now

/-- A timer and what happened to it: when the last event and the last poll were, and since when the
interval lasts, with the consistent messages that were heard and sent in it. -/
structure TrickleHistory where
  timer : TrickleTimer
  last : Instant
  served : Instant
  start : Instant
  heard : ℕ
  sent : ℕ

namespace TrickleHistory

open TrickleTimer

def new (iMin iMax : UInt32) (k : ℕ) (now : Instant) (draw : UInt32) : TrickleHistory :=
  ⟨.new iMin iMax k now draw, now, now, now, 0, 0⟩

/-- An event, and what it does to the interval. -/
def step (h : TrickleHistory) : TrickleEvent → TrickleHistory
  | .hearConsistent now =>
    { h with timer := h.timer.hearConsistent, last := now, heard := h.heard + 1 }
  | .hearInconsistency now draw =>
    let timer := h.timer.hearInconsistency now draw
    if interval h.timer.iMin < h.timer.i then ⟨timer, now, h.served, now, 0, 0⟩
    else { h with timer, last := now }
  | .poll now draw draw' =>
    let (timer, transmits) := h.timer.poll now draw draw'
    if h.timer.iExpired now then ⟨timer, now, now, now, 0, 0⟩
    else { h with timer, last := now, served := now, sent := h.sent + transmits.toNat }

/-- Events come in the order of time, and no instant that `poll_at` returned passes without a
poll. -/
def Prompt (h : TrickleHistory) (e : TrickleEvent) : Prop :=
  h.last ≤ e.time ∧ (e.time ≤ h.timer.pollAt ∨ h.timer.pollAt ≤ h.served)

/-- A message that is sent in the very middle of an interval is not followed by a draw of the
shortest time, and the clock is more than the longest interval away from its end. -/
def Clear (h : TrickleHistory) (e : TrickleEvent) : Prop :=
  e.time.toInt + (interval h.timer.iMax).toNat < 2 ^ 63 ∧
    match e with
    | .poll now draw _ => h.timer.canTransmit → h.timer.tExpired now →
      now.toInt = h.start.toInt + h.timer.i.toNat / 2 → draw.toNat % (h.timer.i.toNat / 2 + 1) ≠ 0
    | _ => True

/-- The length of the interval is a power of two within the limits, goes back to the shortest one
with an inconsistency and doubles with every end; and a message is sent once in an interval, in its
second half, and only if fewer than `k` consistent ones were heard. -/
def Obeys (h : TrickleHistory) (e : TrickleEvent) : Prop :=
  (∃ j, h.timer.iMin.toNat ≤ j ∧ j ≤ h.timer.iMax.toNat ∧ h.timer.i.toNat = 2 ^ j * 1000) ∧
    match e with
    | .hearConsistent _ => (h.step e).timer.i = h.timer.i
    | .hearInconsistency _ _ => (h.step e).timer.i = interval h.timer.iMin
    | .poll now draw draw' =>
      (h.step e).timer.i.toNat = (if h.timer.iExp ≤ now then
        min (2 * h.timer.i.toNat) (interval h.timer.iMax).toNat else h.timer.i.toNat) ∧
      ((h.timer.poll now draw draw').2 = true → h.sent = 0 ∧ h.heard < h.timer.k ∧
        h.start.toInt + h.timer.i.toNat / 2 ≤ now.toInt)

/-- What every history keeps. After a transmission the next point lies behind the interval. -/
structure Kept (h : TrickleHistory) : Prop where
  regular : h.timer.Regular
  iExp_eq : h.timer.iExp.toInt = h.start.toInt + h.timer.i.toNat
  served_lt : h.served < h.timer.iExp
  heard_eq : h.timer.counter = h.heard
  first : h.sent = 0 → h.start.toInt + h.timer.i.toNat / 2 ≤ h.timer.tExp.toInt
  again : h.sent ≠ 0 → h.timer.iExp < h.timer.tExp

variable {h : TrickleHistory} {e : TrickleEvent} {now : Instant} {draw draw' : UInt32}

/-- A new interval. -/
lemma kept_reset {timer : TrickleTimer} {i : Duration} {served : Instant}
    (hregular : (timer.reset now draw i).Regular) (hclock : now.toInt + i.toNat < 2 ^ 63)
    (hserved : served ≤ now) : Kept ⟨timer.reset now draw i, now, served, now, 0, 0⟩ := by
  have hi : (timer.reset now draw i).i = i := rfl
  have hbounds := hregular.i_bounds
  have hpoint := hregular.point_bounds draw
  have htExp := @Instant.toInt_add now ((timer.reset now draw i).point draw)
  rw [hi] at hbounds hpoint
  have hend : (now.add i).toInt = now.toInt + i.toNat := Instant.toInt_add hclock
  refine ⟨hregular, hend, ?_, rfl, fun _ => ?_, fun hsent => absurd rfl hsent⟩
  · change served < now.add i
    rw [Int64.lt_iff_toInt_lt, hend]
    rw [Int64.le_iff_toInt_le] at hserved
    omega
  · have htime : (timer.reset now draw i).tExp = now.add ((timer.reset now draw i).point draw) :=
      rfl
    change now.toInt + i.toNat / 2 ≤ (timer.reset now draw i).tExp.toInt
    rw [htime, htExp (by omega)]
    omega

/-- In an interval in which a message was sent, no other one is. -/
lemma Kept.sent_eq (hk : Kept h) (hprompt : Prompt h (.poll now draw draw'))
    (hexp : h.timer.tExpired now) : h.sent = 0 := by
  by_contra hsent
  have hagain := hk.again hsent
  have hserved := hk.served_lt
  have hpollAt := Instant.toInt_min h.timer.tExp h.timer.iExp
  rw [tExpired, decide_eq_true_eq, Int64.le_iff_toInt_le] at hexp
  rw [Int64.lt_iff_toInt_lt] at hagain hserved
  rcases hprompt.2 with hle | hle
  · rw [Int64.le_iff_toInt_le] at hle
    change now.toInt ≤ (min h.timer.tExp h.timer.iExp).toInt at hle
    omega
  · rw [Int64.le_iff_toInt_le] at hle
    change (min h.timer.tExp h.timer.iExp).toInt ≤ _ at hle
    omega

lemma Kept.poll (hk : Kept h) (hprompt : Prompt h (.poll now draw draw'))
    (hclear : Clear h (.poll now draw draw')) : Kept (h.step (.poll now draw draw')) := by
  obtain ⟨hclock, hclear⟩ := hclear
  change now.toInt + _ < _ at hclock
  have hfst := poll_fst h.timer now draw draw'
  have hbounds := hk.regular.i_bounds
  have hnext := hk.regular.toNat_nextInterval.1
  unfold step
  dsimp only
  by_cases hi : h.timer.iExpired now = true
  · rw [if_pos hi]
    dsimp only at hfst
    rw [if_pos hi] at hfst
    rw [hfst]
    split_ifs
    · exact kept_reset ((hk.regular.setT now draw).expire now draw')
        (by change now.toInt + h.timer.nextInterval.toNat < _; omega) (Int64.le_refl now)
    · exact kept_reset (hk.regular.expire now draw') (by omega) (Int64.le_refl now)
  · have hend : now < h.timer.iExp := by
      rw [iExpired, decide_eq_true_eq] at hi
      exact Int64.not_le.mp hi
    rw [if_neg hi]
    dsimp only at hfst
    rw [if_neg hi] at hfst
    rw [hfst]
    by_cases htx : h.timer.canTransmit = true ∧ h.timer.tExpired now = true
    · have hsnd : (h.timer.poll now draw draw').2 = true := Bool.and_eq_true_iff.mpr htx
      rw [if_pos htx, hsnd]
      refine ⟨hk.regular.setT now draw, hk.iExp_eq, hend, hk.heard_eq, fun hsent => ?_,
        fun _ => ?_⟩
      · exact absurd hsent (Nat.succ_ne_zero _)
      · have hpoint := hk.regular.point_bounds draw
        have htExp := @Regular.toInt_tExp h.timer now draw hk.regular (by omega)
        have hfirst := hk.first (hk.sent_eq hprompt htx.2)
        have hdue := Int64.le_iff_toInt_le.mp (of_decide_eq_true htx.2)
        have hmiddle := hclear htx.1 htx.2
        have hiExp := hk.iExp_eq
        rw [Int64.lt_iff_toInt_lt]
        change h.timer.iExp.toInt < _
        rw [htExp, hiExp]
        rcases eq_or_ne now.toInt (h.start.toInt + h.timer.i.toNat / 2) with heq | hne
        · have hpos := hmiddle heq
          omega
        · omega
    · have hsnd : (h.timer.poll now draw draw').2 = false :=
        Bool.eq_false_iff.mpr fun htrue => htx (Bool.and_eq_true_iff.mp htrue)
      rw [if_neg htx, hsnd]
      exact ⟨hk.regular, hk.iExp_eq, hend, hk.heard_eq, hk.first, hk.again⟩

lemma Kept.hearInconsistency (hk : Kept h) (hle : h.served ≤ now)
    (hclear : Clear h (.hearInconsistency now draw)) :
    Kept (h.step (.hearInconsistency now draw)) := by
  have hclock : now.toInt + (interval h.timer.iMax).toNat < 2 ^ 63 := hclear.1
  have hmin := toNat_interval (hk.regular.iMin_le.trans hk.regular.iMax_le)
  have hmax := toNat_interval hk.regular.iMax_le
  have hshort := micros_le_micros.mpr hk.regular.iMin_le
  have hregular := hk.regular.hearInconsistency now draw
  unfold step
  dsimp only
  unfold TrickleTimer.hearInconsistency at hregular ⊢
  split_ifs at hregular ⊢
  · exact kept_reset hregular (by omega) hle
  · exact ⟨hregular, hk.iExp_eq, hk.served_lt, hk.heard_eq, hk.first, hk.again⟩

lemma Kept.hearConsistent (hk : Kept h) : Kept (h.step (.hearConsistent now)) where
  regular := ⟨hk.regular.iMax_le, hk.regular.exists_exponent⟩
  iExp_eq := hk.iExp_eq
  served_lt := hk.served_lt
  heard_eq := congrArg (· + 1) hk.heard_eq
  first := hk.first
  again := hk.again

/-- A poll is not later than the last event. -/
def Ordered (h : TrickleHistory) : Prop := h.served ≤ h.last

lemma Ordered.step (ho : Ordered h) (hprompt : Prompt h e) : Ordered (h.step e) := by
  have hle := Int64.le_trans ho hprompt.1
  cases e with
  | hearConsistent now => exact hle
  | hearInconsistency now draw =>
    unfold TrickleHistory.step Ordered
    dsimp only
    split_ifs
    · exact hle
    · exact hle
  | poll now draw draw' =>
    unfold TrickleHistory.step Ordered
    dsimp only
    split_ifs
    · exact Int64.le_refl now
    · exact Int64.le_refl now

lemma Kept.step (hk : Kept h) (ho : Ordered h) (hprompt : Prompt h e) (hclear : Clear h e) :
    Kept (h.step e) := by
  cases e with
  | hearConsistent now => exact hk.hearConsistent
  | hearInconsistency now draw =>
    exact hk.hearInconsistency (Int64.le_trans ho hprompt.1) hclear
  | poll now draw draw' => exact hk.poll hprompt hclear

lemma Kept.obeys (hk : Kept h) (hprompt : Prompt h e) : Obeys h e := by
  refine ⟨hk.regular.exists_exponent, ?_⟩
  cases e with
  | hearConsistent now => rfl
  | hearInconsistency now draw =>
    have hmin := toNat_interval (hk.regular.iMin_le.trans hk.regular.iMax_le)
    obtain ⟨j, hlo, -, hi⟩ := hk.regular.exists_exponent
    unfold TrickleHistory.step TrickleTimer.hearInconsistency
    dsimp only
    split_ifs with hlt
    · rfl
    · -- the interval has the shortest length already
      have hle := UInt64.le_iff_toNat_le.mp (UInt64.not_lt.mp hlt)
      have hge := micros_le_micros.mpr hlo
      exact UInt64.toNat_inj.mp (by change h.timer.i.toNat = _; omega)
  | poll now draw draw' =>
    refine ⟨?_, fun htx => ?_⟩
    · have hfst := poll_fst h.timer now draw draw'
      have hnext := hk.regular.toNat_nextInterval.1
      unfold TrickleHistory.step
      dsimp only at hfst ⊢
      rw [hfst]
      by_cases hi : h.timer.iExpired now = true
      · rw [if_pos hi, if_pos hi, if_pos (of_decide_eq_true hi)]
        split_ifs
        · exact hnext
        · exact hnext
      · rw [if_neg hi, if_neg hi, if_neg (mt decide_eq_true hi)]
        split_ifs
        · rfl
        · rfl
    · obtain ⟨hcan, hexp⟩ := Bool.and_eq_true_iff.mp htx
      have hsent := hk.sent_eq hprompt hexp
      have hfirst := hk.first hsent
      have hdue := Int64.le_iff_toInt_le.mp (of_decide_eq_true hexp)
      have hheard := (of_decide_eq_true hcan).2
      rw [hk.heard_eq] at hheard
      exact ⟨hsent, hheard, hfirst.trans hdue⟩

/-- The histories of a timer whose events all meet `ok`. -/
abbrev Run (ok : TrickleHistory → TrickleEvent → Prop) :
    TrickleHistory → TrickleHistory → Prop :=
  Transition.Run (fun h e h' => h.step e = h') ok

/-- A timer that is polled whenever it asks for it obeys its intervals in every run in which no
message that is sent in the middle of an interval is followed by a draw of the shortest time. -/
theorem obeys_of_run {iMin iMax : UInt32} (hle : iMin ≤ iMax) (hmax : iMax.toNat ≤ 31) (k : ℕ)
    {now : Instant} (hnow : now.toInt + (interval iMax).toNat < 2 ^ 63) (draw : UInt32)
    (hrun : Run (fun h e => Prompt h e ∧ Clear h e) (new iMin iMax k now draw) h)
    (hprompt : Prompt h e) : Obeys h e := by
  have hregular := regular_new hle hmax k now draw
  have hmin := toNat_interval ((UInt32.le_iff_toNat_le.mp hle).trans hmax)
  have hshort := micros_le_micros.mpr (UInt32.le_iff_toNat_le.mp hle)
  have hlong := toNat_interval hmax
  have hnew : Kept (new iMin iMax k now draw) :=
    @kept_reset now draw ⟨iMin, iMax, k, interval iMin, 0, 0, now.add (interval iMin), 0⟩
      (interval iMin) now hregular (by omega) (Int64.le_refl now)
  have hkept : Kept h ∧ Ordered h := by
    refine hrun.invariant (I := fun h => Kept h ∧ Ordered h) ?_ ⟨hnew, Int64.le_refl now⟩
    rintro h e _ ⟨hk, ho⟩ ⟨hprompt, hclear⟩ rfl
    exact ⟨hk.step ho hprompt hclear, ho.step hprompt⟩
  exact hkept.1.obeys hprompt

/-- With the default limits, and the shortest time drawn twice, a message is sent in the middle of
the interval and another one at its end. -/
theorem not_obeys : ¬ ∀ h e, Run Prompt (new 12 20 10 0 0) h → Prompt h e → Obeys h e := by
  intro hall
  have hrun : Run Prompt (new 12 20 10 0 0) ((new 12 20 10 0 0).step (.poll 2048000 0 0)) :=
    .tail _ .refl ⟨by decide, .inl (by decide)⟩ rfl
  have hobeys := hall _ (.poll 4096000 0 0) hrun ⟨by decide, .inl (by decide)⟩
  have hsent := (hobeys.2.2 (by decide)).1
  exact absurd hsent (by decide)

theorem obeys_example :
    Obeys ((new 12 20 10 0 0).step (.poll 2048000 1 0)) (.poll 4096000 0 0) := by
  refine @obeys_of_run _ _ 12 20 (by decide) (by decide) 10 0 (by decide) 0
    (.tail _ .refl ⟨⟨by decide, .inl (by decide)⟩, by decide, ?_⟩ rfl) ⟨by decide, .inl (by decide)⟩
  intro _ _ _
  decide

lemma regular_step (h : TrickleHistory) (e : TrickleEvent) (hregular : h.timer.Regular) :
    (h.step e).timer.Regular := by
  cases e with
  | hearConsistent now => exact ⟨hregular.iMax_le, hregular.exists_exponent⟩
  | hearInconsistency now draw =>
    unfold TrickleHistory.step
    dsimp only
    split_ifs
    · exact hregular.hearInconsistency now draw
    · exact hregular.hearInconsistency now draw
  | poll now draw draw' =>
    unfold TrickleHistory.step
    dsimp only
    split_ifs
    · exact hregular.poll now draw draw'
    · exact hregular.poll now draw draw'

/-- In every run, a poll leaves the timer to be polled later exactly if it rearms it: in an interval
in which too many messages were heard, the instant of the transmission stays in the past. -/
theorem lt_pollAt_iff_rearms {iMin iMax : UInt32} (hle : iMin ≤ iMax) (hmax : iMax.toNat ≤ 31)
    (k : ℕ) (created : Instant) (first : UInt32)
    (hrun : Run (fun _ _ => True) (new iMin iMax k created first) h)
    (now : Instant) (draw draw' : UInt32) :
    now < (h.timer.poll now draw draw').1.pollAt ↔ h.timer.Rearms now draw := by
  have hregular : h.timer.Regular := by
    refine hrun.invariant (I := fun h => h.timer.Regular) ?_ (regular_new hle hmax k created first)
    rintro h e _ hregular - rfl
    exact regular_step h e hregular
  exact hregular.lt_pollAt_iff now draw draw'

/-- One consistent message is enough where one is the limit. -/
theorem not_rearms_heard : ¬ ∀ h, Run (fun _ _ => True) (new 12 20 1 0 0) h →
    ∀ now draw draw', now < (h.timer.poll now draw draw').1.pollAt := by
  intro hall
  have hrun : Run (fun _ _ => True) (new 12 20 1 0 0)
    ((new 12 20 1 0 0).step (.hearConsistent 0)) :=
    .tail _ .refl trivial rfl
  exact absurd (hall _ hrun 2048000 0 0) (by decide)

theorem lt_pollAt_example : 2048000 < ((new 12 20 1 0 0).timer.poll 2048000 1 0).1.pollAt := by
  refine (@lt_pollAt_iff_rearms _ 12 20 (by decide) (by decide) 1 0 0 .refl 2048000 1 0).mpr ?_
  unfold Rearms
  decide

end TrickleHistory

end Smoltcp.Rpl
