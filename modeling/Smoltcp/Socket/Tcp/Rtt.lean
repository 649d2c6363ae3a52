import Smoltcp.Lib.Machine
import Smoltcp.Socket.Tcp.Timer

/-!
# The range of the round-trip estimator

The estimator computes on 32 and 8 bits. Here its functions are written once more with every
operation checked for overflow, and are shown to compute the same as long as no round trip takes
longer than `R`: the smoothed values do not creep above `R` though they are rounded up, since `R`
is a fixed point of both recurrences.
-/

namespace Smoltcp.Tcp.RttEstimator

open Machine

/-- An arithmetic operation overflows. -/
inductive Overflow where
  | mk
  deriving DecidableEq, Repr

/-- `x + y` on `u32`. -/
def checkedAdd (x y : UInt32) : Except Overflow UInt32 :=
  if x.toNat + y.toNat < 2 ^ 32 then .ok (x + y) else .error .mk

/-- `x * y` on `u32`. -/
def checkedMul (x y : UInt32) : Except Overflow UInt32 :=
  if x.toNat * y.toNat < 2 ^ 32 then .ok (x * y) else .error .mk

/-- `x - y` on `i32`. -/
def checkedSub (x y : Int32) : Except Overflow Int32 :=
  if -2 ^ 31 ≤ x.toInt - y.toInt ∧ x.toInt - y.toInt < 2 ^ 31 then .ok (x - y) else .error .mk

/-- `x + y` on `u8`. -/
def checkedAddU8 (x y : UInt8) : Except Overflow UInt8 :=
  if x.toNat + y.toNat < 2 ^ 8 then .ok (x + y) else .error .mk

/-- The smoothed values after a measurement, the first one or a subsequent one. -/
def smoothChecked (r : RttEstimator) (newRtt : UInt32) : Except Overflow RttEstimator :=
  if r.haveMeasurement then do
    let diff ← checkedSub r.srtt.toInt32 newRtt.toInt32
    let rttvar := divCeil (← checkedAdd (← checkedMul r.rttvar 3) (.ofNat diff.toInt.natAbs)) 4
    let srtt := divCeil (← checkedAdd (← checkedMul r.srtt 7) newRtt) 8
    return { r with rttvar, srtt }
  else return { r with haveMeasurement := true, srtt := newRtt, rttvar := newRtt / 2 }

def sampleChecked (r : RttEstimator) (newRtt : UInt32) : Except Overflow RttEstimator := do
  let r ← r.smoothChecked newRtt
  let margin := max rtteMinMargin (← checkedMul r.rttvar rtteK)
  return { r with
    rto := min (max (← checkedAdd r.srtt margin) rtteMinRto) rtteMaxRto
    rtoCount := 0 }

def onAckChecked (r : RttEstimator) (timestamp : Instant) (seq : SeqNumber) :
    Except Overflow RttEstimator :=
  match r.timestamp with
  | some (sentTimestamp, sentSeq) =>
    if seq.ge sentSeq then do
      let r ← r.sampleChecked (Duration.totalMillis (timestamp.since sentTimestamp)).toUInt32
      return { r with timestamp := none }
    else return r
  | none => return r

def onRetransmitChecked (r : RttEstimator) : Except Overflow RttEstimator := do
  let rto := min (← checkedMul r.rto 2) rtteMaxRto
  let r := { r with timestamp := none, rto, rtoCount := ← checkedAddU8 r.rtoCount 1 }
  return if 3 ≤ r.rtoCount then { r with rtoCount := 0, haveMeasurement := false } else r

/-! ### Runs -/

inductive Op where
  | onSend (timestamp : Instant) (seq : SeqNumber)
  | onAck (timestamp : Instant) (seq : SeqNumber)
  | onRetransmit
  deriving DecidableEq, Repr

def step (r : RttEstimator) : Op → RttEstimator
  | .onSend timestamp seq => r.onSend timestamp seq
  | .onAck timestamp seq => r.onAck timestamp seq
  | .onRetransmit => r.onRetransmit

def stepChecked (r : RttEstimator) (op : Op) : Except Overflow (RttEstimator × Unit) := do
  let r ← match op with
    | .onSend timestamp seq => pure (r.onSend timestamp seq)
    | .onAck timestamp seq => r.onAckChecked timestamp seq
    | .onRetransmit => r.onRetransmitChecked
  return (r, ())

/-- The round trip that an operation measures, in milliseconds. -/
def measured (r : RttEstimator) : Op → Option ℕ
  | .onAck timestamp seq =>
    match r.timestamp with
    | some (sentTimestamp, sentSeq) =>
      if seq.ge sentSeq then some (Duration.totalMillis (timestamp.since sentTimestamp)).toNat
      else none
    | none => none
  | _ => none

/-- Every measured round trip is at most `R` milliseconds. -/
def Within (R : ℕ) (r : RttEstimator) (op : Op) : Prop := ∀ millis ∈ r.measured op, millis ≤ R

/-- The operation is no measurement. -/
def Unsampled (r : RttEstimator) (op : Op) : Prop := r.measured op = none

instance (R : ℕ) (r : RttEstimator) (op : Op) : Decidable (Within R r op) :=
  inferInstanceAs (Decidable (∀ millis ∈ r.measured op, millis ≤ R))

/-- What all operations keep when no round trip is longer than `R`. -/
structure InRange (R : ℕ) (r : RttEstimator) : Prop where
  srtt_le : r.srtt.toNat ≤ R
  rttvar_le : r.rttvar.toNat ≤ R
  rto_ge : 1000 ≤ r.rto.toNat
  rto_le : r.rto.toNat ≤ 60000
  rtoCount_lt : r.rtoCount.toNat < 3

variable {R : ℕ} {r : RttEstimator} {x y newRtt : UInt32}

lemma ok_bind {α β : Type} (a : α) (f : α → Except Overflow β) :
    (Except.ok a >>= f) = f a := rfl

lemma checkedAdd_of_lt (h : x.toNat + y.toNat < 2 ^ 32) :
    checkedAdd x y = .ok (x + y) ∧ (x + y).toNat = x.toNat + y.toNat := by
  refine ⟨if_pos h, ?_⟩
  rw [UInt32.toNat_add, Nat.mod_eq_of_lt h]

lemma checkedMul_of_lt (h : x.toNat * y.toNat < 2 ^ 32) :
    checkedMul x y = .ok (x * y) ∧ (x * y).toNat = x.toNat * y.toNat := by
  refine ⟨if_pos h, ?_⟩
  rw [UInt32.toNat_mul, Nat.mod_eq_of_lt h]

lemma toNat_min (x y : UInt32) : (min x y).toNat = min x.toNat y.toNat := by
  change (if x ≤ y then x else y).toNat = _
  split_ifs with h <;> rw [UInt32.le_iff_toNat_le] at h <;> omega

lemma toNat_max (x y : UInt32) : (max x y).toNat = max x.toNat y.toNat := by
  change (if x ≤ y then y else x).toNat = _
  split_ifs with h <;> rw [UInt32.le_iff_toNat_le] at h <;> omega

/-- Rounding up to a multiple does not go beyond a multiple. -/
lemma toNat_divCeil_le (h : x.toNat ≤ R * y.toNat) (hR : R < 2 ^ 32) :
    (divCeil x y).toNat ≤ R := by
  have hdiv : x.toNat / y.toNat ≤ R := Nat.div_le_of_le_mul (by rwa [Nat.mul_comm])
  unfold divCeil
  split_ifs with hzero
  · rwa [UInt32.toNat_div]
  · have hmod : x.toNat % y.toNat ≠ 0 := fun h0 => hzero (UInt32.toNat.inj (by
      rw [UInt32.toNat_mod, h0]
      rfl))
    -- with a remainder the quotient is below `R`
    have hlt : x.toNat / y.toNat < R := by
      have hsplit := Nat.div_add_mod x.toNat y.toNat
      by_contra hge
      have := Nat.mul_le_mul_left y.toNat (show R ≤ x.toNat / y.toNat by omega)
      rw [Nat.mul_comm y.toNat R] at this
      omega
    rw [UInt32.toNat_add, UInt32.toNat_div]
    have hone : (1 : UInt32).toNat = 1 := rfl
    rw [hone, Nat.mod_eq_of_lt (by omega)]
    omega

lemma toInt_toInt32 (h : x.toNat < 2 ^ 31) : x.toInt32.toInt = x.toNat := by
  change x.toBitVec.toInt = _
  rw [BitVec.toInt_eq_toNat_of_lt]
  · rfl
  · change 2 * x.toNat < _
    omega

lemma checkedSub_of_lt (hx : x.toNat < 2 ^ 31) (hy : y.toNat < 2 ^ 31) :
    checkedSub x.toInt32 y.toInt32 = .ok (x.toInt32 - y.toInt32) ∧
      (x.toInt32 - y.toInt32).toInt = x.toNat - y.toNat := by
  have hx' := toInt_toInt32 hx
  have hy' := toInt_toInt32 hy
  refine ⟨if_pos ?_, ?_⟩
  · rw [hx', hy']
    omega
  · rw [Int32.toInt_sub, hx', hy', Int.bmod_eq_of_le_mul_two] <;> push_cast <;> omega

lemma toNat_absDiff_le (hR : R ≤ 2 ^ 29 - 1) (hx : x.toNat ≤ R) (hy : y.toNat ≤ R) :
    (absDiff x y).toNat ≤ R := by
  have hsub := (checkedSub_of_lt (x := x) (y := y) (by omega) (by omega)).2
  unfold absDiff
  rw [hsub, UInt32.toNat_ofNat', Nat.mod_eq_of_lt (by omega)]
  omega

/-! ### One operation -/

namespace InRange

lemma init : InRange R {} := ⟨Nat.zero_le _, Nat.zero_le _, by decide, by decide, by decide⟩

/-- The smoothed values stay in range, and are computed without overflow. -/
lemma smooth (hR : R ≤ 2 ^ 29 - 1) (h : InRange R r) (hrtt : newRtt.toNat ≤ R) :
    ∃ r', r.smoothChecked newRtt = .ok r' ∧ InRange R r' ∧
      r' = (if r.haveMeasurement then
        { r with
          rttvar := divCeil (r.rttvar * 3 + absDiff r.srtt newRtt) 4
          srtt := divCeil (r.srtt * 7 + newRtt) 8 }
        else { r with haveMeasurement := true, srtt := newRtt, rttvar := newRtt / 2 }) := by
  have hsrtt := h.srtt_le
  have hrttvar := h.rttvar_le
  have h3 : (3 : UInt32).toNat = 3 := rfl
  have h7 : (7 : UInt32).toNat = 7 := rfl
  unfold smoothChecked
  by_cases hhave : r.haveMeasurement
  · rw [if_pos hhave, if_pos hhave]
    have hdiff := toNat_absDiff_le hR hsrtt hrtt
    obtain ⟨hsub, -⟩ := checkedSub_of_lt (x := r.srtt) (y := newRtt) (by omega) (by omega)
    obtain ⟨hmul₁, hmul₁'⟩ := checkedMul_of_lt (x := r.rttvar) (y := 3) (by rw [h3]; omega)
    rw [h3] at hmul₁'
    obtain ⟨hadd₁, hadd₁'⟩ :=
      checkedAdd_of_lt (x := r.rttvar * 3) (y := absDiff r.srtt newRtt) (by omega)
    obtain ⟨hmul₂, hmul₂'⟩ := checkedMul_of_lt (x := r.srtt) (y := 7) (by rw [h7]; omega)
    rw [h7] at hmul₂'
    obtain ⟨hadd₂, hadd₂'⟩ := checkedAdd_of_lt (x := r.srtt * 7) (y := newRtt) (by omega)
    refine ⟨{ r with
      rttvar := divCeil (r.rttvar * 3 + absDiff r.srtt newRtt) 4
      srtt := divCeil (r.srtt * 7 + newRtt) 8 }, ?_,
      ⟨?_, ?_, h.rto_ge, h.rto_le, h.rtoCount_lt⟩, rfl⟩
    · unfold absDiff at hadd₁
      rw [hsub, hmul₁, hmul₂, ok_bind, ok_bind, hadd₁, ok_bind, ok_bind, hadd₂]
      rfl
    · refine toNat_divCeil_le ?_ (by omega)
      rw [hadd₂', hmul₂']
      change _ ≤ R * 8
      omega
    · refine toNat_divCeil_le ?_ (by omega)
      rw [hadd₁', hmul₁']
      change _ ≤ R * 4
      omega
  · rw [if_neg hhave, if_neg hhave]
    refine ⟨_, rfl, ⟨hrtt, ?_, h.rto_ge, h.rto_le, h.rtoCount_lt⟩, rfl⟩
    rw [UInt32.toNat_div]
    exact (Nat.div_le_self _ _).trans hrtt

/-- The timeout is kept between the two bounds. -/
lemma toNat_clamp (x : UInt32) :
    1000 ≤ (min (max x rtteMinRto) rtteMaxRto).toNat ∧
      (min (max x rtteMinRto) rtteMaxRto).toNat ≤ 60000 := by
  have hmin : rtteMinRto.toNat = 1000 := rfl
  have hmax : rtteMaxRto.toNat = 60000 := rfl
  rw [toNat_min, toNat_max]
  omega

/-- A measurement within the bound. -/
lemma sample (hR : R ≤ 2 ^ 29 - 1) (h : InRange R r) (hrtt : newRtt.toNat ≤ R) :
    r.sampleChecked newRtt = .ok (r.sample newRtt) ∧ InRange R (r.sample newRtt) := by
  obtain ⟨r', hsmooth, h', heq⟩ := h.smooth hR hrtt
  have hsample : r.sample newRtt = { r' with
      rto := min (max (r'.srtt + max rtteMinMargin (r'.rttvar * rtteK)) rtteMinRto) rtteMaxRto
      rtoCount := 0 } := by
    rw [heq]
    rfl
  have hsrtt := h'.srtt_le
  have hrttvar := h'.rttvar_le
  have hk : rtteK.toNat = 4 := rfl
  have hmargin : rtteMinMargin.toNat = 5 := rfl
  obtain ⟨hmul, hmul'⟩ := checkedMul_of_lt (x := r'.rttvar) (y := rtteK) (by rw [hk]; omega)
  rw [hk] at hmul'
  have hmax : (max rtteMinMargin (r'.rttvar * rtteK)).toNat ≤ 4 * R + 5 := by
    rw [toNat_max]
    omega
  obtain ⟨hadd, -⟩ :=
    checkedAdd_of_lt (x := r'.srtt) (y := max rtteMinMargin (r'.rttvar * rtteK)) (by omega)
  rw [hsample]
  refine ⟨?_, hsrtt, hrttvar, (toNat_clamp _).1, (toNat_clamp _).2, Nat.zero_lt_succ 2⟩
  rw [sampleChecked, hsmooth, ok_bind, hmul, ok_bind]
  dsimp only
  rw [hadd]
  rfl

lemma onSend (h : InRange R r) (timestamp : Instant) (seq : SeqNumber) :
    InRange R (r.onSend timestamp seq) := by
  unfold RttEstimator.onSend
  split_ifs <;> exact ⟨h.srtt_le, h.rttvar_le, h.rto_ge, h.rto_le, h.rtoCount_lt⟩

lemma onAck (hR : R ≤ 2 ^ 29 - 1) (h : InRange R r) {timestamp : Instant} {seq : SeqNumber}
    (hwithin : Within R r (.onAck timestamp seq)) :
    r.onAckChecked timestamp seq = .ok (r.onAck timestamp seq) ∧
      InRange R (r.onAck timestamp seq) := by
  unfold Within measured at hwithin
  unfold onAckChecked RttEstimator.onAck
  cases hts : r.timestamp with
  | none => exact ⟨rfl, h⟩
  | some sent =>
    obtain ⟨sentTimestamp, sentSeq⟩ := sent
    rw [hts] at hwithin
    dsimp only at hwithin ⊢
    by_cases hge : seq.ge sentSeq
    · rw [if_pos hge] at hwithin ⊢
      rw [if_pos hge]
      have hmillis := hwithin _ rfl
      have hcast : (Duration.totalMillis (timestamp.since sentTimestamp)).toUInt32.toNat ≤ R := by
        rw [UInt64.toNat_toUInt32]
        exact (Nat.mod_le _ _).trans hmillis
      obtain ⟨hok, h'⟩ := h.sample hR hcast
      rw [hok]
      exact ⟨rfl, h'.srtt_le, h'.rttvar_le, h'.rto_ge, h'.rto_le, h'.rtoCount_lt⟩
    · rw [if_neg hge, if_neg hge]
      exact ⟨rfl, h⟩

lemma onRetransmit (h : InRange R r) :
    r.onRetransmitChecked = .ok r.onRetransmit ∧ InRange R r.onRetransmit ∧
      r.onRetransmit.rto.toNat = min (2 * r.rto.toNat) 60000 := by
  have hge := h.rto_ge
  have hle := h.rto_le
  have hcount := h.rtoCount_lt
  have h2 : (2 : UInt32).toNat = 2 := rfl
  have hmax : rtteMaxRto.toNat = 60000 := rfl
  have h1 : (1 : UInt8).toNat = 1 := rfl
  obtain ⟨hmul, hmul'⟩ := checkedMul_of_lt (x := r.rto) (y := 2) (by rw [h2]; omega)
  rw [h2] at hmul'
  have hadd : checkedAddU8 r.rtoCount 1 = .ok (r.rtoCount + 1) := if_pos (by rw [h1]; omega)
  have hrto : (min (r.rto * 2) rtteMaxRto).toNat = min (2 * r.rto.toNat) 60000 := by
    rw [toNat_min]
    omega
  have hok : r.onRetransmitChecked = .ok r.onRetransmit := by
    rw [onRetransmitChecked, hmul, ok_bind, hadd]
    rfl
  refine ⟨hok, ?_⟩
  have hcount' : (r.rtoCount + 1).toNat = r.rtoCount.toNat + 1 := by
    rw [UInt8.toNat_add, h1]
    omega
  have hrange : 1000 ≤ (min (r.rto * 2) rtteMaxRto).toNat ∧
      (min (r.rto * 2) rtteMaxRto).toNat ≤ 60000 := by omega
  unfold RttEstimator.onRetransmit
  dsimp only
  split_ifs with hthree
  · exact ⟨⟨h.srtt_le, h.rttvar_le, hrange.1, hrange.2, Nat.zero_lt_succ 2⟩, hrto⟩
  · rw [UInt8.le_iff_toNat_le] at hthree
    exact ⟨⟨h.srtt_le, h.rttvar_le, hrange.1, hrange.2, Nat.lt_of_not_le hthree⟩, hrto⟩

/-- Every operation succeeds within the bound, and the checked one computes the same. -/
lemma step (hR : R ≤ 2 ^ 29 - 1) (h : InRange R r) {op : Op} (hwithin : Within R r op) :
    r.stepChecked op = .ok (r.step op, ()) ∧ InRange R (r.step op) := by
  cases op with
  | onSend timestamp seq => exact ⟨rfl, h.onSend timestamp seq⟩
  | onAck timestamp seq =>
    obtain ⟨hok, h'⟩ := h.onAck hR hwithin
    refine ⟨?_, h'⟩
    rw [stepChecked]
    dsimp only
    rw [hok]
    rfl
  | onRetransmit =>
    obtain ⟨hok, h', -⟩ := h.onRetransmit
    refine ⟨?_, h'⟩
    rw [stepChecked]
    dsimp only
    rw [hok]
    rfl

end InRange

/-! ### Runs within the bound -/

lemma toNat_retransmissionTimeout (r : RttEstimator) :
    (Duration.totalMillis r.retransmissionTimeout).toNat = r.rto.toNat := by
  have hrto := r.rto.toNat_lt
  have hmul : (r.rto.toUInt64 * 1000).toNat = r.rto.toNat * 1000 := by
    rw [UInt64.toNat_mul, UInt32.toNat_toUInt64]
    exact Nat.mod_eq_of_lt (by
      change r.rto.toNat * 1000 < _
      omega)
  unfold Duration.totalMillis retransmissionTimeout Duration.fromMillis
  rw [UInt64.toNat_div, hmul]
  exact Nat.mul_div_cancel _ (by decide)

/-- Sending starts a measurement at most. -/
lemma rto_onSend (r : RttEstimator) (timestamp : Instant) (seq : SeqNumber) :
    (r.onSend timestamp seq).rto = r.rto := by
  unfold onSend
  split_ifs <;> rfl

lemma onAck_of_unsampled {timestamp : Instant} {seq : SeqNumber}
    (h : Unsampled r (.onAck timestamp seq)) : r.onAck timestamp seq = r := by
  unfold Unsampled measured at h
  unfold onAck
  cases hts : r.timestamp with
  | none => rfl
  | some sent =>
    rw [hts] at h
    exact if_neg fun hge => Option.some_ne_none _ ((if_pos hge).symm.trans h)

/-- Until the next measurement only retransmissions change the timeout, each by doubling it. -/
lemma rto_foldl {more : List Op} (hR : R ≤ 2 ^ 29 - 1) (h : InRange R r)
    (hmore : Guarded stepChecked Unsampled r more) :
    (more.foldl step r).rto.toNat = min (2 ^ more.count .onRetransmit * r.rto.toNat) 60000 := by
  induction more generalizing r with
  | nil =>
    have hle := h.rto_le
    change r.rto.toNat = min (2 ^ 0 * r.rto.toNat) 60000
    omega
  | cons op more ih =>
    obtain ⟨hun, hrest⟩ := hmore
    have hwithin : Within R r op := by
      intro millis hmillis
      rw [hun] at hmillis
      cases hmillis
    obtain ⟨hok, h'⟩ := h.step hR hwithin
    rw [List.foldl_cons, ih h' (hrest _ _ hok)]
    cases op with
    | onSend timestamp seq =>
      have hne : Op.onSend timestamp seq ≠ .onRetransmit := nofun
      rw [List.count_cons_of_ne hne, step, rto_onSend]
    | onAck timestamp seq =>
      have hne : Op.onAck timestamp seq ≠ .onRetransmit := nofun
      rw [List.count_cons_of_ne hne, step, onAck_of_unsampled hun]
    | onRetransmit =>
      rw [List.count_cons_self, step, h.onRetransmit.2.2, Nat.pow_succ]
      have hpos := Nat.one_le_two_pow (n := more.count .onRetransmit)
      generalize 2 ^ more.count .onRetransmit = k at hpos ⊢
      rcases Nat.lt_or_ge (2 * r.rto.toNat) 60000 with hlt | hge
      · rw [Nat.min_eq_left hlt.le, Nat.mul_assoc]
      · have hk := Nat.le_mul_of_pos_left (2 * r.rto.toNat) hpos
        have hk' := Nat.le_mul_of_pos_left 60000 hpos
        rw [Nat.min_eq_right hge, Nat.mul_assoc]
        omega

/-- A run within the bound succeeds, and computes what the unchecked operations do. -/
lemma run_of_within (hR : R ≤ 2 ^ 29 - 1) (hr : InRange R r) {ops : List Op}
    (h : Guarded stepChecked (Within R) r ops) :
    ∃ us, Machine.run stepChecked r ops = .ok (ops.foldl step r, us) ∧
      InRange R (ops.foldl step r) := by
  induction ops generalizing r with
  | nil => exact ⟨[], rfl, hr⟩
  | cons op ops ih =>
    obtain ⟨hwithin, hrest⟩ := h
    obtain ⟨hok, hr'⟩ := hr.step hR hwithin
    obtain ⟨us, hrun, hend⟩ := ih hr' (hrest _ _ hok)
    refine ⟨() :: us, ?_, hend⟩
    rw [Machine.run, hok, ok_bind]
    dsimp only
    rw [hrun]
    rfl

/-- As long as no measured round trip is longer than `R` no operation overflows, the smoothed
values stay at most `R`, and the timeout stays between its bounds and doubles with each
retransmission up to the next measurement. -/
theorem in_range (hR : R ≤ 2 ^ 29 - 1) {ops : List Op}
    (h : Guarded stepChecked (Within R) {} ops) :
    ∃ r us, Machine.run stepChecked {} ops = .ok (r, us) ∧ r = ops.foldl step {} ∧
      r.srtt.toNat ≤ R ∧ r.rttvar.toNat ≤ R ∧
      1000 ≤ (Duration.totalMillis r.retransmissionTimeout).toNat ∧
      (Duration.totalMillis r.retransmissionTimeout).toNat ≤ 60000 ∧
      ∀ more, Guarded stepChecked Unsampled r more →
        (Duration.totalMillis (more.foldl step r).retransmissionTimeout).toNat =
          min (2 ^ more.count .onRetransmit *
            (Duration.totalMillis r.retransmissionTimeout).toNat) 60000 := by
  obtain ⟨us, hrun, hend⟩ := run_of_within hR InRange.init h
  refine ⟨_, us, hrun, rfl, hend.srtt_le, hend.rttvar_le, ?_, ?_, fun more hmore => ?_⟩
  · rw [toNat_retransmissionTimeout]
    exact hend.rto_ge
  · rw [toNat_retransmissionTimeout]
    exact hend.rto_le
  · rw [toNat_retransmissionTimeout, toNat_retransmissionTimeout]
    exact rto_foldl hR hend hmore

/-- Two measured round trips of 4 s and 2 s, with a retransmission between them. -/
theorem in_range_measured :
    ∃ r us, Machine.run stepChecked {} [.onSend 0 ⟨0⟩, .onAck 4000000 ⟨0⟩, .onSend 5000000 ⟨9⟩,
        .onRetransmit, .onSend 6000000 ⟨10⟩, .onAck 8000000 ⟨11⟩] = .ok (r, us) ∧
      r.srtt.toNat ≤ 4000 ∧ r.rttvar.toNat ≤ 4000 := by
  have hguarded : Guarded stepChecked (Within 4000) {} [.onSend 0 ⟨0⟩, .onAck 4000000 ⟨0⟩,
      .onSend 5000000 ⟨9⟩, .onRetransmit, .onSend 6000000 ⟨10⟩, .onAck 8000000 ⟨11⟩] := by
    decide +kernel
  obtain ⟨r, us, hrun, -, hsrtt, hrttvar, -⟩ := in_range (by decide) hguarded
  exact ⟨r, us, hrun, hsrtt, hrttvar⟩

end Smoltcp.Tcp.RttEstimator
