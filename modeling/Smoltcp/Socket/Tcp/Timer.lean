import Smoltcp.Time
import Smoltcp.Wire.Tcp

/-!
# Round-trip estimation and timers

One timer slot serves keep-alives, retransmission, zero-window probes and the closing delay, so
that setting it for one purpose takes it away from another.
-/

namespace Smoltcp.Tcp

open Serial

/-- When the socket should be polled next. The order is the one of the constructors. -/
inductive PollAt where
  | now
  | time (t : Instant)
  | ingress
  deriving DecidableEq, Repr

namespace PollAt

/-- The derived `Ord` of the source: the earlier of two. -/
def min : PollAt → PollAt → PollAt
  | .now, _ => .now
  | _, .now => .now
  | .ingress, p => p
  | p, .ingress => p
  | .time t, .time u => if t ≤ u then .time t else .time u

/-- A poll is due at `now`. -/
def Due (now : Instant) : PollAt → Prop
  | .now => True
  | .time t => t ≤ now
  | .ingress => False

instance (now : Instant) : (p : PollAt) → Decidable (p.Due now)
  | .now => .isTrue trivial
  | .time t => inferInstanceAs (Decidable (t ≤ now))
  | .ingress => .isFalse id

lemma due_min {now : Instant} {p q : PollAt} : (p.min q).Due now ↔ p.Due now ∨ q.Due now := by
  cases p with
  | now => simp [PollAt.min, PollAt.Due]
  | ingress => cases q <;> simp [PollAt.min, PollAt.Due]
  | time t =>
    cases q with
    | now => simp [PollAt.min, PollAt.Due]
    | ingress => simp [PollAt.min, PollAt.Due]
    | time u =>
      rw [PollAt.min]
      split_ifs with hle
      · exact (or_iff_left_of_imp fun hu => Int64.le_trans hle hu).symm
      · refine (or_iff_right_of_imp fun ht => Int64.le_trans ?_ ht).symm
        exact Int64.le_of_lt (Int64.not_le.mp hle)

end PollAt

/-! ### Round-trip estimation -/

def rtteInitialRto : UInt32 := 1000
def rtteMinMargin : UInt32 := 5
def rtteK : UInt32 := 4
def rtteMinRto : UInt32 := 1000
def rtteMaxRto : UInt32 := 60000

structure RttEstimator where
  haveMeasurement : Bool := false
  srtt : UInt32 := 0
  rttvar : UInt32 := 0
  rto : UInt32 := rtteInitialRto
  timestamp : Option (Instant × SeqNumber) := none
  maxSeqSent : Option SeqNumber := none
  rtoCount : UInt8 := 0
  deriving DecidableEq, Repr

namespace RttEstimator

def retransmissionTimeout (r : RttEstimator) : Duration := .fromMillis r.rto.toUInt64

/-- `u32::div_ceil`. -/
def divCeil (x y : UInt32) : UInt32 := if x % y = 0 then x / y else x / y + 1

/-- `i32::unsigned_abs` of the difference of two numbers cast to `i32`. -/
def absDiff (x y : UInt32) : UInt32 := .ofNat (x.toInt32 - y.toInt32).toInt.natAbs

def sample (r : RttEstimator) (newRtt : UInt32) : RttEstimator :=
  let r :=
    if r.haveMeasurement then
      { r with
        rttvar := divCeil (r.rttvar * 3 + absDiff r.srtt newRtt) 4
        srtt := divCeil (r.srtt * 7 + newRtt) 8 }
    else { r with haveMeasurement := true, srtt := newRtt, rttvar := newRtt / 2 }
  let margin := max rtteMinMargin (r.rttvar * rtteK)
  { r with
    rto := min (max (r.srtt + margin) rtteMinRto) rtteMaxRto
    rtoCount := 0 }

def onSend (r : RttEstimator) (timestamp : Instant) (seq : SeqNumber) : RttEstimator :=
  if r.maxSeqSent.all fun maxSeqSent => decide (seq.gt maxSeqSent) then
    { r with
      maxSeqSent := some seq
      timestamp := if r.timestamp.isNone then some (timestamp, seq) else r.timestamp }
  else r

def onAck (r : RttEstimator) (timestamp : Instant) (seq : SeqNumber) : RttEstimator :=
  match r.timestamp with
  | some (sentTimestamp, sentSeq) =>
    if seq.ge sentSeq then
      { r.sample (Duration.totalMillis (timestamp.since sentTimestamp)).toUInt32 with
        timestamp := none }
    else r
  | none => r

def onRetransmit (r : RttEstimator) : RttEstimator :=
  let r := { r with timestamp := none, rto := min (r.rto * 2) rtteMaxRto, rtoCount :=
    r.rtoCount + 1 }
  if 3 ≤ r.rtoCount then { r with rtoCount := 0, haveMeasurement := false } else r

end RttEstimator

/-! ### The timer -/

inductive Timer where
  | idle (keepAliveAt : Option Instant)
  | retransmit (expiresAt : Instant)
  | fastRetransmit
  | zeroWindowProbe (expiresAt : Instant) (delay : Duration)
  | close (expiresAt : Instant)
  deriving DecidableEq, Repr

def ackDelayDefault : Duration := .fromMillis 10

def closeDelay : Duration := .fromMillis 10000

namespace Timer

def new : Timer := .idle none

def shouldKeepAlive (timestamp : Instant) : Timer → Prop
  | .idle (some keepAliveAt) => keepAliveAt ≤ timestamp
  | _ => False

def shouldRetransmit (timestamp : Instant) : Timer → Prop
  | .retransmit expiresAt => expiresAt ≤ timestamp
  | .fastRetransmit => True
  | _ => False

def shouldClose (timestamp : Instant) : Timer → Prop
  | .close expiresAt => expiresAt ≤ timestamp
  | _ => False

def shouldZeroWindowProbe (timestamp : Instant) : Timer → Prop
  | .zeroWindowProbe expiresAt _ => expiresAt ≤ timestamp
  | _ => False

instance (now : Instant) : (t : Timer) → Decidable (t.shouldKeepAlive now)
  | .idle (some keepAliveAt) => inferInstanceAs (Decidable (keepAliveAt ≤ now))
  | .idle none | .retransmit _ | .fastRetransmit | .zeroWindowProbe _ _ | .close _ => .isFalse id

instance (now : Instant) : (t : Timer) → Decidable (t.shouldRetransmit now)
  | .retransmit expiresAt => inferInstanceAs (Decidable (expiresAt ≤ now))
  | .fastRetransmit => .isTrue trivial
  | .idle _ | .zeroWindowProbe _ _ | .close _ => .isFalse id

instance (now : Instant) : (t : Timer) → Decidable (t.shouldClose now)
  | .close expiresAt => inferInstanceAs (Decidable (expiresAt ≤ now))
  | .idle _ | .retransmit _ | .fastRetransmit | .zeroWindowProbe _ _ => .isFalse id

instance (now : Instant) : (t : Timer) → Decidable (t.shouldZeroWindowProbe now)
  | .zeroWindowProbe expiresAt _ => inferInstanceAs (Decidable (expiresAt ≤ now))
  | .idle _ | .retransmit _ | .fastRetransmit | .close _ => .isFalse id

def pollAt : Timer → PollAt
  | .idle (some keepAliveAt) => .time keepAliveAt
  | .idle none => .ingress
  | .zeroWindowProbe expiresAt _ => .time expiresAt
  | .retransmit expiresAt => .time expiresAt
  | .fastRetransmit => .now
  | .close expiresAt => .time expiresAt

def setForIdle (timestamp : Instant) (interval : Option Duration) : Timer :=
  .idle (interval.map timestamp.add)

def setKeepAlive : Timer → Timer
  | .idle none => .idle (some (.fromMillis 0))
  | t => t

def rewindKeepAlive (timestamp : Instant) (interval : Option Duration) : Timer → Timer
  | .idle _ => .idle (interval.map timestamp.add)
  | t => t

def setForRetransmit (timestamp : Instant) (delay : Duration) : Timer → Timer
  | .close expiresAt => .close expiresAt
  | _ => .retransmit (timestamp.add delay)

def setForClose (timestamp : Instant) : Timer := .close (timestamp.add closeDelay)

def setForZeroWindowProbe (timestamp : Instant) (delay : Duration) : Timer :=
  .zeroWindowProbe (timestamp.add delay) delay

def rewindZeroWindowProbe (timestamp : Instant) : Timer → Timer
  | .zeroWindowProbe _ delay =>
    let delay := min (delay * 2) (Duration.fromMillis rtteMaxRto.toUInt64)
    .zeroWindowProbe (timestamp.add delay) delay
  | t => t

def isIdle : Timer → Prop
  | .idle _ => True
  | _ => False

def isZeroWindowProbe : Timer → Prop
  | .zeroWindowProbe _ _ => True
  | _ => False

def isRetransmit : Timer → Prop
  | .retransmit _ | .fastRetransmit => True
  | _ => False

instance : (t : Timer) → Decidable t.isIdle
  | .idle _ => .isTrue trivial
  | .retransmit _ | .fastRetransmit | .zeroWindowProbe _ _ | .close _ => .isFalse id

instance : (t : Timer) → Decidable t.isZeroWindowProbe
  | .zeroWindowProbe _ _ => .isTrue trivial
  | .idle _ | .retransmit _ | .fastRetransmit | .close _ => .isFalse id

instance : (t : Timer) → Decidable t.isRetransmit
  | .retransmit _ | .fastRetransmit => .isTrue trivial
  | .idle _ | .zeroWindowProbe _ _ | .close _ => .isFalse id

end Timer

/-- The delayed-ACK timer. -/
inductive AckDelayTimer where
  | idle
  | waiting (t : Instant)
  | immediate
  deriving DecidableEq, Repr

end Smoltcp.Tcp
