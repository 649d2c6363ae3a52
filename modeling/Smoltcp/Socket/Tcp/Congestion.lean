import Smoltcp.Socket.Tcp.Timer

/-!
# Congestion control

The controllers of the source and the operations of their common trait. A controller that leaves
an operation at the trait's default does nothing. Cubic computes with floating-point numbers; no
result below looks into these.
-/

namespace Smoltcp.Tcp

/-- `usize::MAX`. -/
def usizeMax : ℕ := 2 ^ 64 - 1

def saturatingAdd (a b : ℕ) : ℕ := min (a + b) usizeMax

structure Reno where
  cwnd : ℕ := 1024 * 2
  minCwnd : ℕ := 1024 * 2
  ssthresh : ℕ := usizeMax
  rwnd : ℕ := 64 * 1024
  deriving DecidableEq, Repr

namespace Reno

def onAck (r : Reno) (len : ℕ) : Reno :=
  let ssthresh := if r.cwnd < r.ssthresh then r.ssthresh else r.cwnd
  let len := if r.cwnd < r.ssthresh then len else r.minCwnd
  { r with
    ssthresh := ssthresh
    cwnd := max (min (saturatingAdd r.cwnd len) r.rwnd) r.minCwnd }

def onDuplicateAck (r : Reno) : Reno := { r with ssthresh := max (r.cwnd >>> 1) r.minCwnd }

def onRetransmit (r : Reno) : Reno := { r with cwnd := max (r.cwnd >>> 1) r.minCwnd }

def setMss (r : Reno) (mss : ℕ) : Reno := { r with minCwnd := mss }

def setRemoteWindow (r : Reno) (remoteWindow : ℕ) : Reno :=
  if r.rwnd < remoteWindow then { r with rwnd := remoteWindow } else r

end Reno

structure Cubic where
  cwnd : ℕ := 1024 * 2
  minCwnd : ℕ := 1024 * 2
  wMax : ℕ := 1024 * 2
  recoveryStart : Option Instant := none
  rwnd : ℕ := 64 * 1024
  lastUpdate : Instant := .fromMillis 0
  ssthresh : ℕ := usizeMax
  deriving DecidableEq, Repr

namespace Cubic

def betaCubic : Float := 0.7

def c : Float := 0.4

def abs (a : Float) : Float := if a < 0.0 then -a else a

/-- The iteration of `cube_root`, with `n` rounds left. -/
def cubeRootLoop (a tolerance : Float) : ℕ → Float → Float
  | 0, x => (2.0 * x + a / (x * x)) / 3.0
  | n + 1, x =>
    let nextX := (2.0 * x + a / (x * x)) / 3.0
    if abs (nextX - x) < tolerance then nextX else cubeRootLoop a tolerance n nextX

def cubeRoot (a : Float) : Option Float :=
  if a ≤ 0.0 then none
  else
    let (tolerance, init) :=
      if a < 1000.0 then (1.0, 8.879040017426005)
      else if a < 1000000.0 then (5.0, 88.79040017426004)
      else if a < 1000000000.0 then (50.0, 887.9040017426004)
      else if a < 1000000000000.0 then (500.0, 8879.040017426003)
      else if a < 1000000000000000.0 then (5000.0, 88790.40017426001)
      else (50000.0, 887904.0017426)
    some (cubeRootLoop a tolerance 20 init)

def onRetransmit (q : Cubic) (now : Instant) : Cubic :=
  { q with wMax := q.cwnd, ssthresh := q.cwnd >>> 1, recoveryStart := some now }

def onDuplicateAck (q : Cubic) (now : Instant) : Cubic :=
  { q with wMax := q.cwnd, ssthresh := q.cwnd >>> 1, recoveryStart := some now }

def setRemoteWindow (q : Cubic) (remoteWindow : ℕ) : Cubic :=
  if q.rwnd < remoteWindow then { q with rwnd := remoteWindow } else q

def onAck (q : Cubic) (len : ℕ) : Cubic :=
  if q.cwnd < q.ssthresh then
    { q with cwnd := max (min (saturatingAdd q.cwnd len) q.rwnd) q.minCwnd }
  else q

def preTransmit (q : Cubic) (now : Instant) : Cubic :=
  match q.recoveryStart with
  | none => { q with recoveryStart := some now }
  | some recoveryStart =>
    let nowMillis := now.totalMillis
    if recoveryStart < q.lastUpdate ∧ nowMillis - q.lastUpdate.totalMillis < 100 then q
    else
      let t := nowMillis - recoveryStart.totalMillis
      if t < 0 then q
      else
        let k3 := (Float.ofNat q.wMax * (1.0 - betaCubic)) / c
        match cubeRoot k3 with
        | none => q
        | some k =>
          let s := Float.ofInt t.toInt / 1000.0 - k
          let s := s * s * s
          let cwnd := c * s + Float.ofNat q.wMax
          { q with
            lastUpdate := now
            cwnd := min (max cwnd.toUInt64.toNat q.minCwnd) q.rwnd }

def setMss (q : Cubic) (mss : ℕ) : Cubic := { q with minCwnd := mss }

end Cubic

inductive AnyController where
  | none
  | reno (r : Reno)
  | cubic (q : Cubic)
  deriving DecidableEq, Repr

inductive CongestionControl where
  | none
  | reno
  | cubic
  deriving DecidableEq, Repr

namespace AnyController

def window : AnyController → ℕ
  | .none => usizeMax
  | .reno r => r.cwnd
  | .cubic q => q.cwnd

def setRemoteWindow (remoteWindow : ℕ) : AnyController → AnyController
  | .none => .none
  | .reno r => .reno (r.setRemoteWindow remoteWindow)
  | .cubic q => .cubic (q.setRemoteWindow remoteWindow)

def onAck (len : ℕ) : AnyController → AnyController
  | .none => .none
  | .reno r => .reno (r.onAck len)
  | .cubic q => .cubic (q.onAck len)

def onRetransmit (now : Instant) : AnyController → AnyController
  | .none => .none
  | .reno r => .reno r.onRetransmit
  | .cubic q => .cubic (q.onRetransmit now)

def onDuplicateAck (now : Instant) : AnyController → AnyController
  | .none => .none
  | .reno r => .reno r.onDuplicateAck
  | .cubic q => .cubic (q.onDuplicateAck now)

def preTransmit (now : Instant) : AnyController → AnyController
  | .none => .none
  | .reno r => .reno r
  | .cubic q => .cubic (q.preTransmit now)

def setMss (mss : ℕ) : AnyController → AnyController
  | .none => .none
  | .reno r => .reno (r.setMss mss)
  | .cubic q => .cubic (q.setMss mss)

/-- The controller `set_congestion_control` installs. -/
def ofControl : CongestionControl → AnyController
  | .none => .none
  | .reno => .reno {}
  | .cubic => .cubic {}

end AnyController

end Smoltcp.Tcp
