import Smoltcp.Socket.Tcp.Congestion
import Smoltcp.Storage.Assembler.Properties
import Smoltcp.Storage.RingBuffer.Properties
import Smoltcp.Wire.Ip

/-!
# The TCP socket

The record of the socket and the calls of the application. Wakers are left out: they carry no
state that a modelled function reads.
-/

namespace Smoltcp.Tcp

open Serial

inductive State where
  | closed
  | listen
  | synSent
  | synReceived
  | established
  | finWait1
  | finWait2
  | closeWait
  | closing
  | lastAck
  | timeWait
  deriving DecidableEq, Repr

structure Tuple where
  localEnd : IpEndpoint
  remoteEnd : IpEndpoint
  deriving DecidableEq, Repr

/-- What a call reads from the interface: the time, the MTU, the next random number, the source
address chosen for a destination, and the platform's clock for timestamp generators. -/
structure Context where
  now : Instant
  ipMtu : ℕ
  rand : BitVec 32
  getSourceAddress : IpAddress → Option IpAddress
  clock : ℕ

/-- The compile-time choices: the number of contigs of an assembler, and the default congestion
controller that the enabled features select. -/
structure Config where
  assemblerMaxSegmentCount : ℕ
  count_ne : assemblerMaxSegmentCount ≠ 0
  controller : CongestionControl

abbrev SocketBuffer := RingBuffer UInt8

def defaultMss : ℕ := 536

structure Socket where
  state : State
  timer : Timer
  rtte : RttEstimator
  assembler : Assembler
  rxBuffer : SocketBuffer
  rxFinReceived : Bool
  txBuffer : SocketBuffer
  timeout : Option Duration
  keepAlive : Option Duration
  hopLimit : Option UInt8
  listenEndpoint : IpListenEndpoint
  tuple : Option Tuple
  localSeqNo : SeqNumber
  remoteSeqNo : SeqNumber
  remoteLastSeq : SeqNumber
  remoteLastAck : Option SeqNumber
  remoteLastWin : UInt16
  remoteWinShift : UInt8
  remoteWinLen : ℕ
  remoteWinScale : Option UInt8
  remoteHasSack : Bool
  remoteMss : ℕ
  remoteLastTs : Option Instant
  localRxLastSeq : Option SeqNumber
  localRxLastAck : Option SeqNumber
  localRxDupAcks : UInt8
  ackDelay : Option Duration
  ackDelayTimer : AckDelayTimer
  challengeAckTimer : Instant
  nagle : Bool
  congestionController : AnyController
  tsvalGenerator : Option TcpTimestampGenerator
  lastRemoteTsval : UInt32
  synackPaused : Bool

/-! ### Machine arithmetic -/

/-- `x << k` on `usize`. -/
def shl (x : ℕ) (k : UInt8) : ℕ := (x <<< (k.toNat % 64)) % 2 ^ 64

/-- `x >> k` on `usize`. -/
def shr (x : ℕ) (k : UInt8) : ℕ := x >>> (k.toNat % 64)

/-- `u16::try_from(x).unwrap_or(u16::MAX)`. -/
def u16OrMax (x : ℕ) : UInt16 := .ofNat (min x 65535)

@[simp] lemma toNat_u16OrMax (x : ℕ) : (u16OrMax x).toNat = min x 65535 := by
  rw [u16OrMax, UInt16.toNat_ofNat', Nat.mod_eq_of_lt (by omega)]

/-- The window shift for a receive buffer: the number of bits of the capacity beyond 16. -/
def winShift (capacity : ℕ) : UInt8 :=
  let rxCapLog2 := if capacity = 0 then 0 else Nat.log2 capacity + 1
  .ofNat (rxCapLog2 - 16)

namespace Socket

def new (cfg : Config) (rxBuffer txBuffer : SocketBuffer) : Checked Socket :=
  if 2 ^ 30 < rxBuffer.capacity then .error .bufferTooLarge
  else .ok
    { state := .closed
      timer := .new
      rtte := {}
      assembler := .new cfg.assemblerMaxSegmentCount cfg.count_ne
      txBuffer := txBuffer
      rxBuffer := rxBuffer
      rxFinReceived := false
      timeout := none
      keepAlive := none
      hopLimit := none
      listenEndpoint := {}
      tuple := none
      localSeqNo := 0
      remoteSeqNo := 0
      remoteLastSeq := 0
      remoteLastAck := none
      remoteLastWin := 0
      remoteWinLen := 0
      remoteWinShift := winShift rxBuffer.capacity
      remoteWinScale := none
      remoteHasSack := false
      remoteMss := defaultMss
      remoteLastTs := none
      localRxLastAck := none
      localRxLastSeq := none
      localRxDupAcks := 0
      ackDelay := some ackDelayDefault
      ackDelayTimer := .idle
      challengeAckTimer := 0
      nagle := true
      tsvalGenerator := none
      lastRemoteTsval := 0
      congestionController := .ofControl cfg.controller
      synackPaused := false }

variable (s : Socket)

def reset : Socket :=
  { s with
    state := .closed
    timer := .new
    rtte := {}
    assembler := s.assembler.clear
    txBuffer := s.txBuffer.clear
    rxBuffer := s.rxBuffer.clear
    rxFinReceived := false
    listenEndpoint := {}
    tuple := none
    localSeqNo := 0
    remoteSeqNo := 0
    remoteLastSeq := 0
    remoteLastAck := none
    remoteLastWin := 0
    remoteWinLen := 0
    remoteWinScale := none
    remoteWinShift := winShift s.rxBuffer.capacity
    remoteMss := defaultMss
    remoteLastTs := none
    ackDelayTimer := .idle
    challengeAckTimer := 0 }

def setState (state : State) : Socket := { s with state := state }

/-! ### Windows -/

def scaledWindow : UInt16 := u16OrMax (shr s.rxBuffer.window s.remoteWinShift)

/-- The last window that was advertised, less what has arrived since. -/
def lastScaledWindow : Checked (Option UInt16) :=
  match s.remoteLastAck with
  | none => .ok none
  | some lastAck => do
    let nextAck ← s.remoteSeqNo.add s.rxBuffer.len
    let lastWin := shl s.remoteLastWin.toNat s.remoteWinShift
    let lastWinAdjusted ← (← lastAck.add lastWin).sub nextAck
    return some (u16OrMax (shr lastWinAdjusted s.remoteWinShift))

/-! ### Predicates of the interface -/

def isOpen : Prop := s.state ≠ .closed ∧ s.state ≠ .timeWait

def maySend : Prop := s.state = .established ∨ s.state = .closeWait

def mayRecv : Prop :=
  s.state = .established ∨ s.state = .finWait1 ∨ s.state = .finWait2 ∨ ¬ s.rxBuffer.isEmpty

def canSend : Prop := s.maySend ∧ ¬ s.txBuffer.isFull

instance : Decidable s.isOpen := inferInstanceAs (Decidable (_ ∧ _))

instance : Decidable s.maySend := inferInstanceAs (Decidable (_ ∨ _))

instance : Decidable s.mayRecv := inferInstanceAs (Decidable (_ ∨ _ ∨ _ ∨ _))

end Socket

end Smoltcp.Tcp
