import Smoltcp.Lib.Transition
import Smoltcp.Socket.Tcp.Dispatch

/-!
# Runs of a socket

A socket takes calls of the application, segments from the network and calls of `dispatch`, in any
order, at any time and with any outcome of `emit`. Beside the socket a run keeps a record of the
current connection: what the application enqueued and was given, and which segments were sent.
The record is not part of the program. It is written and never read.

A call that panics ends the run.
-/

namespace Smoltcp.Tcp

open Serial

inductive Setting where
  | timeout (duration : Option Duration)
  | ackDelay (duration : Option Duration)
  | nagleEnabled (enabled : Bool)
  | keepAlive (interval : Option Duration)
  | hopLimit (hopLimit : Option UInt8)
  | tsvalGenerator (generator : Option TcpTimestampGenerator)
  | congestionControl (control : CongestionControl)
  | pauseSynack (pause : Bool)

def Socket.set (s : Socket) : Setting → Checked Socket
  | .timeout duration => .ok (s.setTimeout duration)
  | .ackDelay duration => .ok (s.setAckDelay duration)
  | .nagleEnabled enabled => .ok (s.setNagleEnabled enabled)
  | .keepAlive interval => .ok (s.setKeepAlive interval)
  | .hopLimit hopLimit => s.setHopLimit hopLimit
  | .tsvalGenerator generator => .ok (s.setTsvalGenerator generator)
  | .congestionControl control => .ok (s.setCongestionControl control)
  | .pauseSynack pause => .ok (s.pauseSynack pause)

inductive Op where
  | listen (localEndpoint : IpListenEndpoint)
  | connect (cx : Context) (remoteEndpoint : IpEndpoint) (localEndpoint : IpListenEndpoint)
  | close
  | abort
  | set (setting : Setting)
  | send (f : Callback UInt8 Unit)
  | sendSlice (data : List UInt8)
  | recv (f : Callback UInt8 Unit)
  | recvSlice (n : ℕ)
  | peek (size : ℕ)
  | process (cx : Context) (ipRepr : IpRepr) (repr : TcpRepr)
  | dispatch (cx : Context) (emit : IpRepr → TcpRepr → Bool)

/-- A segment that was sent, with its position in the sequence space of the connection, counted
from the initial sequence number on without wrapping. -/
structure Sent where
  pos : ℤ
  repr : TcpRepr

/-- The position behind the segment. -/
def Sent.endPos (e : Sent) : ℤ := e.pos + (e.repr.segmentLen : ℤ)

/-- The record of a connection. -/
structure Conn where
  /-- The initial send sequence number. -/
  iss : SeqNumber
  /-- The position of `localSeqNo`: how much of the sequence space is acknowledged. -/
  acked : ℕ
  /-- All octets the application enqueued. -/
  enqueued : List UInt8
  /-- All octets handed to the application. -/
  delivered : List UInt8
  /-- All segments sent by `dispatch`, the latest first. -/
  sent : List Sent

namespace Conn

def start (iss : SeqNumber) : Conn := ⟨iss, 0, [], [], []⟩

/-- The end of the highest segment sent. -/
def highest (c : Conn) : ℤ := (c.sent.map Sent.endPos).foldr max 0

/-- The octets that a call appended to the transmit buffer. -/
def enqueue (c : Conn) (s s' : Socket) : Conn :=
  { c with enqueued := c.enqueued ++ s'.txBuffer.toList.drop s.txBuffer.len }

/-- The octets that a call took from the front of the receive buffer. -/
def deliver (c : Conn) (s s' : Socket) : Conn :=
  { c with delivered := c.delivered ++ s.rxBuffer.toList.take (s.rxBuffer.len - s'.rxBuffer.len) }

/-- A SYN in LISTEN starts a connection, any other segment may acknowledge. -/
def process (c : Conn) (s s' : Socket) : Conn :=
  if s.state = .listen ∧ s'.state ≠ .listen then start s'.localSeqNo
  else { c with acked := c.acked + (dist s'.localSeqNo s.localSeqNo).toNat }

def dispatch (c : Conn) (s : Socket) (e : Option Emission) : Conn :=
  match e with
  | none => c
  | some e =>
    if e.sent then
      { c with sent := ⟨c.acked + dist e.repr.seqNumber s.localSeqNo, e.repr⟩ :: c.sent }
    else c

end Conn

structure Sys where
  socket : Socket
  conn : Conn

namespace Sys

def step (y : Sys) : Op → Checked Sys
  | .listen localEndpoint =>
    match y.socket.listen localEndpoint with
    | .ok s => .ok ⟨s, if y.socket.isOpen then y.conn else .start s.localSeqNo⟩
    | .error _ => .ok y
  | .connect cx remoteEndpoint localEndpoint =>
    match y.socket.connect cx remoteEndpoint localEndpoint with
    | .ok s => .ok ⟨s, .start s.localSeqNo⟩
    | .error _ => .ok y
  | .close => .ok { y with socket := y.socket.close }
  | .abort => .ok { y with socket := y.socket.abort }
  | .set setting => do return { y with socket := ← y.socket.set setting }
  | .send f => do
    let (s, _) ← y.socket.send f
    return ⟨s, y.conn.enqueue y.socket s⟩
  | .sendSlice data => do
    let (s, _) ← y.socket.sendSlice data
    return ⟨s, y.conn.enqueue y.socket s⟩
  | .recv f => do
    let (s, _) ← y.socket.recv f
    return ⟨s, y.conn.deliver y.socket s⟩
  | .recvSlice n => do
    let (s, _) ← y.socket.recvSlice n
    return ⟨s, y.conn.deliver y.socket s⟩
  | .peek _ => .ok y
  | .process cx ipRepr repr => do
    let (s, _) ← y.socket.process cx ipRepr repr
    return ⟨s, y.conn.process y.socket s⟩
  | .dispatch cx emit => do
    let (s, e) ← y.socket.dispatch cx emit
    return ⟨s, y.conn.dispatch y.socket e⟩

/-- The states a socket can start in. -/
def Initial (y : Sys) : Prop :=
  ∃ cfg rxBuffer txBuffer, Socket.new cfg rxBuffer txBuffer = .ok y.socket ∧ y.conn = .start 0

def Step (y : Sys) (op : Op) (y' : Sys) : Prop := y.step op = .ok y'

/-- `y'` is reached from `y` by steps that all meet `ok`. -/
abbrev Run (ok : Sys → Op → Prop) : Sys → Sys → Prop := Transition.Run Step ok

/-- The states reached from a new socket by steps that all meet `ok`. -/
def ReachableBy (ok : Sys → Op → Prop) (y : Sys) : Prop := ∃ y₀, y₀.Initial ∧ Run ok y₀ y

/-- The states reached from a new socket. -/
def Reachable : Sys → Prop := ReachableBy fun _ _ => True

variable {ok : Sys → Op → Prop} {y y' : Sys}

/-- What holds of a new socket and is kept by every guarded step holds in every state reached. -/
theorem ReachableBy.invariant {I : Sys → Prop} (hinit : ∀ y, Initial y → I y)
    (hkeep : ∀ y op y', I y → ok y op → Step y op y' → I y') (h : ReachableBy ok y) : I y := by
  obtain ⟨y₀, h₀, hrun⟩ := h
  exact hrun.invariant hkeep (hinit y₀ h₀)

lemma ReachableBy.mono {ok' : Sys → Op → Prop} (hok : ∀ y op, ok y op → ok' y op)
    (h : ReachableBy ok y) : ReachableBy ok' y := by
  obtain ⟨y₀, h₀, hrun⟩ := h
  exact ⟨y₀, h₀, hrun.mono hok⟩

lemma ReachableBy.reachable (h : ReachableBy ok y) : Reachable y := h.mono fun _ _ _ => trivial

lemma ReachableBy.trans (h : ReachableBy ok y) (hrun : Run ok y y') : ReachableBy ok y' := by
  obtain ⟨y₀, h₀, hrun₀⟩ := h
  exact ⟨y₀, h₀, hrun₀.trans hrun⟩

end Sys

end Smoltcp.Tcp
