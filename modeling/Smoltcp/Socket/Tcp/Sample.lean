import Smoltcp.Socket.Tcp.System

/-!
# Running given operations

`exec` runs a list of operations and checks the guard of a run at each of them, so that the
existence of a run with some property is a matter of evaluation. The packets of the sample runs
come from one peer, `10.0.0.2`, port 49500.
-/

namespace Smoltcp.Tcp

namespace Sys

variable {check : Sys → Op → Bool} {y y' : Sys} {ops : List Op}

/-- A new socket at the start of a run. -/
def start (cfg : Config) (rxBuffer txBuffer : SocketBuffer) : Option Sys :=
  (Socket.new cfg rxBuffer txBuffer).toOption.map (⟨·, .start 0⟩)

/-- Run the operations in order. `none` if `check` refuses one, or one panics. -/
def exec (check : Sys → Op → Bool) (y : Sys) : List Op → Option Sys
  | [] => some y
  | op :: ops => if check y op then (y.step op).toOption.bind fun y' => exec check y' ops else none

lemma initial_of_start {cfg : Config} {rx tx : SocketBuffer} (h : start cfg rx tx = some y) :
    y.Initial := by
  unfold start at h
  cases hnew : Socket.new cfg rx tx with
  | error p =>
    rw [hnew] at h
    cases h
  | ok s =>
    rw [hnew] at h
    cases h
    exact ⟨cfg, rx, tx, hnew, rfl⟩

lemma step_of_toOption {op : Op} (h : (y.step op).toOption = some y') : Step y op y' := by
  unfold Step
  cases hs : y.step op with
  | error p =>
    rw [hs] at h
    cases h
  | ok y₁ =>
    rw [hs] at h
    cases h
    rfl

/-- Checked operations make a run. -/
theorem run_of_exec {ok : Sys → Op → Prop} (hcheck : ∀ y op, check y op = true → ok y op)
    (h : y.exec check ops = some y') : Run ok y y' := by
  induction ops generalizing y with
  | nil =>
    cases h
    exact .refl
  | cons op ops ih =>
    unfold exec at h
    split_ifs at h with hop
    obtain ⟨y₁, hstep, h⟩ := Option.bind_eq_some_iff.mp h
    exact .head (hcheck y op hop) (step_of_toOption hstep) (ih h)

/-- A property found at the end of checked operations holds in a reachable state. -/
theorem exists_reachable (ok : Sys → Op → Prop) {cfg : Config} {rx tx : SocketBuffer}
    {P : Sys → Bool} (hcheck : ∀ y op, check y op = true → ok y op)
    (h : ((start cfg rx tx).bind (exec check · ops)).any P = true) :
    ∃ y, ReachableBy ok y ∧ P y = true := by
  obtain ⟨y, hy, hP⟩ := (Option.any_eq_true _ _).mp h
  obtain ⟨y₀, hstart, hexec⟩ := Option.bind_eq_some_iff.mp hy
  exact ⟨y, ⟨y₀, initial_of_start hstart, run_of_exec hcheck hexec⟩, hP⟩

end Sys

/-! ### Sample packets -/

namespace Sample

def config : Config := ⟨4, by decide, .none⟩

def buffer (n : ℕ) : SocketBuffer := .new (List.replicate n 0)

def context (now : Instant) : Context := ⟨now, 1500, 10000, fun _ => none, 0⟩

def ipRepr : IpRepr := .ipv4 ⟨0x0a000002, 0x0a000001, .tcp, 20, 64⟩

/-- A segment of the peer to port 80. -/
def segment (control : TcpControl) (seqNumber : SeqNumber) (ackNumber : Option SeqNumber)
    (windowLen : UInt16) (payload : List UInt8) : TcpRepr where
  srcPort := 49500
  dstPort := 80
  control := control
  seqNumber := seqNumber
  ackNumber := ackNumber
  windowLen := windowLen
  windowScale := none
  maxSegSize := none
  sackPermitted := false
  sackRanges := .replicate 3 none
  timestamp := none
  payload := payload

def process (now : Instant) (repr : TcpRepr) : Op := .process (context now) ipRepr repr

/-- A call of `dispatch` whose `emit` succeeds. -/
def dispatch (now : Instant) : Op := .dispatch (context now) fun _ _ => true

/-- What the call hands to `emit`. -/
def emitted (now : Instant) (s : Socket) : Option Emission :=
  (s.dispatch (context now) fun _ _ => true).toOption.bind Prod.snd

lemma dispatch_of_emitted {now : Instant} {s : Socket} {e : Emission}
    (h : emitted now s = some e) :
    ∃ s', s.dispatch (context now) (fun _ _ => true) = .ok (s', some e) := by
  unfold emitted at h
  cases hd : s.dispatch (context now) fun _ _ => true with
  | error p =>
    rw [hd] at h
    cases h
  | ok q =>
    rw [hd] at h
    exact ⟨q.1, by rw [← show q.2 = some e from h]⟩

end Sample

/-- Given operations lead a socket with buffers of `n` octets to a state with a given property. -/
theorem Sys.exists_sample (ok : Sys → Op → Prop) (check : Sys → Op → Bool) (n : ℕ) (ops : List Op)
    (P : Sys → Bool) (hcheck : ∀ y op, check y op = true → ok y op)
    (h : ((start Sample.config (Sample.buffer n) (Sample.buffer n)).bind
      (exec check · ops)).any P = true) : ∃ y, ReachableBy ok y ∧ P y = true :=
  exists_reachable ok hcheck h

end Smoltcp.Tcp
