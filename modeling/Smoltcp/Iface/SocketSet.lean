import Smoltcp.Iface.Sixlowpan.Process
import Smoltcp.Socket.Dhcpv4
import Smoltcp.Socket.Dns
import Smoltcp.Socket.Icmp
import Smoltcp.Socket.Raw
import Smoltcp.Socket.Tcp.Dispatch
import Smoltcp.Socket.Udp

/-!
# Sockets of an interface

A set of sockets, each with what the interface knows about it: whether it waits for a neighbor.
-/

namespace Smoltcp

/-- The compile-time choices that an interface and its sockets depend on. -/
structure StackConfig where
  iface : IfaceConfig
  reassembly : ReassemblyConfig
  dns : Dns.DnsConfig

/-- The choices of the default features. -/
def StackConfig.default : StackConfig where
  iface := .default
  reassembly := {
    alloc := true
    assemblerMaxSegmentCount := 4
    assemblerMaxSegmentCount_ne := Nat.succ_ne_zero 3
    reassemblyBufferSize := 1500
    reassemblyBufferCount := 1 }
  dns := { maxResultCount := 1, maxNameSize := 255 }

/-- A network socket. -/
inductive AnySocket where
  | raw (socket : Raw.Socket)
  | icmp (socket : Icmp.Socket)
  | udp (socket : Udp.Socket)
  | tcp (socket : Tcp.Socket)
  | dhcpv4 (socket : Dhcpv4.Socket)
  | dns (socket : Dns.Socket)

/-- Whether a socket should be polled, based on the neighbor it is going to send packets to. -/
inductive NeighborState where
  /-- Socket can be polled immediately. -/
  | active
  /-- Socket should not be polled until either `silentUntil` passes or `neighbor` appears in the
  neighbor cache. -/
  | waiting (neighbor : IpAddress) (silentUntil : Instant)
  deriving DecidableEq, Repr

namespace NeighborState

variable (state : NeighborState)

def pollAt (socketPollAt : Tcp.PollAt) (hasNeighbor : IpAddress → Checked Bool) :
    Checked Tcp.PollAt :=
  match state with
  | .active => .ok socketPollAt
  | .waiting neighbor silentUntil => do
    if ← hasNeighbor neighbor then return socketPollAt else return .time silentUntil

end NeighborState

/-- A socket, and what the interface keeps about it. -/
structure Item where
  neighborState : NeighborState
  socket : AnySocket

/-- A set of sockets. -/
abbrev SocketSet := List Item

namespace SocketSet

variable {β : Type}

def add (sockets : SocketSet) (socket : AnySocket) : SocketSet := sockets ++ [⟨.active, socket⟩]

/-- The loop over the sockets that ends with the first one that takes a packet. What does not take
the packet is `none`. -/
def offerFirst (take : AnySocket → Checked (Option (AnySocket × β))) :
    SocketSet → Checked (SocketSet × Option β)
  | [] => .ok ([], none)
  | item :: rest => do
    match ← take item.socket with
    | some (socket, b) => return ({ item with socket } :: rest, some b)
    | none =>
      let (rest, b) ← offerFirst take rest
      return (item :: rest, b)

/-- The loop over all sockets, and whether one of them took the packet. -/
def offerAll (take : AnySocket → Checked (Option AnySocket)) :
    SocketSet → Checked (SocketSet × Bool)
  | [] => .ok ([], false)
  | item :: rest => do
    let taken ← take item.socket
    let (rest, handled) ← offerAll take rest
    match taken with
    | some socket => return ({ item with socket } :: rest, true)
    | none => return (item :: rest, handled)

section Rules

variable {sockets sockets' : SocketSet} {take : AnySocket → Checked (Option (AnySocket × β))}
  {takeAll : AnySocket → Checked (Option AnySocket)}

/-- If no socket takes a packet, none has changed. -/
lemma offerFirst_eq_none : offerFirst take sockets = .ok (sockets', none) ↔
    sockets' = sockets ∧ ∀ item ∈ sockets, take item.socket = .ok none := by
  induction sockets generalizing sockets' with
  | nil => simp [offerFirst, eq_comm]
  | cons item rest ih =>
    constructor
    · intro h
      obtain ⟨taken, htake, h⟩ := Checked.bind_eq_ok.mp h
      cases taken with
      | some r => cases h
      | none =>
        obtain ⟨⟨rest', b⟩, hrest, h⟩ := Checked.bind_eq_ok.mp h
        cases h
        obtain ⟨rfl, hall⟩ := ih.mp hrest
        exact ⟨rfl, List.forall_mem_cons.mpr ⟨htake, hall⟩⟩
    · rintro ⟨rfl, hall⟩
      obtain ⟨htake, hrest⟩ := List.forall_mem_cons.mp hall
      rw [offerFirst, htake, Checked.ok_bind]
      dsimp only
      rw [ih.mpr ⟨rfl, hrest⟩]
      rfl

/-- The socket that takes a packet. -/
lemma offerFirst_eq_some {b : β} (h : offerFirst take sockets = .ok (sockets', some b)) :
    ∃ before item after socket, sockets = before ++ item :: after ∧
      take item.socket = .ok (some (socket, b)) ∧
      sockets' = before ++ { item with socket } :: after := by
  induction sockets generalizing sockets' with
  | nil => cases h
  | cons item rest ih =>
    obtain ⟨taken, htake, h⟩ := Checked.bind_eq_ok.mp h
    cases taken with
    | some r =>
      cases h
      exact ⟨[], item, rest, r.1, rfl, htake, rfl⟩
    | none =>
      obtain ⟨⟨rest', r⟩, hrest, h⟩ := Checked.bind_eq_ok.mp h
      cases h
      obtain ⟨before, found, after, socket, rfl, hfound, rfl⟩ := ih hrest
      exact ⟨item :: before, found, after, socket, rfl, hfound, rfl⟩

/-- If no socket takes a packet, none has changed. -/
lemma offerAll_eq_false : offerAll takeAll sockets = .ok (sockets', false) ↔
    sockets' = sockets ∧ ∀ item ∈ sockets, takeAll item.socket = .ok none := by
  induction sockets generalizing sockets' with
  | nil => simp [offerAll, eq_comm]
  | cons item rest ih =>
    constructor
    · intro h
      obtain ⟨taken, htake, h⟩ := Checked.bind_eq_ok.mp h
      obtain ⟨⟨rest', handled⟩, hrest, h⟩ := Checked.bind_eq_ok.mp h
      cases taken with
      | some socket => cases h
      | none =>
        cases h
        obtain ⟨rfl, hall⟩ := ih.mp hrest
        exact ⟨rfl, List.forall_mem_cons.mpr ⟨htake, hall⟩⟩
    · rintro ⟨rfl, hall⟩
      obtain ⟨htake, hrest⟩ := List.forall_mem_cons.mp hall
      rw [offerAll, htake, Checked.ok_bind, ih.mpr ⟨rfl, hrest⟩]
      rfl

end Rules

end SocketSet

end Smoltcp
