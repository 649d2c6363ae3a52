import Smoltcp.Panic
import Smoltcp.Time
import Smoltcp.Lib.Overwrite
import Smoltcp.Storage.Assembler.Properties

/-!
# Reassembly of fragments

A packet assembler collects the fragments of one datagram, and a set of them is shared by all
datagrams. A slot is not cleared when it is used again, only its record of what is present is. With
`alloc` a buffer grows as needed, without it the buffer has a fixed size.
-/

namespace Smoltcp

/-- The configuration of the crate that reassembly depends on. -/
structure ReassemblyConfig where
  alloc : Bool
  assemblerMaxSegmentCount : ℕ
  assemblerMaxSegmentCount_ne : assemblerMaxSegmentCount ≠ 0
  reassemblyBufferSize : ℕ
  reassemblyBufferCount : ℕ

/-- Problem when assembling: something was out of bounds. -/
inductive AssemblerError where
  | mk
  deriving DecidableEq, Repr

/-- Packet assembler is full. -/
inductive AssemblerFullError where
  | mk
  deriving DecidableEq, Repr

/-- What a closure given to `add_with` does: the octets it writes into a slice of a given length,
one after the other, and the number of octets that it reports. It writes inside of the slice, and
all octets that it reports. -/
structure Decompressor where
  writes : ℕ → List (ℕ × UInt8)
  result : ℕ → Except AssemblerError ℕ
  inside : ∀ n, ∀ w ∈ writes n, w.1 < n
  reported : ∀ n len, result n = .ok len → ∀ p < len, ∃ w ∈ writes n, w.1 = p

/-- Holds different fragments of one packet. -/
structure PacketAssembler (κ : Type) where
  key : Option κ
  buffer : List UInt8
  assembler : Assembler
  totalSize : Option ℕ
  expiresAt : Instant

namespace PacketAssembler

variable {κ : Type}

def new (cfg : ReassemblyConfig) : PacketAssembler κ where
  key := none
  buffer := if cfg.alloc then [] else List.replicate cfg.reassemblyBufferSize 0
  assembler := .new cfg.assemblerMaxSegmentCount cfg.assemblerMaxSegmentCount_ne
  totalSize := none
  expiresAt := 0

def reset (pa : PacketAssembler κ) : PacketAssembler κ :=
  { pa with key := none, assembler := pa.assembler.clear, totalSize := none, expiresAt := 0 }

/-- Let the buffer have at least `size` octets, where it can grow. -/
def resize (cfg : ReassemblyConfig) (pa : PacketAssembler κ) (size : ℕ) :
    Except AssemblerError (PacketAssembler κ) :=
  if pa.buffer.length < size then
    if cfg.alloc then
      .ok { pa with buffer := pa.buffer ++ List.replicate (size - pa.buffer.length) 0 }
    else .error .mk
  else .ok pa

def setTotalSize (cfg : ReassemblyConfig) (pa : PacketAssembler κ) (size : ℕ) :
    Except AssemblerError (PacketAssembler κ) :=
  if pa.totalSize.any (· ≠ size) then .error .mk
  else do
    let pa ← pa.resize cfg size
    return { pa with totalSize := some size }

/-- `self.assembler.add(offset, len)`, whose error is ignored. -/
def record (pa : PacketAssembler κ) (offset len : ℕ) : PacketAssembler κ :=
  match pa.assembler.add offset len with
  | .ok assembler => { pa with assembler }
  | .error _ => pa

/-- Octets written to the buffer from `offset` on. -/
def writeOctets (offset : ℕ) (buffer : List UInt8) (writes : List (ℕ × UInt8)) : List UInt8 :=
  writes.foldl (fun b w => b.set (offset + w.1) w.2) buffer

def addWith (pa : PacketAssembler κ) (offset : ℕ) (f : Decompressor) :
    Checked (PacketAssembler κ × Except AssemblerError Unit) :=
  if pa.buffer.length < offset then .ok (pa, .error .mk)
  else
    let n := pa.buffer.length - offset
    let pa := { pa with buffer := writeOctets offset pa.buffer (f.writes n) }
    match f.result n with
    | .error e => .ok (pa, .error e)
    | .ok len => do
      Checked.assert (offset + len ≤ pa.buffer.length)
      return (pa.record offset len, .ok ())

def add (cfg : ReassemblyConfig) (pa : PacketAssembler κ) (data : List UInt8) (offset : ℕ) :
    Except AssemblerError (PacketAssembler κ) := do
  let pa ← pa.resize cfg (offset + data.length)
  let pa := { pa with buffer := pa.buffer.overwrite offset data }
  return pa.record offset data.length

def isComplete (pa : PacketAssembler κ) : Prop := pa.totalSize = some pa.assembler.peekFront

instance (pa : PacketAssembler κ) : Decidable pa.isComplete := inferInstanceAs (Decidable (_ = _))

/-- The packet, if reassembly is complete. The assembler is then empty, so that it can be reused. -/
def assemble (pa : PacketAssembler κ) : Checked (PacketAssembler κ × Option (List UInt8)) :=
  if pa.isComplete then do
    let totalSize ← Checked.unwrap pa.totalSize
    let pa := pa.reset
    let payload ← Checked.slice pa.buffer 0 totalSize
    return (pa, some payload)
  else .ok (pa, none)

def isFree (pa : PacketAssembler κ) : Prop := pa.key = none

instance (pa : PacketAssembler κ) : Decidable pa.isFree :=
  decidable_of_iff (pa.key.isNone = true) Option.isNone_iff_eq_none

end PacketAssembler

/-- Set holding multiple packet assemblers. -/
abbrev PacketAssemblerSet (κ : Type) := List (PacketAssembler κ)

namespace PacketAssemblerSet

variable {κ : Type} [DecidableEq κ]

def new (cfg : ReassemblyConfig) : PacketAssemblerSet κ :=
  List.replicate cfg.reassemblyBufferCount (.new cfg)

/-- The loop of `get`: the slot that holds the key, or else the last free slot that was seen. -/
def search (key : κ) (emptySlot : Option ℕ) : ℕ → List (PacketAssembler κ) → ℕ ⊕ Option ℕ
  | _, [] => .inr emptySlot
  | i, slot :: rest =>
    if slot.key = some key then .inl i
    else search key (if slot.isFree then some i else emptySlot) (i + 1) rest

/-- Get the slot for a specific key. If it doesn't exist, it is created. -/
def get (set : PacketAssemblerSet κ) (key : κ) (expiresAt : Instant) :
    Except AssemblerFullError (PacketAssemblerSet κ × ℕ) :=
  match search key none 0 set with
  | .inl i => .ok (set, i)
  | .inr none => .error .mk
  | .inr (some i) => .ok (set.modify i fun slot => { slot with key := some key, expiresAt }, i)

def removeExpired (set : PacketAssemblerSet κ) (timestamp : Instant) : PacketAssemblerSet κ :=
  set.map fun frag => if ¬ frag.isFree ∧ frag.expiresAt < timestamp then frag.reset else frag

end PacketAssemblerSet

/-! ### Processing fragments -/

/-- What a fragment adds to its packet. -/
inductive FragmentData where
  | octets (data : List UInt8) (offset : ℕ)
  | compressed (f : Decompressor)

/-- A fragment of the packet with the given key. Some fragments tell the size of the packet. -/
structure Fragment (κ : Type) where
  key : κ
  totalSize : Option ℕ
  data : FragmentData

/-- How far a fragment got. -/
inductive Received where
  | noSlot
  | badTotalSize
  | badData
  | incomplete
  | complete (payload : List UInt8)
  deriving DecidableEq, Repr

namespace PacketAssembler

variable {κ : Type}

/-- `add` or `add_with`. -/
def addData (cfg : ReassemblyConfig) (pa : PacketAssembler κ) :
    FragmentData → Checked (PacketAssembler κ × Except AssemblerError Unit)
  | .octets data offset =>
    match pa.add cfg data offset with
    | .ok pa => .ok (pa, .ok ())
    | .error e => .ok (pa, .error e)
  | .compressed f => pa.addWith 0 f

def finish (pa : PacketAssembler κ) : Checked (PacketAssembler κ × Received) := do
  match ← pa.assemble with
  | (pa, none) => return (pa, .incomplete)
  | (pa, some payload) => return (pa, .complete payload)

def receiveData (cfg : ReassemblyConfig) (pa : PacketAssembler κ) (data : FragmentData) :
    Checked (PacketAssembler κ × Received) := do
  match ← pa.addData cfg data with
  | (pa, .error _) => return (pa, .badData)
  | (pa, .ok ()) => pa.finish

/-- What happens in the slot of a fragment. -/
def receive (cfg : ReassemblyConfig) (pa : PacketAssembler κ) (frag : Fragment κ) :
    Checked (PacketAssembler κ × Received) :=
  match frag.totalSize with
  | none => pa.receiveData cfg frag.data
  | some size =>
    match pa.setTotalSize cfg size with
    | .error _ => .ok (pa, .badTotalSize)
    | .ok pa => pa.receiveData cfg frag.data

end PacketAssembler

/-- The part that `process_ipv4` and `process_sixlowpan_fragment` have in common. -/
def PacketAssemblerSet.receive {κ : Type} [DecidableEq κ] (cfg : ReassemblyConfig)
    (set : PacketAssemblerSet κ) (expiresAt : Instant) (frag : Fragment κ) :
    Checked (PacketAssemblerSet κ × Received) :=
  match set.get frag.key expiresAt with
  | .error _ => .ok (set, .noSlot)
  | .ok (set, i) => do
    let slot ← Checked.index set i
    let (slot, r) ← slot.receive cfg frag
    return (set.set i slot, r)

end Smoltcp
