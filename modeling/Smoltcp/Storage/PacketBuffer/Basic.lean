import Smoltcp.Storage.RingBuffer.Refinement

/-!
# The packet buffer

A queue of packets in two rings: one for the octets of all payloads, one for the size and header of
each packet. A payload never wraps around the end of its ring; where it would, the octets up to the
end become padding, which has an entry without a header.
-/

namespace Smoltcp

/-- Size and header of a packet. -/
structure PacketMetadata (η : Type) where
  size : ℕ
  header : Option η
  deriving DecidableEq, Repr

namespace PacketMetadata

variable {η : Type}

def padding (size : ℕ) : PacketMetadata η := ⟨size, none⟩

def packet (size : ℕ) (header : η) : PacketMetadata η := ⟨size, some header⟩

def isPadding (m : PacketMetadata η) : Prop := m.header = none

instance (m : PacketMetadata η) : Decidable m.isPadding :=
  decidable_of_iff (m.header.isNone = true) Option.isNone_iff_eq_none

end PacketMetadata

structure PacketBuffer (η : Type) where
  metadataRing : RingBuffer (PacketMetadata η)
  payloadRing : RingBuffer UInt8

/-- What a closure `FnOnce(&mut H, &mut [u8]) -> Result<R, E>` does with a packet. -/
structure PacketResult (η ε ρ : Type) (n : ℕ) where
  header : η
  payload : List UInt8
  length_payload : payload.length = n
  result : Except ε ρ

abbrev PacketCallback (η ε ρ : Type) :=
  (header : η) → (payload : List UInt8) → PacketResult η ε ρ payload.length

namespace PacketBuffer

variable {η ε ρ : Type}

def new (metadataStorage : List (PacketMetadata η)) (payloadStorage : List UInt8) :
    PacketBuffer η where
  metadataRing := .new metadataStorage
  payloadRing := .new payloadStorage

/-! ### Enqueueing -/

/-- The caller leaves what it is returned as it is. -/
def untouched : Writer UInt8 := Writer.keep

/-- Add padding to the end of the ring buffer so that the contiguous window is at the beginning of
the ring buffer. -/
def addPadding (pb : PacketBuffer η) (size : ℕ) :
    Checked (PacketBuffer η × Except Storage.Full Unit) := do
  let (metadataRing, r) ← pb.metadataRing.enqueueOne fun _ => .padding size
  match r with
  | .error e => return ({ pb with metadataRing }, .error e)
  | .ok _ =>
    let (payloadRing, _) ← pb.payloadRing.enqueueMany size untouched
    return (⟨metadataRing, payloadRing⟩, .ok ())

/-- The common part of `enqueue` and `enqueue_with_infallible`: see whether there are `size`
contiguous octets, adding padding where that helps. -/
def makeRoom (pb : PacketBuffer η) (size : ℕ) :
    Checked (PacketBuffer η × Except Storage.Full Unit) :=
  let window := pb.payloadRing.window
  let contigWindow := pb.payloadRing.contiguousWindow
  if window < size then .ok (pb, .error .mk)
  else if contigWindow < size then
    if window - contigWindow < size then .ok (pb, .error .mk) else pb.addPadding contigWindow
  else .ok (pb, .ok ())

/-- `*self.metadata_ring.enqueue_one()? = PacketMetadata::packet(size, header)`. -/
def enqueueMetadata (pb : PacketBuffer η) (size : ℕ) (header : η) :
    Checked (PacketBuffer η × Except Storage.Full Unit) := do
  let (metadataRing, r) ← pb.metadataRing.enqueueOne fun _ => .packet size header
  return ({ pb with metadataRing }, r.map fun _ => ())

/-- The octets of a new packet are returned, and the caller writes them. -/
def enqueuePayload (pb : PacketBuffer η) (size : ℕ) (write : Writer UInt8) :
    Checked (PacketBuffer η) := do
  let (payloadRing, payloadBuf) ← pb.payloadRing.enqueueMany size write
  Checked.assert (payloadBuf.length = size)
  return { pb with payloadRing }

/-- An empty ring is cleared (resetting `read_at`) to maximize for contiguous space. -/
def clearEmpty (pb : PacketBuffer η) : PacketBuffer η :=
  if pb.payloadRing.isEmpty then { pb with payloadRing := pb.payloadRing.clear } else pb

def enqueue (pb : PacketBuffer η) (size : ℕ) (header : η) (write : Writer UInt8) :
    Checked (PacketBuffer η × Except Storage.Full Unit) :=
  if pb.payloadRing.capacity < size ∨ pb.metadataRing.isFull then .ok (pb, .error .mk)
  else do
    match ← pb.clearEmpty.makeRoom size with
    | (pb, .error e) => return (pb, .error e)
    | (pb, .ok ()) =>
      match ← pb.enqueueMetadata size header with
      | (pb, .error e) => return (pb, .error e)
      | (pb, .ok ()) => return (← pb.enqueuePayload size write, .ok ())

/-- `|data| (f(&mut data[..max_size]), ())`. -/
def firstOctets (maxSize : ℕ) (f : Callback UInt8 Unit) : Callback UInt8 Unit := fun data =>
  { buf := (f (data.take maxSize)).buf ++ data.drop maxSize
    length_buf := by
      rw [List.length_append, (f (data.take maxSize)).length_buf, ← List.length_append,
        List.take_append_drop]
    size := (f (data.take maxSize)).size
    result := () }

def enqueueWithInfallible (pb : PacketBuffer η) (maxSize : ℕ) (header : η)
    (f : Callback UInt8 Unit) : Checked (PacketBuffer η × Except Storage.Full ℕ) :=
  if pb.payloadRing.capacity < maxSize ∨ pb.metadataRing.isFull then .ok (pb, .error .mk)
  else do
    match ← pb.makeRoom maxSize with
    | (pb, .error e) => return (pb, .error e)
    | (pb, .ok ()) =>
      let _ ← Checked.slice pb.payloadRing.writeSlice 0 maxSize
      let (payloadRing, size, _) ← pb.payloadRing.enqueueManyWith (firstOctets maxSize f)
      let (pb, r) ← enqueueMetadata { pb with payloadRing } size header
      return (pb, r.map fun _ => size)

/-! ### Dequeueing -/

/-- Drop the first entry if it is padding. -/
def dequeuePadding (pb : PacketBuffer η) : Checked (PacketBuffer η) := do
  let (metadataRing, r) ← pb.metadataRing.dequeueOneWith fun metadata =>
    (metadata, if metadata.isPadding then .ok metadata.size else .error ())
  match r with
  | .ok (.ok size) =>
    let (payloadRing, _) ← pb.payloadRing.dequeueMany size untouched
    return ⟨metadataRing, payloadRing⟩
  | _ => return { pb with metadataRing }

/-- The closure that hands a packet of `size` octets to `f`. -/
def handPacket (size : ℕ) (header : η) (f : PacketCallback η ε ρ) :
    Callback UInt8 (η × Except ε ρ) := fun payloadBuf =>
  let out := f header (payloadBuf.take size)
  { buf := out.payload ++ payloadBuf.drop size
    length_buf := by
      rw [List.length_append, out.length_payload, ← List.length_append, List.take_append_drop]
    size := if out.result.isOk then size else 0
    result := (out.header, out.result) }

def dequeueWith (pb : PacketBuffer η) (f : PacketCallback η ε ρ) :
    Checked (PacketBuffer η × Except Storage.Empty (Except ε ρ)) := do
  let pb ← pb.dequeuePadding
  if pb.metadataRing.isEmpty then return (pb, .error .mk)
  else
    let metadata ← Checked.index pb.metadataRing.storage pb.metadataRing.readAt
    Checked.assert (metadata.size ≤ pb.payloadRing.readSlice.length)
    let header ← Checked.unwrap metadata.header
    let _ ← Checked.slice pb.payloadRing.readSlice 0 metadata.size
    let (payloadRing, _, header, res) ←
      pb.payloadRing.dequeueManyWith (handPacket metadata.size header f)
    let (metadataRing, r) ← pb.metadataRing.dequeueOneWith fun metadata =>
      ({ metadata with header := some header }, res)
    return (⟨metadataRing, payloadRing⟩, r)

/-- The header is taken out of its entry. The octets are returned, and the caller may still write
them. -/
def dequeue (pb : PacketBuffer η) (write : Writer UInt8) :
    Checked (PacketBuffer η × Except Storage.Empty (η × List UInt8)) := do
  let pb ← pb.dequeuePadding
  match ← pb.metadataRing.dequeueOne fun metadata => { metadata with header := none } with
  | (metadataRing, .error e) => return ({ pb with metadataRing }, .error e)
  | (metadataRing, .ok metadata) =>
    let (payloadRing, payloadBuf) ← pb.payloadRing.dequeueMany metadata.size write
    Checked.assert (payloadBuf.length = metadata.size)
    let header ← Checked.unwrap metadata.header
    return (⟨metadataRing, payloadRing⟩, .ok (header, payloadBuf))

def peek (pb : PacketBuffer η) :
    Checked (PacketBuffer η × Except Storage.Empty (η × List UInt8)) := do
  let pb ← pb.dequeuePadding
  match (pb.metadataRing.getAllocated 0 1).head? with
  | some metadata =>
    let header ← Checked.unwrap metadata.header
    return (pb, .ok (header, pb.payloadRing.getAllocated 0 metadata.size))
  | none => return (pb, .error .mk)

def reset (pb : PacketBuffer η) : PacketBuffer η :=
  ⟨pb.metadataRing.clear, pb.payloadRing.clear⟩

end PacketBuffer

end Smoltcp
