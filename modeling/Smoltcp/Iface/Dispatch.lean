import Smoltcp.Storage.RingBuffer.Basic
import Smoltcp.Wire.Ipv4
import Smoltcp.Wire.HardwareAddress

/-!
# Dispatching packets

One fragmenter is shared by everything that an interface sends. A packet that is too large for the
device is staged in its buffer as a whole; its first fragment is transmitted at once, the others one
at a time when the interface is polled for egress.

Frames are modelled by what a fragment needs of them: the link-layer destination and the octets
behind the link-layer header. The octets of a fresh transmit buffer do not matter to what is
emitted; they are zeros here.
-/

namespace Smoltcp

structure DeviceCapabilities where
  medium : Medium
  maxTransmissionUnit : ℕ
  /-- Whether checksums of IPv4 headers are computed on transmission. -/
  checksumIpv4Tx : Bool
  deriving DecidableEq, Repr

def ethernetHeaderLen : ℕ := 14

/-- What is left of the MTU for an IP packet. A device on Ethernet has to have room for its header:
below that the subtraction of the source underflows, and this one gives zero. -/
def DeviceCapabilities.ipMtu (caps : DeviceCapabilities) : ℕ :=
  match caps.medium with
  | .ethernet => caps.maxTransmissionUnit - ethernetHeaderLen
  | .ip => caps.maxTransmissionUnit
  | .ieee802154 => caps.maxTransmissionUnit

structure Ipv4Fragmenter where
  repr : Ipv4.Repr
  dstHardwareAddr : EthernetAddress
  /-- The offset of the next fragment. -/
  fragOffset : UInt16
  ident : UInt16
  deriving DecidableEq, Repr

structure SixlowpanFragmenter where
  datagramSize : UInt16
  datagramTag : UInt16
  datagramOffset : ℕ
  /-- The size of the FRAG_N packets. -/
  fragnSize : ℕ
  llDstAddr : Ieee802154Address
  llSrcAddr : Ieee802154Address
  deriving DecidableEq, Repr

structure Fragmenter where
  buffer : List UInt8
  packetLen : ℕ
  /-- The amount of octets that already have been transmitted. -/
  sentBytes : ℕ
  ipv4 : Ipv4Fragmenter
  sixlowpan : SixlowpanFragmenter
  deriving DecidableEq, Repr

namespace Fragmenter

def emptyRepr : Ipv4.Repr := ⟨0, 0, .unknown 0, 0, 0⟩

def new (fragmentationBufferSize : ℕ) : Fragmenter where
  buffer := List.replicate fragmentationBufferSize 0
  packetLen := 0
  sentBytes := 0
  ipv4 := ⟨emptyRepr, 0, 0, 0⟩
  sixlowpan := ⟨0, 0, 0, 0, .absent, .absent⟩

/-- Everything is transmitted. -/
def finished (frag : Fragmenter) : Prop := frag.packetLen = frag.sentBytes

/-- There is nothing to transmit. -/
def isEmpty (frag : Fragmenter) : Prop := frag.packetLen = 0

instance (frag : Fragmenter) : Decidable frag.finished := inferInstanceAs (Decidable (_ = _))

instance (frag : Fragmenter) : Decidable frag.isEmpty := inferInstanceAs (Decidable (_ = _))

def reset (frag : Fragmenter) : Fragmenter :=
  { frag with
    packetLen := 0
    sentBytes := 0
    ipv4 := { frag.ipv4 with repr := emptyRepr, dstHardwareAddr := 0 }
    sixlowpan := { frag.sixlowpan with
      datagramSize := 0
      datagramTag := 0
      fragnSize := 0
      llDstAddr := .absent
      llSrcAddr := .absent } }

end Fragmenter

/-- What is emitted into a slice. -/
abbrev Emitter := (buf : List UInt8) → Checked { out : List UInt8 // out.length = buf.length }

def Emitter.ofWriter (write : Writer UInt8) : Emitter := fun buf => .ok (write buf)

/-! ### IPv4 -/

/-- A frame on an Ethernet or IP medium. -/
structure Frame where
  dstHardwareAddr : EthernetAddress
  packet : List UInt8
  deriving DecidableEq, Repr

/-- The closure `emit_ip`: the IP header, and the payload behind it. -/
def emitIp (caps : DeviceCapabilities) (repr : Ipv4.Repr) (emitPayload : Emitter)
    (txBuffer : List UInt8) : Checked (List UInt8) := do
  let txBuffer := repr.emit caps.checksumIpv4Tx txBuffer
  let payload ← emitPayload (txBuffer.drop repr.bufferLen)
  return txBuffer.take repr.bufferLen ++ payload.1

/-- The part of `dispatch_ip` behind the lookup of the hardware address, for an IPv4 packet. -/
def dispatchIpv4 (caps : DeviceCapabilities) (ipv4Id : UInt16) (dstHardwareAddr : EthernetAddress)
    (repr : Ipv4.Repr) (emitPayload : Emitter) (frag : Fragmenter) :
    Checked (Fragmenter × Option Frame) := do
  Checked.assert (repr.dstAddr ≠ 0)
  let totalIpLen := repr.bufferLen + repr.payloadLen
  if caps.ipMtu < totalIpLen then
    let firstFragIpLen := caps.ipMtu
    -- The fragmentation buffer is too small.
    if frag.buffer.length < totalIpLen then return (frag, none)
    else
      let payloadLen ← Checked.sub firstFragIpLen repr.bufferLen
      let buffer ← emitIp caps { repr with payloadLen } emitPayload frag.buffer
      let buffer := Ipv4.setFragment caps.checksumIpv4Tx ipv4Id true 0 buffer
      return ({ frag with
          buffer
          packetLen := totalIpLen
          sentBytes := firstFragIpLen
          ipv4 := ⟨repr, dstHardwareAddr, .ofNat payloadLen, ipv4Id⟩ },
        some ⟨dstHardwareAddr, buffer.take firstFragIpLen⟩)
  else
    let packet ← emitIp caps repr emitPayload (List.replicate totalIpLen 0)
    return (frag, some ⟨dstHardwareAddr, packet⟩)

def dispatchIpv4Frag (caps : DeviceCapabilities) (frag : Fragmenter) :
    Checked (Fragmenter × Frame) := do
  let headerLen := frag.ipv4.repr.bufferLen
  let left ← Checked.sub frag.packetLen frag.sentBytes
  let payloadLen ← Checked.sub (min (left + headerLen) caps.ipMtu) headerLen
  let repr := { frag.ipv4.repr with payloadLen }
  let header := Ipv4.setFragment caps.checksumIpv4Tx frag.ipv4.ident (decide (left ≠ payloadLen))
    frag.ipv4.fragOffset (repr.emit caps.checksumIpv4Tx (List.replicate headerLen 0))
  let start := frag.ipv4.fragOffset.toNat + headerLen
  let data ← Checked.slice frag.buffer start (start + payloadLen)
  return ({ frag with
      sentBytes := frag.sentBytes + payloadLen
      ipv4 := { frag.ipv4 with repr, fragOffset := frag.ipv4.fragOffset + .ofNat payloadLen } },
    ⟨frag.ipv4.dstHardwareAddr, header ++ data⟩)

/-- Process fragments that still need to be sent. `token` tells whether the device can transmit. -/
def ipv4Egress (caps : DeviceCapabilities) (token : Bool) (frag : Fragmenter) :
    Checked (Fragmenter × Option Frame) :=
  -- Reset the buffer when we transmitted everything.
  let frag := if frag.finished then frag.reset else frag
  if frag.isEmpty then .ok (frag, none)
  else if frag.sentBytes < frag.packetLen ∧ token then do
    let (frag, frame) ← dispatchIpv4Frag caps frag
    return (frag, some frame)
  else .ok (frag, none)

/-! ### 6LoWPAN -/

/-- A fragment on an IEEE 802.15.4 medium. The first fragment of a datagram has no offset. -/
structure SixlowpanFrame where
  llDstAddr : Ieee802154Address
  llSrcAddr : Ieee802154Address
  datagramSize : UInt16
  datagramTag : UInt16
  datagramOffset : Option UInt8
  payload : List UInt8
  deriving DecidableEq, Repr

def Ieee802154Address.len : Ieee802154Address → ℕ
  | .absent => 0
  | .short _ => 2
  | .extended _ => 8

/-- The length of the IEEE 802.15.4 header between two addresses, with a compressed PAN id. -/
def ieee802154Len (dst src : Ieee802154Address) : ℕ := 3 + 2 + dst.len + src.len

/-- An IPv6 packet by the sizes that `compressed_packet_size` computes for it, its payload length
and what `ipv6_to_sixlowpan` writes. -/
structure SixlowpanPacket where
  totalSize : ℕ
  compressedSize : ℕ
  uncompressedSize : ℕ
  payloadLen : ℕ
  emit : Writer UInt8

/-- The part of `dispatch_sixlowpan` for packets that do not fit in one frame; the others leave the
fragmenter alone. -/
def dispatchSixlowpan (llSrcAddr llDstAddr : Ieee802154Address) (tag : UInt16)
    (packet : SixlowpanPacket) (frag : Fragmenter) :
    Checked (Fragmenter × Option SixlowpanFrame) :=
  let ieeeLen := ieee802154Len llDstAddr llSrcAddr
  if 125 < packet.totalSize + ieeeLen then
    -- The fragmentation buffer is too small.
    if frag.buffer.length < packet.totalSize then .ok (frag, none)
    else do
      let buffer := (packet.emit frag.buffer).1
      let datagramSize := UInt16.ofNat (packet.payloadLen + 40)
      let headerDiff ← Checked.sub packet.uncompressedSize packet.compressedSize
      let room ← Checked.sub 125 ieeeLen
      let room1 ← Checked.sub room 4
      let frag1Size ← Checked.sub ((room1 + headerDiff) / 8 * 8) headerDiff
      let roomn ← Checked.sub room 5
      let payload ← Checked.slice buffer 0 frag1Size
      return ({ frag with
          buffer
          packetLen := packet.totalSize
          sentBytes := frag1Size
          sixlowpan := ⟨datagramSize, tag, frag1Size + headerDiff, roomn / 8 * 8, llDstAddr,
            llSrcAddr⟩ },
        some ⟨llDstAddr, llSrcAddr, datagramSize, tag, none, payload⟩)
  else .ok (frag, none)

def dispatchSixlowpanFrag (frag : Fragmenter) : Checked (Fragmenter × SixlowpanFrame) := do
  let left ← Checked.sub frag.packetLen frag.sentBytes
  let fragSize := min left frag.sixlowpan.fragnSize
  let payload ← Checked.slice frag.buffer frag.sentBytes (frag.sentBytes + fragSize)
  return ({ frag with
      sentBytes := frag.sentBytes + fragSize
      sixlowpan := { frag.sixlowpan with
        datagramOffset := frag.sixlowpan.datagramOffset + fragSize } },
    ⟨frag.sixlowpan.llDstAddr, frag.sixlowpan.llSrcAddr, frag.sixlowpan.datagramSize,
      frag.sixlowpan.datagramTag, some (.ofNat (frag.sixlowpan.datagramOffset / 8)), payload⟩)

/-- Process fragments that still need to be sent. `token` tells whether the device can transmit. -/
def sixlowpanEgress (token : Bool) (frag : Fragmenter) :
    Checked (Fragmenter × Option SixlowpanFrame) :=
  -- Reset the buffer when we transmitted everything.
  let frag := if frag.finished then frag.reset else frag
  if frag.isEmpty then .ok (frag, none)
  else if frag.sentBytes < frag.packetLen ∧ token then do
    let (frag, frame) ← dispatchSixlowpanFrag frag
    return (frag, some frame)
  else .ok (frag, none)

end Smoltcp
