import Smoltcp.Time
import Smoltcp.Wire.HardwareAddress
import Smoltcp.Wire.Icmpv6.Packet

/-!
# Neighbor discovery messages

The messages of neighbor discovery and their options. An option that does not parse is ignored, but
one whose length is zero or that is longer than what is left makes the message malformed.
-/

namespace Smoltcp

open Outcome

/-- The most octets that a hardware address of an enabled medium has: 8 with IEEE 802.15.4, else
6. -/
structure HardwareConfig where
  maxHardwareAddressLen : ℕ
  len_le : maxHardwareAddressLen = 6 ∨ maxHardwareAddressLen = 8

/-! ### Options -/

namespace NdiscOption

inductive Kind where
  | sourceLinkLayerAddr
  | targetLinkLayerAddr
  | prefixInformation
  | redirectedHeader
  | mtu
  | unknown (value : UInt8)
  deriving DecidableEq, Repr

namespace Kind

def ofByte (value : UInt8) : Kind :=
  if value = 0x1 then .sourceLinkLayerAddr
  else if value = 0x2 then .targetLinkLayerAddr
  else if value = 0x3 then .prefixInformation
  else if value = 0x4 then .redirectedHeader
  else if value = 0x5 then .mtu
  else .unknown value

/-- The least length of an option that is not refused for its kind. -/
def minLen : Kind → ℕ
  | .prefixInformation => 32
  | .redirectedHeader => 48
  | _ => 0

end Kind

variable (buf : List UInt8)

def minOptLen : ℕ := 8

def optionType : Outcome Kind := do
  return .ofByte (← index buf 0)

/-- The length of the option, in units of 8 octets. -/
def dataLen : Outcome UInt8 := index buf 1

/-- Ensure that no accessor method will panic if called. -/
def checkLen : Outcome Unit := do
  if buf.length < minOptLen then fail
  else
    let stop := (← dataLen buf).toNat * 8
    reject (buf.length < stop)
    let kind ← optionType buf
    reject (stop < kind.minLen)

def newChecked : Outcome Unit := do
  checkLen buf
  reject ((← dataLen buf) = 0)

def linkLayerAddr (cfg : HardwareConfig) : Outcome RawHardwareAddress := do
  let left ← sub ((← dataLen buf).toNat * 8) 2
  return ⟨← slice buf 2 (min cfg.maxHardwareAddressLen left + 2)⟩

def data : Outcome (List UInt8) := do
  slice buf 2 ((← dataLen buf).toNat * 8)

end NdiscOption

structure NdiscPrefixInformation where
  prefixLen : UInt8
  onLink : Bool
  addrconf : Bool
  validLifetime : Duration
  preferredLifetime : Duration
  addr : Ipv6.Address
  deriving DecidableEq, Repr

structure NdiscRedirectedHeader where
  header : Ipv6Repr
  data : List UInt8
  deriving DecidableEq, Repr

inductive NdiscOptionRepr where
  | sourceLinkLayerAddr (addr : RawHardwareAddress)
  | targetLinkLayerAddr (addr : RawHardwareAddress)
  | prefixInformation (info : NdiscPrefixInformation)
  | redirectedHeader (redirected : NdiscRedirectedHeader)
  | mtu (value : BitVec 32)
  | unknown (type length : UInt8) (data : List UInt8)
  deriving DecidableEq, Repr

namespace NdiscOptionRepr

open NdiscOption

/-- Parse an option. -/
def parse (cfg : HardwareConfig) (buf : List UInt8) : Outcome NdiscOptionRepr := do
  checkLen buf
  let length ← dataLen buf
  match ← optionType buf with
  | .sourceLinkLayerAddr =>
    if 1 ≤ length then return .sourceLinkLayerAddr (← linkLayerAddr buf cfg) else fail
  | .targetLinkLayerAddr =>
    if 1 ≤ length then return .targetLinkLayerAddr (← linkLayerAddr buf cfg) else fail
  | .prefixInformation =>
    if length = 4 then
      let flags ← index buf 3
      let valid ← readU32 buf 4
      let preferred ← readU32 buf 8
      return .prefixInformation {
        prefixLen := ← index buf 2
        onLink := flags &&& (0b10000000 : UInt8) ≠ 0
        addrconf := flags &&& (0b01000000 : UInt8) ≠ 0
        validLifetime := Duration.fromSecs (.ofNat valid.toNat)
        preferredLifetime := Duration.fromSecs (.ofNat preferred.toNat)
        addr := ← Icmpv6Packet.addressAt buf 16 }
    else fail
  | .redirectedHeader =>
    if length < 6 then fail
    else
      let redirected ← sliceFrom (← data buf) 6
      Ipv6Packet.checkLen redirected
      let header ← Ipv6Repr.parse redirected
      return .redirectedHeader ⟨header, ← sliceAt redirected header.bufferLen header.payloadLen⟩
  | .mtu => if length = 1 then return .mtu (← readU32 buf 4) else fail
  | .unknown type => if length ≠ 0 then return .unknown type length (← data buf) else fail

/-- The length of an option of a hardware address, rounded up to a multiple of 8. -/
def addrLen (addr : RawHardwareAddress) : ℕ := (2 + addr.len + 7) / 8 * 8

/-- The length of the option that is emitted. -/
def bufferLen : NdiscOptionRepr → ℕ
  | .sourceLinkLayerAddr addr => addrLen addr
  | .targetLinkLayerAddr addr => addrLen addr
  | .prefixInformation _ => 32
  | .redirectedHeader redirected =>
    (8 + redirected.header.bufferLen + redirected.data.length + 7) / 8 * 8
  | .mtu _ => 8
  | .unknown _ length _ => length.toNat * 8

end NdiscOptionRepr

/-! ### Messages -/

structure NeighborFlags where
  router : Bool
  solicited : Bool
  override : Bool
  deriving DecidableEq, Repr

def NeighborFlags.ofByte (value : UInt8) : NeighborFlags where
  router := value &&& (0b10000000 : UInt8) ≠ 0
  solicited := value &&& (0b01000000 : UInt8) ≠ 0
  override := value &&& (0b00100000 : UInt8) ≠ 0

inductive NdiscRepr where
  | routerSolicit (lladdr : Option RawHardwareAddress)
  | routerAdvert (hopLimit : UInt8) (managed other : Bool)
      (routerLifetime reachableTime retransTime : Duration) (lladdr : Option RawHardwareAddress)
      (mtu : Option (BitVec 32)) (prefixInfo : Option NdiscPrefixInformation)
  | neighborSolicit (targetAddr : Ipv6.Address) (lladdr : Option RawHardwareAddress)
  | neighborAdvert (flags : NeighborFlags) (targetAddr : Ipv6.Address)
      (lladdr : Option RawHardwareAddress)
  | redirect (targetAddr destAddr : Ipv6.Address) (lladdr : Option RawHardwareAddress)
      (redirectedHdr : Option NdiscRedirectedHeader)
  deriving DecidableEq, Repr

/-- What the options of a message set; of several options of one kind the last one counts. -/
structure NdiscOptions where
  srcLlAddr : Option RawHardwareAddress := none
  mtu : Option (BitVec 32) := none
  prefixInfo : Option NdiscPrefixInformation := none
  targetLlAddr : Option RawHardwareAddress := none
  redirectedHdr : Option NdiscRedirectedHeader := none
  deriving DecidableEq, Repr

namespace NdiscOptions

def set (options : NdiscOptions) : NdiscOptionRepr → NdiscOptions
  | .sourceLinkLayerAddr addr => { options with srcLlAddr := some addr }
  | .targetLinkLayerAddr addr => { options with targetLlAddr := some addr }
  | .prefixInformation info => { options with prefixInfo := some info }
  | .redirectedHeader redirected => { options with redirectedHdr := some redirected }
  | .mtu value => { options with mtu := some value }
  | .unknown .. => options

/-- `if let Ok(opt) = parse(..)`: if an option doesn't parse, it is ignored. -/
def setParsed (options : NdiscOptions) : Outcome NdiscOptionRepr → Outcome NdiscOptions
  | .ok opt => .ok (options.set opt)
  | .error .malformed => .ok options
  | .error (.panic p) => .error (.panic p)

/-- The loop over the options from an offset on. -/
def parse (cfg : HardwareConfig) (payload : List UInt8) (offset : ℕ) (options : NdiscOptions) :
    Outcome NdiscOptions :=
  if offset < payload.length then do
    let pkt ← sliceFrom payload offset
    NdiscOption.newChecked pkt
    let options ← options.setParsed (NdiscOptionRepr.parse cfg pkt)
    let len := (← NdiscOption.dataLen pkt).toNat * 8
    if _hlen : len = 0 then fail else parse cfg payload (offset + len) options
  else .ok options
termination_by payload.length - offset

end NdiscOptions

namespace NdiscRepr

open Icmpv6Packet

/-- Parse a message of neighbor discovery. -/
def parse (cfg : HardwareConfig) (buf : List UInt8) : Outcome NdiscRepr := do
  checkLen buf
  let options ← NdiscOptions.parse cfg (← payload buf) 0 {}
  match ← msgType buf with
  | .routerSolicit => return .routerSolicit options.srcLlAddr
  | .routerAdvert =>
    let flags ← index buf 5
    let lifetime ← readU16 buf 6
    let reachable ← readU32 buf 8
    let retrans ← readU32 buf 12
    return .routerAdvert (← index buf 4) (flags &&& (0b10000000 : UInt8) ≠ 0)
      (flags &&& (0b01000000 : UInt8) ≠ 0) (Duration.fromSecs lifetime.toUInt64)
      (Duration.fromMillis (.ofNat reachable.toNat)) (Duration.fromMillis (.ofNat retrans.toNat))
      options.srcLlAddr options.mtu options.prefixInfo
  | .neighborSolicit => return .neighborSolicit (← addressAt buf 8) options.srcLlAddr
  | .neighborAdvert =>
    return .neighborAdvert (.ofByte (← index buf 4)) (← addressAt buf 8) options.targetLlAddr
  | .redirect =>
    return .redirect (← addressAt buf 8) (← addressAt buf 24) options.srcLlAddr
      options.redirectedHdr
  | _ => fail

/-- The length of an option that may be absent. -/
def optLen (repr : Option NdiscOptionRepr) : ℕ := (repr.map NdiscOptionRepr.bufferLen).getD 0

/-- The length of the message that is emitted. -/
def bufferLen : NdiscRepr → ℕ
  | .routerSolicit lladdr => 8 + optLen (lladdr.map .sourceLinkLayerAddr)
  | .routerAdvert _ _ _ _ _ _ lladdr mtu prefixInfo =>
    16 + (optLen (lladdr.map .targetLinkLayerAddr) + optLen (mtu.map .mtu) +
      optLen (prefixInfo.map .prefixInformation))
  | .neighborSolicit _ lladdr => 24 + optLen (lladdr.map .sourceLinkLayerAddr)
  | .neighborAdvert _ _ lladdr => 24 + optLen (lladdr.map .sourceLinkLayerAddr)
  | .redirect _ _ lladdr redirectedHdr =>
    40 + optLen (lladdr.map .targetLinkLayerAddr) + optLen (redirectedHdr.map .redirectedHeader)

end NdiscRepr

end Smoltcp
