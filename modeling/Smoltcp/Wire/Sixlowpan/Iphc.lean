import Smoltcp.Wire.Sixlowpan.Address

/-!
# Compressed IPv6 headers

A header of LOWPAN_IPHC: sixteen bits that say which fields follow and how the addresses are
carried, and the fields. A multicast destination that has no short form is written in full, but its
mode says that one octet follows (`roundTrips_iff`).
-/

namespace Smoltcp

namespace Sixlowpan

inductive NextHeader where
  | compressed
  | uncompressed (protocol : IpProtocol)
  deriving DecidableEq, Repr

/-- The value of the dispatch field of a compressed header. -/
def dispatchIphcHeader : UInt8 := 0x03

end Sixlowpan

namespace IphcPacket

open Outcome Sixlowpan

/-! ### Fields -/

section Fields

variable (buf : List UInt8)

/-- Bits of the first two octets. -/
def field (mask shift : UInt16) : Outcome UInt8 := do
  let raw ← readU16 buf 0
  return ((raw >>> shift) &&& mask).toUInt8

def dispatchField : Outcome UInt8 := field buf 0b111 13

def tfField : Outcome UInt8 := field buf 0b11 11

def nhField : Outcome UInt8 := field buf 0b1 10

def hlimField : Outcome UInt8 := field buf 0b11 8

def cidField : Outcome UInt8 := field buf 0b1 7

def sacField : Outcome UInt8 := field buf 0b1 6

def samField : Outcome UInt8 := field buf 0b11 4

def mField : Outcome UInt8 := field buf 0b1 3

def dacField : Outcome UInt8 := field buf 0b1 2

def damField : Outcome UInt8 := field buf 0b11 0

/-- The size in octets of the CID field. -/
def cidSize : Outcome ℕ := do
  return if (← cidField buf) = 1 then 1 else 0

/-- The start for the IP fields. -/
def ipFieldsStart : Outcome ℕ := do
  return 2 + (← cidSize buf)

/-- The size in octets of the traffic class field. -/
def trafficClassSize : Outcome ℕ := do
  match ← tfField buf with
  | 0b00 => return 4
  | 0b01 => return 3
  | 0b10 => return 1
  | 0b11 => return 0
  | _ => .error (.panic .unreachable)

/-- The size in octets of the next header field. -/
def nextHeaderSize : Outcome ℕ := do
  return if (← nhField buf) ≠ 1 then 1 else 0

/-- The size in octets of the hop limit field. -/
def hopLimitSize : Outcome ℕ := do
  return if (← hlimField buf) = 0b00 then 1 else 0

/-- The size in octets of the source address. -/
def srcAddressSize : Outcome ℕ := do
  match (← sacField buf, ← samField buf) with
  | (0, 0b00) => return 16 -- The full address is carried in-line.
  | (0, 0b01) => return 8 -- The first 64 bits are elided.
  | (0, 0b10) => return 2 -- The first 112 bits are elided.
  | (0, 0b11) => return 0 -- The address is fully elided.
  | (1, 0b00) => return 0 -- The UNSPECIFIED address.
  | (1, 0b01) => return 8 -- Address derived using context information.
  | (1, 0b10) => return 2 -- Address derived using context information.
  | (1, 0b11) => return 0 -- Address derived using context information.
  | _ => .error (.panic .unreachable)

/-- The size in octets of the destination address. -/
def dstAddressSize : Outcome ℕ := do
  match (← mField buf, ← dacField buf, ← damField buf) with
  | (0, 0, 0b00) => return 16 -- The full address is carried in-line.
  | (0, 0, 0b01) => return 8 -- The first 64 bits are elided.
  | (0, 0, 0b10) => return 2 -- The first 112 bits are elided.
  | (0, 0, 0b11) => return 0 -- The address is fully elided.
  | (0, 1, 0b00) => return 0 -- Reserved.
  | (0, 1, 0b01) => return 8 -- Address derived using context information.
  | (0, 1, 0b10) => return 2 -- Address derived using context information.
  | (0, 1, 0b11) => return 0 -- Address derived using context information.
  | (1, 0, 0b00) => return 16 -- The full address is carried in-line.
  | (1, 0, 0b01) => return 6 -- The address takes the form ffXX::00XX:XXXX:XXXX.
  | (1, 0, 0b10) => return 4 -- The address takes the form ffXX::00XX:XXXX.
  | (1, 0, 0b11) => return 1 -- The address takes the form ff02::00XX.
  | (1, 1, 0b00) => return 6 -- Match Unicast-Prefix-based IPv6.
  | (1, 1, 0b01) => return 0 -- Reserved.
  | (1, 1, 0b10) => return 0 -- Reserved.
  | (1, 1, 0b11) => return 0 -- Reserved.
  | _ => .error (.panic .unreachable)

/-- Where the addresses start. -/
def addressesStart : Outcome ℕ := do
  return (← ipFieldsStart buf) + (← trafficClassSize buf) + (← nextHeaderSize buf) +
    (← hopLimitSize buf)

/-- The length of the header. -/
def headerLen : Outcome ℕ := do
  return (← addressesStart buf) + (← srcAddressSize buf) + (← dstAddressSize buf)

def checkLen : Outcome Unit := do
  if buf.length < 2 then fail
  else reject ((← headerLen buf) > buf.length)

def nextHeader : Outcome NextHeader := do
  if (← nhField buf) = 1 then return .compressed
  else
    let start := (← ipFieldsStart buf) + (← trafficClassSize buf)
    return .uncompressed (.ofByte (← index (← slice buf start (start + 1)) 0))

def hopLimit : Outcome UInt8 := do
  match ← hlimField buf with
  | 0b00 =>
    let start := (← ipFieldsStart buf) + (← trafficClassSize buf) + (← nextHeaderSize buf)
    index (← slice buf start (start + 1)) 0
  | 0b01 => return 1
  | 0b10 => return 64
  | 0b11 => return 255
  | _ => .error (.panic .unreachable)

/-- The source context identifier. -/
def srcContextId : Outcome (Option UInt8) := do
  if (← cidField buf) = 1 then return some ((← index buf 2) >>> 4) else return none

/-- The destination context identifier. -/
def dstContextId : Outcome (Option UInt8) := do
  if (← cidField buf) = 1 then return some ((← index buf 2) &&& 0x0f) else return none

/-- The ECN field, when it is inlined. -/
def ecnField : Outcome (Option UInt8) := do
  match ← tfField buf with
  | 0b00 | 0b01 | 0b10 =>
    let data ← sliceFrom buf (← ipFieldsStart buf)
    return some ((← index data 0) &&& 0b11000000)
  | 0b11 => return none
  | _ => .error (.panic .unreachable)

/-- The DSCP field, when it is inlined. -/
def dscpField : Outcome (Option UInt8) := do
  match ← tfField buf with
  | 0b00 | 0b10 =>
    let data ← sliceFrom buf (← ipFieldsStart buf)
    return some ((← index data 0) &&& 0b111111)
  | 0b01 | 0b11 => return none
  | _ => .error (.panic .unreachable)

/-- The flow label field, when it is inlined. -/
def flowLabelField : Outcome (Option UInt16) := do
  match ← tfField buf with
  | 0b00 => return some (← readU16 (← sliceFrom buf (← ipFieldsStart buf)) 2)
  | 0b01 => return some (← readU16 (← sliceFrom buf (← ipFieldsStart buf)) 1)
  | 0b10 | 0b11 => return none
  | _ => .error (.panic .unreachable)

def srcAddr : Outcome UnresolvedAddress := do
  let start ← addressesStart buf
  match (← sacField buf, ← samField buf) with
  | (0, 0b00) => return .withoutContext (.fullInline (← sliceAt buf start 16))
  | (0, 0b01) => return .withoutContext (.inLine64bits (← sliceAt buf start 8))
  | (0, 0b10) => return .withoutContext (.inLine16bits (← sliceAt buf start 2))
  | (0, 0b11) => return .withoutContext .fullyElided
  | (1, 0b00) => return .withContext 0 .unspecified
  | (1, 0b01) =>
    let id ← okOr (← srcContextId buf)
    return .withContext id.toNat (.inLine64bits (← sliceAt buf start 8))
  | (1, 0b10) =>
    let id ← okOr (← srcContextId buf)
    return .withContext id.toNat (.inLine16bits (← sliceAt buf start 2))
  | (1, 0b11) =>
    let id ← okOr (← srcContextId buf)
    return .withContext id.toNat .fullyElided
  | _ => fail

def dstAddr : Outcome UnresolvedAddress := do
  let start := (← addressesStart buf) + (← srcAddressSize buf)
  match (← mField buf, ← dacField buf, ← damField buf) with
  | (0, 0, 0b00) => return .withoutContext (.fullInline (← sliceAt buf start 16))
  | (0, 0, 0b01) => return .withoutContext (.inLine64bits (← sliceAt buf start 8))
  | (0, 0, 0b10) => return .withoutContext (.inLine16bits (← sliceAt buf start 2))
  | (0, 0, 0b11) => return .withoutContext .fullyElided
  | (0, 1, 0b00) => return .reserved
  | (0, 1, 0b01) =>
    let id ← okOr (← dstContextId buf)
    return .withContext id.toNat (.inLine64bits (← sliceAt buf start 8))
  | (0, 1, 0b10) =>
    let id ← okOr (← dstContextId buf)
    return .withContext id.toNat (.inLine16bits (← sliceAt buf start 2))
  | (0, 1, 0b11) =>
    let id ← okOr (← dstContextId buf)
    return .withContext id.toNat .fullyElided
  | (1, 0, 0b00) => return .withoutContext (.fullInline (← sliceAt buf start 16))
  | (1, 0, 0b01) => return .withoutContext (.multicast48bits (← sliceAt buf start 6))
  | (1, 0, 0b10) => return .withoutContext (.multicast32bits (← sliceAt buf start 4))
  | (1, 0, 0b11) => return .withoutContext (.multicast8bits (← sliceAt buf start 1))
  | (1, 1, 0b00) => return .withContext 0 .notSupported
  | (1, 1, 0b01) | (1, 1, 0b10) | (1, 1, 0b11) => return .reserved
  | _ => fail

def payload : Outcome (List UInt8) := do
  sliceFrom buf (← headerLen buf)

end Fields

/-! ### Setters -/

section Setters

variable (buf : List UInt8)

def setBits (mask shift : UInt16) (value : UInt8) : Outcome (List UInt8) := do
  let raw ← readU16 buf 0
  write buf 0 (Octets.ofU16 ((raw &&& ~~~ (mask <<< shift)) ||| (value.toUInt16 <<< shift)))

/-- Set the dispatch field to `0b011`. -/
def setDispatchField : Outcome (List UInt8) := setBits buf 0b111 13 0b11

def setTfField (value : UInt8) : Outcome (List UInt8) := setBits buf 0b11 11 value

def setNhField (value : UInt8) : Outcome (List UInt8) := setBits buf 0b1 10 value

def setHlimField (value : UInt8) : Outcome (List UInt8) := setBits buf 0b11 8 value

def setCidField (value : UInt8) : Outcome (List UInt8) := setBits buf 0b1 7 value

def setSacField (value : UInt8) : Outcome (List UInt8) := setBits buf 0b1 6 value

def setSamField (value : UInt8) : Outcome (List UInt8) := setBits buf 0b11 4 value

def setMField (value : UInt8) : Outcome (List UInt8) := setBits buf 0b1 3 value

def setDacField (value : UInt8) : Outcome (List UInt8) := setBits buf 0b1 2 value

def setDamField (value : UInt8) : Outcome (List UInt8) := setBits buf 0b11 0 value

/-- Write octets at `idx`. Returned are the buffer and the index behind them. -/
def setField (idx : ℕ) (value : List UInt8) : Outcome (List UInt8 × ℕ) := do
  return (← write buf idx value, idx + value.length)

def setNextHeader (nh : NextHeader) (idx : ℕ) : Outcome (List UInt8 × ℕ) :=
  match nh with
  | .uncompressed nh => do
    let buf ← setNhField buf 0
    setField buf idx [nh.toByte]
  | .compressed => do
    return (← setNhField buf 1, idx)

def setHopLimit (hl : UInt8) (idx : ℕ) : Outcome (List UInt8 × ℕ) := do
  if hl = 255 then return (← setHlimField buf 0b11, idx)
  else if hl = 64 then return (← setHlimField buf 0b10, idx)
  else if hl = 1 then return (← setHlimField buf 0b01, idx)
  else
    let buf ← setHlimField buf 0b00
    setField buf idx [hl]

/-- The extended link-layer address gives the last 64 bits of the address. -/
def isEui64 (llAddr : Option Ieee802154Address) (addr : List UInt8) : Bool :=
  (llAddr.map fun ll => (ll.asEui64.map fun eui => decide (eui = addr.drop 8)).getD false).getD
    false

def setSrcAddress (srcAddr : Ipv6.Address) (llSrcAddr : Option Ieee802154Address) (idx : ℕ) :
    Outcome (List UInt8 × ℕ) := do
  let buf ← setCidField buf 0
  let buf ← setSacField buf 0
  let src := Ipv6.octets srcAddr
  if srcAddr = 0 then
    let buf ← setSacField buf 1
    return (← setSamField buf 0b00, idx)
  else if Ipv6.isLinkLocal srcAddr then
    if (src.drop 8).take 6 = [0, 0, 0, 0xff, 0xfe, 0] then
      if llSrcAddr = some (.ofShort (src.drop 14)) then
        -- The context contains the short address. We can elide the source address.
        return (← setSamField buf 0b11, idx)
      else
        -- We cannot elide the source address, however we can elide 112 bits.
        let buf ← setSamField buf 0b10
        setField buf idx (src.drop 14)
    else if isEui64 llSrcAddr src then
      -- The context contains the extended address. We can elide the source address.
      return (← setSamField buf 0b11, idx)
    else
      -- We cannot elide the source address, however we can elide 64 bits.
      let buf ← setSamField buf 0b01
      setField buf idx (src.drop 8)
  else
    -- We cannot elide anything.
    let buf ← setSamField buf 0b00
    setField buf idx src

def setDstAddress (dstAddr : Ipv6.Address) (llDstAddr : Option Ieee802154Address) (idx : ℕ) :
    Outcome (List UInt8 × ℕ) := do
  let buf ← setDacField buf 0
  let buf ← setDamField buf 0
  let buf ← setMField buf 0
  let dst := Ipv6.octets dstAddr
  if Ipv6.isMulticast dstAddr then
    let buf ← setMField buf 1
    if Octets.get dst 1 = 0x02 ∧ (dst.drop 2).take 13 = List.replicate 13 0 then
      let buf ← setDamField buf 0b11
      setField buf idx [Octets.get dst 15]
    else if (dst.drop 2).take 11 = List.replicate 11 0 then
      let buf ← setDamField buf 0b10
      let (buf, idx) ← setField buf idx [Octets.get dst 1]
      setField buf idx (dst.drop 13)
    else if (dst.drop 2).take 9 = List.replicate 9 0 then
      let buf ← setDamField buf 0b01
      let (buf, idx) ← setField buf idx [Octets.get dst 1]
      setField buf idx (dst.drop 11)
    else
      let buf ← setDamField buf 0b11
      setField buf idx dst
  else if Ipv6.isLinkLocal dstAddr then
    if (dst.drop 8).take 6 = [0, 0, 0, 0xff, 0xfe, 0] then
      if llDstAddr = some (.ofShort (dst.drop 14)) then return (← setDamField buf 0b11, idx)
      else
        let buf ← setDamField buf 0b10
        setField buf idx (dst.drop 14)
    else if isEui64 llDstAddr dst then return (← setDamField buf 0b11, idx)
    else
      let buf ← setDamField buf 0b01
      setField buf idx (dst.drop 8)
  else
    let buf ← setDamField buf 0b00
    setField buf idx dst

end Setters

end IphcPacket

/-! ### Representation -/

/-- A high-level representation of a 6LoWPAN IPHC header. -/
structure IphcRepr where
  srcAddr : Ipv6.Address
  llSrcAddr : Option Ieee802154Address
  dstAddr : Ipv6.Address
  llDstAddr : Option Ieee802154Address
  nextHeader : Sixlowpan.NextHeader
  hopLimit : UInt8
  ecn : Option UInt8 := none
  dscp : Option UInt8 := none
  flowLabel : Option UInt16 := none
  deriving DecidableEq, Repr

namespace IphcRepr

open Outcome Sixlowpan

/-- Parse a compressed header. Addresses are resolved with the link-layer addresses of the frame. -/
def parse (buf : List UInt8) (llSrcAddr llDstAddr : Option Ieee802154Address)
    (addrContext : List AddressContext) : Outcome IphcRepr := do
  IphcPacket.checkLen buf
  reject ((← IphcPacket.dispatchField buf) ≠ dispatchIphcHeader)
  let srcAddr ← (← IphcPacket.srcAddr buf).resolve llSrcAddr addrContext
  let dstAddr ← (← IphcPacket.dstAddr buf).resolve llDstAddr addrContext
  return { srcAddr, llSrcAddr, dstAddr, llDstAddr
           nextHeader := ← IphcPacket.nextHeader buf
           hopLimit := ← IphcPacket.hopLimit buf
           ecn := ← IphcPacket.ecnField buf
           dscp := ← IphcPacket.dscpField buf
           flowLabel := ← IphcPacket.flowLabelField buf }

/-- What a link-local address adds to the length of a header. -/
def linkLocalLen (addr : List UInt8) (llAddr : Option Ieee802154Address) : ℕ :=
  if (addr.drop 8).take 6 = [0, 0, 0, 0xff, 0xfe, 0] then
    if llAddr = some (.ofShort (addr.drop 14)) then 0 else 2
  else if IphcPacket.isEui64 llAddr addr then 0
  else 8

def trafficClassLen (repr : IphcRepr) : Outcome ℕ :=
  match repr.ecn, repr.dscp, repr.flowLabel with
  | some _, some _, some _ => return 4
  | some _, none, some _ => return 3
  | some _, some _, none => return 1
  | none, none, none => return 0
  | _, _, _ => .error (.panic .unreachable)

def nextHeaderLen (repr : IphcRepr) : ℕ :=
  match repr.nextHeader with
  | .compressed => 0 -- The next header is compressed.
  | .uncompressed _ => 1 -- The next header field is inlined.

def hopLimitLen (repr : IphcRepr) : ℕ :=
  if repr.hopLimit = 255 ∨ repr.hopLimit = 64 ∨ repr.hopLimit = 1 then 0 else 1

def srcAddrLen (repr : IphcRepr) : ℕ :=
  let src := Ipv6.octets repr.srcAddr
  if repr.srcAddr = 0 then 0
  else if Ipv6.isLinkLocal repr.srcAddr then linkLocalLen src repr.llSrcAddr
  else 16

def dstAddrLen (repr : IphcRepr) : ℕ :=
  let dst := Ipv6.octets repr.dstAddr
  if Ipv6.isMulticast repr.dstAddr then
    if Octets.get dst 1 = 0x02 ∧ (dst.drop 2).take 13 = List.replicate 13 0 then 1
    else if (dst.drop 2).take 11 = List.replicate 11 0 then 4
    else if (dst.drop 2).take 9 = List.replicate 9 0 then 6
    else 16
  else if Ipv6.isLinkLocal repr.dstAddr then linkLocalLen dst repr.llDstAddr
  else 16

/-- The length of a header that will be emitted. -/
def bufferLen (repr : IphcRepr) : Outcome ℕ := do
  return 2 + nextHeaderLen repr + hopLimitLen repr + srcAddrLen repr + dstAddrLen repr +
    (← trafficClassLen repr)

/-- Emit a compressed header. Nothing is set from the traffic flow. -/
def emit (repr : IphcRepr) (buf : List UInt8) : Outcome (List UInt8) := do
  let buf ← IphcPacket.setDispatchField buf
  let buf ← IphcPacket.setTfField buf 0b11
  let (buf, idx) ← IphcPacket.setNextHeader buf repr.nextHeader 2
  let (buf, idx) ← IphcPacket.setHopLimit buf repr.hopLimit idx
  let (buf, idx) ← IphcPacket.setSrcAddress buf repr.srcAddr repr.llSrcAddr idx
  let (buf, _) ← IphcPacket.setDstAddress buf repr.dstAddr repr.llDstAddr idx
  return buf

end IphcRepr

/-! ### What is emitted -/

namespace IphcPacket

open Outcome Octets Sixlowpan

/-- The word `w` with the bits of `r` replaced by those of `v`. -/
def region (r v w : UInt16) : UInt16 := (w &&& ~~~ r) ||| v

lemma region_region (r v r' v' w : UInt16) :
    region r v (region r' v' w) = region (r' ||| r) ((v' &&& ~~~ r) ||| v) w := by
  apply UInt16.eq_of_toBitVec_eq
  simp only [region, UInt16.toBitVec_or, UInt16.toBitVec_and, UInt16.toBitVec_not]
  apply BitVec.eq_of_getLsbD_eq
  intro i hi
  simp only [BitVec.getLsbD_or, BitVec.getLsbD_and, BitVec.getLsbD_not, hi, decide_true,
    Bool.true_and]
  generalize w.toBitVec.getLsbD i = a
  generalize r.toBitVec.getLsbD i = b
  generalize r'.toBitVec.getLsbD i = c
  generalize v.toBitVec.getLsbD i = d
  generalize v'.toBitVec.getLsbD i = e
  decide +revert

lemma region_all (v w : UInt16) : region 0xffff v w = v := by
  have h : ~~~ (0xffff : UInt16) = 0 := by decide
  rw [region, h, UInt16.and_zero, UInt16.zero_or]

/-- A header under construction: its word, the fields written so far and the rest of the buffer. -/
def header (w : UInt16) (done todo : List UInt8) : List UInt8 := ofU16 w ++ done ++ todo

variable {w : UInt16} {done todo : List UInt8} {idx : ℕ}

lemma readU16_header : Outcome.readU16 (header w done todo) 0 = .ok w := by
  rw [header, List.append_assoc]
  exact @readU16_append [] (done ++ todo) 0 rfl w

lemma field_header (mask shift : UInt16) :
    field (header w done todo) mask shift = .ok ((w >>> shift) &&& mask).toUInt8 := by
  rw [field, readU16_header]
  rfl

lemma setBits_header (mask shift : UInt16) (value : UInt8) :
    setBits (header w done todo) mask shift value =
      .ok (header (region (mask <<< shift) (value.toUInt16 <<< shift) w) done todo) := by
  have hwrite := @write_append _ [] (ofU16 w)
    (ofU16 (region (mask <<< shift) (value.toUInt16 <<< shift) w)) (done ++ todo) 0 rfl rfl
  rw [setBits, readU16_header, ok_bind]
  simpa only [header, region, List.append_assoc, List.nil_append] using hwrite

/-- Octets are written behind those that are there. -/
lemma setField_header (hidx : idx = 2 + done.length) {value : List UInt8}
    (hlen : value.length ≤ todo.length) :
    setField (header w done todo) idx value =
      .ok (header w (done ++ value) (todo.drop value.length), idx + value.length) := by
  have hwrite := @write_append _ (ofU16 w ++ done) (todo.take value.length) value
    (todo.drop value.length) idx (by simp [hidx]) (List.length_take_of_le hlen)
  rw [List.append_assoc (ofU16 w ++ done), List.take_append_drop] at hwrite
  rw [setField, header, hwrite, ok_bind, header, ← List.append_assoc]
  rfl

/-! ### Next header and hop limit -/

/-- How the next header is carried: its bit and its octets. -/
def nextHeaderMode : NextHeader → UInt8 × List UInt8
  | .uncompressed nh => (0, [nh.toByte])
  | .compressed => (1, [])

def hopLimitMode (hl : UInt8) : UInt8 × List UInt8 :=
  if hl = 255 then (0b11, [])
  else if hl = 64 then (0b10, [])
  else if hl = 1 then (0b01, [])
  else (0b00, [hl])

lemma setNextHeader_header (nh : NextHeader) (hidx : idx = 2 + done.length)
    (hlen : (nextHeaderMode nh).2.length ≤ todo.length) :
    setNextHeader (header w done todo) nh idx =
      .ok (header (region 0x0400 ((nextHeaderMode nh).1.toUInt16 <<< 10) w)
        (done ++ (nextHeaderMode nh).2) (todo.drop (nextHeaderMode nh).2.length),
        idx + (nextHeaderMode nh).2.length) := by
  have hmask : (0b1 : UInt16) <<< 10 = 0x0400 := by decide
  cases nh with
  | uncompressed nh =>
    rw [setNextHeader, setNhField, setBits_header, ok_bind, hmask]
    exact setField_header hidx hlen
  | compressed =>
    rw [setNextHeader, setNhField, setBits_header, ok_bind, hmask]
    simp [nextHeaderMode]

lemma setHopLimit_header (hl : UInt8) (hidx : idx = 2 + done.length)
    (hlen : (hopLimitMode hl).2.length ≤ todo.length) :
    setHopLimit (header w done todo) hl idx =
      .ok (header (region 0x0300 ((hopLimitMode hl).1.toUInt16 <<< 8) w)
        (done ++ (hopLimitMode hl).2) (todo.drop (hopLimitMode hl).2.length),
        idx + (hopLimitMode hl).2.length) := by
  have hmask : (0b11 : UInt16) <<< 8 = 0x0300 := by decide
  unfold setHopLimit hopLimitMode at *
  simp only [setHlimField, setBits_header, ok_bind, hmask]
  split_ifs at hlen ⊢ with h₁ h₂ h₃
  · simp
  · simp
  · simp
  · exact setField_header hidx hlen

/-! ### Addresses -/

lemma isEui64_iff {llAddr : Option Ieee802154Address} {addr : List UInt8} :
    isEui64 llAddr addr ↔ ∃ ll, llAddr = some ll ∧ ll.asEui64 = some (addr.drop 8) := by
  cases llAddr with
  | none => simp [isEui64]
  | some ll =>
    cases heui : ll.asEui64 with
    | none => simp [isEui64, heui]
    | some eui => simp [isEui64, heui]

/-- How a link-local address is carried: its mode and its octets. -/
def linkLocalMode (addr : List UInt8) (llAddr : Option Ieee802154Address) : UInt8 × List UInt8 :=
  if (addr.drop 8).take 6 = [0, 0, 0, 0xff, 0xfe, 0] then
    if llAddr = some (.ofShort (addr.drop 14)) then (0b11, []) else (0b10, addr.drop 14)
  else if isEui64 llAddr addr then (0b11, [])
  else (0b01, addr.drop 8)

/-- How a source address is carried: the bit that says that there is a context, the mode and the
octets. -/
def srcMode (srcAddr : Ipv6.Address) (llSrcAddr : Option Ieee802154Address) :
    UInt8 × UInt8 × List UInt8 :=
  if srcAddr = 0 then (1, 0b00, [])
  else if Ipv6.isLinkLocal srcAddr then (0, linkLocalMode (Ipv6.octets srcAddr) llSrcAddr)
  else (0, 0b00, Ipv6.octets srcAddr)

/-- How a multicast address is carried. -/
def multicastMode (dst : List UInt8) : UInt8 × List UInt8 :=
  if Octets.get dst 1 = 0x02 ∧ (dst.drop 2).take 13 = List.replicate 13 0 then
    (0b11, [Octets.get dst 15])
  else if (dst.drop 2).take 11 = List.replicate 11 0 then
    (0b10, [Octets.get dst 1] ++ dst.drop 13)
  else if (dst.drop 2).take 9 = List.replicate 9 0 then
    (0b01, [Octets.get dst 1] ++ dst.drop 11)
  else (0b11, dst)

/-- How a destination address is carried: the bit for multicast, the mode and the octets. -/
def dstMode (dstAddr : Ipv6.Address) (llDstAddr : Option Ieee802154Address) :
    UInt8 × UInt8 × List UInt8 :=
  if Ipv6.isMulticast dstAddr then (1, multicastMode (Ipv6.octets dstAddr))
  else if Ipv6.isLinkLocal dstAddr then (0, linkLocalMode (Ipv6.octets dstAddr) llDstAddr)
  else (0, 0b00, Ipv6.octets dstAddr)

/-- The bits of a source address. -/
def srcBits (sac sam : UInt8) : UInt16 := (sac.toUInt16 <<< 6) ||| (sam.toUInt16 <<< 4)

/-- The bits of a destination address. -/
def dstBits (m dam : UInt8) : UInt16 := (m.toUInt16 <<< 3) ||| dam.toUInt16

section Bits

variable (w : UInt16)

lemma region_congr {r r' v v' : UInt16} (hr : r = r') (hv : v = v') :
    region r v w = region r' v' w := by
  rw [hr, hv]

/-- The bits of a source address without a context, set one field after the other. -/
lemma region_src (sam : UInt8) (hsam : sam < 4) :
    region ((0b11 : UInt16) <<< 4) (sam.toUInt16 <<< 4)
      (region ((0b1 : UInt16) <<< 6) ((0 : UInt8).toUInt16 <<< 6)
        (region ((0b1 : UInt16) <<< 7) ((0 : UInt8).toUInt16 <<< 7) w)) =
      region 0x00f0 (srcBits 0 sam) w := by
  rw [region_region, region_region]
  apply region_congr
  · decide
  · decide +kernel +revert

lemma region_src_unspecified :
    region ((0b11 : UInt16) <<< 4) ((0 : UInt8).toUInt16 <<< 4)
      (region ((0b1 : UInt16) <<< 6) ((1 : UInt8).toUInt16 <<< 6)
        (region ((0b1 : UInt16) <<< 6) ((0 : UInt8).toUInt16 <<< 6)
          (region ((0b1 : UInt16) <<< 7) ((0 : UInt8).toUInt16 <<< 7) w))) =
      region 0x00f0 (srcBits 1 0) w := by
  rw [region_region, region_region, region_region]
  apply region_congr
  · decide
  · decide

/-- The bits of a destination address that is not multicast. -/
lemma region_dst (dam : UInt8) (hdam : dam < 4) :
    region ((0b11 : UInt16) <<< 0) (dam.toUInt16 <<< 0)
      (region ((0b1 : UInt16) <<< 3) ((0 : UInt8).toUInt16 <<< 3)
        (region ((0b11 : UInt16) <<< 0) ((0 : UInt8).toUInt16 <<< 0)
          (region ((0b1 : UInt16) <<< 2) ((0 : UInt8).toUInt16 <<< 2) w))) =
      region 0x000f (dstBits 0 dam) w := by
  rw [region_region, region_region, region_region]
  apply region_congr
  · decide
  · decide +kernel +revert

lemma region_dst_multicast (dam : UInt8) (hdam : dam < 4) :
    region ((0b11 : UInt16) <<< 0) (dam.toUInt16 <<< 0)
      (region ((0b1 : UInt16) <<< 3) ((1 : UInt8).toUInt16 <<< 3)
        (region ((0b1 : UInt16) <<< 3) ((0 : UInt8).toUInt16 <<< 3)
          (region ((0b11 : UInt16) <<< 0) ((0 : UInt8).toUInt16 <<< 0)
            (region ((0b1 : UInt16) <<< 2) ((0 : UInt8).toUInt16 <<< 2) w)))) =
      region 0x000f (dstBits 1 dam) w := by
  rw [region_region, region_region, region_region, region_region]
  apply region_congr
  · decide
  · decide +kernel +revert

end Bits

lemma setSrcAddress_header (srcAddr : Ipv6.Address) (llSrcAddr : Option Ieee802154Address)
    (hidx : idx = 2 + done.length) (hlen : (srcMode srcAddr llSrcAddr).2.2.length ≤ todo.length) :
    setSrcAddress (header w done todo) srcAddr llSrcAddr idx =
      .ok (header (region 0x00f0 (srcBits (srcMode srcAddr llSrcAddr).1
          (srcMode srcAddr llSrcAddr).2.1) w)
        (done ++ (srcMode srcAddr llSrcAddr).2.2)
        (todo.drop (srcMode srcAddr llSrcAddr).2.2.length),
        idx + (srcMode srcAddr llSrcAddr).2.2.length) := by
  unfold setSrcAddress srcMode linkLocalMode at *
  simp only [setCidField, setSacField, setSamField, setBits_header, ok_bind] at *
  split_ifs at hlen ⊢ with hzero hlocal hmiddle hshort heui <;> dsimp only at hlen ⊢
  · rw [region_src_unspecified]
    simp only [List.append_nil, List.length_nil, List.drop_zero, Nat.add_zero]
    rfl
  · rw [region_src _ _ (by decide)]
    simp only [List.append_nil, List.length_nil, List.drop_zero, Nat.add_zero]
    rfl
  · rw [region_src _ _ (by decide)]
    exact setField_header hidx hlen
  · rw [region_src _ _ (by decide)]
    simp only [List.append_nil, List.length_nil, List.drop_zero, Nat.add_zero]
    rfl
  · rw [region_src _ _ (by decide)]
    exact setField_header hidx hlen
  · rw [region_src _ _ (by decide)]
    exact setField_header hidx hlen

/-- Two fields, one behind the other. -/
lemma setField_setField (hidx : idx = 2 + done.length) {first second : List UInt8}
    (hlen : (first ++ second).length ≤ todo.length) :
    (do let (buf, idx) ← setField (header w done todo) idx first; setField buf idx second) =
      .ok (header w (done ++ (first ++ second)) (todo.drop (first ++ second).length),
        idx + (first ++ second).length) := by
  rw [List.length_append] at hlen ⊢
  rw [setField_header hidx (by omega), ok_bind]
  dsimp only
  rw [setField_header (by rw [hidx, List.length_append]; omega)
    (by rw [List.length_drop]; omega), List.append_assoc, List.drop_drop, Nat.add_assoc]

lemma setDstAddress_header (dstAddr : Ipv6.Address) (llDstAddr : Option Ieee802154Address)
    (hidx : idx = 2 + done.length) (hlen : (dstMode dstAddr llDstAddr).2.2.length ≤ todo.length) :
    setDstAddress (header w done todo) dstAddr llDstAddr idx =
      .ok (header (region 0x000f (dstBits (dstMode dstAddr llDstAddr).1
          (dstMode dstAddr llDstAddr).2.1) w)
        (done ++ (dstMode dstAddr llDstAddr).2.2)
        (todo.drop (dstMode dstAddr llDstAddr).2.2.length),
        idx + (dstMode dstAddr llDstAddr).2.2.length) := by
  unfold setDstAddress dstMode multicastMode linkLocalMode at *
  simp only [setDacField, setDamField, setMField, setBits_header, ok_bind] at *
  split_ifs at hlen ⊢ with hmulti h8 h32 h48 hlocal hmiddle hshort heui <;> dsimp only at hlen ⊢
  · rw [region_dst_multicast _ _ (by decide)]
    exact setField_header hidx hlen
  · rw [region_dst_multicast _ _ (by decide)]
    exact setField_setField hidx hlen
  · rw [region_dst_multicast _ _ (by decide)]
    exact setField_setField hidx hlen
  · rw [region_dst_multicast _ _ (by decide)]
    exact setField_header hidx hlen
  · rw [region_dst _ _ (by decide)]
    simp only [List.append_nil, List.length_nil, List.drop_zero, Nat.add_zero]
    rfl
  · rw [region_dst _ _ (by decide)]
    exact setField_header hidx hlen
  · rw [region_dst _ _ (by decide)]
    simp only [List.append_nil, List.length_nil, List.drop_zero, Nat.add_zero]
    rfl
  · rw [region_dst _ _ (by decide)]
    exact setField_header hidx hlen
  · rw [region_dst _ _ (by decide)]
    exact setField_header hidx hlen

/-- The first two octets, set one group of fields after the other. -/
def word (nh hlim sac sam m dam : UInt8) (w : UInt16) : UInt16 :=
  region 0x000f (dstBits m dam) (region 0x00f0 (srcBits sac sam)
    (region 0x0300 (hlim.toUInt16 <<< 8) (region 0x0400 (nh.toUInt16 <<< 10)
      (region ((0b11 : UInt16) <<< 11) ((0b11 : UInt8).toUInt16 <<< 11)
        (region ((0b111 : UInt16) <<< 13) ((0b11 : UInt8).toUInt16 <<< 13) w)))))

/-- Every bit of the word is set. -/
lemma word_eq (nh hlim sac sam m dam : UInt8) (w : UInt16) :
    word nh hlim sac sam m dam w = word nh hlim sac sam m dam 0 := by
  unfold word
  rw [region_region, region_region, region_region, region_region, region_region,
    region_region, region_region, region_region, region_region, region_region,
    @region_congr w _ 0xffff _ _ (by decide) rfl, @region_congr 0 _ 0xffff _ _ (by decide) rfl,
    region_all, region_all]

/-- The values of a field of one bit. -/
def bit : List UInt8 := [0, 1]

/-- The values of a field of two bits. -/
def bits : List UInt8 := [0b00, 0b01, 0b10, 0b11]

/-- A field of a word depends on its bits only. -/
lemma field_of_and {w w' mask shift bits : UInt16} (hbits : (bits >>> shift) &&& mask = mask)
    (h : w &&& bits = w' &&& bits) : (w >>> shift) &&& mask = (w' >>> shift) &&& mask := by
  have hmasked : ∀ v : UInt16, (v >>> shift) &&& mask = ((v &&& bits) >>> shift) &&& mask := by
    intro v
    rw [UInt16.shiftRight_and, UInt16.and_assoc, hbits]
  rw [hmasked w, hmasked w', h]

lemma region_and (r v w mask : UInt16) :
    region r v w &&& mask = (w &&& (~~~ r &&& mask)) ||| (v &&& mask) := by
  apply UInt16.eq_of_toBitVec_eq
  apply BitVec.eq_of_getLsbD_eq
  intro i hi
  simp only [region, UInt16.toBitVec_or, UInt16.toBitVec_and, UInt16.toBitVec_not,
    BitVec.getLsbD_or, BitVec.getLsbD_and, Bool.and_or_distrib_right, Bool.and_assoc]

/-- Bits outside of a region are kept. -/
lemma region_and_of_disjoint {r v mask : UInt16} (w : UInt16) (hr : ~~~ r &&& mask = mask)
    (hv : v &&& mask = 0) : region r v w &&& mask = w &&& mask := by
  rw [region_and, hr, hv, UInt16.or_zero]

lemma region_and_of_subset {r mask : UInt16} (v w : UInt16) (hr : ~~~ r &&& mask = 0) :
    region r v w &&& mask = v &&& mask := by
  rw [region_and, hr, UInt16.and_zero, UInt16.zero_or]

/-- Bits inside of one region leave the others alone. -/
lemma and_of_within {v r mask : UInt16} (hv : v &&& r = v) (hr : r &&& mask = 0) :
    v &&& mask = 0 := by
  rw [← hv, UInt16.and_assoc, hr, UInt16.and_zero]

section Word

variable {nh hlim sac sam m dam : UInt8}

/-- Each group of fields stays in its own region of the word, and is read back from there. -/
lemma bits_within :
    (∀ m ∈ bit, ∀ d ∈ bits, dstBits m d &&& (0x000f : UInt16) = dstBits m d ∧
      ((dstBits m d >>> 3) &&& 0b1).toUInt8 = m ∧ ((dstBits m d >>> 2) &&& 0b1).toUInt8 = 0 ∧
      ((dstBits m d >>> 0) &&& 0b11).toUInt8 = d) ∧
    (∀ c ∈ bit, ∀ s ∈ bits, srcBits c s &&& (0x00f0 : UInt16) = srcBits c s ∧
      ((srcBits c s >>> 7) &&& 0b1).toUInt8 = 0 ∧ ((srcBits c s >>> 6) &&& 0b1).toUInt8 = c ∧
      ((srcBits c s >>> 4) &&& 0b11).toUInt8 = s) ∧
    (∀ h ∈ bits, (h.toUInt16 <<< 8) &&& (0x0300 : UInt16) = h.toUInt16 <<< 8 ∧
      (((h.toUInt16 <<< 8) >>> 8) &&& 0b11).toUInt8 = h) ∧
    ∀ n ∈ bit, (n.toUInt16 <<< 10) &&& (0x0400 : UInt16) = n.toUInt16 <<< 10 ∧
      (((n.toUInt16 <<< 10) >>> 10) &&& 0b1).toUInt8 = n := by
  refine ⟨?_, ?_, ?_, ?_⟩
  all_goals decide +kernel

lemma dst_within (hm : m ∈ bit) (hdam : dam ∈ bits) :
    dstBits m dam &&& (0x000f : UInt16) = dstBits m dam :=
  (bits_within.1 _ hm _ hdam).1

lemma src_within (hsac : sac ∈ bit) (hsam : sam ∈ bits) :
    srcBits sac sam &&& (0x00f0 : UInt16) = srcBits sac sam :=
  (bits_within.2.1 _ hsac _ hsam).1

lemma hlim_within (hhlim : hlim ∈ bits) :
    (hlim.toUInt16 <<< 8) &&& (0x0300 : UInt16) = hlim.toUInt16 <<< 8 :=
  (bits_within.2.2.1 _ hhlim).1

lemma nh_within (hnh : nh ∈ bit) :
    (nh.toUInt16 <<< 10) &&& (0x0400 : UInt16) = nh.toUInt16 <<< 10 :=
  (bits_within.2.2.2 _ hnh).1

lemma word_and_dst : word nh hlim sac sam m dam 0 &&& (0x000f : UInt16) =
    dstBits m dam &&& (0x000f : UInt16) :=
  region_and_of_subset _ _ (by decide)

lemma word_and_src (hm : m ∈ bit) (hdam : dam ∈ bits) :
    word nh hlim sac sam m dam 0 &&& (0x00f0 : UInt16) = srcBits sac sam &&& (0x00f0 : UInt16) := by
  have hd := dst_within hm hdam
  rw [word, region_and_of_disjoint _ (by decide) (and_of_within hd (by decide)),
    region_and_of_subset _ _ (by decide)]

lemma word_and_hlim (hm : m ∈ bit) (hdam : dam ∈ bits) (hsac : sac ∈ bit) (hsam : sam ∈ bits) :
    word nh hlim sac sam m dam 0 &&& (0x0300 : UInt16) =
    (hlim.toUInt16 <<< 8) &&& (0x0300 : UInt16) := by
  have hd := dst_within hm hdam
  have hs := src_within hsac hsam
  rw [word, region_and_of_disjoint _ (by decide) (and_of_within hd (by decide)),
    region_and_of_disjoint _ (by decide) (and_of_within hs (by decide)),
    region_and_of_subset _ _ (by decide)]

lemma word_and_nh (hm : m ∈ bit) (hdam : dam ∈ bits) (hsac : sac ∈ bit) (hsam : sam ∈ bits)
    (hhlim : hlim ∈ bits) :
    word nh hlim sac sam m dam 0 &&& (0x0400 : UInt16) =
      (nh.toUInt16 <<< 10) &&& (0x0400 : UInt16) := by
  have hd := dst_within hm hdam
  have hs := src_within hsac hsam
  have hh := hlim_within hhlim
  rw [word, region_and_of_disjoint _ (by decide) (and_of_within hd (by decide)),
    region_and_of_disjoint _ (by decide) (and_of_within hs (by decide)),
    region_and_of_disjoint _ (by decide) (and_of_within hh (by decide)),
    region_and_of_subset _ _ (by decide)]

/-- The dispatch field and the field of the traffic class. -/
lemma word_and_top (hm : m ∈ bit) (hdam : dam ∈ bits) (hsac : sac ∈ bit) (hsam : sam ∈ bits)
    (hhlim : hlim ∈ bits) (hnh : nh ∈ bit) :
    word nh hlim sac sam m dam 0 &&& (0xf800 : UInt16) =
      (0x7800 : UInt16) &&& (0xf800 : UInt16) := by
  have hd := dst_within hm hdam
  have hs := src_within hsac hsam
  have hh := hlim_within hhlim
  have hn := nh_within hnh
  rw [word, region_and_of_disjoint _ (by decide) (and_of_within hd (by decide)),
    region_and_of_disjoint _ (by decide) (and_of_within hs (by decide)),
    region_and_of_disjoint _ (by decide) (and_of_within hh (by decide)),
    region_and_of_disjoint _ (by decide) (and_of_within hn (by decide))]
  decide

end Word

lemma nextHeaderMode_mem (nh : NextHeader) : (nextHeaderMode nh).1 ∈ bit := by
  cases nh with
  | uncompressed nh => simp [nextHeaderMode, bit]
  | compressed => simp [nextHeaderMode, bit]

lemma hopLimitMode_mem (hl : UInt8) : (hopLimitMode hl).1 ∈ bits := by
  unfold hopLimitMode
  split_ifs
  all_goals simp [bits]

lemma srcMode_mem (srcAddr : Ipv6.Address) (llSrcAddr : Option Ieee802154Address) :
    (srcMode srcAddr llSrcAddr).1 ∈ bit ∧ (srcMode srcAddr llSrcAddr).2.1 ∈ bits := by
  unfold srcMode linkLocalMode
  split_ifs
  all_goals simp [bit, bits]

lemma dstMode_mem (dstAddr : Ipv6.Address) (llDstAddr : Option Ieee802154Address) :
    (dstMode dstAddr llDstAddr).1 ∈ bit ∧ (dstMode dstAddr llDstAddr).2.1 ∈ bits := by
  unfold dstMode multicastMode linkLocalMode
  split_ifs
  all_goals simp [bit, bits]

end IphcPacket

namespace IphcRepr

open Outcome Octets Sixlowpan IphcPacket

variable (repr : IphcRepr)

/-- The first two octets of what is emitted. -/
def emittedWord : UInt16 :=
  word (nextHeaderMode repr.nextHeader).1 (hopLimitMode repr.hopLimit).1
    (srcMode repr.srcAddr repr.llSrcAddr).1 (srcMode repr.srcAddr repr.llSrcAddr).2.1
    (dstMode repr.dstAddr repr.llDstAddr).1 (dstMode repr.dstAddr repr.llDstAddr).2.1 0

/-- The octets behind the first two. -/
def emittedFields : List UInt8 :=
  (nextHeaderMode repr.nextHeader).2 ++ (hopLimitMode repr.hopLimit).2 ++
    (srcMode repr.srcAddr repr.llSrcAddr).2.2 ++ (dstMode repr.dstAddr repr.llDstAddr).2.2

/-- What is emitted, whatever was in the buffer. -/
lemma emit_header (w : UInt16)
    {todo : List UInt8} (hlen : (emittedFields repr).length ≤ todo.length) :
    emit repr (header w [] todo) = .ok (header (emittedWord repr) (emittedFields repr)
      (todo.drop (emittedFields repr).length)) := by
  simp only [emittedFields, List.length_append] at hlen ⊢
  rw [emit, setDispatchField, setBits_header, ok_bind, setTfField, setBits_header, ok_bind,
    setNextHeader_header _ (by simp) (by omega), ok_bind]
  dsimp only
  rw [setHopLimit_header _ (by simp) (by rw [List.length_drop]; omega), ok_bind]
  dsimp only
  rw [setSrcAddress_header _ _ (by simp; omega) (by simp only [List.length_drop]; omega), ok_bind]
  dsimp only
  rw [setDstAddress_header _ _ (by simp; omega) (by simp only [List.length_drop]; omega), ok_bind]
  dsimp only
  rw [pure_eq_ok, emittedWord, ← word_eq _ _ _ _ _ _ w]
  simp only [List.drop_drop, List.nil_append, List.append_assoc, Nat.add_assoc]
  rfl

@[simp] lemma length_linkLocalMode (addr : Ipv6.Address) (llAddr : Option Ieee802154Address) :
    (linkLocalMode (Ipv6.octets addr) llAddr).2.length =
    linkLocalLen (Ipv6.octets addr) llAddr := by
  unfold linkLocalMode linkLocalLen
  split_ifs
  all_goals simp

/-- As many octets are emitted as `bufferLen` says. -/
lemma bufferLen_eq (htf : repr.ecn = none ∧ repr.dscp = none ∧ repr.flowLabel = none) :
    bufferLen repr = .ok (2 + (emittedFields repr).length) := by
  have htraffic : trafficClassLen repr = .ok 0 := by
    rw [trafficClassLen, htf.1, htf.2.1, htf.2.2]
    rfl
  have hnext : (nextHeaderMode repr.nextHeader).2.length = nextHeaderLen repr := by
    unfold nextHeaderLen nextHeaderMode
    cases repr.nextHeader with
    | compressed => rfl
    | uncompressed nh => rfl
  have hhop : (hopLimitMode repr.hopLimit).2.length = hopLimitLen repr := by
    unfold hopLimitMode hopLimitLen
    split_ifs
    all_goals simp_all
  have hsrc : (srcMode repr.srcAddr repr.llSrcAddr).2.2.length = srcAddrLen repr := by
    unfold srcMode srcAddrLen
    split_ifs
    all_goals simp
  have hdst : (dstMode repr.dstAddr repr.llDstAddr).2.2.length = dstAddrLen repr := by
    unfold dstMode multicastMode dstAddrLen
    dsimp only
    split_ifs
    all_goals simp
  rw [bufferLen, htraffic, ok_bind, pure_eq_ok, emittedFields]
  simp only [List.length_append, hnext, hhop, hsrc, hdst]
  simp only [Nat.add_zero, Nat.add_assoc]

/-! ### What is read -/

/-- The fields of a header with the word of a representation. -/
structure Fields (buf : List UInt8) : Prop where
  dispatch : dispatchField buf = .ok 3
  tf : tfField buf = .ok 3
  nh : nhField buf = .ok (nextHeaderMode repr.nextHeader).1
  hlim : hlimField buf = .ok (hopLimitMode repr.hopLimit).1
  cid : cidField buf = .ok 0
  sac : sacField buf = .ok (srcMode repr.srcAddr repr.llSrcAddr).1
  sam : samField buf = .ok (srcMode repr.srcAddr repr.llSrcAddr).2.1
  m : mField buf = .ok (dstMode repr.dstAddr repr.llDstAddr).1
  dac : dacField buf = .ok 0
  dam : damField buf = .ok (dstMode repr.dstAddr repr.llDstAddr).2.1

lemma fields (done todo : List UInt8) : Fields repr (header (emittedWord repr) done todo) := by
  have hn := nextHeaderMode_mem repr.nextHeader
  have hh := hopLimitMode_mem repr.hopLimit
  obtain ⟨hsac, hsam⟩ := srcMode_mem repr.srcAddr repr.llSrcAddr
  obtain ⟨hm, hdam⟩ := dstMode_mem repr.dstAddr repr.llDstAddr
  obtain ⟨hdsts, hsrcs, hlims, hnibbles⟩ := bits_within
  constructor
  case dispatch =>
    rw [dispatchField, field_header, emittedWord,
      field_of_and (by decide) (word_and_top hm hdam hsac hsam hh hn)]
    rfl
  case tf =>
    rw [tfField, field_header, emittedWord,
      field_of_and (by decide) (word_and_top hm hdam hsac hsam hh hn)]
    rfl
  case nh =>
    rw [nhField, field_header, emittedWord,
      field_of_and (by decide) (word_and_nh hm hdam hsac hsam hh),
      (hnibbles _ hn).2]
  case hlim =>
    rw [hlimField, field_header, emittedWord,
      field_of_and (by decide) (word_and_hlim hm hdam hsac hsam),
      (hlims _ hh).2]
  case cid =>
    rw [cidField, field_header, emittedWord, field_of_and (by decide) (word_and_src hm hdam),
      (hsrcs _ hsac _ hsam).2.1]
  case sac =>
    rw [sacField, field_header, emittedWord, field_of_and (by decide) (word_and_src hm hdam),
      (hsrcs _ hsac _ hsam).2.2.1]
  case sam =>
    rw [samField, field_header, emittedWord, field_of_and (by decide) (word_and_src hm hdam),
      (hsrcs _ hsac _ hsam).2.2.2]
  case m =>
    rw [mField, field_header, emittedWord, field_of_and (by decide) word_and_dst,
      (hdsts _ hm _ hdam).2.1]
  case dac =>
    rw [dacField, field_header, emittedWord, field_of_and (by decide) word_and_dst,
      (hdsts _ hm _ hdam).2.2.1]
  case dam =>
    rw [damField, field_header, emittedWord, field_of_and (by decide) word_and_dst,
      (hdsts _ hm _ hdam).2.2.2]

section Sizes

variable {repr} {buf : List UInt8}

lemma Fields.ipFieldsStart (h : Fields repr buf) : ipFieldsStart buf = .ok 2 := by
  rw [IphcPacket.ipFieldsStart, cidSize, h.cid]
  rfl

lemma Fields.trafficClassSize (h : Fields repr buf) : trafficClassSize buf = .ok 0 := by
  rw [IphcPacket.trafficClassSize, h.tf]
  rfl

lemma Fields.nextHeaderSize (h : Fields repr buf) :
    nextHeaderSize buf = .ok (nextHeaderMode repr.nextHeader).2.length := by
  rw [IphcPacket.nextHeaderSize, h.nh]
  cases repr.nextHeader with
  | uncompressed nh => rfl
  | compressed => rfl

lemma Fields.hopLimitSize (h : Fields repr buf) :
    hopLimitSize buf = .ok (hopLimitMode repr.hopLimit).2.length := by
  rw [IphcPacket.hopLimitSize, h.hlim]
  unfold hopLimitMode
  split_ifs
  all_goals rfl

lemma Fields.srcAddressSize (h : Fields repr buf) :
    srcAddressSize buf = .ok (srcMode repr.srcAddr repr.llSrcAddr).2.2.length := by
  rw [IphcPacket.srcAddressSize, h.sac, ok_bind, h.sam, ok_bind]
  unfold srcMode linkLocalMode
  split_ifs
  all_goals simp

lemma Fields.addressesStart (h : Fields repr buf) :
    addressesStart buf = .ok (2 + (nextHeaderMode repr.nextHeader).2.length +
      (hopLimitMode repr.hopLimit).2.length) := by
  rw [IphcPacket.addressesStart, h.ipFieldsStart, ok_bind, h.trafficClassSize, ok_bind,
    h.nextHeaderSize, ok_bind, h.hopLimitSize, ok_bind]
  rfl

/-- The size of the destination address is read from its mode. -/
lemma Fields.dstAddressSize (h : Fields repr buf) :
    ∃ n ≤ (dstMode repr.dstAddr repr.llDstAddr).2.2.length, dstAddressSize buf = .ok n := by
  rw [IphcPacket.dstAddressSize, h.m, ok_bind, h.dac, ok_bind, h.dam, ok_bind]
  unfold dstMode multicastMode linkLocalMode
  split_ifs
  all_goals simp

end Sizes

section Read

variable (tail : List UInt8)

lemma checkLen_emitted :
    checkLen (header (emittedWord repr) (emittedFields repr) tail) = .ok () := by
  have h := fields repr (emittedFields repr) tail
  obtain ⟨n, hn, hdst⟩ := h.dstAddressSize
  rw [checkLen, headerLen, h.addressesStart, h.srcAddressSize, hdst,
    if_neg (by simp only [header, List.length_append, length_ofU16]; omega)]
  simp only [ok_bind, pure_eq_ok]
  apply reject_of_not
  simp only [header, emittedFields, List.length_append, length_ofU16]
  omega

lemma nextHeader_emitted :
    IphcPacket.nextHeader (header (emittedWord repr) (emittedFields repr) tail) =
      .ok (match repr.nextHeader with
        | .compressed => .compressed
        | .uncompressed nh => .uncompressed (.ofByte nh.toByte)) := by
  have h := fields repr (emittedFields repr) tail
  rw [IphcPacket.nextHeader, h.nh, ok_bind, h.ipFieldsStart, ok_bind, h.trafficClassSize, ok_bind]
  cases hnh : repr.nextHeader with
  | compressed => rfl
  | uncompressed nh =>
    have hslice := @slice_append _ (ofU16 (emittedWord repr)) [nh.toByte]
      ((hopLimitMode repr.hopLimit).2 ++ (srcMode repr.srcAddr repr.llSrcAddr).2.2 ++
        (dstMode repr.dstAddr repr.llDstAddr).2.2 ++ tail) 2 3 rfl rfl
    simp only [header, emittedFields, hnh, nextHeaderMode, List.append_assoc] at hslice ⊢
    rw [if_neg (by decide), hslice]
    rfl

lemma hopLimit_emitted :
    IphcPacket.hopLimit (header (emittedWord repr) (emittedFields repr) tail) =
    .ok repr.hopLimit := by
  have h := fields repr (emittedFields repr) tail
  rw [IphcPacket.hopLimit, h.hlim, ok_bind, h.ipFieldsStart, ok_bind, h.trafficClassSize, ok_bind,
    h.nextHeaderSize, ok_bind]
  have hslice : (hopLimitMode repr.hopLimit).2 = [repr.hopLimit] →
      slice (header (emittedWord repr) (emittedFields repr) tail)
        (2 + 0 + (nextHeaderMode repr.nextHeader).2.length)
        (2 + 0 + (nextHeaderMode repr.nextHeader).2.length + 1) = .ok [repr.hopLimit] := by
    intro hmode
    have hslice := @slice_append _ (ofU16 (emittedWord repr) ++ (nextHeaderMode repr.nextHeader).2)
      [repr.hopLimit] ((srcMode repr.srcAddr repr.llSrcAddr).2.2 ++
        (dstMode repr.dstAddr repr.llDstAddr).2.2 ++ tail) _ _ rfl rfl
    simpa only [header, emittedFields, hmode, List.append_assoc, List.length_append,
      length_ofU16, List.length_singleton, Nat.add_zero] using hslice
  unfold hopLimitMode at *
  split_ifs at hslice ⊢ with h₁ h₂ h₃
  · rw [h₁]
    rfl
  · rw [h₂]
    rfl
  · rw [h₃]
    rfl
  · dsimp only
    rw [hslice rfl]
    rfl

/-- Nothing of the traffic flow is carried. -/
lemma traffic_emitted {done todo : List UInt8} :
    ecnField (header (emittedWord repr) done todo) = .ok none ∧
      dscpField (header (emittedWord repr) done todo) = .ok none ∧
      flowLabelField (header (emittedWord repr) done todo) = .ok none := by
  have h := fields repr done todo
  rw [ecnField, dscpField, flowLabelField, h.tf]
  exact ⟨rfl, rfl, rfl⟩

/-- The octets of the source address. -/
lemma sliceAt_src :
    sliceAt (header (emittedWord repr) (emittedFields repr) tail)
      (2 + (nextHeaderMode repr.nextHeader).2.length + (hopLimitMode repr.hopLimit).2.length)
      (srcMode repr.srcAddr repr.llSrcAddr).2.2.length =
        .ok (srcMode repr.srcAddr repr.llSrcAddr).2.2 := by
  have hslice := @sliceAt_append _ (ofU16 (emittedWord repr) ++
    (nextHeaderMode repr.nextHeader).2 ++ (hopLimitMode repr.hopLimit).2)
    (srcMode repr.srcAddr repr.llSrcAddr).2.2
    ((dstMode repr.dstAddr repr.llDstAddr).2.2 ++ tail) _ _ rfl rfl
  simpa only [header, emittedFields, List.append_assoc, List.length_append, length_ofU16,
    Nat.add_assoc] using hslice

/-- The octets of the destination address, or the first of them. -/
lemma sliceAt_dst {n : ℕ} (hn : n ≤ (dstMode repr.dstAddr repr.llDstAddr).2.2.length) :
    sliceAt (header (emittedWord repr) (emittedFields repr) tail)
      (2 + (nextHeaderMode repr.nextHeader).2.length + (hopLimitMode repr.hopLimit).2.length +
        (srcMode repr.srcAddr repr.llSrcAddr).2.2.length) n =
        .ok ((dstMode repr.dstAddr repr.llDstAddr).2.2.take n) := by
  have hslice := @sliceAt_append _ (ofU16 (emittedWord repr) ++
    (nextHeaderMode repr.nextHeader).2 ++ (hopLimitMode repr.hopLimit).2 ++
    (srcMode repr.srcAddr repr.llSrcAddr).2.2)
    ((dstMode repr.dstAddr repr.llDstAddr).2.2.take n)
    ((dstMode repr.dstAddr repr.llDstAddr).2.2.drop n ++ tail) _ n rfl (List.length_take_of_le hn)
  rw [List.append_assoc, ← List.append_assoc (List.take n _), List.take_append_drop] at hslice
  simpa only [header, emittedFields, List.append_assoc, List.length_append, length_ofU16,
    Nat.add_assoc] using hslice

end Read

/-- How a link-local address is carried, and that it is found again. -/
lemma linkLocalMode_cases {addr : Ipv6.Address} (llAddr : Option Ieee802154Address)
    (addrContext : List AddressContext) (hlocal : Ipv6.isLinkLocal addr) :
    (linkLocalMode (Ipv6.octets addr) llAddr = (0b11, []) ∧
      UnresolvedAddress.resolve (.withoutContext .fullyElided) llAddr addrContext = .ok addr) ∨
    (∃ o, o.length = 2 ∧ linkLocalMode (Ipv6.octets addr) llAddr = (0b10, o) ∧
      UnresolvedAddress.resolve (.withoutContext (.inLine16bits o)) llAddr addrContext =
        .ok addr) ∨
    (∃ o, o.length = 8 ∧ linkLocalMode (Ipv6.octets addr) llAddr = (0b01, o) ∧
      UnresolvedAddress.resolve (.withoutContext (.inLine64bits o)) llAddr addrContext =
        .ok addr) := by
  have hlen := Ipv6.length_octets addr
  have haddr : toU128 (Ipv6.octets addr) = addr := toU128_ofU128 addr
  unfold Ipv6.isLinkLocal at hlocal
  have hfront : ((Ipv6.octets addr).drop 8).take 6 = [0, 0, 0, 0xff, 0xfe, 0] →
      (Ipv6.octets addr).take 14 = UnresolvedAddress.shortFront := by
    intro hmiddle
    rw [show 14 = 8 + 6 from rfl, List.take_add, hlocal, hmiddle]
    rfl
  unfold linkLocalMode
  split_ifs with hmiddle hshort heui
  · refine .inl ⟨rfl, ?_⟩
    rw [hshort]
    exact (UnresolvedAddress.resolve_short hlen (hfront hmiddle)).trans (congrArg _ haddr)
  · exact .inr (.inl ⟨_, by simp, rfl,
      (UnresolvedAddress.resolve_inLine16bits hlen (hfront hmiddle)).trans (congrArg _ haddr)⟩)
  · refine .inl ⟨rfl, ?_⟩
    obtain ⟨ll, rfl, hll⟩ := isEui64_iff.mp heui
    exact (UnresolvedAddress.resolve_eui64 hlen hlocal hll).trans (congrArg _ haddr)
  · exact .inr (.inr ⟨_, by simp, rfl,
      (UnresolvedAddress.resolve_inLine64bits hlen hlocal).trans (congrArg _ haddr)⟩)

/-- The source address is found again. -/
lemma srcAddr_emitted (tail : List UInt8) (addrContext : List AddressContext) :
    ∃ address, IphcPacket.srcAddr (header (emittedWord repr) (emittedFields repr) tail) =
      .ok address ∧ address.resolve repr.llSrcAddr addrContext = .ok repr.srcAddr := by
  have h := fields repr (emittedFields repr) tail
  have hslice := sliceAt_src repr tail
  rw [IphcPacket.srcAddr, h.addressesStart, ok_bind, h.sac, ok_bind, h.sam, ok_bind]
  generalize header (emittedWord repr) (emittedFields repr) tail = buf at hslice ⊢
  generalize 2 + (nextHeaderMode repr.nextHeader).2.length +
    (hopLimitMode repr.hopLimit).2.length = start at hslice ⊢
  by_cases hzero : repr.srcAddr = 0
  · rw [srcMode, if_pos hzero, hzero]
    exact ⟨_, rfl, rfl⟩
  rw [srcMode, if_neg hzero] at hslice ⊢
  by_cases hlocal : Ipv6.isLinkLocal repr.srcAddr
  · rw [if_pos hlocal] at hslice ⊢
    rcases linkLocalMode_cases repr.llSrcAddr addrContext hlocal with
      ⟨hmode, hres⟩ | ⟨o, ho, hmode, hres⟩ | ⟨o, ho, hmode, hres⟩
    · rw [hmode]
      exact ⟨_, rfl, hres⟩
    · rw [hmode] at hslice ⊢
      dsimp only at hslice ⊢
      rw [ho] at hslice
      rw [hslice]
      exact ⟨_, rfl, hres⟩
    · rw [hmode] at hslice ⊢
      dsimp only at hslice ⊢
      rw [ho] at hslice
      rw [hslice]
      exact ⟨_, rfl, hres⟩
  · rw [if_neg hlocal] at hslice ⊢
    dsimp only at hslice ⊢
    rw [Ipv6.length_octets] at hslice
    rw [hslice]
    exact ⟨_, rfl, UnresolvedAddress.resolve_fullInline _⟩

/-- The address has a short multicast form, if it is multicast. -/
def Sparse (addr : Ipv6.Address) : Prop :=
  Ipv6.isMulticast addr → ((Ipv6.octets addr).drop 2).take 9 = List.replicate 9 0

instance (addr : Ipv6.Address) : Decidable (Sparse addr) := inferInstanceAs (Decidable (_ → _))

/-- The address `ff02::ff`. -/
def misread : Ipv6.Address := toU128 ([0xff, 0x02] ++ List.replicate 13 0 ++ [0xff])

/-- The destination address that is read. -/
def readBack (addr : Ipv6.Address) : Ipv6.Address := if Sparse addr then addr else misread

lemma octets_split (addr : Ipv6.Address) (k : ℕ) :
    Ipv6.octets addr = [Octets.get (Ipv6.octets addr) 0, Octets.get (Ipv6.octets addr) 1] ++
      ((Ipv6.octets addr).drop 2).take k ++ (Ipv6.octets addr).drop (2 + k) := by
  have hlen := Ipv6.length_octets addr
  generalize Ipv6.octets addr = l at hlen ⊢
  match l, hlen with
  | a :: b :: rest, _ =>
    have hdrop : (a :: b :: rest).drop (2 + k) = rest.drop k := by rw [Nat.add_comm]; rfl
    rw [hdrop]
    simp [Octets.get]

/-- How a multicast address is carried, and what is read. -/
lemma multicastMode_cases {addr : Ipv6.Address} (llAddr : Option Ieee802154Address)
    (addrContext : List AddressContext) (hmulti : Ipv6.isMulticast addr) :
    (∃ o, multicastMode (Ipv6.octets addr) = (0b11, o) ∧ 1 ≤ o.length ∧
      UnresolvedAddress.resolve (.withoutContext (.multicast8bits (o.take 1))) llAddr addrContext =
        .ok (readBack addr)) ∨
    (∃ o, multicastMode (Ipv6.octets addr) = (0b10, o) ∧ o.length = 4 ∧
      UnresolvedAddress.resolve (.withoutContext (.multicast32bits o)) llAddr addrContext =
        .ok (readBack addr)) ∨
    (∃ o, multicastMode (Ipv6.octets addr) = (0b01, o) ∧ o.length = 6 ∧
      UnresolvedAddress.resolve (.withoutContext (.multicast48bits o)) llAddr addrContext =
        .ok (readBack addr)) := by
  have hlen := Ipv6.length_octets addr
  have haddr : toU128 (Ipv6.octets addr) = addr := toU128_ofU128 addr
  have hfirst : Octets.get (Ipv6.octets addr) 0 = 0xff := hmulti
  have hsparse : ∀ n, 9 ≤ n → ((Ipv6.octets addr).drop 2).take n = List.replicate n 0 →
      readBack addr = addr := by
    intro n hn htake
    apply if_pos
    intro _
    rw [← Nat.min_eq_left hn, ← List.take_take, htake, List.take_replicate, Nat.min_eq_left hn]
  unfold multicastMode
  split_ifs with h8 h32 h48
  · refine .inl ⟨_, rfl, le_rfl, ?_⟩
    have hsplit := octets_split addr 13
    obtain ⟨last, hlast⟩ : ∃ last, (Ipv6.octets addr).drop (2 + 13) = [last] :=
      List.length_eq_one_iff.mp (by simp)
    have hget : Octets.get (Ipv6.octets addr) 15 = last := by
      rw [Octets.get, ← Nat.add_zero 15, ← List.getElem?_drop, hlast]
      rfl
    rw [hfirst, h8.1, h8.2, hlast] at hsplit
    rw [hsparse 13 (by decide) h8.2, hget, List.take_of_length_le (by simp),
      UnresolvedAddress.resolve_multicast8bits, ← hsplit, haddr]
  · refine .inr (.inl ⟨_, rfl, by simp, ?_⟩)
    have hsplit := octets_split addr 11
    rw [hfirst, h32] at hsplit
    rw [hsparse 11 (by decide) h32, UnresolvedAddress.resolve_multicast32bits _ (by simp), ← hsplit,
      haddr]
  · refine .inr (.inr ⟨_, rfl, by simp, ?_⟩)
    have hsplit := octets_split addr 9
    rw [hfirst, h48] at hsplit
    rw [hsparse 9 le_rfl h48, UnresolvedAddress.resolve_multicast48bits _ (by simp), ← hsplit,
      haddr]
  · refine .inl ⟨_, rfl, by simp, ?_⟩
    have hsplit := octets_split addr 0
    have htake : (Ipv6.octets addr).take 1 = [0xff] := by
      rw [hsplit, hfirst]
      rfl
    rw [htake, readBack, if_neg (fun h => h48 (h hmulti))]
    exact UnresolvedAddress.resolve_multicast8bits _

/-- The destination address is found again, unless it is a multicast address without a short
form. -/
lemma dstAddr_emitted (tail : List UInt8) (addrContext : List AddressContext) :
    ∃ address, IphcPacket.dstAddr (header (emittedWord repr) (emittedFields repr) tail) =
      .ok address ∧ address.resolve repr.llDstAddr addrContext = .ok (readBack repr.dstAddr) := by
  have h := fields repr (emittedFields repr) tail
  have hslice : ∀ n ≤ (dstMode repr.dstAddr repr.llDstAddr).2.2.length, _ :=
    fun n hn => @sliceAt_dst repr tail n hn
  rw [IphcPacket.dstAddr, h.addressesStart, ok_bind, h.srcAddressSize, ok_bind, h.m, ok_bind, h.dac,
    ok_bind, h.dam, ok_bind]
  generalize header (emittedWord repr) (emittedFields repr) tail = buf at hslice ⊢
  generalize 2 + (nextHeaderMode repr.nextHeader).2.length +
    (hopLimitMode repr.hopLimit).2.length +
    (srcMode repr.srcAddr repr.llSrcAddr).2.2.length = start at hslice ⊢
  rw [dstMode] at hslice ⊢
  by_cases hmulti : Ipv6.isMulticast repr.dstAddr
  · rw [if_pos hmulti] at hslice ⊢
    rcases multicastMode_cases repr.llDstAddr addrContext hmulti with
      ⟨o, hmode, ho, hres⟩ | ⟨o, hmode, ho, hres⟩ | ⟨o, hmode, ho, hres⟩
    · rw [hmode] at hslice ⊢
      dsimp only at hslice ⊢
      rw [hslice 1 ho]
      exact ⟨_, rfl, hres⟩
    · rw [hmode] at hslice ⊢
      dsimp only at hslice ⊢
      rw [hslice 4 ho.ge, List.take_of_length_le ho.le]
      exact ⟨_, rfl, hres⟩
    · rw [hmode] at hslice ⊢
      dsimp only at hslice ⊢
      rw [hslice 6 ho.ge, List.take_of_length_le ho.le]
      exact ⟨_, rfl, hres⟩
  have hread : readBack repr.dstAddr = repr.dstAddr := if_pos fun h => absurd h hmulti
  rw [if_neg hmulti] at hslice ⊢
  rw [hread]
  by_cases hlocal : Ipv6.isLinkLocal repr.dstAddr
  · rw [if_pos hlocal] at hslice ⊢
    rcases linkLocalMode_cases repr.llDstAddr addrContext hlocal with
      ⟨hmode, hres⟩ | ⟨o, ho, hmode, hres⟩ | ⟨o, ho, hmode, hres⟩
    · rw [hmode]
      exact ⟨_, rfl, hres⟩
    · rw [hmode] at hslice ⊢
      dsimp only at hslice ⊢
      rw [hslice 2 ho.ge, List.take_of_length_le ho.le]
      exact ⟨_, rfl, hres⟩
    · rw [hmode] at hslice ⊢
      dsimp only at hslice ⊢
      rw [hslice 8 ho.ge, List.take_of_length_le ho.le]
      exact ⟨_, rfl, hres⟩
  · rw [if_neg hlocal] at hslice ⊢
    dsimp only at hslice ⊢
    rw [hslice 16 (by simp), List.take_of_length_le (by simp)]
    exact ⟨_, rfl, UnresolvedAddress.resolve_fullInline _⟩

/-- The next header that is read. -/
def readBackNextHeader : NextHeader → NextHeader
  | .compressed => .compressed
  | .uncompressed nh => .uncompressed (.ofByte nh.toByte)

/-- What is read from what is emitted. -/
lemma parse_emitted (tail : List UInt8) (addrContext : List AddressContext) :
    parse (header (emittedWord repr) (emittedFields repr) tail) repr.llSrcAddr repr.llDstAddr
      addrContext = .ok { repr with
        dstAddr := readBack repr.dstAddr, nextHeader := readBackNextHeader repr.nextHeader
        ecn := none, dscp := none, flowLabel := none } := by
  have h := fields repr (emittedFields repr) tail
  obtain ⟨src, hsrc, hsrcAddr⟩ := srcAddr_emitted repr tail addrContext
  obtain ⟨dst, hdst, hdstAddr⟩ := dstAddr_emitted repr tail addrContext
  obtain ⟨hecn, hdscp, hflow⟩ := @traffic_emitted repr (emittedFields repr) tail
  have hreject : reject ((3 : UInt8) ≠ dispatchIphcHeader) = .ok () := reject_of_not (by decide)
  rw [parse, checkLen_emitted, ok_bind, h.dispatch, ok_bind, hreject, ok_bind, hsrc, ok_bind,
    hsrcAddr, ok_bind, hdst, ok_bind, hdstAddr, ok_bind, nextHeader_emitted, ok_bind,
    hopLimit_emitted, ok_bind, hecn, ok_bind, hdscp, ok_bind, hflow, ok_bind]
  rfl

/-! ### Round trip -/

/-- As many octets are written as `bufferLen` says, whatever was there, and addresses, next header
and hop limit are read from them again. -/
def RoundTrips : Prop :=
  ∃ out : List UInt8, bufferLen repr = .ok out.length ∧
    (∀ old tail : List UInt8, old.length = out.length →
      emit repr (old ++ tail) = .ok (out ++ tail)) ∧
    ∀ (tail : List UInt8) (addrContext : List AddressContext), ∃ read,
      parse (out ++ tail) repr.llSrcAddr repr.llDstAddr addrContext = .ok read ∧
        read.srcAddr = repr.srcAddr ∧ read.dstAddr = repr.dstAddr ∧
        read.nextHeader = repr.nextHeader ∧ read.hopLimit = repr.hopLimit

/-- The next header is not a known protocol under another name. -/
def Named : NextHeader → Prop
  | .compressed => True
  | .uncompressed nh => IpProtocol.ofByte nh.toByte = nh

instance (nh : NextHeader) : Decidable (Named nh) :=
  match nh with
  | .compressed => isTrue trivial
  | .uncompressed _ => inferInstanceAs (Decidable (_ = _))

lemma readBackNextHeader_eq_iff (nh : NextHeader) : readBackNextHeader nh = nh ↔ Named nh := by
  cases nh with
  | compressed => simp [readBackNextHeader, Named]
  | uncompressed nh => simp [readBackNextHeader, Named]

lemma readBack_eq_iff (addr : Ipv6.Address) : readBack addr = addr ↔ Sparse addr := by
  constructor
  · intro h
    by_contra hsparse
    have hmisread : misread = addr := (if_neg hsparse).symm.trans h
    apply hsparse
    rw [← hmisread]
    decide
  · exact fun h => if_pos h

/-- What is emitted into a buffer. -/
lemma emit_append {old : List UInt8} (hold : old.length = 2 + (emittedFields repr).length)
    (tail : List UInt8) : emit repr (old ++ tail) =
      .ok (header (emittedWord repr) (emittedFields repr) [] ++ tail) := by
  obtain ⟨hi, lo, rest, rfl⟩ : ∃ hi lo rest, old = hi :: lo :: rest := by
    match old, hold with
    | hi :: lo :: rest, _ => exact ⟨hi, lo, rest, rfl⟩
    | [_], h => simp at h; omega
    | [], h => simp at h; omega
  have hrest : rest.length = (emittedFields repr).length := by
    simp only [List.length_cons] at hold
    omega
  have hbuf : hi :: lo :: rest ++ tail = header (toU16 hi lo) [] (rest ++ tail) := by
    rw [header, ofU16_toU16]
    rfl
  rw [hbuf, emit_header repr _ (by simp [hrest]), ← hrest, List.drop_left' rfl]
  simp [header]

variable {repr}

lemma roundTrips_iff_readBack (htf : repr.ecn = none ∧ repr.dscp = none ∧ repr.flowLabel = none) :
    RoundTrips repr ↔ readBack repr.dstAddr = repr.dstAddr ∧
      readBackNextHeader repr.nextHeader = repr.nextHeader := by
  have hlen : (header (emittedWord repr) (emittedFields repr) []).length =
      2 + (emittedFields repr).length := by
    simp [header]
  have hparse : ∀ tail addrContext,
    parse (header (emittedWord repr) (emittedFields repr) [] ++ tail)
      repr.llSrcAddr repr.llDstAddr addrContext = .ok { repr with
        dstAddr := readBack repr.dstAddr, nextHeader := readBackNextHeader repr.nextHeader
        ecn := none, dscp := none, flowLabel := none } := by
    intro tail addrContext
    rw [← parse_emitted repr tail addrContext, header, header, List.append_nil]
  constructor
  · rintro ⟨out, hout, hemit, hread⟩
    rw [bufferLen_eq repr htf] at hout
    have hold := Except.ok.inj hout
    -- what is emitted is known, so is what is read
    have hemitted := hemit (List.replicate (2 + (emittedFields repr).length) 0) [] (by simp [hold])
    rw [emit_append repr (by simp)] at hemitted
    obtain ⟨read, hok, -, hdst, hnext, -⟩ := hread [] []
    rw [← Except.ok.inj hemitted, hparse] at hok
    rw [← Except.ok.inj hok] at hdst hnext
    dsimp only at hdst hnext
    exact ⟨hdst, hnext⟩
  · rintro ⟨hdst, hnext⟩
    refine ⟨header (emittedWord repr) (emittedFields repr) [], ?_, ?_, ?_⟩
    · rw [bufferLen_eq repr htf, hlen]
    · intro old tail hold
      exact emit_append repr (hold.trans hlen) tail
    · intro tail addrContext
      refine ⟨_, hparse tail addrContext, ?_⟩
      dsimp only
      exact ⟨rfl, hdst, hnext, rfl⟩

/-- A header without traffic class comes back from what is emitted if and only if its destination
is not a multicast address without a short form and its next header goes by its name. -/
theorem roundTrips_iff (repr : IphcRepr)
    (htf : repr.ecn = none ∧ repr.dscp = none ∧ repr.flowLabel = none) :
    RoundTrips repr ↔ Sparse repr.dstAddr ∧ Named repr.nextHeader := by
  rw [roundTrips_iff_readBack htf, readBack_eq_iff, readBackNextHeader_eq_iff]

/-- An echo from a link-local address to all nodes. Neither address is carried in full. -/
def echo : IphcRepr where
  srcAddr := 0xfe800000000000000000000000000001#128
  llSrcAddr := some (.short 1#16)
  dstAddr := 0xff020000000000000000000000000001#128
  llDstAddr := some (.short 0xffff#16)
  nextHeader := .uncompressed .icmpv6
  hopLimit := 64

theorem roundTrips_echo : RoundTrips echo :=
  (roundTrips_iff echo ⟨rfl, rfl, rfl⟩).mpr ⟨by decide, by decide⟩

/-- A multicast address that is based on a prefix has no short form. What is read is `ff02::ff`. -/
theorem not_roundTrips_prefixed :
    ¬ RoundTrips { echo with dstAddr := 0xff3e004020010db80000000000000001#128 } := by
  rw [roundTrips_iff_readBack ⟨rfl, rfl, rfl⟩, readBack_eq_iff]
  rintro ⟨h, -⟩
  revert h
  decide

end IphcRepr

end Smoltcp
