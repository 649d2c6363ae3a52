import Smoltcp.Wire.Icmpv6.Control

/-!
# IPv6 extension headers

The header of extension headers, and the options of a hop-by-hop header. An option that a node does
not know tells by its first two bits what to do with the packet.
-/

namespace Smoltcp

open Outcome

/-! ### Extension headers -/

structure Ipv6ExtHeaderRepr where
  nextHeader : IpProtocol
  length : UInt8
  data : List UInt8
  deriving DecidableEq, Repr

namespace Ipv6ExtHeaderRepr

variable (buf : List UInt8)

def minHeaderSize : ℕ := 8

/-- The end of the header. Its length field is in units of 8 octets, without the first 8. -/
def headerStop : Outcome ℕ := do
  return (← index buf 1).toNat * 8 + 8

def checkLen : Outcome Unit := do
  if buf.length < minHeaderSize then fail
  else reject (buf.length < (← headerStop buf))

def parse : Outcome Ipv6ExtHeaderRepr := do
  checkLen buf
  return {
    nextHeader := .ofByte (← index buf 0)
    length := ← index buf 1
    data := ← slice buf 2 (← headerStop buf) }

def headerLen (_ : Ipv6ExtHeaderRepr) : ℕ := 2

end Ipv6ExtHeaderRepr

/-! ### Options -/

/-- Action required when parsing an option that is unknown. -/
inductive Ipv6OptionFailureType where
  /-- Skip this option and continue processing the packet. -/
  | skip
  /-- Discard the containing packet. -/
  | discard
  /-- Discard the containing packet and notify the sender. -/
  | discardSendAll
  /-- Discard the containing packet and notify the sender only if the destination is not a multicast
  address. -/
  | discardSendUnicast
  deriving DecidableEq, Repr

def Ipv6OptionFailureType.ofByte (value : UInt8) : Ipv6OptionFailureType :=
  let bits := value &&& (0b11000000 : UInt8)
  if bits = 0b00000000 then .skip
  else if bits = 0b01000000 then .discard
  else if bits = 0b10000000 then .discardSendAll
  else .discardSendUnicast

/-- An option that carries routing information of a packet. -/
structure RplHopByHopRepr where
  down : Bool
  rankError : Bool
  forwardingError : Bool
  instanceId : Rpl.InstanceId
  senderRank : UInt16
  deriving DecidableEq, Repr

inductive Ipv6OptionRepr where
  | pad1
  | padN (length : UInt8)
  | routerAlert (value : UInt16)
  | rpl (repr : RplHopByHopRepr)
  | unknown (type length : UInt8) (data : List UInt8)
  deriving DecidableEq, Repr

namespace Ipv6Option

variable (buf : List UInt8)

def checkLen : Outcome Unit := do
  if buf.length < 1 then fail
  else if (← index buf 0) = 0 then return ()
  else if buf.length = 1 then fail
  else reject (buf.length < (← index buf 1).toNat + 2)

def data : Outcome (List UInt8) := do
  slice buf 2 ((← index buf 1).toNat + 2)

end Ipv6Option

namespace Ipv6OptionRepr

open Ipv6Option

def parseRpl (data : List UInt8) : Outcome RplHopByHopRepr := do
  reject (data.length ≠ 4)
  return {
    down := ← Icmpv6Packet.bit data 0 7
    rankError := ← Icmpv6Packet.bit data 0 6
    forwardingError := ← Icmpv6Packet.bit data 0 5
    instanceId := .ofByte (← index data 1)
    senderRank := ← readU16 data 2 }

/-- Parse an option. `rpl` tells whether options for routing are known. -/
def parse (rpl : Bool) (buf : List UInt8) : Outcome Ipv6OptionRepr := do
  checkLen buf
  let type ← index buf 0
  if type = 0 then return .pad1
  else if type = 1 then return .padN (← index buf 1)
  else if type = 5 then
    if (← index buf 1) = 2 then return .routerAlert (← readU16 (← data buf) 0) else fail
  else if type = 0x63 ∧ rpl then return .rpl (← parseRpl (← data buf))
  else return .unknown type (← index buf 1) (← data buf)

def bufferLen : Ipv6OptionRepr → ℕ
  | .pad1 => 1
  | .padN length => length.toNat + 2
  | .routerAlert _ => 4
  | .rpl _ => 6
  | .unknown _ length _ => length.toNat + 2

lemma bufferLen_pos (repr : Ipv6OptionRepr) : 0 < repr.bufferLen := by
  cases repr <;> simp [bufferLen]

end Ipv6OptionRepr

/-! ### Hop-by-hop headers -/

structure Ipv6HopByHopRepr where
  options : List Ipv6OptionRepr
  deriving DecidableEq, Repr

namespace Ipv6HopByHopRepr

/-- The loop over the options from a position on, until `maxOptions` are collected. -/
def parseOptions (rpl : Bool) (maxOptions : ℕ) (data : List UInt8) (pos : ℕ)
    (options : List Ipv6OptionRepr) : Outcome (List Ipv6OptionRepr) :=
  if pos < data.length then do
    let opt ← sliceFrom data pos
    Ipv6Option.checkLen opt
    let repr ← Ipv6OptionRepr.parse rpl opt
    -- An option that finds no room ends the loop.
    if options.length < maxOptions then
      have := repr.bufferLen_pos
      parseOptions rpl maxOptions data (pos + repr.bufferLen) (options ++ [repr])
    else return options
  else return options
termination_by data.length - pos

/-- Parse the options behind the extension header. -/
def parse (rpl : Bool) (maxOptions : ℕ) (buf : List UInt8) : Outcome Ipv6HopByHopRepr := do
  reject (buf.length = 0)
  return ⟨← parseOptions rpl maxOptions buf 0 []⟩

def bufferLen (repr : Ipv6HopByHopRepr) : ℕ := (repr.options.map Ipv6OptionRepr.bufferLen).sum

/-- The hop-by-hop header containing a router alert option for multicast listener discovery. -/
def mldv2RouterAlert : Ipv6HopByHopRepr := ⟨[.routerAlert 0]⟩

def pushPadnOption (repr : Ipv6HopByHopRepr) (n : UInt8) : Ipv6HopByHopRepr :=
  ⟨repr.options ++ [.padN n]⟩

end Ipv6HopByHopRepr

end Smoltcp
