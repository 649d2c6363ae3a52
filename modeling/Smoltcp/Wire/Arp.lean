import Smoltcp.Wire.HardwareAddress
import Smoltcp.Wire.Address

/-!
# ARP packets

Only packets that map IPv4 addresses to Ethernet addresses are understood.
-/

namespace Smoltcp

open Outcome

inductive ArpOperation where
  | request
  | reply
  | unknown (value : UInt16)
  deriving DecidableEq, Repr

def ArpOperation.ofWord (value : UInt16) : ArpOperation :=
  if value = 1 then .request
  else if value = 2 then .reply
  else .unknown value

/-- An Ethernet and IPv4 address resolution packet. -/
structure ArpRepr where
  operation : ArpOperation
  sourceHardwareAddr : EthernetAddress
  sourceProtocolAddr : Ipv4.Address
  targetHardwareAddr : EthernetAddress
  targetProtocolAddr : Ipv4.Address
  deriving DecidableEq, Repr

namespace ArpRepr

variable (buf : List UInt8)

/-- Ensure that no accessor method will panic if called. -/
def checkLen : Outcome Unit := do
  if buf.length < 8 then fail
  else
    let hardwareLen := (← index buf 4).toNat
    let protocolLen := (← index buf 5).toNat
    reject (buf.length < 8 + hardwareLen + protocolLen + hardwareLen + protocolLen)

def parse : Outcome ArpRepr := do
  checkLen buf
  let hardware ← readU16 buf 0
  let protocol ← readU16 buf 2
  let hardwareLen ← index buf 4
  let protocolLen ← index buf 5
  if hardware = 1 ∧ protocol = 0x0800 ∧ hardwareLen = 6 ∧ protocolLen = 4 then
    return {
      operation := .ofWord (← readU16 buf 6)
      sourceHardwareAddr := EthernetAddress.fromBytes (← slice buf 8 14)
      sourceProtocolAddr := ← readU32 buf 14
      targetHardwareAddr := EthernetAddress.fromBytes (← slice buf 18 24)
      targetProtocolAddr := ← readU32 buf 24 }
  else fail

end ArpRepr

end Smoltcp
