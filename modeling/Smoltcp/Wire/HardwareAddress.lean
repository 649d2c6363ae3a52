import Smoltcp.Phy
import Smoltcp.Wire.Sixlowpan.Address

/-!
# Link-layer addresses
-/

namespace Smoltcp

abbrev EthernetAddress := BitVec 48

namespace EthernetAddress

def broadcast : EthernetAddress := 0xffffffffffff

section Kinds

variable (addr : EthernetAddress)

def octets : List UInt8 := Octets.ofNatBE 6 addr.toNat

def fromBytes (data : List UInt8) : EthernetAddress := .ofNat 48 (Octets.toNatBE data)

def isBroadcast : Prop := addr = broadcast

/-- The lowest bit of the first octet is set. -/
def isMulticast : Prop := Octets.get (octets addr) 0 &&& 1 ≠ 0

instance : Decidable (isBroadcast addr) := inferInstanceAs (Decidable (_ = _))

instance : Decidable (isMulticast addr) := inferInstanceAs (Decidable (_ ≠ _))

def isUnicast : Prop := ¬ (isBroadcast addr ∨ isMulticast addr)

instance : Decidable (isUnicast addr) := inferInstanceAs (Decidable (¬ _))

end Kinds

end EthernetAddress

namespace Ieee802154Address

def broadcast : Ieee802154Address := .short 0xffff

def isUnicast (addr : Ieee802154Address) : Prop := addr ≠ broadcast

instance (addr : Ieee802154Address) : Decidable (isUnicast addr) :=
  inferInstanceAs (Decidable (¬ _))

end Ieee802154Address

/-- Hardware addresses, one kind for each medium. -/
inductive HardwareAddress where
  | ip
  | ethernet (addr : EthernetAddress)
  | ieee802154 (addr : Ieee802154Address)
  deriving DecidableEq, Repr

namespace HardwareAddress

def medium : HardwareAddress → Medium
  | .ip => .ip
  | .ethernet _ => .ethernet
  | .ieee802154 _ => .ieee802154

/-- Query whether the address is a unicast address. An interface without link layer has none. -/
def isUnicast : HardwareAddress → Checked Bool
  | .ip => .error .unreachable
  | .ethernet addr => .ok (EthernetAddress.isUnicast addr)
  | .ieee802154 addr => .ok (Ieee802154Address.isUnicast addr)

/-- The octets of the address. An interface without link layer has none. -/
def asBytes : HardwareAddress → Checked (List UInt8)
  | .ip => .error .unreachable
  | .ethernet addr => .ok (EthernetAddress.octets addr)
  | .ieee802154 addr => .ok addr.asBytes

def ethernetOrPanic : HardwareAddress → Checked EthernetAddress
  | .ethernet addr => .ok addr
  | _ => .error .unreachable

end HardwareAddress

/-- Unparsed hardware address, which makes discovery agnostic of the medium in use. -/
structure RawHardwareAddress where
  octets : List UInt8
  deriving DecidableEq, Repr

namespace RawHardwareAddress

def len (addr : RawHardwareAddress) : ℕ := addr.octets.length

def parse (medium : Medium) (addr : RawHardwareAddress) : Outcome HardwareAddress :=
  match medium with
  | .ethernet =>
    if addr.len ≠ 6 then Outcome.fail
    else .ok (.ethernet (EthernetAddress.fromBytes addr.octets))
  | .ieee802154 =>
    if addr.len ≠ 8 then Outcome.fail
    else .ok (.ieee802154 (.extended (.ofNat 64 (Octets.toNatBE addr.octets))))
  | .ip => .error (.panic .unreachable)

end RawHardwareAddress

end Smoltcp
