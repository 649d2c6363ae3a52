import Smoltcp.Wire.Sixlowpan.Address

/-!
# Kinds of addresses and address blocks

An address is unicast unless it is unspecified, multicast or the limited broadcast address. Which
other addresses are broadcast addresses depends on the blocks that an interface has addresses in.
-/

namespace Smoltcp

open Octets (get)

/-! ### IPv4 -/

namespace Ipv4

abbrev Address := BitVec 32

section Kinds

variable (addr : Address)

def octets : List UInt8 := Octets.ofU32 addr

def isUnspecified : Prop := addr = 0

instance : Decidable (isUnspecified addr) := inferInstanceAs (Decidable (_ = _))

def isBroadcast : Prop := addr = 0xffffffff

instance : Decidable (isBroadcast addr) := inferInstanceAs (Decidable (_ = _))

def isMulticast : Prop := 224 ≤ get (octets addr) 0 ∧ get (octets addr) 0 ≤ 239

instance : Decidable (isMulticast addr) := inferInstanceAs (Decidable (_ ∧ _))

def isUnicast : Prop := ¬ (isBroadcast addr ∨ isMulticast addr ∨ isUnspecified addr)

instance : Decidable (isUnicast addr) := inferInstanceAs (Decidable (¬ _))

end Kinds

/-- All multicast-capable nodes: 224.0.0.1. -/
def multicastAllSystems : Address := 0xe0000001

/-- All multicast-capable routers: 224.0.0.2. -/
def multicastAllRouters : Address := 0xe0000002

/-- The loop over the bits of a mask: ones until the first zero, and then zeros. -/
def prefixLenOf : List Bool → Bool → ℕ → Option ℕ
  | [], _, prefixLen => some prefixLen
  | one :: bits, true, prefixLen =>
    if one then prefixLenOf bits true (prefixLen + 1) else prefixLenOf bits false prefixLen
  | one :: bits, false, prefixLen => if one then none else prefixLenOf bits false prefixLen

/-- If the address is a subnet mask, how many bits it is the mask of. -/
def prefixLen (addr : Address) : Option ℕ :=
  let bits := (octets addr).flatMap fun byte =>
    (List.range 8).map fun i => decide (byte &&& ((0x80 : UInt8) >>> .ofNat i) ≠ 0)
  prefixLenOf bits true 0

/-- An address, and how many of its first bits name its block. -/
structure Cidr where
  address : Address
  prefixLen : ℕ
  prefixLen_le : prefixLen ≤ 32
  deriving DecidableEq

namespace Cidr

/-- Create a block. Panics if the prefix is too long. -/
def new (address : Address) (prefixLen : ℕ) : Checked Cidr :=
  if h : prefixLen ≤ 32 then .ok ⟨address, prefixLen, h⟩ else .error .assertFailed

variable (cidr : Cidr)

def netmask : Address := if cidr.prefixLen = 0 then 0 else 0xffffffff#32 <<< (32 - cidr.prefixLen)

/-- The block itself. -/
def network : Cidr := { cidr with address := cidr.address &&& cidr.netmask }

/-- The last address of the block, unless the block is too small for a broadcast address. -/
def broadcast : Option Address :=
  let network := cidr.network
  if network.prefixLen = 31 ∨ network.prefixLen = 32 then none
  else some (network.address ||| 0xffffffff#32 >>> network.prefixLen)

def containsAddr (addr : Address) : Prop :=
  cidr.address &&& cidr.netmask = addr &&& cidr.netmask

instance (addr : Address) : Decidable (cidr.containsAddr addr) :=
  inferInstanceAs (Decidable (_ = _))

end Cidr

end Ipv4

/-! ### IPv6 -/

namespace Ipv6

/-- The loopback address ::1. -/
def localhost : Address := 1

/-- All nodes of the link: ff02::1. -/
def linkLocalAllNodes : Address := 0xff020000000000000000000000000001

/-- All MLDv2-capable routers of the link: ff02::16. -/
def linkLocalAllMldv2Routers : Address := 0xff020000000000000000000000000016

/-- All RPL nodes of the link: ff02::1a. -/
def linkLocalAllRplNodes : Address := 0xff02000000000000000000000000001a

section Kinds

variable (addr : Address)

def isLoopback : Prop := addr = localhost

instance : Decidable (isLoopback addr) := inferInstanceAs (Decidable (_ = _))

def isUnicast : Prop := ¬ (isMulticast addr ∨ isUnspecified addr)

instance : Decidable (isUnicast addr) := inferInstanceAs (Decidable (¬ _))

def isGlobalUnicast : Prop := get (octets addr) 0 >>> 5 = 0b001

instance : Decidable (isGlobalUnicast addr) := inferInstanceAs (Decidable (_ = _))

def isUniqueLocal : Prop := get (octets addr) 0 &&& 0b11111110 = 0xfc

instance : Decidable (isUniqueLocal addr) := inferInstanceAs (Decidable (_ = _))

/-- The first octets of every solicited-node multicast address. -/
def solicitedNodePrefix : List UInt8 := [0xff, 0x02, 0, 0, 0, 0, 0, 0, 0, 0, 0, 0x01, 0xff]

/-- The solicited node for the given unicast address. -/
def solicitedNode : Checked Address := do
  Checked.assert (isUnicast addr)
  return Octets.toU128 (solicitedNodePrefix ++ (octets addr).drop 13)

def isSolicitedNodeMulticast : Prop := (octets addr).take 13 = solicitedNodePrefix

instance : Decidable (isSolicitedNodeMulticast addr) := inferInstanceAs (Decidable (_ = _))

end Kinds

/-- The scope of an address, in the order of the scopes. -/
inductive MulticastScope where
  | interfaceLocal
  | linkLocal
  | adminLocal
  | siteLocal
  | organizationLocal
  | global
  | unknown
  deriving DecidableEq, Repr

namespace MulticastScope

def toByte : MulticastScope → UInt8
  | .interfaceLocal => 0x1
  | .linkLocal => 0x2
  | .adminLocal => 0x4
  | .siteLocal => 0x5
  | .organizationLocal => 0x8
  | .global => 0xe
  | .unknown => 0xff

def ofByte (value : UInt8) : MulticastScope :=
  if value = 0x1 then .interfaceLocal
  else if value = 0x2 then .linkLocal
  else if value = 0x4 then .adminLocal
  else if value = 0x5 then .siteLocal
  else if value = 0x8 then .organizationLocal
  else if value = 0xe then .global
  else .unknown

end MulticastScope

def multicastScope (addr : Address) : MulticastScope :=
  if isMulticast addr then .ofByte (get (octets addr) 1 &&& 0b1111)
  else if isLinkLocal addr then .linkLocal
  -- Unique local addresses are considered global scope.
  else if isUniqueLocal addr ∨ isGlobalUnicast addr then .global
  else .unknown

structure Cidr where
  address : Address
  prefixLen : ℕ
  prefixLen_le : prefixLen ≤ 128
  deriving DecidableEq

/-- Create a block. Panics if the prefix is too long. -/
def Cidr.new (address : Address) (prefixLen : ℕ) : Checked Cidr :=
  if h : prefixLen ≤ 128 then .ok ⟨address, prefixLen, h⟩ else .error .assertFailed

/-- Helper function used to mask an address given a prefix: the first `mask` bits as 16 octets. -/
def mask (addr : Address) (mask : ℕ) : List UInt8 :=
  let idx := mask / 8
  let modulus := mask % 8
  let first := (octets addr).take idx
  if idx < 16 then
    first ++ [get (octets addr) idx &&& ~~~ ((0xff : UInt8) >>> .ofNat modulus)] ++
      List.replicate (16 - (idx + 1)) 0
  else first

def Cidr.containsAddr (cidr : Cidr) (addr : Address) : Prop :=
  cidr.prefixLen = 0 ∨ mask cidr.address cidr.prefixLen = mask addr cidr.prefixLen

instance (cidr : Cidr) (addr : Address) : Decidable (cidr.containsAddr addr) :=
  inferInstanceAs (Decidable (_ ∨ _))

end Ipv6

/-! ### Both versions -/

namespace IpAddress

def isUnicast : IpAddress → Prop
  | .ipv4 addr => Ipv4.isUnicast addr
  | .ipv6 addr => Ipv6.isUnicast addr

def isMulticast : IpAddress → Prop
  | .ipv4 addr => Ipv4.isMulticast addr
  | .ipv6 addr => Ipv6.isMulticast addr

/-- The address is the limited broadcast address. -/
def isBroadcast : IpAddress → Prop
  | .ipv4 addr => Ipv4.isBroadcast addr
  | .ipv6 _ => False

instance : DecidablePred isUnicast
  | .ipv4 addr => inferInstanceAs (Decidable (Ipv4.isUnicast addr))
  | .ipv6 addr => inferInstanceAs (Decidable (Ipv6.isUnicast addr))

instance : DecidablePred isMulticast
  | .ipv4 addr => inferInstanceAs (Decidable (Ipv4.isMulticast addr))
  | .ipv6 addr => inferInstanceAs (Decidable (Ipv6.isMulticast addr))

instance : DecidablePred isBroadcast
  | .ipv4 addr => inferInstanceAs (Decidable (Ipv4.isBroadcast addr))
  | .ipv6 _ => inferInstanceAs (Decidable False)

@[simp] lemma isUnicast_ipv4 (addr : Ipv4.Address) :
    (IpAddress.ipv4 addr).isUnicast ↔ Ipv4.isUnicast addr := .rfl

@[simp] lemma isUnicast_ipv6 (addr : Ipv6.Address) :
    (IpAddress.ipv6 addr).isUnicast ↔ Ipv6.isUnicast addr := .rfl

@[simp] lemma isMulticast_ipv4 (addr : Ipv4.Address) :
    (IpAddress.ipv4 addr).isMulticast ↔ Ipv4.isMulticast addr := .rfl

@[simp] lemma isMulticast_ipv6 (addr : Ipv6.Address) :
    (IpAddress.ipv6 addr).isMulticast ↔ Ipv6.isMulticast addr := .rfl

lemma isUnicast.not_isBroadcast {addr : IpAddress} (h : addr.isUnicast) : ¬ addr.isBroadcast := by
  cases addr with
  | ipv4 addr => exact fun hb => h (.inl hb)
  | ipv6 addr => exact id

lemma isUnicast.not_isUnspecified {addr : IpAddress} (h : addr.isUnicast) :
    addr.isUnspecified = false := by
  cases addr with
  | ipv4 addr =>
    simp only [isUnspecified, beq_eq_false_iff_ne]
    exact fun hu => h (.inr (.inr hu))
  | ipv6 addr =>
    simp only [isUnspecified, beq_eq_false_iff_ne]
    exact fun hu => h (.inr hu)

/-- Multicast addresses are neither unspecified nor the limited broadcast address. -/
lemma isMulticast.not_isUnspecified {addr : IpAddress} (h : addr.isMulticast) :
    addr.isUnspecified = false := by
  cases addr with
  | ipv4 addr =>
    simp only [isUnspecified, beq_eq_false_iff_ne]
    rintro rfl
    revert h
    decide
  | ipv6 addr =>
    simp only [isUnspecified, beq_eq_false_iff_ne]
    rintro rfl
    revert h
    decide

lemma isMulticast.not_isBroadcast {addr : IpAddress} (h : addr.isMulticast) :
    ¬ addr.isBroadcast := by
  cases addr with
  | ipv4 addr =>
    rintro (rfl : addr = 0xffffffff)
    revert h
    decide
  | ipv6 addr => exact id

end IpAddress

inductive IpCidr where
  | ipv4 (cidr : Ipv4.Cidr)
  | ipv6 (cidr : Ipv6.Cidr)
  deriving DecidableEq

namespace IpCidr

def address : IpCidr → IpAddress
  | .ipv4 cidr => .ipv4 cidr.address
  | .ipv6 cidr => .ipv6 cidr.address

def prefixLen : IpCidr → ℕ
  | .ipv4 cidr => cidr.prefixLen
  | .ipv6 cidr => cidr.prefixLen

def containsAddr : IpCidr → IpAddress → Prop
  | .ipv4 cidr, .ipv4 addr => cidr.containsAddr addr
  | .ipv6 cidr, .ipv6 addr => cidr.containsAddr addr
  | _, _ => False

instance : (cidr : IpCidr) → (addr : IpAddress) → Decidable (cidr.containsAddr addr)
  | .ipv4 cidr, .ipv4 addr => inferInstanceAs (Decidable (cidr.containsAddr addr))
  | .ipv6 cidr, .ipv6 addr => inferInstanceAs (Decidable (cidr.containsAddr addr))
  | .ipv4 _, .ipv6 _ => inferInstanceAs (Decidable False)
  | .ipv6 _, .ipv4 _ => inferInstanceAs (Decidable False)

/-- The broadcast address of an IPv4 block. -/
def broadcast : IpCidr → Option Ipv4.Address
  | .ipv4 cidr => cidr.broadcast
  | .ipv6 _ => none

end IpCidr

end Smoltcp
