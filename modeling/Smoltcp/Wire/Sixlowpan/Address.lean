import Smoltcp.Wire.Ip
import Smoltcp.Wire.Outcome

/-!
# Compressed addresses

An IPv6 address in a 6LoWPAN header is carried whole, or in part, with the rest taken from the
link-local prefix, a context or the link-layer address of the frame.
-/

namespace Smoltcp

open Outcome

inductive Ieee802154Address where
  | absent
  | short (addr : BitVec 16)
  | extended (addr : BitVec 64)
  deriving DecidableEq, Repr

namespace Ieee802154Address

/-- The octets of an address. -/
def asBytes : Ieee802154Address → List UInt8
  | .absent => []
  | .short addr => Octets.ofNatBE 2 addr.toNat
  | .extended addr => Octets.ofNatBE 8 addr.toNat

/-- `Address::Short` of two octets. -/
def ofShort (octets : List UInt8) : Ieee802154Address := .short (.ofNat 16 (Octets.toNatBE octets))

/-- Convert the extended address to an Extended Unique Identifier (EUI-64). -/
def asEui64 : Ieee802154Address → Option (List UInt8)
  | .absent | .short _ => none
  | .extended addr => some (Octets.ofNatBE 8 (addr ^^^ (1#64 <<< 57)).toNat)

lemma asBytes_ofShort (a b : UInt8) : (ofShort [a, b]).asBytes = [a, b] := by
  have hlt := Octets.toNatBE_lt [a, b]
  rw [ofShort, asBytes, BitVec.toNat_ofNat, Nat.mod_eq_of_lt (by simpa using hlt)]
  exact Octets.ofNatBE_toNatBE [a, b]

end Ieee802154Address

namespace Ipv6

abbrev Address := BitVec 128

/-- Construct an address from a sequence of octets, which must be sixteen. -/
def fromBytes (data : List UInt8) : Outcome Address := do
  let bytes ← copyFromSlice data (List.replicate 16 0)
  return Octets.toU128 bytes

def octets (addr : Address) : List UInt8 := Octets.ofU128 addr

def isUnspecified (addr : Address) : Prop := addr = 0

instance (addr : Address) : Decidable (isUnspecified addr) := inferInstanceAs (Decidable (_ = _))

def isMulticast (addr : Address) : Prop := Octets.get (octets addr) 0 = 0xff

instance (addr : Address) : Decidable (isMulticast addr) := inferInstanceAs (Decidable (_ = _))

def isLinkLocal (addr : Address) : Prop :=
  (octets addr).take 8 = [0xfe, 0x80, 0x00, 0x00, 0x00, 0x00, 0x00, 0x00]

instance (addr : Address) : Decidable (isLinkLocal addr) := inferInstanceAs (Decidable (_ = _))

lemma fromBytes_of {data : List UInt8} (h : data.length = 16) :
    fromBytes data = .ok (Octets.toU128 data) := by
  rw [fromBytes, copyFromSlice_of (by simp [h]), ok_bind]
  rfl

@[simp] lemma length_octets (addr : Address) : (octets addr).length = 16 :=
  Octets.length_ofU128 addr

/-- An address is found again from its octets. -/
lemma fromBytes_octets (addr : Address) : fromBytes (octets addr) = .ok addr := by
  rw [fromBytes_of (length_octets addr), octets, Octets.toU128_ofU128]

end Ipv6

namespace Sixlowpan

/-- `AddressContext([u8; 8])`. -/
abbrev AddressContext := BitVec 64

inductive AddressMode where
  /-- The full address is carried in-line. -/
  | fullInline (inline : List UInt8)
  /-- The first 64 bits of the address are elided. -/
  | inLine64bits (inline : List UInt8)
  /-- The first 112 bits of the address are elided. -/
  | inLine16bits (inline : List UInt8)
  /-- The address is fully elided. -/
  | fullyElided
  /-- The address takes the form `ffXX::00XX:XXXX:XXXX`. -/
  | multicast48bits (inline : List UInt8)
  /-- The address takes the form `ffXX::00XX:XXXX`. -/
  | multicast32bits (inline : List UInt8)
  /-- The address takes the form `ff02::00XX`. -/
  | multicast8bits (inline : List UInt8)
  | unspecified
  | notSupported
  deriving DecidableEq, Repr

inductive UnresolvedAddress where
  | withoutContext (mode : AddressMode)
  | withContext (index : ℕ) (mode : AddressMode)
  | reserved
  deriving DecidableEq, Repr

def linkLocalPrefix : List UInt8 := [0xfe, 0x80]

def eui64MiddleValue : List UInt8 := [0xff, 0xfe]

namespace UnresolvedAddress

/-- Fill in the interface identifier that a link-layer address gives. -/
def copyLlAddress (llAddress : Option Ieee802154Address) (bytes : List UInt8) :
    Outcome (List UInt8) :=
  match llAddress with
  | some (.short ll) => do
    let bytes ← copyAt bytes 11 13 eui64MiddleValue
    copyAt bytes 14 bytes.length (Ieee802154Address.short ll).asBytes
  | some (.extended ll) => do
    let addr ← okOr (Ieee802154Address.extended ll).asEui64
    copyAt bytes 8 bytes.length addr
  | some .absent => fail
  | none => fail

def copyContext (addrContext : List AddressContext) (index : ℕ) (bytes : List UInt8) :
    Outcome (List UInt8) := do
  reject (addrContext.length ≤ index)
  let context ← Outcome.index addrContext index
  copyAt bytes 0 8 (Octets.ofNatBE 8 context.toNat)

/-- `bytes[16 - inline.len()..].copy_from_slice(inline)`. -/
def copyLast (bytes inline : List UInt8) : Outcome (List UInt8) := do
  copyAt bytes (← sub 16 inline.length) bytes.length inline

def resolve (address : UnresolvedAddress) (llAddress : Option Ieee802154Address)
    (addrContext : List AddressContext) : Outcome Ipv6.Address :=
  let bytes : List UInt8 := List.replicate 16 0
  match address with
  | .withoutContext (.fullInline inline) => Ipv6.fromBytes inline
  | .withoutContext (.inLine64bits inline) => do
    let bytes ← copyAt bytes 0 2 linkLocalPrefix
    Ipv6.fromBytes (← copyAt bytes 8 bytes.length inline)
  | .withoutContext (.inLine16bits inline) => do
    let bytes ← copyAt bytes 0 2 linkLocalPrefix
    let bytes ← copyAt bytes 11 13 eui64MiddleValue
    Ipv6.fromBytes (← copyAt bytes 14 bytes.length inline)
  | .withoutContext .fullyElided => do
    let bytes ← copyAt bytes 0 2 linkLocalPrefix
    Ipv6.fromBytes (← copyLlAddress llAddress bytes)
  | .withoutContext (.multicast48bits inline) => do
    let bytes ← write bytes 0 [0xff]
    let bytes ← write bytes 1 [← Outcome.index inline 0]
    Ipv6.fromBytes (← copyAt bytes 11 bytes.length (← sliceAt inline 1 5))
  | .withoutContext (.multicast32bits inline) => do
    let bytes ← write bytes 0 [0xff]
    let bytes ← write bytes 1 [← Outcome.index inline 0]
    Ipv6.fromBytes (← copyAt bytes 13 bytes.length (← sliceAt inline 1 3))
  | .withoutContext (.multicast8bits inline) => do
    let bytes ← write bytes 0 [0xff]
    let bytes ← write bytes 1 [0x02]
    Ipv6.fromBytes (← write bytes 15 [← Outcome.index inline 0])
  | .withoutContext _ => fail
  | .withContext _ .unspecified => return 0
  | .withContext index (.inLine64bits inline) => do
    let bytes ← copyContext addrContext index bytes
    Ipv6.fromBytes (← copyLast bytes inline)
  | .withContext index (.inLine16bits inline) => do
    let bytes ← copyContext addrContext index bytes
    Ipv6.fromBytes (← copyLast bytes inline)
  | .withContext index .fullyElided => do
    let bytes ← copyLlAddress llAddress bytes
    Ipv6.fromBytes (← copyContext addrContext index bytes)
  | .withContext _ _ => fail
  | .reserved => fail

/-! ### Addresses that are found again -/

section Resolve

variable {l : List UInt8} {llAddress : Option Ieee802154Address} {addrContext : List AddressContext}

lemma resolve_fullInline (addr : Ipv6.Address) :
    resolve (.withoutContext (.fullInline (Ipv6.octets addr))) llAddress addrContext = .ok addr :=
  Ipv6.fromBytes_octets addr

/-- The octets of an address, split behind the first `n`. -/
lemma exists_split (hlen : l.length = 16) {front : List UInt8} {n : ℕ} (hfront : l.take n = front) :
    ∃ back, back.length = 16 - n ∧ l.drop n = back ∧ l = front ++ back := by
  refine ⟨l.drop n, ?_, rfl, ?_⟩
  · rw [List.length_drop, hlen]
  · rw [← hfront, List.take_append_drop]

lemma resolve_inLine64bits (hlen : l.length = 16)
    (hfront : l.take 8 = [0xfe, 0x80, 0, 0, 0, 0, 0, 0]) :
    resolve (.withoutContext (.inLine64bits (l.drop 8))) llAddress addrContext =
      .ok (Octets.toU128 l) := by
  obtain ⟨back, hback, hdrop, rfl⟩ := exists_split hlen hfront
  rw [hdrop]
  match back, hback with
  | [a, b, c, d, e, f, g, h], _ => rfl

/-- The octets in front of a short address. -/
def shortFront : List UInt8 := [0xfe, 0x80, 0, 0, 0, 0, 0, 0, 0, 0, 0, 0xff, 0xfe, 0]

lemma resolve_inLine16bits (hlen : l.length = 16) (hfront : l.take 14 = shortFront) :
    resolve (.withoutContext (.inLine16bits (l.drop 14))) llAddress addrContext =
      .ok (Octets.toU128 l) := by
  obtain ⟨back, hback, hdrop, rfl⟩ := exists_split hlen hfront
  obtain ⟨a, b, rfl⟩ := List.length_eq_two.mp hback
  rfl

lemma resolve_short (hlen : l.length = 16) (hfront : l.take 14 = shortFront) :
    resolve (.withoutContext .fullyElided) (some (.ofShort (l.drop 14))) addrContext =
      .ok (Octets.toU128 l) := by
  obtain ⟨back, hback, hdrop, rfl⟩ := exists_split hlen hfront
  obtain ⟨a, b, rfl⟩ := List.length_eq_two.mp hback
  have hcopy : ∀ bytes, copyLlAddress (some (.ofShort [a, b])) bytes = (do
      let bytes ← copyAt bytes 11 13 eui64MiddleValue
      copyAt bytes 14 bytes.length [a, b]) := by
    intro bytes
    have hbytes := Ieee802154Address.asBytes_ofShort a b
    rw [Ieee802154Address.ofShort] at hbytes ⊢
    rw [copyLlAddress, hbytes]
  simp only [hdrop, resolve, hcopy]
  rfl

lemma resolve_eui64 {ll : Ieee802154Address} (hlen : l.length = 16)
    (hfront : l.take 8 = [0xfe, 0x80, 0, 0, 0, 0, 0, 0]) (heui : ll.asEui64 = some (l.drop 8)) :
    resolve (.withoutContext .fullyElided) (some ll) addrContext = .ok (Octets.toU128 l) := by
  obtain ⟨back, hback, hdrop, rfl⟩ := exists_split hlen hfront
  rw [hdrop] at heui
  cases ll with
  | absent => simp [Ieee802154Address.asEui64] at heui
  | short addr => simp [Ieee802154Address.asEui64] at heui
  | extended addr =>
    simp only [resolve, copyLlAddress, heui]
    match back, hback with
    | [a, b, c, d, e, f, g, h], _ => rfl

lemma resolve_multicast8bits (last : UInt8) :
    resolve (.withoutContext (.multicast8bits [last])) llAddress addrContext =
      .ok (Octets.toU128 ([0xff, 0x02] ++ List.replicate 13 0 ++ [last])) := rfl

lemma resolve_multicast32bits (scope : UInt8) {back : List UInt8} (hback : back.length = 3) :
    resolve (.withoutContext (.multicast32bits ([scope] ++ back))) llAddress addrContext =
      .ok (Octets.toU128 ([0xff, scope] ++ List.replicate 11 0 ++ back)) := by
  obtain ⟨a, b, c, rfl⟩ := List.length_eq_three.mp hback
  rfl

lemma resolve_multicast48bits (scope : UInt8) {back : List UInt8} (hback : back.length = 5) :
    resolve (.withoutContext (.multicast48bits ([scope] ++ back))) llAddress addrContext =
      .ok (Octets.toU128 ([0xff, scope] ++ List.replicate 9 0 ++ back)) := by
  match back, hback with
  | [a, b, c, d, e], _ => rfl

end Resolve

end UnresolvedAddress

end Sixlowpan

end Smoltcp
