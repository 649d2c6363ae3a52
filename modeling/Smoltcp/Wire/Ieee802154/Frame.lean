import Smoltcp.Lib.Bits
import Smoltcp.Wire.HardwareAddress

/-!
# IEEE 802.15.4 frames

The fields of a frame in a buffer of octets. Where a field is depends on the frame control, and
behind the addresses on the security header. The length check is made for the accessors not to
panic, but asks for no frame counter where it is suppressed, which the key identifier is read
behind, and for no message integrity code.
-/

namespace Smoltcp

open Outcome

namespace Ieee802154

/-- IEEE 802.15.4 frame type. -/
inductive FrameType where
  | beacon
  | data
  | acknowledgement
  | macCommand
  | multipurpose
  | fragmentOrFrak
  | extended
  | unknown (value : UInt8)
  deriving DecidableEq, Repr

def FrameType.toByte : FrameType → UInt8
  | .beacon => 0b000
  | .data => 0b001
  | .acknowledgement => 0b010
  | .macCommand => 0b011
  | .multipurpose => 0b101
  | .fragmentOrFrak => 0b110
  | .extended => 0b111
  | .unknown value => value

def FrameType.ofByte (value : UInt8) : FrameType :=
  if value = 0b000 then .beacon
  else if value = 0b001 then .data
  else if value = 0b010 then .acknowledgement
  else if value = 0b011 then .macCommand
  else if value = 0b101 then .multipurpose
  else if value = 0b110 then .fragmentOrFrak
  else if value = 0b111 then .extended
  else .unknown value

/-- IEEE 802.15.4 addressing mode for destination and source addresses. -/
inductive AddressingMode where
  | absent
  | short
  | extended
  | unknown (value : UInt8)
  deriving DecidableEq, Repr

namespace AddressingMode

def toByte : AddressingMode → UInt8
  | .absent => 0b00
  | .short => 0b10
  | .extended => 0b11
  | .unknown value => value

def ofByte (value : UInt8) : AddressingMode :=
  if value = 0b00 then .absent
  else if value = 0b10 then .short
  else if value = 0b11 then .extended
  else .unknown value

/-- The size in octets of the address. -/
def size : AddressingMode → ℕ
  | .absent => 0
  | .short => 2
  | .extended => 8
  | .unknown _ => 0

def isUnknown : AddressingMode → Bool
  | .unknown _ => true
  | _ => false

end AddressingMode

/-- IEEE 802.15.4 frame version. -/
inductive FrameVersion where
  | ieee802154_2003
  | ieee802154_2006
  | ieee802154
  | unknown (value : UInt8)
  deriving DecidableEq, Repr

namespace FrameVersion

def toByte : FrameVersion → UInt8
  | .ieee802154_2003 => 0b00
  | .ieee802154_2006 => 0b01
  | .ieee802154 => 0b10
  | .unknown value => value

def ofByte (value : UInt8) : FrameVersion :=
  if value = 0b00 then .ieee802154_2003
  else if value = 0b01 then .ieee802154_2006
  else if value = 0b10 then .ieee802154
  else .unknown value

def isUnknown : FrameVersion → Bool
  | .unknown _ => true
  | _ => false

end FrameVersion

/-- A IEEE 802.15.4 PAN. -/
abbrev Pan := UInt16

/-- `LittleEndian::read_u16(data)`. -/
def readU16LE (data : List UInt8) : UInt16 := Octets.toU16 (Octets.get data 1) (Octets.get data 0)

/-- `LittleEndian::read_u32(data)`. -/
def readU32LE (data : List UInt8) : BitVec 32 :=
  Octets.toU32 (Octets.get data 3) (Octets.get data 2) (Octets.get data 1) (Octets.get data 0)

/-! ### Frame control -/

/-- Which addressing fields are there. -/
structure AddrPresentFlags where
  dstPanId : Bool
  dstAddr : AddressingMode
  srcPanId : Bool
  srcAddr : AddressingMode
  deriving DecidableEq, Repr

namespace AddrPresentFlags

variable (flags : AddrPresentFlags)

/-- Where the destination address starts among the addressing fields. -/
def dstAddrStart : ℕ := if flags.dstPanId then 2 else 0

def srcPanIdStart : ℕ := flags.dstAddrStart + flags.dstAddr.size

def srcAddrStart : ℕ := flags.srcPanIdStart + if flags.srcPanId then 2 else 0

/-- The size in octets of the addressing fields. -/
def len : ℕ := flags.srcAddrStart + flags.srcAddr.size

lemma starts_le :
    flags.dstAddrStart + flags.dstAddr.size ≤ flags.len ∧
      flags.srcAddrStart + flags.srcAddr.size ≤ flags.len := by
  simp only [len, srcAddrStart, srcPanIdStart]
  omega

end AddrPresentFlags

namespace Control

variable (raw : UInt16)

def frameType : FrameType := .ofByte (raw &&& 0b111).toUInt8

/-- `fc_bit_field!`. -/
def bit (shift : UInt16) : Bool := (raw >>> shift) &&& 0b1 = 0b1

def securityEnabled : Bool := bit raw 3

def framePending : Bool := bit raw 4

def ackRequest : Bool := bit raw 5

def panIdCompression : Bool := bit raw 6

def dstAddressingMode : AddressingMode := .ofByte ((raw >>> 10) &&& 0b11).toUInt8

def frameVersion : FrameVersion := .ofByte ((raw >>> 12) &&& 0b11).toUInt8

def srcAddressingMode : AddressingMode := .ofByte ((raw >>> 14) &&& 0b11).toUInt8

/-- The addressing fields of the frame versions before 2015. -/
def oldAddrPresentFlags (panIdCompression : Bool) :
    AddressingMode → AddressingMode → AddrPresentFlags
  | .absent, src => ⟨false, .absent, true, src⟩
  | dst, .absent => ⟨true, dst, false, .absent⟩
  | dst, src => ⟨true, dst, !panIdCompression, src⟩

def addrPresentFlags : Option AddrPresentFlags :=
  match frameVersion raw with
  | .ieee802154_2003 | .ieee802154_2006 =>
    some (oldAddrPresentFlags (panIdCompression raw) (dstAddressingMode raw)
      (srcAddressingMode raw))
  | .ieee802154 =>
    match dstAddressingMode raw, srcAddressingMode raw, panIdCompression raw with
    | .absent, .absent, false => some ⟨false, .absent, false, .absent⟩
    | .absent, .absent, true => some ⟨true, .absent, false, .absent⟩
    | dst, .absent, false => some ⟨true, dst, false, .absent⟩
    | dst, .absent, true => some ⟨false, dst, false, .absent⟩
    | .absent, src, _ => some ⟨false, .absent, true, src⟩
    | .extended, .extended, false => some ⟨true, .extended, false, .extended⟩
    | .extended, .extended, true => some ⟨false, .extended, false, .extended⟩
    | .short, .short, false => some ⟨true, .short, true, .short⟩
    | .short, .extended, false => some ⟨true, .short, true, .extended⟩
    | .extended, .short, false => some ⟨true, .extended, true, .short⟩
    | .short, .extended, true => some ⟨true, .short, false, .extended⟩
    | .extended, .short, true => some ⟨true, .extended, false, .short⟩
    | .short, .short, true => some ⟨true, .short, false, .short⟩
    | _, _, _ => none
  | .unknown _ => none

/-- Frames of this type and version have addressing fields. -/
def hasAddressingFields : Bool :=
  match frameType raw with
  | .beacon | .data | .macCommand | .multipurpose => true
  | .acknowledgement => frameVersion raw = .ieee802154
  | .extended | .fragmentOrFrak | .unknown _ => false

end Control

/-! ### Frames -/

namespace Frame

variable (buf : List UInt8)

def frameControl : Outcome UInt16 := do
  return readU16LE (← slice buf 0 2)

def frameType : Outcome FrameType := do return Control.frameType (← frameControl buf)

def securityEnabled : Outcome Bool := do return Control.securityEnabled (← frameControl buf)

def addrPresentFlags : Outcome (Option AddrPresentFlags) := do
  return Control.addrPresentFlags (← frameControl buf)

/-- Return the sequence number of the frame. -/
def sequenceNumber : Outcome (Option UInt8) := do
  match ← frameType buf with
  | .beacon | .data | .acknowledgement | .macCommand | .multipurpose =>
    return some (← index buf 2)
  | .extended | .fragmentOrFrak | .unknown _ => return none

/-- Return the addressing fields. -/
def addressingFields : Outcome (Option (List UInt8)) := do
  let raw ← frameControl buf
  if Control.hasAddressingFields raw then
    match ← addrPresentFlags buf with
    | some flags => return some (← sliceAt buf 3 flags.len)
    | none => return none
  else return none

/-- A field of the addressing fields, where they are there. -/
def withAddressingFields {α : Type} (f : List UInt8 → Outcome (Option α)) : Outcome (Option α) := do
  match ← addressingFields buf with
  | some fields => f fields
  | none => return none

/-- The address of a mode from an offset on, which is in reverse order. -/
def address (fields : List UInt8) (offset : ℕ) : AddressingMode → Outcome (Option Ieee802154Address)
  | .absent => return some .absent
  | .short => do
    let raw ← slice fields offset (offset + 2)
    return some (.short (.ofNat 16 (Octets.toNatBE raw.reverse)))
  | .extended => do
    let raw ← slice fields offset (offset + 8)
    return some (.extended (.ofNat 64 (Octets.toNatBE raw.reverse)))
  | .unknown _ => return none

/-- Return the destination PAN field. -/
def dstPanId : Outcome (Option Pan) := do
  match ← addrPresentFlags buf with
  | some ⟨true, _, _, _⟩ =>
    withAddressingFields buf fun fields => do return some (readU16LE (← slice fields 0 2))
  | _ => return none

/-- Return the destination address field. -/
def dstAddr : Outcome (Option Ieee802154Address) := do
  match ← addrPresentFlags buf with
  | some flags =>
    withAddressingFields buf fun fields => address fields flags.dstAddrStart flags.dstAddr
  | none => return none

/-- Return the source PAN field. -/
def srcPanId : Outcome (Option Pan) := do
  match ← addrPresentFlags buf with
  | some flags =>
    if flags.srcPanId then
      withAddressingFields buf fun fields => do
        return some (readU16LE (← sliceAt fields flags.srcPanIdStart 2))
    else return none
  | none => return none

/-- Return the source address field. -/
def srcAddr : Outcome (Option Ieee802154Address) := do
  match ← addrPresentFlags buf with
  | some flags =>
    withAddressingFields buf fun fields => address fields flags.srcAddrStart flags.srcAddr
  | none => return none

/-- Return the index where the auxiliary security header starts. -/
def auxSecurityHeaderStart : Outcome ℕ := do
  match ← addressingFields buf with
  | some fields => return 3 + fields.length
  | none => return 3

/-- The first octet of the auxiliary security header. -/
def securityControl : Outcome UInt8 := do
  index (← sliceFrom buf (← auxSecurityHeaderStart buf)) 0

/-- Return the security level of the auxiliary security header. -/
def securityLevel : Outcome UInt8 := do
  return (← securityControl buf) &&& 0b111

/-- Return the key identifier mode used by the auxiliary security header. -/
def keyIdentifierMode : Outcome UInt8 := do
  return ((← securityControl buf) >>> 3) &&& 0b11

/-- Return `true` when the frame counter in the security header is suppressed. -/
def frameCounterSuppressed : Outcome Bool := do
  return ((← securityControl buf) >>> 5) &&& 0b1 = 0b1

/-- Return the length of the key identifier field. -/
def keyIdentifierLength : Outcome (Option ℕ) := do
  match ← keyIdentifierMode buf with
  | 0 => return some 0
  | 1 => return some 1
  | 2 => return some 5
  | 3 => return some 9
  | _ => return none

/-- Return the size of the security header. -/
def securityHeaderLen : Outcome ℕ := do
  let counter := if ← frameCounterSuppressed buf then 0 else 4
  return 1 + counter + (← keyIdentifierLength buf).getD 0

/-- Return the index where the payload starts. -/
def payloadStart : Outcome ℕ := do
  let start ← auxSecurityHeaderStart buf
  if ← securityEnabled buf then return start + (← securityHeaderLen buf) else return start

/-- Return the frame counter field. -/
def frameCounter : Outcome (Option (BitVec 32)) := do
  if ← frameCounterSuppressed buf then return none
  else
    let b ← sliceFrom buf (← auxSecurityHeaderStart buf)
    return some (readU32LE (← slice b 1 5))

/-- Return the Key Identifier field. -/
def keyIdentifier : Outcome (List UInt8) := do
  let b ← sliceFrom buf (← auxSecurityHeaderStart buf)
  let length := (← keyIdentifierLength buf).getD 0
  sliceAt b 5 length

/-- Return the Key Source field. -/
def keySource : Outcome (Option (List UInt8)) := do
  let ki ← keyIdentifier buf
  if 1 < ki.length then return some (← slice ki 0 (ki.length - 1)) else return none

/-- Return the Key Index field. -/
def keyIndex : Outcome (Option UInt8) := do
  let ki ← keyIdentifier buf
  if 0 < ki.length then return some (← index ki (ki.length - 1)) else return none

/-- The length of the message integrity code at a security level. -/
def micLen (level : UInt8) : Outcome (Option ℕ) :=
  match level with
  | 0 | 4 => .ok none
  | 1 | 5 => .ok (some 4)
  | 2 | 6 => .ok (some 8)
  | 3 | 7 => .ok (some 16)
  | _ => .error (.panic .unreachable)

/-- Return the Message Integrity Code (MIC). -/
def messageIntegrityCode : Outcome (Option (List UInt8)) := do
  match ← micLen (← securityLevel buf) with
  | none => return none
  | some len => return some (← sliceFrom buf (← sub buf.length len))

/-- Return the MAC header. -/
def macHeader : Outcome (List UInt8) := do
  slice buf 0 (← payloadStart buf)

/-- Return a pointer to the payload. -/
def payload : Outcome (Option (List UInt8)) := do
  match ← frameType buf with
  | .data => return some (← sliceFrom buf (← payloadStart buf))
  | _ => return none

/-- The size of the addressing fields, which the frame must not be shorter than. -/
def checkFields : Outcome ℕ := do
  match ← addrPresentFlags buf with
  | some flags => do
    reject (buf.length < flags.len)
    return flags.len
  | none => return 0

/-- The size of the security header, whose control octet must be accessible. -/
def checkSecurity (offset : ℕ) : Outcome ℕ := do
  if ← securityEnabled buf then do
    reject (buf.length < offset + 1)
    securityHeaderLen buf
  else return 0

/-- Ensure that no accessor method will panic if called. -/
def checkLen : Outcome Unit := do
  -- We need at least 3 bytes, and don't handle frames larger than 127 bytes.
  reject (buf.length < 3)
  reject (127 < buf.length)
  let offset := 3 + (← checkFields buf)
  let offset := offset + (← checkSecurity buf offset)
  reject (buf.length < offset)

/-- `Frame::new_checked`. -/
def newChecked : Outcome Unit := do
  checkLen buf
  let raw ← frameControl buf
  reject (Control.frameVersion raw).isUnknown
  reject ((Control.dstAddressingMode raw).isUnknown ∨ (Control.srcAddressingMode raw).isUnknown)
  reject ((Control.frameVersion raw = .ieee802154_2003 ∨
      Control.frameVersion raw = .ieee802154_2006) ∧ Control.panIdCompression raw ∧
    Control.dstAddressingMode raw = .absent ∧ Control.srcAddressingMode raw = .absent)

/-! ### What the accessors need -/

/-- The function returns a value. -/
def Returns {α : Type} (x : Outcome α) : Prop := ∃ a, x = .ok a

/-- The accessors of the auxiliary security header return. -/
structure SecurityReturns : Prop where
  securityLevel : Returns (securityLevel buf)
  keyIdentifierMode : Returns (keyIdentifierMode buf)
  frameCounter : Returns (frameCounter buf)
  keySource : Returns (keySource buf)
  keyIndex : Returns (keyIndex buf)
  messageIntegrityCode : Returns (messageIntegrityCode buf)

/-- The accessors return, those of the security header where there is one, and the payload is what
is behind the header. -/
structure AccessorsReturn : Prop where
  frameType : Returns (frameType buf)
  sequenceNumber : Returns (sequenceNumber buf)
  dstPanId : Returns (dstPanId buf)
  dstAddr : Returns (dstAddr buf)
  srcPanId : Returns (srcPanId buf)
  srcAddr : Returns (srcAddr buf)
  macHeader : Returns (macHeader buf)
  payload : Returns (payload buf)
  adjacent : ∀ header rest, Frame.macHeader buf = .ok header → Frame.payload buf = .ok (some rest) →
    header ++ rest = buf
  security : securityEnabled buf = .ok true → SecurityReturns buf

/-- The frame holds the key identifier also where the frame counter in front of it is suppressed,
and a message integrity code of the length that the security level says. -/
structure Covered : Prop where
  keyIdentifier : ∀ start length, frameCounterSuppressed buf = .ok true →
    auxSecurityHeaderStart buf = .ok start → keyIdentifierLength buf = .ok (some length) →
    start + 5 + length ≤ buf.length
  mic : ∀ level length, securityLevel buf = .ok level → micLen level = .ok (some length) →
    length ≤ buf.length

variable {buf}

lemma sliceAt_returns {l : List UInt8} {a n : ℕ} : Returns (sliceAt l a n) ↔ a + n ≤ l.length := by
  constructor
  · rintro ⟨r, h⟩
    obtain ⟨m, hm, h⟩ := bind_eq_ok.mp h
    obtain ⟨ha, -, rfl⟩ := slice_eq_ok.mp hm
    obtain ⟨-, hn, -⟩ := slice_eq_ok.mp h
    rw [List.take_length, List.length_drop] at hn
    omega
  · intro h
    exact ⟨_, sliceAt_of h⟩

lemma slice_returns {l : List UInt8} {a b : ℕ} (hab : a ≤ b) (hb : b ≤ l.length) :
    Returns (slice l a b) := ⟨_, slice_of hab hb⟩

lemma Returns.bind {α β : Type} {x : Outcome α} {f : α → Outcome β} (hx : Returns x)
    (hf : ∀ a, x = .ok a → Returns (f a)) : Returns (x >>= f) := by
  obtain ⟨a, rfl⟩ := hx
  exact hf a rfl

/-- A frame as long as its addressing fields and security header. -/
structure Sized (buf : List UInt8) (raw : UInt16) (flags : AddrPresentFlags) : Prop where
  control : frameControl buf = .ok raw
  present : Control.addrPresentFlags raw = some flags
  known : ¬ flags.dstAddr.isUnknown ∧ ¬ flags.srcAddr.isUnknown
  len_le : 3 + flags.len ≤ buf.length
  security : Control.securityEnabled raw → 3 + flags.len + 1 ≤ buf.length ∧
    ∃ len, securityHeaderLen buf = .ok len ∧ 3 + flags.len + len ≤ buf.length

/-- Where the version and the addressing modes are known, the addressing fields are. -/
lemma exists_addrPresentFlags {raw : UInt16} (hversion : ¬ (Control.frameVersion raw).isUnknown)
    (hdst : ¬ (Control.dstAddressingMode raw).isUnknown)
    (hsrc : ¬ (Control.srcAddressingMode raw).isUnknown) :
    ∃ flags, Control.addrPresentFlags raw = some flags ∧ ¬ flags.dstAddr.isUnknown ∧
      ¬ flags.srcAddr.isUnknown := by
  unfold Control.addrPresentFlags
  generalize Control.dstAddressingMode raw = dst at hdst ⊢
  generalize Control.srcAddressingMode raw = src at hsrc ⊢
  generalize Control.panIdCompression raw = compression
  cases hv : Control.frameVersion raw with
  | unknown value =>
    rw [hv] at hversion
    exact absurd rfl hversion
  | _ =>
    cases dst <;> cases src <;> cases compression <;>
      first | exact ⟨_, rfl, Bool.false_ne_true, Bool.false_ne_true⟩ | exact absurd rfl hdst |
        exact absurd rfl hsrc

lemma exists_sized (h : newChecked buf = .ok ()) : ∃ raw flags, Sized buf raw flags := by
  obtain ⟨⟨⟩, hcheck, h⟩ := bind_eq_ok.mp h
  obtain ⟨raw, hraw, h⟩ := bind_eq_ok.mp h
  obtain ⟨⟨⟩, hversion, h⟩ := bind_eq_ok.mp h
  obtain ⟨⟨⟩, hmodes, -⟩ := bind_eq_ok.mp h
  rw [reject_eq_ok] at hversion hmodes
  obtain ⟨flags, hflags, hknown⟩ := exists_addrPresentFlags hversion (fun h => hmodes (.inl h))
    fun h => hmodes (.inr h)
  obtain ⟨⟨⟩, -, hcheck⟩ := bind_eq_ok.mp hcheck
  obtain ⟨⟨⟩, -, hcheck⟩ := bind_eq_ok.mp hcheck
  obtain ⟨fields, hfields, hcheck⟩ := bind_eq_ok.mp hcheck
  obtain ⟨security, hsecurity, hlen⟩ := bind_eq_ok.mp hcheck
  rw [reject_eq_ok] at hlen
  have hsize : fields = flags.len := by
    rw [checkFields, addrPresentFlags, hraw, ok_bind, pure_eq_ok, ok_bind, hflags] at hfields
    obtain ⟨⟨⟩, -, hfields⟩ := bind_eq_ok.mp hfields
    exact (Except.ok.inj hfields).symm
  subst hsize
  refine ⟨raw, flags, hraw, hflags, hknown, by omega, fun henabled => ?_⟩
  rw [checkSecurity, securityEnabled, hraw, ok_bind, pure_eq_ok, ok_bind, if_pos henabled]
    at hsecurity
  obtain ⟨⟨⟩, hcontrol, hsecurity⟩ := bind_eq_ok.mp hsecurity
  rw [reject_eq_ok] at hcontrol
  exact ⟨not_lt.mp hcontrol, security, hsecurity, not_lt.mp hlen⟩

/-! #### Addressing fields -/

lemma address_returns {fields : List UInt8} {offset : ℕ} {mode : AddressingMode}
    (h : offset + mode.size ≤ fields.length) : Returns (address fields offset mode) := by
  cases mode with
  | absent => exact ⟨_, rfl⟩
  | short => exact (slice_returns (Nat.le_add_right offset 2) h).bind fun _ _ => ⟨_, rfl⟩
  | extended => exact (slice_returns (Nat.le_add_right offset 8) h).bind fun _ _ => ⟨_, rfl⟩
  | unknown _ => exact ⟨_, rfl⟩

namespace Sized

variable {raw : UInt16} {flags : AddrPresentFlags}

lemma addrPresentFlags_eq (h : Sized buf raw flags) : addrPresentFlags buf = .ok (some flags) := by
  rw [addrPresentFlags, h.control, ok_bind, h.present]
  rfl

lemma addressingFields_eq (h : Sized buf raw flags) :
    addressingFields buf = .ok (if Control.hasAddressingFields raw then
      some ((buf.drop 3).take flags.len) else none) := by
  rw [addressingFields, h.control, ok_bind]
  split_ifs with hhas
  · rw [h.addrPresentFlags_eq, ok_bind]
    dsimp only
    rw [sliceAt_of h.len_le]
    rfl
  · rfl

lemma withAddressingFields_returns (h : Sized buf raw flags) {α : Type}
    {f : List UInt8 → Outcome (Option α)}
    (hf : ∀ fields, fields.length = flags.len → Returns (f fields)) :
    Returns (withAddressingFields buf f) := by
  rw [withAddressingFields, h.addressingFields_eq, ok_bind]
  split_ifs with hhas
  · refine hf _ ?_
    have hle := h.len_le
    rw [List.length_take, List.length_drop]
    omega
  · exact ⟨none, rfl⟩

lemma dstPanId_returns (h : Sized buf raw flags) : Returns (dstPanId buf) := by
  rw [dstPanId, h.addrPresentFlags_eq, ok_bind]
  obtain ⟨dstPanId, dstAddr, srcPanId, srcAddr⟩ := flags
  cases dstPanId with
  | false => exact ⟨none, rfl⟩
  | true =>
    refine h.withAddressingFields_returns fun fields hlen => ?_
    refine (slice_returns (Nat.zero_le 2) ?_).bind fun _ _ => ⟨_, rfl⟩
    have hle := (AddrPresentFlags.starts_le ⟨true, dstAddr, srcPanId, srcAddr⟩).1
    rw [hlen]
    exact le_trans (Nat.le_add_right 2 _) hle

lemma dstAddr_returns (h : Sized buf raw flags) : Returns (dstAddr buf) := by
  rw [dstAddr, h.addrPresentFlags_eq, ok_bind]
  refine h.withAddressingFields_returns fun fields hlen => address_returns ?_
  rw [hlen]
  exact flags.starts_le.1

lemma srcPanId_returns (h : Sized buf raw flags) : Returns (srcPanId buf) := by
  rw [srcPanId, h.addrPresentFlags_eq, ok_bind]
  dsimp only
  split_ifs with hpresent
  · refine h.withAddressingFields_returns fun fields hlen => ?_
    refine (sliceAt_returns.mpr ?_).bind fun _ _ => ⟨_, rfl⟩
    have hle := flags.starts_le.2
    rw [AddrPresentFlags.srcAddrStart, if_pos hpresent] at hle
    omega
  · exact ⟨none, rfl⟩

lemma srcAddr_returns (h : Sized buf raw flags) : Returns (srcAddr buf) := by
  rw [srcAddr, h.addrPresentFlags_eq, ok_bind]
  refine h.withAddressingFields_returns fun fields hlen => address_returns ?_
  rw [hlen]
  exact flags.starts_le.2

lemma frameType_eq (h : Sized buf raw flags) : frameType buf = .ok (Control.frameType raw) := by
  rw [frameType, h.control]
  rfl

lemma sequenceNumber_returns (h : Sized buf raw flags) : Returns (sequenceNumber buf) := by
  have hle := h.len_le
  have hindex : Returns (index buf 2) := ⟨_, index_get (by omega)⟩
  rw [sequenceNumber, h.frameType_eq, ok_bind]
  split
  all_goals first | exact hindex.bind fun _ _ => ⟨_, rfl⟩ | exact ⟨none, rfl⟩

/-! #### The security header -/

/-- The security header is behind the addressing fields that are read, which the check puts behind
those that are there. -/
lemma exists_start (h : Sized buf raw flags) :
    ∃ start, auxSecurityHeaderStart buf = .ok start ∧ start ≤ 3 + flags.len := by
  have hle := h.len_le
  rw [auxSecurityHeaderStart, h.addressingFields_eq, ok_bind]
  split_ifs with hhas
  · refine ⟨_, rfl, ?_⟩
    rw [List.length_take]
    omega
  · exact ⟨3, rfl, Nat.le_add_right 3 _⟩

lemma securityEnabled_eq (h : Sized buf raw flags) :
    securityEnabled buf = .ok (Control.securityEnabled raw) := by
  rw [securityEnabled, h.control]
  rfl

/-- Where the payload starts is within the frame. -/
lemma exists_payloadStart (h : Sized buf raw flags) :
    ∃ n, payloadStart buf = .ok n ∧ n ≤ buf.length := by
  obtain ⟨start, hstart, hle⟩ := h.exists_start
  have hlen := h.len_le
  rw [payloadStart, hstart, ok_bind, h.securityEnabled_eq, ok_bind]
  split_ifs with henabled
  · obtain ⟨-, len, hheader, hlen⟩ := h.security henabled
    rw [hheader]
    exact ⟨start + len, rfl, by omega⟩
  · exact ⟨start, rfl, by omega⟩

/-- The values of the control octet. -/
lemma exists_securityControl (h : Sized buf raw flags)
    (henabled : Control.securityEnabled raw) :
    ∃ octet, securityControl buf = .ok octet := by
  obtain ⟨start, hstart, hle⟩ := h.exists_start
  have hlen := (h.security henabled).1
  rw [securityControl, hstart, ok_bind, sliceFrom_of (by omega), ok_bind,
    index_get (by rw [List.length_drop]; omega)]
  exact ⟨_, rfl⟩

end Sized

lemma mode_cases : ∀ octet : UInt8, (octet >>> 3) &&& (0b11 : UInt8) = 0 ∨
    (octet >>> 3) &&& (0b11 : UInt8) = 1 ∨ (octet >>> 3) &&& (0b11 : UInt8) = 2 ∨
    (octet >>> 3) &&& (0b11 : UInt8) = 3 :=
  Octets.forall_of_lt (by decide +kernel)

lemma exists_keyIdentifierLength {octet : UInt8} (h : securityControl buf = .ok octet) :
    ∃ length, keyIdentifierLength buf = .ok (some length) := by
  rw [keyIdentifierLength, keyIdentifierMode, h, ok_bind, pure_eq_ok, ok_bind]
  obtain hmode | hmode | hmode | hmode := mode_cases octet
  all_goals
    rw [hmode]
    exact ⟨_, rfl⟩

lemma micLen_returns : ∀ octet : UInt8, ∃ length, micLen (octet &&& 0b111) = .ok length := by
  intro octet
  have hlevel : octet &&& 0b111 = 0 ∨ octet &&& 0b111 = 1 ∨ octet &&& 0b111 = 2 ∨
      octet &&& 0b111 = 3 ∨ octet &&& 0b111 = 4 ∨ octet &&& 0b111 = 5 ∨ octet &&& 0b111 = 6 ∨
      octet &&& 0b111 = 7 := by
    revert octet
    exact Octets.forall_of_lt (by decide +kernel)
  obtain h | h | h | h | h | h | h | h := hlevel
  all_goals
    rw [h]
    exact ⟨_, rfl⟩

/-- The key identifier is read behind five octets. -/
lemma keyIdentifier_returns {start length : ℕ} (hstart : auxSecurityHeaderStart buf = .ok start)
    (hle : start ≤ buf.length) (hlength : keyIdentifierLength buf = .ok (some length)) :
    Returns (keyIdentifier buf) ↔ start + 5 + length ≤ buf.length := by
  rw [keyIdentifier, hstart, ok_bind, sliceFrom_of hle, ok_bind, hlength, ok_bind, Option.getD_some,
    sliceAt_returns, List.length_drop]
  omega

lemma keySource_returns : Returns (keySource buf) ↔ Returns (keyIdentifier buf) := by
  constructor
  · rintro ⟨a, h⟩
    obtain ⟨ki, hki, -⟩ := bind_eq_ok.mp h
    exact ⟨ki, hki⟩
  · intro h
    refine h.bind fun ki _ => ?_
    split_ifs
    · exact (slice_returns (Nat.zero_le _) (Nat.sub_le _ _)).bind fun _ _ => ⟨_, rfl⟩
    · exact ⟨none, rfl⟩

lemma keyIndex_returns (h : Returns (keyIdentifier buf)) : Returns (keyIndex buf) := by
  refine h.bind fun ki _ => ?_
  split_ifs
  · exact Returns.bind ⟨_, index_get (by omega)⟩ fun _ _ => ⟨_, rfl⟩
  · exact ⟨none, rfl⟩

lemma messageIntegrityCode_returns {level : UInt8} {length : Option ℕ}
    (hlevel : securityLevel buf = .ok level) (hlength : micLen level = .ok length) :
    Returns (messageIntegrityCode buf) ↔ ∀ len ∈ length, len ≤ buf.length := by
  rw [messageIntegrityCode, hlevel, ok_bind, hlength, ok_bind]
  cases length with
  | none => simp [Returns]
  | some len =>
    simp only [Option.mem_some_iff, forall_eq']
    constructor
    · rintro ⟨a, h⟩
      obtain ⟨n, hn, -⟩ := bind_eq_ok.mp h
      unfold Outcome.sub Checked.sub at hn
      split_ifs at hn with hle
      · exact hle
      · cases hn
    · intro hle
      rw [sub_of_le hle, ok_bind, sliceFrom_of (Nat.sub_le _ _)]
      exact ⟨_, rfl⟩

/-- The security header is read exactly if the frame holds what the check did not ask for. -/
lemma Sized.securityReturns_iff {raw : UInt16} {flags : AddrPresentFlags}
    (h : Sized buf raw flags) (henabled : Control.securityEnabled raw) :
    SecurityReturns buf ↔ Covered buf := by
  obtain ⟨start, hstart, hle⟩ := h.exists_start
  obtain ⟨octet, hoctet⟩ := h.exists_securityControl henabled
  obtain ⟨length, hlength⟩ := exists_keyIdentifierLength hoctet
  obtain ⟨mic, hmic⟩ := micLen_returns octet
  obtain ⟨hcontrol, len, hheader, hlen⟩ := h.security henabled
  have hlevel : securityLevel buf = .ok (octet &&& 0b111) := by
    rw [securityLevel, hoctet]
    rfl
  have hki := keyIdentifier_returns hstart (by omega) hlength
  have hmicReturns := messageIntegrityCode_returns hlevel hmic
  generalize hs : decide ((octet >>> 5) &&& (0b1 : UInt8) = 0b1) = suppressed
  have hsuppressed : frameCounterSuppressed buf = .ok suppressed := by
    rw [frameCounterSuppressed, hoctet, ok_bind, hs]
    rfl
  -- Where the counter is not suppressed the check asked for it and for the key behind it.
  have hcounter : suppressed = false → start + 5 + length ≤ buf.length := by
    rintro rfl
    rw [securityHeaderLen, hsuppressed, ok_bind, hlength, ok_bind] at hheader
    cases hheader
    simp only [Bool.false_eq_true, if_false, Option.getD_some] at hlen
    omega
  constructor
  · intro hreturns
    refine ⟨fun start' length' _ hstart' hlength' => ?_, fun level length' hlevel' hmic' => ?_⟩
    · cases hstart.symm.trans hstart'
      cases hlength.symm.trans hlength'
      exact hki.mp (keySource_returns.mp hreturns.keySource)
    · cases hlevel.symm.trans hlevel'
      cases hmic.symm.trans hmic'
      exact hmicReturns.mp hreturns.messageIntegrityCode length' rfl
  · intro hcovered
    have hkey : Returns (keyIdentifier buf) := by
      refine hki.mpr ?_
      cases suppressed with
      | false => exact hcounter rfl
      | true => exact hcovered.keyIdentifier start length hsuppressed hstart hlength
    refine ⟨⟨_, hlevel⟩, ?_, ?_, keySource_returns.mpr hkey, keyIndex_returns hkey,
      hmicReturns.mpr fun len hmem => ?_⟩
    · rw [keyIdentifierMode, hoctet]
      exact ⟨_, rfl⟩
    · rw [frameCounter, hsuppressed, ok_bind]
      cases suppressed with
      | true => exact ⟨none, rfl⟩
      | false =>
        have hroom := hcounter rfl
        rw [if_neg Bool.false_ne_true, hstart, ok_bind, sliceFrom_of (by omega), ok_bind]
        exact (slice_returns (by decide) (by rw [List.length_drop]; omega)).bind fun _ _ => ⟨_, rfl⟩
    · cases hmem
      exact hcovered.mic _ _ hlevel hmic

lemma Sized.adjacent {raw : UInt16} {flags : AddrPresentFlags} (h : Sized buf raw flags)
    {header rest : List UInt8} (hheader : macHeader buf = .ok header)
    (hpayload : payload buf = .ok (some rest)) : header ++ rest = buf := by
  obtain ⟨n, hn, hle⟩ := h.exists_payloadStart
  rw [macHeader, hn, ok_bind, slice_of (Nat.zero_le n) hle, List.drop_zero] at hheader
  cases hheader
  rw [payload, h.frameType_eq, ok_bind] at hpayload
  split at hpayload
  · rw [hn, ok_bind, sliceFrom_of hle] at hpayload
    cases hpayload
    exact List.take_append_drop n buf
  · cases hpayload

lemma Sized.macHeader_returns {raw : UInt16} {flags : AddrPresentFlags} (h : Sized buf raw flags) :
    Returns (macHeader buf) := by
  obtain ⟨n, hn, hle⟩ := h.exists_payloadStart
  rw [macHeader, hn, ok_bind]
  exact slice_returns (Nat.zero_le n) hle

lemma Sized.payload_returns {raw : UInt16} {flags : AddrPresentFlags} (h : Sized buf raw flags) :
    Returns (payload buf) := by
  obtain ⟨n, hn, hle⟩ := h.exists_payloadStart
  rw [payload, h.frameType_eq, ok_bind]
  split
  · rw [hn, ok_bind, sliceFrom_of hle]
    exact ⟨_, rfl⟩
  · exact ⟨none, rfl⟩

/-- The accessors of a frame that was checked return exactly if a frame with a security header holds
a key identifier where its counter is suppressed, and a message integrity code. -/
theorem accessorsReturn_iff (h : newChecked buf = .ok ()) :
    AccessorsReturn buf ↔ (securityEnabled buf = .ok true → Covered buf) := by
  obtain ⟨raw, flags, hsized⟩ := exists_sized h
  constructor
  · intro hreturns henabled
    have hraw := Except.ok.inj (hsized.securityEnabled_eq.symm.trans henabled)
    exact (hsized.securityReturns_iff hraw).mp (hreturns.security henabled)
  · intro hcovered
    refine ⟨⟨_, hsized.frameType_eq⟩, hsized.sequenceNumber_returns, hsized.dstPanId_returns,
      hsized.dstAddr_returns, hsized.srcPanId_returns, hsized.srcAddr_returns,
      hsized.macHeader_returns, hsized.payload_returns, fun _ _ => hsized.adjacent,
      fun henabled => ?_⟩
    have hraw := Except.ok.inj (hsized.securityEnabled_eq.symm.trans henabled)
    exact (hsized.securityReturns_iff hraw).mpr (hcovered henabled)

/-- A data frame between short addresses, with a frame counter, a key index, and a message integrity
code behind its payload. -/
def secured : List UInt8 :=
  [0x49, 0x88, 7, 0xcd, 0xab, 0xff, 0xff, 1, 0, 0x0d, 3, 0, 0, 0, 9, 42, 10, 11, 12, 13]

lemma covered_secured : Covered secured := by
  refine ⟨fun start length hsuppressed => absurd hsuppressed (by decide +kernel), ?_⟩
  intro level length hlevel hmic
  have h : securityLevel secured = .ok 5 := by decide
  cases h.symm.trans hlevel
  cases hmic
  decide

theorem accessorsReturn_secured :
    AccessorsReturn secured ∧ securityEnabled secured = .ok true ∧
      frameCounter secured = .ok (some 3) ∧ keyIndex secured = .ok (some 9) ∧
      messageIntegrityCode secured = .ok (some [10, 11, 12, 13]) :=
  ⟨(accessorsReturn_iff (by decide)).mpr fun _ => covered_secured, by decide⟩

/-- A frame whose frame counter is suppressed ends with the control octet of the security header,
and the key is read behind it. -/
theorem not_accessorsReturn :
    newChecked [0x09, 0, 7, 0xcd, 0xab, 0x20] = .ok () ∧
      securityEnabled [0x09, 0, 7, 0xcd, 0xab, 0x20] = .ok true ∧
      keyIndex [0x09, 0, 7, 0xcd, 0xab, 0x20] = .error (.panic .sliceOutOfRange) ∧
      newChecked [0x09, 0, 7, 0xcd, 0xab, 0x27] = .ok () ∧
      messageIntegrityCode [0x09, 0, 7, 0xcd, 0xab, 0x27] = .error (.panic .subOverflow) := by
  decide +kernel

end Frame

end Ieee802154

end Smoltcp
