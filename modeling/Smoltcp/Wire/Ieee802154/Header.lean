import Smoltcp.Wire.Fields
import Smoltcp.Wire.Ieee802154.Frame

/-!
# IEEE 802.15.4 headers

A header is emitted into a transmit buffer that may hold an older frame. The setters of the single
bits of the frame control only set them, some bits are never written, and a PAN id that is not there
leaves its octets as they were.
-/

namespace Smoltcp

open Outcome

namespace Ieee802154

/-- The octets of a number, the least significant one first. -/
def toLeBytes (v : UInt16) : List UInt8 := (Octets.ofU16 v).reverse

/-! ### Emitting -/

namespace Control

variable (raw : UInt16)

def withFrameType (frameType : FrameType) : UInt16 :=
  (raw &&& ~~~(0b111 : UInt16)) ||| (frameType.toByte.toUInt16 &&& 0b111)

/-- `set_fc_bit_field!`. -/
def withBit (shift : UInt16) (val : Bool) : UInt16 := raw ||| ((if val then 1 else 0) <<< shift)

def withFrameVersion (version : FrameVersion) : UInt16 :=
  (raw &&& ~~~((0b11 : UInt16) <<< 12)) ||| ((version.toByte.toUInt16 &&& 0b11) <<< 12)

def withDstAddressingMode (mode : AddressingMode) : UInt16 :=
  (raw &&& ~~~((0b11 : UInt16) <<< 10)) ||| ((mode.toByte.toUInt16 &&& 0b11) <<< 10)

def withSrcAddressingMode (mode : AddressingMode) : UInt16 :=
  (raw &&& ~~~((0b11 : UInt16) <<< 14)) ||| ((mode.toByte.toUInt16 &&& 0b11) <<< 14)

end Control

namespace Frame

variable (buf : List UInt8)

/-- The frame control is read, changed and written back. -/
def setControl (f : UInt16 → UInt16) : Outcome (List UInt8) := do
  write buf 0 (toLeBytes (f (← frameControl buf)))

def setDstAddressingMode (mode : AddressingMode) : Outcome (List UInt8) :=
  setControl buf (Control.withDstAddressingMode · mode)

def setSrcAddressingMode (mode : AddressingMode) : Outcome (List UInt8) :=
  setControl buf (Control.withSrcAddressingMode · mode)

def setSequenceNumber (value : UInt8) : Outcome (List UInt8) := write buf 2 [value]

/-- Set the destination PAN ID. The destination addressing mode must be different than absent. -/
def setDstPanId (value : Pan) : Outcome (List UInt8) := do
  let buf ← setDstAddressingMode buf .extended
  write buf 3 (toLeBytes value)

def setDstAddr (value : Ieee802154Address) : Outcome (List UInt8) :=
  match value with
  | .absent => setDstAddressingMode buf .absent
  | .short _ => do
    let buf ← setDstAddressingMode buf .short
    write buf 5 value.asBytes.reverse
  | .extended _ => do
    let buf ← setDstAddressingMode buf .extended
    write buf 5 value.asBytes.reverse

/-- Where the source fields start among the addressing fields. -/
def srcOffset : Outcome ℕ := do
  match Control.dstAddressingMode (← frameControl buf) with
  | .absent => return 0 + 2
  | .short => return 2 + 2
  | .extended => return 8 + 2
  | .unknown _ => .error (.panic .unreachable)

def setSrcPanId (value : Pan) : Outcome (List UInt8) := do
  write buf (3 + (← srcOffset buf)) (toLeBytes value)

def setSrcAddr (value : Ieee802154Address) : Outcome (List UInt8) := do
  let offset ← srcOffset buf
  let offset := offset + if Control.panIdCompression (← frameControl buf) then 0 else 2
  match value with
  | .absent => setSrcAddressingMode buf .absent
  | .short _ => do
    let buf ← setSrcAddressingMode buf .short
    write buf (3 + offset) value.asBytes.reverse
  | .extended _ => do
    let buf ← setSrcAddressingMode buf .extended
    write buf (3 + offset) value.asBytes.reverse

/-- `if let Some(value) = value { frame.set(value) }`. -/
def setSome {α : Type} (set : List UInt8 → α → Outcome (List UInt8)) :
    Option α → Outcome (List UInt8)
  | some value => set buf value
  | none => .ok buf

end Frame

/-- A high-level representation of the header of a frame. -/
structure HeaderRepr where
  frameType : FrameType
  securityEnabled : Bool
  framePending : Bool
  ackRequest : Bool
  sequenceNumber : Option UInt8
  panIdCompression : Bool
  frameVersion : FrameVersion
  dstPanId : Option Pan
  dstAddr : Option Ieee802154Address
  srcPanId : Option Pan
  srcAddr : Option Ieee802154Address
  deriving DecidableEq, Repr

/-- The length of an address that may be there. -/
def addrLen : Option Ieee802154Address → ℕ
  | some .absent | none => 0
  | some (.short _) => 2
  | some (.extended _) => 8

namespace HeaderRepr

open Ieee802154.Frame

/-- Parse a frame and return a high-level representation. -/
def parse (buf : List UInt8) : Outcome HeaderRepr := do
  -- Ensure the basic accessors will work.
  checkLen buf
  let raw ← frameControl buf
  return {
    frameType := Control.frameType raw
    securityEnabled := Control.securityEnabled raw
    framePending := Control.framePending raw
    ackRequest := Control.ackRequest raw
    sequenceNumber := ← Frame.sequenceNumber buf
    panIdCompression := Control.panIdCompression raw
    frameVersion := Control.frameVersion raw
    dstPanId := ← Frame.dstPanId buf
    dstAddr := ← Frame.dstAddr buf
    srcPanId := ← Frame.srcPanId buf
    srcAddr := ← Frame.srcAddr buf }

/-- The length of the header that is emitted. -/
def bufferLen (repr : HeaderRepr) : ℕ :=
  3 + 2 + addrLen repr.dstAddr + (if !repr.panIdCompression then 2 else 0) + addrLen repr.srcAddr

/-- Emit a high-level representation into a frame. -/
def emit (repr : HeaderRepr) (buf : List UInt8) : Outcome (List UInt8) := do
  let buf ← setControl buf (Control.withFrameType · repr.frameType)
  let buf ← setControl buf (Control.withBit · 3 repr.securityEnabled)
  let buf ← setControl buf (Control.withBit · 4 repr.framePending)
  let buf ← setControl buf (Control.withBit · 5 repr.ackRequest)
  let buf ← setControl buf (Control.withBit · 6 repr.panIdCompression)
  let buf ← setControl buf (Control.withFrameVersion · repr.frameVersion)
  let buf ← setSome buf setSequenceNumber repr.sequenceNumber
  let buf ← setSome buf setDstPanId repr.dstPanId
  let buf ← setSome buf setDstAddr repr.dstAddr
  let buf ← if !repr.panIdCompression then setSome buf setSrcPanId repr.srcPanId else .ok buf
  setSome buf setSrcAddr repr.srcAddr

end HeaderRepr

/-- The header of the frames that an interface dispatches, whole or as fragments of a packet. -/
def dispatchRepr (panId : Option Pan) (sequenceNumber : UInt8) (llDstA llSrcA : Ieee802154Address) :
    HeaderRepr where
  frameType := .data
  securityEnabled := false
  framePending := false
  ackRequest := false
  sequenceNumber := some sequenceNumber
  panIdCompression := true
  frameVersion := .ieee802154_2003
  dstPanId := panId
  dstAddr := some llDstA
  srcPanId := panId
  srcAddr := some llSrcA

/-! ### What the header is to be -/

/-- What is emitted over octets is what is emitted over octets that are clear. -/
def Determined (repr : HeaderRepr) (old : List UInt8) : Prop :=
  repr.emit old = repr.emit (List.replicate repr.bufferLen 0)

/-- In a frame with the header, whatever else it carries, the header is read back, except for the
PAN of the source, and the payload is behind it. -/
def ReadsBack (repr : HeaderRepr) (old : List UInt8) : Prop :=
  ∃ out, repr.emit old = .ok out ∧ out.length = repr.bufferLen ∧
    ∀ rest : List UInt8, out.length + rest.length ≤ 127 →
      Frame.newChecked (out ++ rest) = .ok () ∧
      (∃ read, HeaderRepr.parse (out ++ rest) = .ok read ∧
        { read with srcPanId := repr.srcPanId } = repr) ∧
      Frame.payload (out ++ rest) = .ok (some rest)

/-- The bits of the frame control that no setter clears: the flags for security, for a pending frame
and for an acknowledgement, the reserved bit, and the ones for the sequence number and for
information elements. -/
def staleBits : UInt16 := 0x03b8

/-- None of the bits that no setter clears is set. -/
def Clear (old : List UInt8) : Prop := readU16LE (old.take 2) &&& staleBits = 0

/-! ### The frame control -/

/-- The addressing mode of an address. -/
def modeOf : Ieee802154Address → AddressingMode
  | .absent => .absent
  | .short _ => .short
  | .extended _ => .extended

lemma modeOf_cases {addr : Ieee802154Address} (h : addr ≠ .absent) :
    modeOf addr = .short ∨ modeOf addr = .extended := by
  cases addr with
  | absent => exact absurd rfl h
  | short _ => exact .inl rfl
  | extended _ => exact .inr rfl

lemma size_le (addr : Ieee802154Address) : (modeOf addr).size ≤ 8 := by
  cases addr <;> simp [modeOf, AddressingMode.size]

lemma length_asBytes (addr : Ieee802154Address) : addr.asBytes.length = (modeOf addr).size := by
  cases addr with
  | absent => rfl
  | short _ | extended _ => exact Octets.length_ofNatBE _ _

namespace Control

/-- The bits of the frame control that are set for a header. -/
def bitsOf (dst src : AddressingMode) : UInt16 :=
  (0x0041 : UInt16) ||| ((dst.toByte.toUInt16 &&& 0b11) <<< 10) |||
    ((src.toByte.toUInt16 &&& 0b11) <<< 14)

/-- The frame control before the addresses are set. -/
def fixed (raw : UInt16) : UInt16 :=
  let raw := withFrameType raw .data
  let raw := withBit (withBit (withBit raw 3 false) 4 false) 5 false
  withFrameVersion (withBit raw 6 true) .ieee802154_2003

lemma withBit_false (raw shift : UInt16) : withBit raw shift false = raw := by
  rw [withBit, if_neg Bool.false_ne_true, UInt16.zero_shiftLeft, UInt16.or_zero]

lemma withBit_true (raw : UInt16) :
    withBit raw 6 true = Octets.masked (~~~0x40) 0x40 raw := by
  apply UInt16.toBitVec_inj.mp
  change raw.toBitVec ||| 0x40#16 = (raw.toBitVec &&& ~~~0x40#16) ||| 0x40#16
  ext i hi
  simp only [BitVec.getElem_or, BitVec.getElem_and, BitVec.getElem_not]
  cases raw.toBitVec[i] <;> cases (0x40#16)[i] <;> rfl

lemma fixed_eq (raw : UInt16) : fixed raw = Octets.masked 0xcfb8 0x0041 raw := by
  have htype : withFrameType raw .data = Octets.masked 0xfff8 1 raw := rfl
  have hversion (word : UInt16) :
      withFrameVersion word .ieee802154_2003 = Octets.masked 0xcfff 0 word := rfl
  rw [fixed, withBit_false, withBit_false, withBit_false, htype, withBit_true, hversion,
    Octets.masked_masked, Octets.masked_masked]
  rfl

lemma withDstAddressingMode_eq (raw : UInt16) (mode : AddressingMode) :
    withDstAddressingMode raw mode =
      Octets.masked 0xf3ff ((mode.toByte.toUInt16 &&& 0b11) <<< 10) raw := rfl

lemma withSrcAddressingMode_eq (raw : UInt16) (mode : AddressingMode) :
    withSrcAddressingMode raw mode =
      Octets.masked 0x3fff ((mode.toByte.toUInt16 &&& 0b11) <<< 14) raw := rfl

/-- The mode that the destination PAN id comes with does not stay. -/
lemma withDstAddressingMode_extended (raw : UInt16) (mode : AddressingMode) :
    withDstAddressingMode (withDstAddressingMode raw .extended) mode =
      withDstAddressingMode raw mode := by
  have hclear : (((AddressingMode.extended).toByte.toUInt16 &&& (0b11 : UInt16)) <<< 10) &&&
      0xf3ff = 0 := by decide
  rw [withDstAddressingMode_eq, withDstAddressingMode_eq, withDstAddressingMode_eq,
    Octets.masked_masked, hclear, UInt16.zero_or]
  rfl

/-- The bits that are kept are the ones that no setter clears. -/
lemma withAddressingModes_eq (raw : UInt16) {dst src : Ieee802154Address} (hdst : dst ≠ .absent)
    (hsrc : src ≠ .absent) :
    withSrcAddressingMode (withDstAddressingMode (fixed raw) (modeOf dst)) (modeOf src) =
      Octets.masked staleBits (bitsOf (modeOf dst) (modeOf src)) raw := by
  rw [withSrcAddressingMode_eq, withDstAddressingMode_eq, fixed_eq, Octets.masked_masked,
    Octets.masked_masked]
  obtain hdst | hdst := modeOf_cases hdst
  all_goals
    obtain hsrc | hsrc := modeOf_cases hsrc
    all_goals
      rw [hdst, hsrc]
      exact congrArg₂ (Octets.masked · · raw) (by decide) (by decide)

/-- What the setters of the source address read of the frame control. -/
lemma withDstAddressingMode_reads (raw : UInt16) {dst : Ieee802154Address} (hdst : dst ≠ .absent) :
    dstAddressingMode (withDstAddressingMode (fixed raw) (modeOf dst)) = modeOf dst ∧
      panIdCompression (withDstAddressingMode (fixed raw) (modeOf dst)) = true := by
  rw [withDstAddressingMode_eq, fixed_eq, Octets.masked_masked, dstAddressingMode,
    panIdCompression, bit]
  rw [Octets.field_masked (by decide), Octets.field_masked (by decide)]
  obtain hdst | hdst := modeOf_cases hdst
  all_goals
    rw [hdst]
    decide

end Control

namespace Frame

variable {raw : UInt16} {parts : List (List UInt8)} {rest : List UInt8}

lemma frameControl_parts (raw : UInt16) (parts : List (List UInt8)) (rest : List UInt8) :
    frameControl ((toLeBytes raw :: parts).flatten ++ rest) = .ok raw := by
  rw [frameControl, slice_parts 0 (d := toLeBytes raw) (by rfl) (by rfl) (by rfl), ok_bind,
    pure_eq_ok]
  exact congrArg Except.ok (Octets.toU16_ofNat raw)

lemma setControl_parts (f : UInt16 → UInt16) :
    setControl ((toLeBytes raw :: parts).flatten ++ rest) f =
      .ok ((toLeBytes (f raw) :: parts).flatten ++ rest) := by
  rw [setControl, frameControl_parts, ok_bind, write_parts 0 (by rfl) (by rfl)]
  rfl

variable {q : UInt8} {pan d s : List UInt8} {addr : Ieee802154Address}

lemma setDstPanId_parts (hpan : pan.length = 2) (value : Pan) :
    setDstPanId ([toLeBytes raw, [q], pan, d, s].flatten ++ rest) value =
      .ok ([toLeBytes (Control.withDstAddressingMode raw .extended), [q], toLeBytes value, d,
        s].flatten ++ rest) := by
  rw [setDstPanId, setDstAddressingMode, setControl_parts, ok_bind,
    write_parts 2 (by exact congrArg some hpan) (by rfl)]
  rfl

lemma setDstAddr_parts (haddr : addr ≠ .absent) (hpan : pan.length = 2)
    (hd : d.length = (modeOf addr).size) :
    setDstAddr ([toLeBytes raw, [q], pan, d, s].flatten ++ rest) addr =
      .ok ([toLeBytes (Control.withDstAddressingMode raw (modeOf addr)), [q], pan,
        addr.asBytes.reverse, s].flatten ++ rest) := by
  have hlen := length_asBytes addr
  cases addr with
  | absent => exact absurd rfl haddr
  | short a | extended a =>
    rw [setDstAddr, setDstAddressingMode, setControl_parts, ok_bind, write_parts 3 _ _]
    · rfl
    · rw [List.length_reverse, hlen, ← hd]
      rfl
    · rw [List.map_cons, List.map_cons, List.map_cons, hpan]
      rfl

lemma setSrcAddr_parts {dst : Ieee802154Address} (haddr : addr ≠ .absent) (hpan : pan.length = 2)
    (hs : s.length = (modeOf addr).size) (hdst : dst ≠ .absent)
    (hmode : Control.dstAddressingMode raw = modeOf dst)
    (hcompression : Control.panIdCompression raw = true) :
    setSrcAddr ([toLeBytes raw, [q], pan, dst.asBytes.reverse, s].flatten ++ rest) addr =
      .ok ([toLeBytes (Control.withSrcAddressingMode raw (modeOf addr)), [q], pan,
        dst.asBytes.reverse, addr.asBytes.reverse].flatten ++ rest) := by
  have hlen := length_asBytes addr
  have hdlen := length_asBytes dst
  have hoffset : srcOffset ([toLeBytes raw, [q], pan, dst.asBytes.reverse, s].flatten ++ rest) =
      .ok ((modeOf dst).size + 2) := by
    rw [srcOffset, frameControl_parts, ok_bind, hmode]
    obtain hdst | hdst := modeOf_cases hdst
    all_goals
      rw [hdst]
      rfl
  cases addr with
  | absent => exact absurd rfl haddr
  | short a | extended a =>
    rw [setSrcAddr, hoffset, ok_bind, frameControl_parts, ok_bind, hcompression, if_pos rfl]
    dsimp only
    rw [setSrcAddressingMode, setControl_parts, ok_bind, write_parts 4 _ _]
    · rfl
    · rw [List.length_reverse, hlen, ← hs]
      rfl
    · simp only [List.map_cons, List.length_reverse, hpan, hdlen, List.take_succ_cons]
      simp [toLeBytes]
      omega

end Frame

/-! ### What is emitted -/

/-- The fields of the header of a frame that is dispatched. -/
def dispatched (word : UInt16) (seq : UInt8) (pan : List UInt8) (dst src : Ieee802154Address) :
    List (List UInt8) :=
  [toLeBytes word, [seq], pan, dst.asBytes.reverse, src.asBytes.reverse]

variable {panId : Option Pan} {seq : UInt8} {dst src : Ieee802154Address} {rest : List UInt8}

lemma emit_dispatchRepr {raw : UInt16} {q : UInt8} {pan d s : List UInt8} (hdst : dst ≠ .absent)
    (hsrc : src ≠ .absent) (hpan : pan.length = 2) (hd : d.length = (modeOf dst).size)
    (hs : s.length = (modeOf src).size) :
    (dispatchRepr panId seq dst src).emit ([toLeBytes raw, [q], pan, d, s].flatten ++ rest) =
      .ok ((dispatched (Octets.masked staleBits (Control.bitsOf (modeOf dst) (modeOf src)) raw) seq
        (panId.elim pan toLeBytes) dst src).flatten ++ rest) := by
  obtain ⟨hmode, hcompression⟩ := Control.withDstAddressingMode_reads raw hdst
  have hsrcAddr {pan : List UInt8} (hpan : pan.length = 2) :=
    @Frame.setSrcAddr_parts _ rest seq pan s src dst hsrc hpan hs hdst hmode hcompression
  rw [Control.withAddressingModes_eq raw hdst hsrc] at hsrcAddr
  rw [HeaderRepr.emit]
  dsimp only [dispatchRepr]
  rw [Frame.setControl_parts, ok_bind, Frame.setControl_parts, ok_bind, Frame.setControl_parts,
    ok_bind, Frame.setControl_parts, ok_bind, Frame.setControl_parts, ok_bind,
    Frame.setControl_parts, ok_bind, Frame.setSome, Frame.setSequenceNumber,
    write_parts 1 (by rfl) (by rfl), ok_bind]
  dsimp only [List.set_cons_succ, List.set_cons_zero]
  change (do
    let buf ← Frame.setSome ([toLeBytes (Control.fixed raw), [seq], pan, d, s].flatten ++ rest)
      Frame.setDstPanId panId
    let buf ← Frame.setSome buf Frame.setDstAddr (some dst)
    let buf ← .ok buf
    Frame.setSome buf Frame.setSrcAddr (some src)) = _
  cases panId with
  | none =>
    rw [Frame.setSome, ok_bind, Frame.setSome, Frame.setDstAddr_parts hdst hpan hd, ok_bind,
      ok_bind]
    exact hsrcAddr hpan
  | some pan' =>
    rw [Frame.setSome, Frame.setDstPanId_parts hpan, ok_bind, Frame.setSome,
      Frame.setDstAddr_parts hdst rfl hd, ok_bind, ok_bind, Control.withDstAddressingMode_extended]
    exact hsrcAddr rfl

/-! ### What is read back -/

namespace Control

lemma bitsOf_reads (hdst : dst ≠ .absent) (hsrc : src ≠ .absent) :
    let word := bitsOf (modeOf dst) (modeOf src)
    frameType word = .data ∧ securityEnabled word = false ∧ framePending word = false ∧
      ackRequest word = false ∧ panIdCompression word = true ∧
      frameVersion word = .ieee802154_2003 ∧
      dstAddressingMode word = modeOf dst ∧ srcAddressingMode word = modeOf src := by
  obtain hdst | hdst := modeOf_cases hdst
  all_goals
    obtain hsrc | hsrc := modeOf_cases hsrc
    all_goals
      rw [hdst, hsrc]
      decide

lemma bitsOf_and (hdst : dst ≠ .absent) (hsrc : src ≠ .absent) :
    bitsOf (modeOf dst) (modeOf src) &&& staleBits = 0 := by
  obtain hdst | hdst := modeOf_cases hdst
  all_goals
    obtain hsrc | hsrc := modeOf_cases hsrc
    all_goals
      rw [hdst, hsrc]
      decide

lemma addrPresentFlags_bitsOf (hdst : dst ≠ .absent) (hsrc : src ≠ .absent) :
    addrPresentFlags (bitsOf (modeOf dst) (modeOf src)) =
      some ⟨true, modeOf dst, false, modeOf src⟩ := by
  obtain hdst | hdst := modeOf_cases hdst
  all_goals
    obtain hsrc | hsrc := modeOf_cases hsrc
    all_goals
      rw [hdst, hsrc]
      decide

end Control

/-- An address is in reverse order. -/
lemma Frame.address_reverse {fields : List UInt8} {offset : ℕ} {addr : Ieee802154Address}
    (h : slice fields offset (offset + (modeOf addr).size) = .ok addr.asBytes.reverse) :
    Frame.address fields offset (modeOf addr) = .ok (some addr) := by
  cases addr with
  | absent => rfl
  | short a =>
    have h' : slice fields offset (offset + 2) = .ok (Octets.ofNatBE 2 a.toNat).reverse := h
    have hlt : a.toNat < 256 ^ 2 := a.isLt
    rw [modeOf, Frame.address, h', ok_bind, pure_eq_ok, List.reverse_reverse,
      Octets.toNatBE_ofNatBE, Nat.mod_eq_of_lt hlt, BitVec.ofNat_toNat, BitVec.setWidth_eq]
  | extended a =>
    have h' : slice fields offset (offset + 8) = .ok (Octets.ofNatBE 8 a.toNat).reverse := h
    have hlt : a.toNat < 256 ^ 8 := a.isLt
    rw [modeOf, Frame.address, h', ok_bind, pure_eq_ok, List.reverse_reverse,
      Octets.toNatBE_ofNatBE, Nat.mod_eq_of_lt hlt, BitVec.ofNat_toNat, BitVec.setWidth_eq]

section ReadBack

variable {word : UInt16} {pan : Pan}

lemma bufferLen_dispatchRepr :
    (dispatchRepr panId seq dst src).bufferLen = 5 + (modeOf dst).size + (modeOf src).size := by
  have haddrLen (addr : Ieee802154Address) : addrLen (some addr) = (modeOf addr).size := by
    cases addr <;> rfl
  rw [HeaderRepr.bufferLen, dispatchRepr, haddrLen, haddrLen]
  rfl

lemma length_dispatched {pan : List UInt8} (hpan : pan.length = 2) :
    (dispatched word seq pan dst src).flatten.length =
      5 + (modeOf dst).size + (modeOf src).size := by
  have hword : (toLeBytes word).length = 2 := rfl
  rw [dispatched, List.length_flatten]
  simp only [List.map_cons, List.map_nil, List.sum_cons, List.sum_nil, List.length_reverse,
    length_asBytes, hpan, hword, List.length_singleton]
  omega

/-- The frame that a header starts. -/
def frameOf (seq : UInt8) (pan : Pan) (dst src : Ieee802154Address) (rest : List UInt8) :
    List UInt8 :=
  (dispatched (Control.bitsOf (modeOf dst) (modeOf src)) seq (toLeBytes pan) dst src).flatten ++
    rest

lemma sized_frameOf (seq : UInt8) (pan : Pan) (rest : List UInt8) (hdst : dst ≠ .absent)
    (hsrc : src ≠ .absent) :
    Frame.Sized (frameOf seq pan dst src rest) (Control.bitsOf (modeOf dst) (modeOf src))
      ⟨true, modeOf dst, false, modeOf src⟩ := by
  have hknown {addr : Ieee802154Address} (h : addr ≠ .absent) : ¬ (modeOf addr).isUnknown := by
    obtain h | h := modeOf_cases h
    all_goals
      rw [h]
      decide
  refine ⟨Frame.frameControl_parts _ _ rest, Control.addrPresentFlags_bitsOf hdst hsrc,
    ⟨hknown hdst, hknown hsrc⟩, ?_, fun h => ?_⟩
  · rw [frameOf, List.length_append, length_dispatched rfl]
    simp only [AddrPresentFlags.len, AddrPresentFlags.srcAddrStart,
      AddrPresentFlags.srcPanIdStart, AddrPresentFlags.dstAddrStart, if_true, Bool.false_eq_true,
      if_false]
    omega
  · rw [(Control.bitsOf_reads hdst hsrc).2.1] at h
    exact absurd h Bool.false_ne_true

lemma checkLen_frameOf (hdst : dst ≠ .absent) (hsrc : src ≠ .absent)
    (hlen : (frameOf seq pan dst src rest).length ≤ 127) :
    Frame.checkLen (frameOf seq pan dst src rest) = .ok () := by
  have hsized := sized_frameOf seq pan rest hdst hsrc
  have hle := hsized.len_le
  rw [Frame.checkLen, reject_of_not (by omega), ok_bind, reject_of_not (by omega), ok_bind,
    Frame.checkFields, hsized.addrPresentFlags_eq, ok_bind]
  dsimp only
  rw [reject_of_not (by omega), ok_bind, pure_eq_ok, ok_bind, Frame.checkSecurity,
    hsized.securityEnabled_eq, (Control.bitsOf_reads hdst hsrc).2.1, ok_bind,
    if_neg Bool.false_ne_true, pure_eq_ok, ok_bind]
  exact reject_of_not (by omega)

lemma newChecked_frameOf (hdst : dst ≠ .absent) (hsrc : src ≠ .absent)
    (hlen : (frameOf seq pan dst src rest).length ≤ 127) :
    Frame.newChecked (frameOf seq pan dst src rest) = .ok () := by
  have hsized := sized_frameOf seq pan rest hdst hsrc
  obtain ⟨-, -, -, -, -, hversion, hdstMode, hsrcMode⟩ := Control.bitsOf_reads hdst hsrc
  have habsent {addr : Ieee802154Address} (h : addr ≠ .absent) : modeOf addr ≠ .absent := by
    cases addr <;> simp [modeOf] at h ⊢
  rw [Frame.newChecked, checkLen_frameOf hdst hsrc hlen, ok_bind, hsized.control, ok_bind, hversion,
    hdstMode, hsrcMode, reject_of_not (by decide), ok_bind, reject_of_not, ok_bind]
  · exact reject_of_not fun h => habsent hdst h.2.2.1
  · exact not_or.mpr hsized.known

/-- The addressing fields of the frame. -/
lemma addressingFields_frameOf (seq : UInt8) (pan : Pan) (rest : List UInt8)
    (hdst : dst ≠ .absent) (hsrc : src ≠ .absent) :
    Frame.addressingFields (frameOf seq pan dst src rest) =
      .ok (some ([toLeBytes pan, dst.asBytes.reverse, src.asBytes.reverse].flatten ++ [])) := by
  have hsized := sized_frameOf seq pan rest hdst hsrc
  have hhas : Control.hasAddressingFields (Control.bitsOf (modeOf dst) (modeOf src)) = true := by
    rw [Control.hasAddressingFields, (Control.bitsOf_reads hdst hsrc).1]
  rw [hsized.addressingFields_eq, if_pos hhas]
  refine congrArg (fun fields => Except.ok (some fields)) ?_
  change List.take _ (([toLeBytes pan, dst.asBytes.reverse, src.asBytes.reverse].flatten) ++ rest) =
    _
  rw [List.append_nil]
  refine List.take_left' ?_
  simp only [List.length_flatten, List.map_cons, List.map_nil, List.sum_cons, List.sum_nil,
    List.length_reverse, length_asBytes, AddrPresentFlags.len, AddrPresentFlags.srcAddrStart,
    AddrPresentFlags.srcPanIdStart, AddrPresentFlags.dstAddrStart, if_true, Bool.false_eq_true,
    if_false, toLeBytes, Octets.length_ofU16]
  omega

lemma parse_frameOf (hdst : dst ≠ .absent) (hsrc : src ≠ .absent)
    (hlen : (frameOf seq pan dst src rest).length ≤ 127) :
    HeaderRepr.parse (frameOf seq pan dst src rest) =
      .ok { dispatchRepr (some pan) seq dst src with srcPanId := none } := by
  have hsized := sized_frameOf seq pan rest hdst hsrc
  obtain ⟨htype, hsecurity, hpending, hack, hcompression, hversion, -, -⟩ :=
    Control.bitsOf_reads hdst hsrc
  have hfields := addressingFields_frameOf seq pan rest hdst hsrc
  have hpan : readU16LE (toLeBytes pan) = pan := Octets.toU16_ofNat pan
  have hseq : Frame.sequenceNumber (frameOf seq pan dst src rest) = .ok (some seq) := by
    rw [Frame.sequenceNumber, hsized.frameType_eq, htype, ok_bind]
    dsimp only
    rw [frameOf, index_parts 1 (by rfl) (by rfl), ok_bind, pure_eq_ok]
  have hdstPanId : Frame.dstPanId (frameOf seq pan dst src rest) = .ok (some pan) := by
    rw [Frame.dstPanId, hsized.addrPresentFlags_eq, ok_bind]
    dsimp only
    rw [Frame.withAddressingFields, hfields, ok_bind]
    dsimp only
    rw [slice_parts 0 (d := toLeBytes pan) (by rfl) (by rfl) (by rfl), ok_bind, pure_eq_ok, hpan]
  have hdstAddr : Frame.dstAddr (frameOf seq pan dst src rest) = .ok (some dst) := by
    rw [Frame.dstAddr, hsized.addrPresentFlags_eq, ok_bind]
    dsimp only
    rw [Frame.withAddressingFields, hfields, ok_bind]
    refine Frame.address_reverse (slice_parts 1 (by rfl) (by rfl) ?_)
    rw [List.length_reverse, length_asBytes]
  have hsrcPanId : Frame.srcPanId (frameOf seq pan dst src rest) = .ok none := by
    rw [Frame.srcPanId, hsized.addrPresentFlags_eq]
    rfl
  have hsrcAddr : Frame.srcAddr (frameOf seq pan dst src rest) = .ok (some src) := by
    rw [Frame.srcAddr, hsized.addrPresentFlags_eq, ok_bind]
    dsimp only
    rw [Frame.withAddressingFields, hfields, ok_bind]
    refine Frame.address_reverse (slice_parts 2 (by rfl) ?_ ?_)
    · simp only [List.map_cons, List.take_succ_cons, List.take_zero, List.sum_cons, List.sum_nil,
        List.length_reverse, length_asBytes]
      rfl
    · rw [List.length_reverse, length_asBytes]
  rw [HeaderRepr.parse, checkLen_frameOf hdst hsrc hlen, ok_bind, hsized.control, ok_bind, hseq,
    ok_bind, hdstPanId, ok_bind, hdstAddr, ok_bind, hsrcPanId, ok_bind, hsrcAddr, ok_bind, htype,
    hsecurity, hpending, hack, hcompression, hversion]
  rfl

lemma payload_frameOf (hdst : dst ≠ .absent) (hsrc : src ≠ .absent) :
    Frame.payload (frameOf seq pan dst src rest) = .ok (some rest) := by
  have hsized := sized_frameOf seq pan rest hdst hsrc
  obtain ⟨htype, hsecurity, -⟩ := Control.bitsOf_reads hdst hsrc
  rw [Frame.payload, hsized.frameType_eq, htype, ok_bind]
  dsimp only
  rw [Frame.payloadStart, Frame.auxSecurityHeaderStart,
    addressingFields_frameOf seq pan rest hdst hsrc, ok_bind]
  dsimp only
  rw [pure_eq_ok, ok_bind, hsized.securityEnabled_eq, hsecurity, ok_bind,
    if_neg Bool.false_ne_true, pure_eq_ok, ok_bind, List.append_nil]
  have hstart : 3 + ([toLeBytes pan, dst.asBytes.reverse, src.asBytes.reverse].flatten).length =
      (dispatched (Control.bitsOf (modeOf dst) (modeOf src)) seq (toLeBytes pan) dst
        src).flatten.length := by
    rw [Nat.add_comm]
    rfl
  rw [hstart, frameOf, sliceFrom_of (by simp), ok_bind, List.drop_left' rfl, pure_eq_ok]

end ReadBack

lemma exists_toLeBytes {octets : List UInt8} (h : octets.length = 2) :
    octets = toLeBytes (readU16LE octets) := by
  obtain ⟨lo, hi, rfl⟩ := List.length_eq_two.mp h
  change [lo, hi] = (Octets.ofU16 (Octets.toU16 hi lo)).reverse
  rw [Octets.ofU16_toU16]
  rfl

lemma readU16LE_toLeBytes (v : UInt16) : readU16LE (toLeBytes v) = v := Octets.toU16_ofNat v

lemma emit_eq {old : List UInt8} (hdst : dst ≠ .absent) (hsrc : src ≠ .absent)
    (hold : old.length = (dispatchRepr panId seq dst src).bufferLen) :
    (dispatchRepr panId seq dst src).emit old =
      .ok (dispatched (Octets.masked staleBits (Control.bitsOf (modeOf dst) (modeOf src))
        (readU16LE (old.take 2))) seq (panId.elim ((old.drop 3).take 2) toLeBytes) dst
          src).flatten := by
  rw [bufferLen_dispatchRepr] at hold
  obtain ⟨parts, rest, hsizes, rfl⟩ :=
    List.exists_parts [2, 1, 2, (modeOf dst).size, (modeOf src).size] (l := old)
      (by simp only [List.sum_cons, List.sum_nil]; omega)
  have hrest : rest = [] := by
    rw [List.length_append, List.length_flatten, hsizes] at hold
    simp only [List.sum_cons, List.sum_nil] at hold
    exact List.eq_nil_of_length_eq_zero (by omega)
  simp only [List.map_eq_cons_iff, List.map_eq_nil_iff] at hsizes
  obtain ⟨c, -, rfl, hc, q, -, rfl, hq, pan, -, rfl, hpan, d, -, rfl, hd, s, -, rfl, hs, rfl⟩ :=
    hsizes
  obtain ⟨q, rfl⟩ := List.length_eq_one_iff.mp hq
  obtain ⟨lo, hi, rfl⟩ := List.length_eq_two.mp hpan
  have hword := exists_toLeBytes hc
  generalize readU16LE c = raw at hword
  subst hword hrest
  have hread : readU16LE (([toLeBytes raw, [q], [lo, hi], d, s].flatten ++ []).take 2) = raw :=
    readU16LE_toLeBytes raw
  rw [hread, emit_dispatchRepr hdst hsrc rfl hd hs, List.append_nil]
  rfl

/-- The header of a frame that is dispatched is emitted whatever the octets were before, and read
back, exactly if the interface has a PAN id and none of the bits that no setter clears was set. -/
theorem determined_and_readsBack_iff {old : List UInt8} (hdst : dst ≠ .absent)
    (hsrc : src ≠ .absent) (hold : old.length = (dispatchRepr panId seq dst src).bufferLen) :
    Determined (dispatchRepr panId seq dst src) old ∧
        ReadsBack (dispatchRepr panId seq dst src) old ↔
      panId.isSome ∧ Clear old := by
  have hzeros : readU16LE ((List.replicate (dispatchRepr panId seq dst src).bufferLen 0).take 2) =
      0 := by
    rw [bufferLen_dispatchRepr, List.take_replicate, Nat.min_eq_left (by omega)]
    rfl
  constructor
  · rintro ⟨hdetermined, hreads⟩
    have hclear : Clear old := by
      rw [Determined, emit_eq hdst hsrc hold, emit_eq hdst hsrc List.length_replicate, hzeros]
        at hdetermined
      have hwords := (List.append_inj (Except.ok.inj hdetermined) rfl).1
      have hmasked := congrArg (readU16LE · &&& staleBits) hwords
      rw [readU16LE_toLeBytes, readU16LE_toLeBytes, Octets.masked_and, Octets.masked_and] at hmasked
      · exact hmasked
      all_goals exact Control.bitsOf_and hdst hsrc
    refine ⟨?_, hclear⟩
    cases panId with
    | some pan => rfl
    | none =>
      -- A PAN id is read of whatever the octets were.
      obtain ⟨out, hout, -, hread⟩ := hreads
      rw [emit_eq hdst hsrc hold, Octets.masked_of_clear hclear] at hout
      cases hout
      have hold' := @bufferLen_dispatchRepr none seq dst src
      have hpan : ((old.drop 3).take 2).length = 2 := by
        rw [List.length_take, List.length_drop]
        omega
      have hsize : (frameOf seq (readU16LE ((old.drop 3).take 2)) dst src []).length ≤ 127 := by
        have hdstLe := size_le dst
        have hsrcLe := size_le src
        rw [frameOf, List.append_nil, length_dispatched rfl]
        omega
      have hframe : (dispatched (Control.bitsOf (modeOf dst) (modeOf src)) seq
          ((old.drop 3).take 2) dst src).flatten =
            frameOf seq (readU16LE ((old.drop 3).take 2)) dst src [] := by
        rw [frameOf, List.append_nil, ← exists_toLeBytes hpan]
      have hread' := hread []
      dsimp only [Option.elim_none] at hread'
      rw [List.append_nil, hframe] at hread'
      obtain ⟨-, ⟨read, hparse, heq⟩, -⟩ := hread' hsize
      rw [parse_frameOf hdst hsrc hsize] at hparse
      cases hparse
      exact absurd (congrArg HeaderRepr.dstPanId heq) (by simp [dispatchRepr])
  · rintro ⟨hpan, hclear⟩
    obtain ⟨pan, rfl⟩ := Option.isSome_iff_exists.mp hpan
    have hframe : (dispatchRepr (some pan) seq dst src).emit old =
        .ok (frameOf seq pan dst src []) := by
      rw [emit_eq hdst hsrc hold, Octets.masked_of_clear hclear, frameOf, List.append_nil]
      rfl
    refine ⟨?_, frameOf seq pan dst src [], hframe, ?_, fun rest hlen => ?_⟩
    · rw [Determined, hframe, emit_eq hdst hsrc List.length_replicate, hzeros,
        Octets.masked_of_clear (UInt16.zero_and), frameOf, List.append_nil]
      rfl
    · rw [frameOf, List.append_nil, length_dispatched rfl, bufferLen_dispatchRepr]
    · have happend : frameOf seq pan dst src [] ++ rest = frameOf seq pan dst src rest := by
        rw [frameOf, frameOf, List.append_nil]
      rw [← List.length_append, happend] at hlen
      rw [happend]
      exact ⟨newChecked_frameOf hdst hsrc hlen, ⟨_, parse_frameOf hdst hsrc hlen, rfl⟩,
        payload_frameOf hdst hsrc⟩

/-- Over an older frame of other modes. -/
theorem determined_and_readsBack_sample :
    Determined (dispatchRepr (some 0xabcd) 7 (.short 0xffff) (.short 1))
        [0x47, 0xfc, 9, 1, 2, 3, 4, 5, 6] ∧
      ReadsBack (dispatchRepr (some 0xabcd) 7 (.short 0xffff) (.short 1))
        [0x47, 0xfc, 9, 1, 2, 3, 4, 5, 6] :=
  (determined_and_readsBack_iff (by decide) (by decide) (by decide)).mpr
    ⟨by decide, by unfold Clear; decide⟩

/-- Over octets that are all set, the frame is one with a security header. Without a PAN id, the one
of the older frame stays. -/
theorem not_determined :
    ¬ Determined (dispatchRepr (some 0xabcd) 7 (.short 0xffff) (.short 1)) (List.replicate 9 0xff) ∧
      (do Frame.securityEnabled (← (dispatchRepr (some 0xabcd) 7 (.short 0xffff) (.short 1)).emit
        (List.replicate 9 0xff))) = .ok true ∧
      ¬ Determined (dispatchRepr none 7 (.short 0xffff) (.short 1))
        [0, 0, 0, 0xcd, 0xab, 0, 0, 0, 0] ∧
      (do Frame.dstPanId (← (dispatchRepr none 7 (.short 0xffff) (.short 1)).emit
        [0, 0, 0, 0xcd, 0xab, 0, 0, 0, 0])) = .ok (some 0xabcd) := by
  unfold Determined
  decide +kernel

end Ieee802154

end Smoltcp
