import Smoltcp.Wire.Sixlowpan.Iphc
import Smoltcp.Wire.Sixlowpan.UdpNhc

/-!
# 6LoWPAN headers

The headers of a frame other than the compressed IPv6 header: the dispatch octet, fragment headers
and compressed extension headers.
-/

namespace Smoltcp

open Outcome

def dispatchFirstFragmentHeader : UInt8 := 0b11000

def dispatchFragmentHeader : UInt8 := 0b11100

def dispatchUdpHeader : UInt8 := 0b11110

def dispatchExtHeader : UInt8 := 0b1110

inductive Sixlowpan.Packet where
  | fragmentHeader
  | iphcHeader
  deriving DecidableEq, Repr

/-- The type of the 6LoWPAN header. -/
def Sixlowpan.Packet.dispatch (raw : List UInt8) : Outcome Sixlowpan.Packet := do
  if raw = [] then fail
  else
    let first ← index raw 0
    if first >>> 3 = dispatchFirstFragmentHeader ∨ first >>> 3 = dispatchFragmentHeader then
      return .fragmentHeader
    else if first >>> 5 = Sixlowpan.dispatchIphcHeader then return .iphcHeader
    else fail

/-- What is used of the header of a frame. -/
structure Ieee802154Repr where
  srcAddr : Option Ieee802154Address
  dstAddr : Option Ieee802154Address
  deriving DecidableEq, Repr

/-! ### Fragments -/

/-- Identifies all the link fragments that belong to the same packet. -/
structure SixlowpanFragKey where
  llSrcAddr : Ieee802154Address
  llDstAddr : Ieee802154Address
  datagramSize : UInt16
  datagramTag : UInt16
  deriving DecidableEq, Repr

namespace SixlowpanFragPacket

def firstFragmentHeaderSize : ℕ := 4

def nextFragmentHeaderSize : ℕ := 5

variable (buf : List UInt8)

def dispatch : Outcome UInt8 := do
  return (← index buf 0) >>> 3

def checkLen : Outcome Unit := do
  if buf = [] then fail
  else
    let d ← dispatch buf
    if d = dispatchFirstFragmentHeader then reject (buf.length < firstFragmentHeaderSize)
    else if d = dispatchFragmentHeader then reject (buf.length < nextFragmentHeaderSize)
    else fail

def newChecked : Outcome Unit := do
  checkLen buf
  let d ← dispatch buf
  reject (d ≠ dispatchFirstFragmentHeader ∧ d ≠ dispatchFragmentHeader)

/-- The total datagram size. -/
def datagramSize : Outcome UInt16 := do
  return (← readU16 buf 0) &&& 0b11111111111

def datagramTag : Outcome UInt16 := readU16 buf 2

def datagramOffset : Outcome UInt8 := do
  let d ← dispatch buf
  if d = dispatchFirstFragmentHeader then return 0
  else if d = dispatchFragmentHeader then index buf 4
  else .error (.panic .unreachable)

def isFirstFragment : Outcome Bool := do
  return (← dispatch buf) = dispatchFirstFragmentHeader

def getKey (ieee802154Repr : Ieee802154Repr) : Outcome SixlowpanFragKey := do
  return { llSrcAddr := ← ofChecked (Checked.unwrap ieee802154Repr.srcAddr)
           llDstAddr := ← ofChecked (Checked.unwrap ieee802154Repr.dstAddr)
           datagramSize := ← datagramSize buf
           datagramTag := ← datagramTag buf }

def payload : Outcome (List UInt8) := do
  let d ← dispatch buf
  if d = dispatchFirstFragmentHeader then sliceFrom buf firstFragmentHeaderSize
  else if d = dispatchFragmentHeader then sliceFrom buf nextFragmentHeaderSize
  else .error (.panic .unreachable)

end SixlowpanFragPacket

/-! ### Compressed next headers -/

inductive SixlowpanNhcPacket where
  | extHeader
  | udpHeader
  deriving DecidableEq, Repr

/-- The type of a compressed next header. -/
def SixlowpanNhcPacket.dispatch (raw : List UInt8) : Outcome SixlowpanNhcPacket := do
  if raw = [] then fail
  else
    let first ← index raw 0
    if first >>> 4 = dispatchExtHeader then return .extHeader
    else if first >>> 3 = dispatchUdpHeader then return .udpHeader
    else fail

inductive ExtHeaderId where
  | hopByHopHeader
  | routingHeader
  | fragmentHeader
  | destinationOptionsHeader
  | mobilityHeader
  | header
  | reserved
  deriving DecidableEq, Repr

def ExtHeaderId.toProtocol : ExtHeaderId → IpProtocol
  | .hopByHopHeader => .hopByHop
  | .routingHeader => .ipv6Route
  | .fragmentHeader => .ipv6Frag
  | .destinationOptionsHeader => .ipv6Opts
  | .mobilityHeader => .unknown 0
  | .header => .unknown 0
  | .reserved => .unknown 0

namespace ExtHeaderPacket

variable (buf : List UInt8)

/-- Bits of the first octet. -/
def field (mask shift : UInt8) : Outcome UInt8 := do
  return ((← index buf 0) >>> shift) &&& mask

def dispatchField : Outcome UInt8 := field buf 0b1111 4

def eidField : Outcome UInt8 := field buf 0b111 1

def nhField : Outcome UInt8 := field buf 0b1 0

def nextHeaderSize : Outcome ℕ := do
  let nh ← nhField buf
  if nh = 0 then return 1
  else if nh = 1 then return 0
  else .error (.panic .unreachable)

def checkLen : Outcome Unit := do
  if buf = [] then fail
  else reject (buf.length < 2 + (← nextHeaderSize buf))

def newChecked : Outcome Unit := do
  checkLen buf
  reject ((← eidField buf) > 7)

def extensionHeaderId : Outcome ExtHeaderId := do
  let eid ← eidField buf
  if eid = 0 then return .hopByHopHeader
  else if eid = 1 then return .routingHeader
  else if eid = 2 then return .fragmentHeader
  else if eid = 3 then return .destinationOptionsHeader
  else if eid = 4 then return .mobilityHeader
  else if eid = 5 ∨ eid = 6 then return .reserved
  else if eid = 7 then return .header
  else .error (.panic .unreachable)

def length : Outcome UInt8 := do
  index buf (1 + (← nextHeaderSize buf))

def nextHeader : Outcome Sixlowpan.NextHeader := do
  if (← nhField buf) = 1 then return .compressed
  else return .uncompressed (.ofByte (← index buf 1))

def payload : Outcome (List UInt8) := do
  let start := 2 + (← nextHeaderSize buf)
  let len := (← length buf).toNat
  sliceAt buf start len

end ExtHeaderPacket

/-- A high-level representation of a 6LoWPAN NHC extension header. -/
structure ExtHeaderRepr where
  extHeaderId : ExtHeaderId
  nextHeader : Sixlowpan.NextHeader
  length : UInt8
  deriving DecidableEq, Repr

namespace ExtHeaderRepr

def parse (buf : List UInt8) : Outcome ExtHeaderRepr := do
  ExtHeaderPacket.checkLen buf
  reject ((← ExtHeaderPacket.dispatchField buf) ≠ dispatchExtHeader)
  return { extHeaderId := ← ExtHeaderPacket.extensionHeaderId buf
           nextHeader := ← ExtHeaderPacket.nextHeader buf
           length := ← ExtHeaderPacket.length buf }

def bufferLen (repr : ExtHeaderRepr) : ℕ :=
  (if repr.nextHeader ≠ .compressed then 2 else 1) + 1

end ExtHeaderRepr

/-! ### Headers that are long enough -/

lemma index_zero {buf : List UInt8} (h : buf ≠ []) : index buf 0 = .ok (Octets.get buf 0) :=
  index_get (List.length_pos_iff.mpr h)

/-- No frame makes the dispatch panic. -/
lemma Sixlowpan.Packet.dispatch_safe (raw : List UInt8) :
    Safe (Sixlowpan.Packet.dispatch raw) fun _ => True := by
  unfold Sixlowpan.Packet.dispatch
  apply Safe.ite
  · exact fun _ => Safe.fail
  · intro hne
    rw [index_zero hne, ok_bind]
    exact Safe.ite (fun _ => trivial) fun _ => Safe.ite (fun _ => trivial) fun _ => trivial

namespace SixlowpanFragPacket

variable {buf : List UInt8}

/-- A first fragment with a whole header. -/
structure First (buf : List UInt8) : Prop where
  dispatch : Octets.get buf 0 >>> 3 = dispatchFirstFragmentHeader
  le_length : firstFragmentHeaderSize ≤ buf.length

/-- A fragment other than the first with a whole header. -/
structure Next (buf : List UInt8) : Prop where
  dispatch : Octets.get buf 0 >>> 3 = dispatchFragmentHeader
  le_length : nextFragmentHeaderSize ≤ buf.length

lemma dispatch_of (h : buf ≠ []) : dispatch buf = .ok (Octets.get buf 0 >>> 3) := by
  rw [dispatch, index_zero h]
  rfl

lemma checkLen_safe (buf : List UInt8) : Safe (checkLen buf) fun _ => First buf ∨ Next buf := by
  unfold checkLen
  apply Safe.ite
  · exact fun _ => Safe.fail
  intro hne
  rw [dispatch_of hne, ok_bind]
  apply Safe.ite
  · intro hfirst
    exact (Safe.reject _).mono fun _ h => .inl ⟨hfirst, not_lt.mp h⟩
  intro _
  apply Safe.ite
  · intro hnext
    exact (Safe.reject _).mono fun _ h => .inr ⟨hnext, not_lt.mp h⟩
  · exact fun _ => Safe.fail

lemma newChecked_safe (buf : List UInt8) : Safe (newChecked buf) fun _ => First buf ∨ Next buf := by
  unfold newChecked
  apply (checkLen_safe buf).bind
  intro _ h
  have hne : buf ≠ [] := by
    rintro rfl
    rcases h with h | h
    · exact absurd h.le_length (by decide)
    · exact absurd h.le_length (by decide)
  rw [dispatch_of hne, ok_bind]
  exact (Safe.reject _).mono fun _ _ => h

namespace First

lemma ne_nil (h : First buf) : buf ≠ [] := by
  rintro rfl
  exact absurd h.le_length (by decide)

lemma datagramOffset (h : First buf) : datagramOffset buf = .ok 0 := by
  rw [SixlowpanFragPacket.datagramOffset, dispatch_of h.ne_nil, ok_bind, if_pos h.dispatch]
  rfl

lemma isFirstFragment (h : First buf) : isFirstFragment buf = .ok true := by
  rw [SixlowpanFragPacket.isFirstFragment, dispatch_of h.ne_nil, ok_bind, h.dispatch]
  rfl

lemma payload (h : First buf) : payload buf = .ok (buf.drop 4) := by
  rw [SixlowpanFragPacket.payload, dispatch_of h.ne_nil, ok_bind, if_pos h.dispatch]
  exact sliceFrom_of h.le_length

end First

namespace Next

lemma ne_nil (h : Next buf) : buf ≠ [] := by
  rintro rfl
  exact absurd h.le_length (by decide)

lemma not_first (h : Next buf) : Octets.get buf 0 >>> 3 ≠ dispatchFirstFragmentHeader := by
  rw [h.dispatch]
  decide

lemma datagramOffset (h : Next buf) : datagramOffset buf = .ok (Octets.get buf 4) := by
  rw [SixlowpanFragPacket.datagramOffset, dispatch_of h.ne_nil, ok_bind, if_neg h.not_first,
    if_pos h.dispatch]
  exact index_get h.le_length

lemma isFirstFragment (h : Next buf) : isFirstFragment buf = .ok false := by
  rw [SixlowpanFragPacket.isFirstFragment, dispatch_of h.ne_nil, ok_bind, h.dispatch]
  rfl

lemma payload (h : Next buf) : payload buf = .ok (buf.drop 5) := by
  rw [SixlowpanFragPacket.payload, dispatch_of h.ne_nil, ok_bind, if_neg h.not_first,
    if_pos h.dispatch]
  exact sliceFrom_of h.le_length

end Next

/-- The size and the tag of a fragment. -/
lemma size_tag_of (h : First buf ∨ Next buf) :
    datagramSize buf = .ok (Octets.readU16 buf 0 &&& 0b11111111111) ∧
      datagramTag buf = .ok (Octets.readU16 buf 2) := by
  have hlen : 4 ≤ buf.length := by
    rcases h with h | h
    · exact h.le_length
    · exact Nat.le_of_succ_le h.le_length
  rw [datagramSize, datagramTag, readU16_of (by omega), readU16_of (by omega)]
  exact ⟨rfl, rfl⟩

end SixlowpanFragPacket

lemma SixlowpanNhcPacket.dispatch_safe (raw : List UInt8) :
    Safe (SixlowpanNhcPacket.dispatch raw) fun nhc => raw ≠ [] ∧
      (nhc = .extHeader → Octets.get raw 0 >>> 4 = dispatchExtHeader) ∧
      (nhc = .udpHeader → Octets.get raw 0 >>> 3 = dispatchUdpHeader) := by
  unfold SixlowpanNhcPacket.dispatch
  apply Safe.ite
  · exact fun _ => Safe.fail
  intro hne
  rw [index_zero hne, ok_bind]
  apply Safe.ite
  · exact fun hext => Safe.pure ⟨hne, fun _ => hext, nofun⟩
  intro _
  apply Safe.ite
  · exact fun hudp => Safe.pure ⟨hne, nofun, fun _ => hudp⟩
  · exact fun _ => Safe.fail

namespace ExtHeaderPacket

variable {buf : List UInt8}

/-- The size of the next header field that the first octet announces. -/
def announced (first : UInt8) : ℕ := if (first >>> 0) &&& 0b1 = 0 then 1 else 0

/-- An extension header with all of its own fields. What it carries may be missing. -/
structure Complete (buf : List UInt8) : Prop where
  ne_nil : buf ≠ []
  le_length : 2 + announced (Octets.get buf 0) ≤ buf.length

lemma field_of (h : buf ≠ []) (mask shift : UInt8) :
    field buf mask shift = .ok ((Octets.get buf 0 >>> shift) &&& mask) := by
  rw [field, index_zero h]
  rfl

lemma bit_cases (b : UInt8) : b &&& 0b1 = 0 ∨ b &&& 0b1 = 1 := by
  have hall : ∀ b : BitVec 8, UInt8.ofBitVec b &&& 0b1 = 0 ∨ UInt8.ofBitVec b &&& 0b1 = 1 := by
    decide +kernel
  exact hall b.toBitVec

lemma nextHeaderSize_of (h : buf ≠ []) :
    nextHeaderSize buf = .ok (announced (Octets.get buf 0)) := by
  rw [nextHeaderSize, nhField, field_of h, ok_bind, announced]
  rcases bit_cases (Octets.get buf 0 >>> 0) with hbit | hbit
  · rw [hbit]
    rfl
  · rw [hbit]
    rfl

lemma checkLen_safe (buf : List UInt8) : Safe (checkLen buf) fun _ => Complete buf := by
  unfold checkLen
  apply Safe.ite
  · exact fun _ => Safe.fail
  intro hne
  rw [nextHeaderSize_of hne, ok_bind]
  exact (Safe.reject _).mono fun _ h => ⟨hne, not_lt.mp h⟩

lemma newChecked_safe (buf : List UInt8) : Safe (newChecked buf) fun _ => Complete buf := by
  unfold newChecked
  apply (checkLen_safe buf).bind
  intro _ h
  rw [eidField, field_of h.ne_nil, ok_bind]
  exact (Safe.reject _).mono fun _ _ => h

namespace Complete

lemma extensionHeaderId (h : Complete buf) : ∃ id, extensionHeaderId buf = .ok id := by
  have hall : ∀ b : BitVec 8, ((UInt8.ofBitVec b >>> 1) &&& 0b111) ∈
      ([0, 1, 2, 3, 4, 5, 6, 7] : List UInt8) := by
    decide +kernel
  have hmem := hall (Octets.get buf 0).toBitVec
  rw [ExtHeaderPacket.extensionHeaderId, eidField, field_of h.ne_nil, ok_bind]
  simp only [List.mem_cons, List.not_mem_nil, or_false] at hmem
  rcases hmem with heid | heid | heid | heid | heid | heid | heid | heid
  all_goals
    rw [heid]
    exact ⟨_, rfl⟩

lemma length (h : Complete buf) :
    length buf = .ok (Octets.get buf (1 + announced (Octets.get buf 0))) := by
  rw [ExtHeaderPacket.length, nextHeaderSize_of h.ne_nil, ok_bind]
  exact index_get (by have := h.le_length; omega)

/-- What follows a next header field of the announced size. -/
lemma nextHeader (h : Complete buf) : ∃ nh, nextHeader buf = .ok nh ∧
    announced (Octets.get buf 0) = if nh = .compressed then 0 else 1 := by
  have hle := h.le_length
  rw [ExtHeaderPacket.nextHeader, nhField, field_of h.ne_nil, ok_bind, announced]
  rcases bit_cases (Octets.get buf 0 >>> 0) with hbit | hbit
  · rw [hbit, if_neg (by decide), index_get (by omega)]
    exact ⟨_, rfl, rfl⟩
  · rw [hbit]
    exact ⟨_, rfl, rfl⟩

/-- The header is read. -/
lemma parse (h : Complete buf) (hdispatch : Octets.get buf 0 >>> 4 = dispatchExtHeader) :
    ∃ repr, ExtHeaderRepr.parse buf = .ok repr ∧
      ExtHeaderPacket.nextHeader buf = .ok repr.nextHeader ∧
      repr.length = Octets.get buf (1 + announced (Octets.get buf 0)) ∧
      repr.bufferLen = 2 + announced (Octets.get buf 0) := by
  have hcheck : checkLen buf = .ok () := by
    rw [checkLen, if_neg h.ne_nil, nextHeaderSize_of h.ne_nil, ok_bind,
      reject_of_not (not_lt.mpr h.le_length)]
  have hfield : (Octets.get buf 0 >>> 4) &&& 0b1111 = dispatchExtHeader := by
    rw [hdispatch]
    decide
  obtain ⟨id, hid⟩ := h.extensionHeaderId
  obtain ⟨nh, hnh, hsize⟩ := h.nextHeader
  refine ⟨⟨id, nh, Octets.get buf (1 + announced (Octets.get buf 0))⟩, ?_, hnh, rfl, ?_⟩
  · rw [ExtHeaderRepr.parse, hcheck, ok_bind, dispatchField, field_of h.ne_nil, ok_bind,
      reject_of_not (not_not.mpr hfield), ok_bind, hid, ok_bind, hnh, ok_bind, h.length]
    rfl
  · rw [hsize, ExtHeaderRepr.bufferLen]
    by_cases hc : nh = .compressed
    · rw [if_pos hc, if_neg (not_not.mpr hc)]
    · rw [if_neg hc, if_pos hc]

end Complete

end ExtHeaderPacket

end Smoltcp
