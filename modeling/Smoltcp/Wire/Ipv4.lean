import Smoltcp.Wire.Checksum
import Smoltcp.Wire.Outcome

/-!
# IPv4 headers

Accessors and setters of the header fields in a buffer of octets, and the representation that is
parsed from and emitted to such a buffer. No options are ever emitted, so a header has 20 octets
(`emit_eq`). The fragment offset shares a word with the flags, and is kept in units of 8 octets.
-/

namespace Smoltcp

namespace Ipv4

open Octets

/-! ### Fields -/

section Fields

variable (buf : List UInt8)

def version : UInt8 := get buf 0 >>> 4

/-- The header length, in octets. -/
def headerLen : ℕ := ((get buf 0 &&& 0x0f) * 4).toNat

def totalLen : UInt16 := readU16 buf 2

def ident : UInt16 := readU16 buf 4

def moreFrags : Prop := readU16 buf 6 &&& 0x2000 ≠ 0

instance : Decidable (moreFrags buf) := inferInstanceAs (Decidable (_ ≠ _))

/-- The fragment offset, in octets. -/
def fragOffset : UInt16 := readU16 buf 6 <<< 3

def hopLimit : UInt8 := get buf 8

def nextHeader : IpProtocol := .ofByte (get buf 9)

def srcAddr : BitVec 32 := readU32 buf 12

def dstAddr : BitVec 32 := readU32 buf 16

def verifyChecksum : Prop := Checksum.data (buf.take (headerLen buf)) = 0xffff

instance : Decidable (verifyChecksum buf) := inferInstanceAs (Decidable (_ = _))

/-- Identifies the datagram that a fragment belongs to. -/
structure Key where
  id : UInt16
  srcAddr : BitVec 32
  dstAddr : BitVec 32
  protocol : IpProtocol
  deriving DecidableEq, Repr

def getKey : Key := ⟨ident buf, srcAddr buf, dstAddr buf, nextHeader buf⟩

def payload : List UInt8 := (buf.take (totalLen buf).toNat).drop (headerLen buf)

/-- Ensure that no accessor method will panic if called. -/
def checkLen : Except WireError Unit :=
  if buf.length < 20 then .error .mk
  else if buf.length < headerLen buf then .error .mk
  else if (totalLen buf).toNat < headerLen buf then .error .mk
  else if buf.length < (totalLen buf).toNat then .error .mk
  else .ok ()

def setVersion (value : UInt8) : List UInt8 :=
  buf.overwrite 0 [(get buf 0 &&& ~~~ (0xf0 : UInt8)) ||| (value <<< 4)]

def setHeaderLen (value : UInt8) : List UInt8 :=
  buf.overwrite 0 [(get buf 0 &&& ~~~ (0x0f : UInt8)) ||| ((value / 4) &&& 0x0f)]

def setDscp (value : UInt8) : List UInt8 :=
  buf.overwrite 1 [(get buf 1 &&& ~~~ (0xfc : UInt8)) ||| (value <<< 2)]

def setEcn (value : UInt8) : List UInt8 :=
  buf.overwrite 1 [(get buf 1 &&& ~~~ (0x03 : UInt8)) ||| (value &&& 0x03)]

def setTotalLen (value : UInt16) : List UInt8 := writeU16 buf 2 value

def setIdent (value : UInt16) : List UInt8 := writeU16 buf 4 value

def clearFlags : List UInt8 := writeU16 buf 6 (readU16 buf 6 &&& ~~~ (0xe000 : UInt16))

def setDontFrag (value : Bool) : List UInt8 :=
  let raw := readU16 buf 6
  writeU16 buf 6 (if value then raw ||| 0x4000 else raw &&& ~~~ (0x4000 : UInt16))

def setMoreFrags (value : Bool) : List UInt8 :=
  let raw := readU16 buf 6
  writeU16 buf 6 (if value then raw ||| 0x2000 else raw &&& ~~~ (0x2000 : UInt16))

/-- Set the fragment offset, in octets. -/
def setFragOffset (value : UInt16) : List UInt8 :=
  writeU16 buf 6 ((readU16 buf 6 &&& (0xe000 : UInt16)) ||| (value >>> 3))

def setHopLimit (value : UInt8) : List UInt8 := buf.overwrite 8 [value]

def setNextHeader (value : IpProtocol) : List UInt8 := buf.overwrite 9 [value.toByte]

def setChecksum (value : UInt16) : List UInt8 := writeU16 buf 10 value

def setSrcAddr (value : BitVec 32) : List UInt8 := writeU32 buf 12 value

def setDstAddr (value : BitVec 32) : List UInt8 := writeU32 buf 16 value

/-- Compute and fill in the header checksum. -/
def fillChecksum : List UInt8 :=
  let buf := setChecksum buf 0
  setChecksum buf (~~~ (Checksum.data (buf.take (headerLen buf))))

end Fields

/-! ### Representation -/

abbrev Repr := IpHeader 32

/-- Parse a packet. `rx` tells whether checksums are verified. -/
def Repr.parse (rx : Bool) (buf : List UInt8) : Except WireError Repr := do
  checkLen buf
  if version buf ≠ 4 then .error .mk
  else if rx ∧ ¬ verifyChecksum buf then .error .mk
  else
    return {
      srcAddr := srcAddr buf
      dstAddr := dstAddr buf
      nextHeader := nextHeader buf
      payloadLen := (totalLen buf).toNat - headerLen buf
      hopLimit := hopLimit buf }

/-- The length of the header. -/
def Repr.bufferLen (_ : Repr) : ℕ := ipv4HeaderLen

@[simp] lemma Repr.bufferLen_eq (repr : Repr) : repr.bufferLen = ipv4HeaderLen := rfl

/-- Emit a header. `tx` tells whether checksums are computed. -/
def Repr.emit (tx : Bool) (repr : Repr) (buf : List UInt8) : List UInt8 :=
  let buf := setVersion buf 4
  let buf := setHeaderLen buf 20
  let buf := setDscp buf 0
  let buf := setEcn buf 0
  let buf := setTotalLen buf (.ofNat (headerLen buf) + .ofNat repr.payloadLen)
  let buf := setIdent buf 0
  let buf := clearFlags buf
  let buf := setMoreFrags buf false
  let buf := setDontFrag buf true
  let buf := setFragOffset buf 0
  let buf := setHopLimit buf repr.hopLimit
  let buf := setNextHeader buf repr.nextHeader
  let buf := setSrcAddr buf repr.srcAddr
  let buf := setDstAddr buf repr.dstAddr
  if tx then fillChecksum buf else setChecksum buf 0

/-! ### The octets of a header -/

/-- The first 20 octets of a packet, by fields. -/
structure Header where
  verIhl : UInt8
  dscpEcn : UInt8
  length : UInt16
  ident : UInt16
  flgOff : UInt16
  ttl : UInt8
  protocol : UInt8
  checksum : UInt16
  srcAddr : BitVec 32
  dstAddr : BitVec 32

namespace Header

def octets (h : Header) : List UInt8 :=
  [h.verIhl, h.dscpEcn] ++ ofU16 h.length ++ ofU16 h.ident ++ ofU16 h.flgOff ++
    [h.ttl, h.protocol] ++
    ofU16 h.checksum ++ ofU32 h.srcAddr ++ ofU32 h.dstAddr

@[simp] lemma length_octets (h : Header) : h.octets.length = 20 := rfl

/-- Every 20 octets are those of some header. -/
lemma exists_octets {buf : List UInt8} (hlen : 20 ≤ buf.length) :
    ∃ h : Header, buf = h.octets ++ buf.drop 20 := by
  obtain ⟨v, rest, rfl, hv⟩ : ∃ v rest, buf = v ++ rest ∧ v.length = 20 :=
    ⟨buf.take 20, buf.drop 20, (List.take_append_drop ..).symm, by simpa using hlen⟩
  match v, hv with
  | [a, b, c, d, e, f, g, h, i, j, k, l, m, n, o, p, q, r, s, t], _ =>
    refine ⟨⟨a, b, toU16 c d, toU16 e f, toU16 g h, i, j, toU16 k l, toU32 m n o p,
      toU32 q r s t⟩, ?_⟩
    simp only [octets, ofU16_toU16, ofU32_toU32]
    rfl

variable (h : Header) (rest : List UInt8)

lemma readLength : readU16 (h.octets ++ rest) 2 = h.length := toU16_ofNat _

lemma readIdent : readU16 (h.octets ++ rest) 4 = h.ident := toU16_ofNat _

lemma readFlgOff : readU16 (h.octets ++ rest) 6 = h.flgOff := toU16_ofNat _

@[simp] lemma setVersion_octets (v : UInt8) :
    setVersion (h.octets ++ rest) v = { h with
      verIhl := (h.verIhl &&& ~~~ (0xf0 : UInt8)) ||| (v <<< 4) }.octets ++ rest := rfl

@[simp] lemma setHeaderLen_octets (v : UInt8) :
    setHeaderLen (h.octets ++ rest) v = { h with
      verIhl := (h.verIhl &&& ~~~ (0x0f : UInt8)) ||| ((v / 4) &&& 0x0f) }.octets ++ rest := rfl

@[simp] lemma setDscp_octets (v : UInt8) :
    setDscp (h.octets ++ rest) v = { h with
      dscpEcn := (h.dscpEcn &&& ~~~ (0xfc : UInt8)) ||| (v <<< 2) }.octets ++ rest := rfl

@[simp] lemma setEcn_octets (v : UInt8) :
    setEcn (h.octets ++ rest) v = { h with
      dscpEcn := (h.dscpEcn &&& ~~~ (0x03 : UInt8)) ||| (v &&& 0x03) }.octets ++ rest := rfl

@[simp] lemma setTotalLen_octets (v : UInt16) :
    setTotalLen (h.octets ++ rest) v = { h with length := v }.octets ++ rest := rfl

@[simp] lemma setHopLimit_octets (v : UInt8) :
    setHopLimit (h.octets ++ rest) v = { h with ttl := v }.octets ++ rest := rfl

@[simp] lemma setNextHeader_octets (v : IpProtocol) :
    setNextHeader (h.octets ++ rest) v = { h with protocol := v.toByte }.octets ++ rest := rfl

@[simp] lemma setSrcAddr_octets (v : BitVec 32) :
    setSrcAddr (h.octets ++ rest) v = { h with srcAddr := v }.octets ++ rest := rfl

@[simp] lemma setDstAddr_octets (v : BitVec 32) :
    setDstAddr (h.octets ++ rest) v = { h with dstAddr := v }.octets ++ rest := rfl

@[simp] lemma setIdent_octets (v : UInt16) :
    setIdent (h.octets ++ rest) v = { h with ident := v }.octets ++ rest := rfl

@[simp] lemma setChecksum_octets (v : UInt16) :
    setChecksum (h.octets ++ rest) v = { h with checksum := v }.octets ++ rest := rfl

@[simp] lemma setMoreFrags_octets (v : Bool) :
    setMoreFrags (h.octets ++ rest) v = { h with
      flgOff := if v then h.flgOff ||| 0x2000 else h.flgOff &&& ~~~ (0x2000 : UInt16) }.octets ++
        rest := by
  simp only [setMoreFrags, readFlgOff]
  rfl

@[simp] lemma setDontFrag_octets (v : Bool) :
    setDontFrag (h.octets ++ rest) v = { h with
      flgOff := if v then h.flgOff ||| 0x4000 else h.flgOff &&& ~~~ (0x4000 : UInt16) }.octets ++
        rest := by
  simp only [setDontFrag, readFlgOff]
  rfl

@[simp] lemma setFragOffset_octets (v : UInt16) :
    setFragOffset (h.octets ++ rest) v = { h with
      flgOff := (h.flgOff &&& (0xe000 : UInt16)) ||| (v >>> 3) }.octets ++ rest := by
  simp only [setFragOffset, readFlgOff]
  rfl

@[simp] lemma clearFlags_octets :
    clearFlags (h.octets ++ rest) = { h with
      flgOff := h.flgOff &&& ~~~ (0xe000 : UInt16) }.octets ++ rest := by
  simp only [clearFlags, readFlgOff]
  rfl

end Header

/-! ### Emission -/

/-- The header of 20 octets that version 4 packets without options have. -/
structure Header.Plain (h : Header) : Prop where
  verIhl : h.verIhl = 0x45

section Plain

variable {h : Header}

lemma Header.Plain.headerLen (hp : h.Plain) (rest : List UInt8) :
    headerLen (h.octets ++ rest) = 20 := by
  change ((h.verIhl &&& 0x0f) * 4).toNat = 20
  rw [hp.verIhl]
  rfl

/-- The checksum that is filled in. -/
def Header.sum (h : Header) : UInt16 := ~~~ (Checksum.data { h with checksum := 0 }.octets)

lemma Header.Plain.fillChecksum (hp : h.Plain) (rest : List UInt8) :
    fillChecksum (h.octets ++ rest) = { h with checksum := h.sum }.octets ++ rest := by
  have hzero : ({ h with checksum := 0 } : Header).Plain := ⟨hp.verIhl⟩
  have hlen := hzero.headerLen rest
  have htake : ({ h with checksum := 0 }.octets ++ rest).take 20 =
      { h with checksum := 0 }.octets := List.take_left' rfl
  simp only [Ipv4.fillChecksum, Header.setChecksum_octets, hlen, htake]
  rfl

lemma Header.accumulate_checksum (h : Header) (v : UInt16) :
    Checksum.accumulate { h with checksum := v }.octets =
      Checksum.accumulate { h with checksum := 0 }.octets + v.toNat := by
  simp only [Header.octets, ofU16, ofU32, List.cons_append, List.nil_append, Checksum.accumulate,
    toU16_ofNat]
  have hzero : (0 : UInt16).toNat = 0 := rfl
  omega

lemma Header.Plain.accumulate_pos (hp : h.Plain) : 0 < Checksum.accumulate h.octets := by
  simp only [Header.octets, List.cons_append, List.nil_append, Checksum.accumulate, hp.verIhl]
  have hword : 0 < (toU16 0x45 h.dscpEcn).toNat := by
    have := h.dscpEcn.toNat_lt
    simp only [toU16, UInt16.toNat_ofNat', UInt8.toNat_ofNat]
    omega
  omega

lemma Header.accumulate_lt (h : Header) : Checksum.accumulate h.octets < 2 ^ 31 := by
  have hword : ∀ a b : UInt8, (toU16 a b).toNat < 2 ^ 16 := fun a b => (toU16 a b).toNat_lt
  simp only [Header.octets, ofU16, ofU32, List.cons_append, List.nil_append, Checksum.accumulate]
  grind

lemma Header.Plain.verifyChecksum (hp : h.Plain) (rest : List UInt8) :
    verifyChecksum ({ h with checksum := h.sum }.octets ++ rest) := by
  have hplain : ({ h with checksum := h.sum } : Header).Plain := ⟨hp.verIhl⟩
  have htake : ({ h with checksum := h.sum }.octets ++ rest).take 20 =
      { h with checksum := h.sum }.octets := List.take_left' rfl
  unfold Ipv4.verifyChecksum
  rw [hplain.headerLen rest, htake]
  have hpos := Header.Plain.accumulate_pos (h := { h with checksum := 0 }) ⟨hp.verIhl⟩
  have hlt := Header.accumulate_lt { h with checksum := 0 }
  have hlt' := Header.accumulate_lt { h with checksum := h.sum }
  rw [Checksum.data, Nat.mod_eq_of_lt (by omega), Header.accumulate_checksum, Header.sum,
    Checksum.data, Nat.mod_eq_of_lt (by omega)]
  exact Checksum.propagateCarries_complement hpos hlt

end Plain

/-- The header that is emitted for a representation. -/
def Repr.header (repr : Repr) : Header where
  verIhl := 0x45
  dscpEcn := 0
  length := 20 + .ofNat repr.payloadLen
  ident := 0
  flgOff := 0x4000
  ttl := repr.hopLimit
  protocol := repr.nextHeader.toByte
  checksum := 0
  srcAddr := repr.srcAddr
  dstAddr := repr.dstAddr

lemma versionOctet (x : UInt8) : ((((x &&& ~~~ (0xf0 : UInt8)) ||| ((4 : UInt8) <<< 4)) &&&
    ~~~ (0x0f : UInt8)) ||| (((20 : UInt8) / 4) &&& 0x0f)) = 0x45 := by
  have hbits : ∀ x : BitVec 8, (((x &&& ~~~ 0xf0#8) ||| (4#8 <<< 4)) &&& ~~~ 0x0f#8) ||| 0x05#8 =
      0x45#8 := by decide
  exact UInt8.eq_of_toBitVec_eq (hbits x.toBitVec)

lemma dscpOctet (x : UInt8) : ((((x &&& ~~~ (0xfc : UInt8)) ||| ((0 : UInt8) <<< 2)) &&&
    ~~~ (0x03 : UInt8)) ||| ((0 : UInt8) &&& 0x03)) = 0 := by
  have hbits : ∀ x : BitVec 8, (((x &&& ~~~ 0xfc#8) ||| (0#8 <<< 2)) &&& ~~~ 0x03#8) ||| 0x00#8 =
      0x00#8 := by decide
  exact UInt8.eq_of_toBitVec_eq (hbits x.toBitVec)

lemma flagsWord (x : UInt16) : ((((x &&& ~~~ (0xe000 : UInt16)) &&& ~~~ (0x2000 : UInt16)) |||
    (0x4000 : UInt16)) &&& (0xe000 : UInt16)) ||| ((0 : UInt16) >>> 3) = 0x4000 := by
  apply UInt16.eq_of_toBitVec_eq
  ext i hi
  simp
  interval_cases i <;> simp

/-- What is emitted does not depend on what was in the buffer. -/
lemma Repr.emit_eq (tx : Bool) (repr : Repr) (h : Header) (rest : List UInt8) :
    repr.emit tx (h.octets ++ rest) = { repr.header with
      checksum := if tx then repr.header.sum else 0 }.octets ++ rest := by
  have hplain : repr.header.Plain := ⟨rfl⟩
  have hfields : repr.emit tx (h.octets ++ rest) =
      if tx then fillChecksum ({ repr.header with checksum := h.checksum }.octets ++ rest)
      else setChecksum ({ repr.header with checksum := h.checksum }.octets ++ rest) 0 := by
    have hlen : headerLen ({ h with verIhl := 0x45, dscpEcn := 0 }.octets ++ rest) = 20 :=
      Header.Plain.headerLen ⟨rfl⟩ rest
    simp only [Repr.emit, Header.setVersion_octets, Header.setHeaderLen_octets, versionOctet,
      Header.setDscp_octets, Header.setEcn_octets, dscpOctet, hlen]
    simp only [Header.setTotalLen_octets, Header.setIdent_octets, Header.clearFlags_octets,
      Header.setMoreFrags_octets, Header.setDontFrag_octets, Header.setFragOffset_octets,
      Bool.false_eq_true, if_false, if_true, flagsWord, Header.setHopLimit_octets,
      Header.setNextHeader_octets, Header.setSrcAddr_octets, Header.setDstAddr_octets]
    rfl
  rw [hfields]
  cases tx with
  | true => exact Header.Plain.fillChecksum (h := { repr.header with checksum := _ }) ⟨rfl⟩ rest
  | false => rfl

/-! ### Fragments -/

/-- The word of flags and offset in the header of a fragment. -/
def fragWord (mf : Bool) (off : UInt16) : UInt16 :=
  (if mf then (0x2000 : UInt16) else 0) ||| (off >>> 3)

lemma toNat_fragWord (mf : Bool) (off : UInt16) :
    (fragWord mf off).toNat = (if mf then 8192 else 0) + off.toNat / 8 := by
  have hlt := off.toNat_lt
  have hshift : (off >>> 3).toNat = off.toNat / 8 := by
    simp [UInt16.toNat_shiftRight, Nat.shiftRight_eq_div_pow]
  unfold fragWord
  rw [UInt16.toNat_or, hshift]
  cases mf with
  | false => simp
  | true =>
    have hor := Nat.two_pow_add_eq_or_of_lt (show off.toNat / 8 < 2 ^ 13 by omega) 1
    simpa using hor.symm

/-- An offset comes back without what its units of 8 octets do not hold. -/
lemma toNat_fragWord_shiftLeft (mf : Bool) (off : UInt16) :
    (fragWord mf off <<< 3).toNat = off.toNat - off.toNat % 8 := by
  have hlt := off.toNat_lt
  rw [UInt16.toNat_shiftLeft, toNat_fragWord]
  cases mf with
  | false =>
    simp [Nat.shiftLeft_eq]
    omega
  | true =>
    simp [Nat.shiftLeft_eq]
    omega

lemma fragWord_and_ne_zero (mf : Bool) (off : UInt16) :
    fragWord mf off &&& 0x2000 ≠ 0 ↔ mf = true := by
  have hlt := off.toNat_lt
  have hnat : (fragWord mf off &&& 0x2000).toNat = if mf then 8192 else 0 := by
    rw [UInt16.toNat_and, toNat_fragWord, show (0x2000 : UInt16).toNat = 2 ^ 13 from rfl,
      Nat.and_two_pow]
    cases mf with
    | false =>
      have hbit : (off.toNat / 8).testBit 13 = false := Nat.testBit_lt_two_pow (by omega)
      simp [hbit]
    | true =>
      have hbit : (8192 + off.toNat / 8).testBit 13 = true := by
        rw [Nat.testBit_eq_decide_div_mod_eq]
        simp
        omega
      simp [hbit]
  rw [Ne, ← UInt16.toNat_inj, hnat]
  cases mf <;> simp

/-- Turn an emitted header into that of a fragment. -/
def setFragment (tx : Bool) (ident : UInt16) (mf : Bool) (off : UInt16) (buf : List UInt8) :
    List UInt8 :=
  let buf := setIdent buf ident
  let buf := setMoreFrags buf mf
  let buf := setDontFrag buf false
  let buf := setFragOffset buf off
  if tx then fillChecksum buf else buf

/-- The header of a fragment. -/
def Repr.fragment (tx : Bool) (repr : Repr) (ident : UInt16) (mf : Bool) (off : UInt16) : Header :=
  let h := { repr.header with ident, flgOff := fragWord mf off }
  { h with checksum := if tx then h.sum else 0 }

lemma Repr.setFragment_emit (tx : Bool) (repr : Repr) (ident : UInt16) (mf : Bool) (off : UInt16)
    {buf : List UInt8} (hlen : 20 ≤ buf.length) :
    setFragment tx ident mf off (repr.emit tx buf) =
      (repr.fragment tx ident mf off).octets ++ buf.drop 20 := by
  obtain ⟨h, hbuf⟩ := Header.exists_octets hlen
  have hword : (((if mf then (0x4000 : UInt16) ||| 0x2000 else 0x4000 &&& ~~~ (0x2000 : UInt16)) &&&
      ~~~ (0x4000 : UInt16)) &&& (0xe000 : UInt16)) ||| (off >>> 3) = fragWord mf off := by
    cases mf <;> rfl
  generalize buf.drop 20 = rest at hbuf
  rw [hbuf, Repr.emit_eq]
  simp only [setFragment, Header.setIdent_octets, Header.setMoreFrags_octets,
    Header.setDontFrag_octets, Header.setFragOffset_octets, Bool.false_eq_true, if_false]
  have hflags : ∀ c : UInt16, ({ repr.header with
      ident := ident
      flgOff := (((if mf then repr.header.flgOff ||| 0x2000
        else repr.header.flgOff &&& ~~~ (0x2000 : UInt16)) &&& ~~~ (0x4000 : UInt16)) &&&
          (0xe000 : UInt16)) ||| (off >>> 3)
      checksum := c } : Header) =
      { repr.header with ident := ident, flgOff := fragWord mf off, checksum := c } := by
    intro c
    rw [← hword]
    rfl
  rw [hflags]
  cases tx with
  | true =>
    exact Header.Plain.fillChecksum
      (h := { repr.header with ident := ident, flgOff := fragWord mf off, checksum := _ })
      ⟨rfl⟩ rest
  | false => simp [Repr.fragment]

/-- What a receiver reads from a fragment. -/
structure Reads (buf : List UInt8) (repr : Repr) (ident : UInt16) (mf : Bool) (off : ℕ)
    (data : List UInt8) : Prop where
  key : getKey buf = ⟨ident, repr.srcAddr, repr.dstAddr, .ofByte repr.nextHeader.toByte⟩
  totalLen : (totalLen buf).toNat = 20 + data.length
  headerLen : headerLen buf = 20
  moreFrags : moreFrags buf ↔ mf = true
  fragOffset : (fragOffset buf).toNat = off - off % 8
  payload : payload buf = data

lemma Repr.reads_fragment (tx : Bool) (repr : Repr) (ident : UInt16) (mf : Bool) (off : UInt16)
    {data : List UInt8} (hdata : data.length = repr.payloadLen) (hlen : 20 + data.length < 2 ^ 16) :
    Reads ((repr.fragment tx ident mf off).octets ++ data) repr ident mf off.toNat data := by
  have hplain : (repr.fragment tx ident mf off).Plain := ⟨rfl⟩
  have hheader := hplain.headerLen data
  have htotal : (Ipv4.totalLen ((repr.fragment tx ident mf off).octets ++ data)).toNat =
      20 + data.length := by
    rw [Ipv4.totalLen, Header.readLength]
    change ((20 : UInt16) + .ofNat repr.payloadLen).toNat = _
    rw [UInt16.toNat_add, UInt16.toNat_ofNat', ← hdata]
    change (20 + _) % _ = _
    omega
  have hword := Header.readFlgOff (repr.fragment tx ident mf off) data
  refine ⟨?_, htotal, hheader, ?_, ?_, ?_⟩
  · have hident := Header.readIdent (repr.fragment tx ident mf off) data
    have hsrc : Ipv4.srcAddr ((repr.fragment tx ident mf off).octets ++ data) = repr.srcAddr :=
      toU32_ofNat _
    have hdst : Ipv4.dstAddr ((repr.fragment tx ident mf off).octets ++ data) = repr.dstAddr :=
      toU32_ofNat _
    simp only [getKey, Ipv4.ident, hident, hsrc, hdst]
    rfl
  · rw [Ipv4.moreFrags, hword]
    exact fragWord_and_ne_zero mf off
  · rw [Ipv4.fragOffset, hword]
    exact toNat_fragWord_shiftLeft mf off
  · have htake : ((repr.fragment tx ident mf off).octets ++ data).take (20 + data.length) =
        (repr.fragment tx ident mf off).octets ++ data := List.take_of_length_le (by simp)
    rw [Ipv4.payload, hheader, htotal, htake]
    exact List.drop_left' rfl

/-- A receiver that verifies no more than was filled in accepts a fragment. -/
lemma Repr.parse_fragment {tx rx : Bool} (hck : rx = true → tx = true) (repr : Repr)
    (ident : UInt16) (mf : Bool) (off : UInt16) {data : List UInt8}
    (hdata : data.length = repr.payloadLen) (hlen : 20 + data.length < 2 ^ 16) :
    ∃ r, Repr.parse rx ((repr.fragment tx ident mf off).octets ++ data) = .ok r := by
  have hreads := repr.reads_fragment tx ident mf off hdata hlen
  have hcheck : checkLen ((repr.fragment tx ident mf off).octets ++ data) = .ok () := by
    have hlength : ((repr.fragment tx ident mf off).octets ++ data).length = 20 + data.length := by
      simp
    unfold checkLen
    rw [hreads.headerLen, hreads.totalLen, hlength, if_neg (by omega), if_neg (by omega),
      if_neg (by omega), if_neg (by omega)]
  have hver : version ((repr.fragment tx ident mf off).octets ++ data) = 4 := by
    change (0x45 : UInt8) >>> 4 = 4
    decide
  have hsum : ¬ (rx = true ∧
    ¬ verifyChecksum ((repr.fragment tx ident mf off).octets ++ data)) := by
    rintro ⟨hrx, hbad⟩
    refine hbad ?_
    have htx := hck hrx
    subst htx
    exact Header.Plain.verifyChecksum
      (h := { repr.header with ident := ident, flgOff := fragWord mf off }) ⟨rfl⟩ data
  unfold Repr.parse
  rw [hcheck]
  simp only [hver, hsum]
  exact ⟨_, rfl⟩

end Ipv4

end Smoltcp
