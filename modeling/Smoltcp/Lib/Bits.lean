import Smoltcp.Lib.Octets

/-!
# Fields of an octet

A field of some bits of an octet, given by a shift and a mask, is read and set without touching the
other bits.
-/

namespace Octets

/-- `(octet >> shift) & mask`. -/
def field (octet shift mask : UInt8) : UInt8 := (octet >>> shift) &&& mask

/-- A bit of an octet is set. -/
def flag (octet shift : UInt8) : Bool := field octet shift 0b1 = 0b1

/-- `(octet & !(mask << shift)) | (value << shift)`. -/
def withField (octet shift mask value : UInt8) : UInt8 :=
  (octet &&& ~~~(mask <<< shift)) ||| (value <<< shift)

def ofBool (value : Bool) : UInt8 := if value then 0b1 else 0b0

/-- A statement about every octet is checked on the octets one by one. -/
lemma forall_of_lt {P : UInt8 → Prop} (h : ∀ n < 256, P (.ofNat n)) (octet : UInt8) : P octet := by
  have := h octet.toNat octet.toNat_lt
  rwa [UInt8.ofNat_toNat] at this

lemma or_and_distrib (a b c : UInt8) : (a ||| b) &&& c = (a &&& c) ||| (b &&& c) := by
  apply UInt8.toBitVec_inj.mp
  exact BitVec.and_or_distrib_right

/-- What is read of an octet after a field of it was set. -/
lemma field_withField (octet shift mask value shift' mask' : UInt8) :
    field (withField octet shift mask value) shift' mask' =
      (octet >>> shift' &&& ((~~~(mask <<< shift)) >>> shift' &&& mask')) |||
        field (value <<< shift) shift' mask' := by
  rw [field, withField, UInt8.shiftRight_or, UInt8.shiftRight_and, or_and_distrib,
    UInt8.and_assoc, field]

/-- Nothing is left of what the field held before. -/
lemma field_withField_self {shift mask : UInt8} (h : (~~~(mask <<< shift)) >>> shift &&& mask = 0)
    (octet value : UInt8) :
    field (withField octet shift mask value) shift mask = field (value <<< shift) shift mask := by
  rw [field_withField, h, UInt8.and_zero, UInt8.zero_or]

/-- Another field is as it was before. -/
lemma field_withField_of_disjoint {shift mask value shift' mask' : UInt8}
    (h : (~~~(mask <<< shift)) >>> shift' &&& mask' = mask')
    (hvalue : field (value <<< shift) shift' mask' = 0) (octet : UInt8) :
    field (withField octet shift mask value) shift' mask' = field octet shift' mask' := by
  rw [field_withField, h, hvalue, UInt8.or_zero, field]

/-- Of a flag that is set, and of the flag next to it. -/
lemma flag_withField_six (value : Bool) (octet : UInt8) :
    flag (withField octet 6 0b1 (ofBool value)) 6 = value ∧
      flag (withField octet 6 0b1 (ofBool value)) 7 = flag octet 7 := by
  have hall : flag (ofBool value <<< 6) 6 = value ∧ field (ofBool value <<< 6) 7 0b1 = 0 := by
    cases value <;> decide
  constructor
  · rw [flag, field_withField_self rfl octet]
    exact hall.1
  · rw [flag, field_withField_of_disjoint rfl hall.2 octet, flag]

lemma flag_withField_seven (value : Bool) (octet : UInt8) :
    flag (withField octet 7 0b1 (ofBool value)) 7 = value ∧
      flag (withField octet 7 0b1 (ofBool value)) 6 = flag octet 6 := by
  have hall : flag (ofBool value <<< 7) 7 = value ∧ field (ofBool value <<< 7) 6 0b1 = 0 := by
    cases value <;> decide
  constructor
  · rw [flag, field_withField_self rfl octet]
    exact hall.1
  · rw [flag, field_withField_of_disjoint rfl hall.2 octet, flag]

/-- Of fields of three bits, and of what is above them. -/
lemma field_withField_three (octet : UInt8) {value : UInt8} (h : value < 8) :
    field (withField octet 3 0b111 value) 3 0b111 = value ∧
      flag (withField octet 3 0b111 value) 7 = flag octet 7 := by
  have hall : ∀ m < 8, field (UInt8.ofNat m <<< 3) 3 0b111 = .ofNat m ∧
      field (UInt8.ofNat m <<< 3) 7 0b1 = 0 := by
    decide
  obtain ⟨hvalue, hflag⟩ := hall value.toNat (UInt8.lt_iff_toNat_lt.mp h)
  rw [UInt8.ofNat_toNat] at hvalue hflag
  refine ⟨(field_withField_self rfl octet value).trans hvalue, ?_⟩
  rw [flag, field_withField_of_disjoint rfl hflag octet, flag]

lemma field_withField_zero (octet : UInt8) {value : UInt8} (h : value < 8) :
    field (withField octet 0 0b111 value) 0 0b111 = value ∧
      field (withField octet 0 0b111 value) 3 0b111 = field octet 3 0b111 ∧
      flag (withField octet 0 0b111 value) 7 = flag octet 7 := by
  have hall : ∀ m < 8, field (UInt8.ofNat m <<< 0) 0 0b111 = .ofNat m ∧
      field (UInt8.ofNat m <<< 0) 3 0b111 = 0 ∧ field (UInt8.ofNat m <<< 0) 7 0b1 = 0 := by
    decide
  obtain ⟨hvalue, hthree, hflag⟩ := hall value.toNat (UInt8.lt_iff_toNat_lt.mp h)
  rw [UInt8.ofNat_toNat] at hvalue hthree hflag
  refine ⟨(field_withField_self rfl octet value).trans hvalue,
    field_withField_of_disjoint rfl hthree octet, ?_⟩
  rw [flag, field_withField_of_disjoint rfl hflag octet, flag]

/-! ### Words -/

lemma or_and_distrib_word (a b c : UInt16) : (a ||| b) &&& c = (a &&& c) ||| (b &&& c) := by
  apply UInt16.toBitVec_inj.mp
  exact BitVec.and_or_distrib_right

/-- Some bits of a word are kept, and others are set. -/
def masked (keep bits word : UInt16) : UInt16 := (word &&& keep) ||| bits

lemma masked_masked (keep keep' bits bits' word : UInt16) :
    masked keep' bits' (masked keep bits word) =
      masked (keep &&& keep') ((bits &&& keep') ||| bits') word := by
  rw [masked, masked, masked, or_and_distrib_word, UInt16.and_assoc, UInt16.or_assoc]

/-- A field none of whose bits is kept is that of the bits that are set. -/
lemma field_masked {keep shift mask : UInt16} (h : (keep >>> shift) &&& mask = 0)
    (bits word : UInt16) :
    (masked keep bits word >>> shift) &&& mask = (bits >>> shift) &&& mask := by
  rw [masked, UInt16.shiftRight_or, UInt16.shiftRight_and, or_and_distrib_word, UInt16.and_assoc, h,
    UInt16.and_zero, UInt16.zero_or]

/-- What was kept is found again where nothing was set. -/
lemma masked_and {keep bits : UInt16} (h : bits &&& keep = 0) (word : UInt16) :
    masked keep bits word &&& keep = word &&& keep := by
  rw [masked, or_and_distrib_word, h, UInt16.or_zero, UInt16.and_assoc, UInt16.and_self]

lemma masked_of_clear {keep bits word : UInt16} (h : word &&& keep = 0) :
    masked keep bits word = bits := by
  rw [masked, h, UInt16.zero_or]

end Octets
