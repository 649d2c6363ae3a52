import Smoltcp.Lib.Bits
import Smoltcp.Wire.Icmpv6.Control
import Smoltcp.Wire.Icmpv6.NdiscRoundTrip

/-!
# Messages for routing over lossy networks

Which messages the length check accepts, and what is read of the ones that are emitted. An
advertisement has the flag for its identifier in bit 6 of an octet and the acknowledgement of it in
bit 7, and the check reads bit 6 of both.
-/

namespace Smoltcp

open Octets (ofU16)
open Outcome

/-- `set!(buffer, value, field: i, shift: shift, mask: mask)`. -/
def Outcome.setField (buf : List UInt8) (i : ℕ) (shift mask value : UInt8) :
    Outcome (List UInt8) := do
  write buf i [Octets.withField (← index buf i) shift mask value]

/-! ### Emitting -/

namespace Rpl.InstanceId

/-- Return the real part of the ID. -/
def id : InstanceId → UInt8
  | .global value => value
  | .local value => value

def toByte : InstanceId → UInt8
  | .global value => 0b0000_0000 ||| value
  | .local value => 0b1000_0000 ||| value

end Rpl.InstanceId

namespace Rpl.ModeOfOperation

def toByte : ModeOfOperation → UInt8
  | .noDownwardRoutesMaintained => 0x00
  | .nonStoringMode => 0x01
  | .storingModeWithoutMulticast => 0x02
  | .storingModeWithMulticast => 0x03
  | .unknown value => value

/-- An unknown mode is none of those with a name. -/
def IsCanonical (mode : ModeOfOperation) : Prop := .ofByte mode.toByte = mode

end Rpl.ModeOfOperation

namespace RplRepr

open Icmpv6 Icmpv6Packet

section Accessors

variable (buf : List UInt8)

def dioDodagId : Outcome Ipv6.Address := addressAt buf 12

def daoDodagId : Outcome (Option Ipv6.Address) := do dodagId buf (← daoDodagIdPresent buf)

def daoAckDodagId : Outcome (Option Ipv6.Address) := do dodagId buf (← daoAckDodagIdPresent buf)

/-- Where the options start. -/
def optionsStart : Outcome ℕ := do
  match RplControlMessage.ofByte (← msgCode buf) with
  | .dodagInformationSolicitation => return 6
  | .dodagInformationObject => return 28
  | .destinationAdvertisementObject => return if ← daoDodagIdPresent buf then 24 else 8
  | .destinationAdvertisementObjectAck => return if ← daoAckDodagIdPresent buf then 24 else 8
  | .secure _ | .unknown _ => .error (.panic .unreachable)

/-- `packet.options_mut().copy_from_slice(options)`. -/
def copyOptions (options : List UInt8) : Outcome (List UInt8) := do
  copyAt buf (← optionsStart buf) buf.length options

/-- Set the DODAG ID, and the flag that it is present. -/
def setDodagId (shift : UInt8) : Option Ipv6.Address → Outcome (List UInt8)
  | some address => do
    let buf ← write buf 8 (Ipv6.octets address)
    setField buf 5 shift 0b1 (Octets.ofBool true)
  | none => setField buf 5 shift 0b1 (Octets.ofBool false)

def setDaoDodagId : Option Ipv6.Address → Outcome (List UInt8) := setDodagId buf 6

def setDaoAckDodagId : Option Ipv6.Address → Outcome (List UInt8) := setDodagId buf 7

end Accessors

/-- Emit a message into a buffer of its length. -/
def emit (repr : RplRepr) (buf : List UInt8) : Outcome (List UInt8) := do
  let buf ← setMsgType buf .rplControl
  match repr with
  | .dodagInformationSolicitation options => do
    let buf ← setMsgCode buf 0x00
    let buf ← write buf 4 [0]
    let buf ← write buf 5 [0]
    copyOptions buf options
  | .dodagInformationObject rplInstanceId versionNumber rank grounded modeOfOperation
      dodagPreference dtsn dodagId options => do
    let buf ← setMsgCode buf 0x01
    let buf ← write buf 4 [rplInstanceId.toByte]
    let buf ← write buf 5 [versionNumber]
    let buf ← write buf 6 (ofU16 rank)
    let buf ← setField buf 8 7 0b1 (Octets.ofBool grounded)
    let buf ← setField buf 8 3 0b111 modeOfOperation.toByte
    let buf ← setField buf 8 0 0b111 dodagPreference
    let buf ← write buf 9 [dtsn]
    let buf ← write buf 12 (Ipv6.octets dodagId)
    copyOptions buf options
  | .destinationAdvertisementObject rplInstanceId expectAck sequence dodagId options => do
    let buf ← setMsgCode buf 0x02
    let buf ← write buf 4 [rplInstanceId.toByte]
    let buf ← setField buf 5 7 0b1 (Octets.ofBool expectAck)
    let buf ← write buf 7 [sequence]
    let buf ← setDaoDodagId buf dodagId
    copyOptions buf options
  | .destinationAdvertisementObjectAck rplInstanceId sequence status dodagId => do
    let buf ← setMsgCode buf 0x03
    let buf ← write buf 4 [rplInstanceId.toByte]
    let buf ← write buf 6 [sequence]
    let buf ← write buf 7 [status]
    let buf ← setDaoAckDodagId buf dodagId
    copyOptions buf []

end RplRepr

lemma Rpl.InstanceId.ofByte_toByte_iff (rplInstanceId : InstanceId) :
    ofByte rplInstanceId.toByte = rplInstanceId ↔ rplInstanceId.id < 128 := by
  cases rplInstanceId with
  | global value =>
    revert value
    exact Octets.forall_of_lt (by decide +kernel)
  | «local» value =>
    revert value
    exact Octets.forall_of_lt (by decide +kernel)

namespace RplRepr

open Icmpv6 Icmpv6Packet

variable {buf : List UInt8}

lemma bit_of {i : ℕ} (shift : UInt8) (h : i < buf.length) :
    bit buf i shift = .ok (Octets.flag (Octets.get buf i) shift) := by
  rw [bit, index_get h]
  rfl

/-! ### What the check accepts -/

/-- The octets of the object that the code of a message announces. -/
def Announced (buf : List UInt8) : Prop :=
  match RplControlMessage.ofByte (Octets.get buf 1) with
  | .dodagInformationSolicitation => 6 ≤ buf.length
  | .dodagInformationObject => 28 ≤ buf.length
  | .destinationAdvertisementObject =>
    8 ≤ buf.length ∧ (Octets.flag (Octets.get buf 5) 6 → 24 ≤ buf.length)
  | .destinationAdvertisementObjectAck =>
    8 ≤ buf.length ∧ (Octets.flag (Octets.get buf 5) 7 → 24 ≤ buf.length)
  | .secure _ | .unknown _ => False

/-- What the check asks for instead. -/
def Accepted (buf : List UInt8) : Prop :=
  match RplControlMessage.ofByte (Octets.get buf 1) with
  | .dodagInformationSolicitation => 6 ≤ buf.length
  | .dodagInformationObject => 28 ≤ buf.length
  | .destinationAdvertisementObject | .destinationAdvertisementObjectAck =>
    8 ≤ buf.length ∧ (Octets.flag (Octets.get buf 5) 6 → 24 ≤ buf.length)
  | .secure _ | .unknown _ => False

/-- No accessor of the message panics. -/
def AccessorsSafe (buf : List UInt8) : Prop :=
  Safe (options buf) (fun _ => True) ∧
    match RplControlMessage.ofByte (Octets.get buf 1) with
    | .dodagInformationObject => Safe (dioDodagId buf) fun _ => True
    | .destinationAdvertisementObject => Safe (daoDodagId buf) fun _ => True
    | .destinationAdvertisementObjectAck => Safe (daoAckDodagId buf) fun _ => True
    | _ => True

/-- The check accepts the message if it holds what its code announces, and then the message can be
read. -/
structure Exact (buf : List UInt8) : Prop where
  accepts_iff : checkLen buf = .ok () ↔ Announced buf
  accessors : checkLen buf = .ok () → AccessorsSafe buf
  parse : checkLen buf = .ok () → ∃ repr, parse buf = .ok repr

/-- An acknowledgement too short for an identifier, whose bits 6 and 7 of the flags differ. -/
def Misread (buf : List UInt8) : Prop :=
  RplControlMessage.ofByte (Octets.get buf 1) = .destinationAdvertisementObjectAck ∧
    8 ≤ buf.length ∧ buf.length < 24 ∧
    Octets.flag (Octets.get buf 5) 6 ≠ Octets.flag (Octets.get buf 5) 7

lemma checkLen_eq_ok (htype : Message.ofByte (Octets.get buf 0) = .rplControl) :
    checkLen buf = .ok () ↔ Accepted buf := by
  by_cases h4 : buf.length < 4
  · rw [checkLen, reject_of h4, fail_bind]
    refine iff_of_false fail_ne_ok fun h => ?_
    unfold Accepted at h
    split at h
    · omega
    · omega
    · omega
    · omega
    · exact h
    · exact h
  · have hcode : msgCode buf = .ok (Octets.get buf 1) := index_get (by omega)
    have hmsg : msgType buf = .ok .rplControl := by
      rw [msgType, index_get (by omega), ok_bind, htype]
      rfl
    rw [checkLen, reject_of_not h4, ok_bind, hmsg, ok_bind]
    dsimp only
    rw [hcode, ok_bind, Accepted]
    have hdao : (if buf.length < 8 then (fail : Outcome Unit)
        else do
          let present ← daoDodagIdPresent buf
          reject (present ∧ buf.length < 24)) = .ok () ↔
        8 ≤ buf.length ∧ (Octets.flag (Octets.get buf 5) 6 → 24 ≤ buf.length) := by
      by_cases h8 : buf.length < 8
      · rw [if_pos h8]
        exact iff_of_false fail_ne_ok fun h => by omega
      · rw [if_neg h8, daoDodagIdPresent, bit_of 6 (by omega), ok_bind, reject_eq_ok]
        simp only [not_and, not_lt]
        exact (and_iff_right (not_lt.mp h8)).symm
    cases RplControlMessage.ofByte (Octets.get buf 1) with
    | dodagInformationSolicitation => exact reject_eq_ok.trans not_lt
    | dodagInformationObject => exact reject_eq_ok.trans not_lt
    | destinationAdvertisementObject => exact hdao
    | destinationAdvertisementObjectAck => exact hdao
    | secure value => exact iff_of_false fail_ne_ok id
    | unknown value => exact iff_of_false fail_ne_ok id

/-- The check asks for something else only of the acknowledgements that it misreads. -/
lemma accepted_iff_announced : (Accepted buf ↔ Announced buf) ↔ ¬ Misread buf := by
  unfold Accepted Announced Misread
  cases RplControlMessage.ofByte (Octets.get buf 1) with
  | destinationAdvertisementObjectAck =>
    dsimp only
    cases Octets.flag (Octets.get buf 5) 6 <;> cases Octets.flag (Octets.get buf 5) 7 <;> simp
  | _ => simp

/-! ### What is read of an accepted message -/

lemma exists_optionsBehind {present : Bool} (h8 : 8 ≤ buf.length)
    (h24 : present → 24 ≤ buf.length) : ∃ options, optionsBehind buf present = .ok options := by
  cases present with
  | true =>
    have h24 := h24 rfl
    refine ⟨buf.drop 24, ?_⟩
    rw [optionsBehind, if_pos rfl, reject_of_not (not_lt.mpr h24), ok_bind, sliceFrom_of h24]
  | false =>
    refine ⟨buf.drop 8, ?_⟩
    rw [optionsBehind, if_neg (by decide), reject_of_not (not_lt.mpr h8), ok_bind, sliceFrom_of h8]

lemma exists_dodagId {present : Bool} (h24 : present → 24 ≤ buf.length) :
    ∃ address, dodagId buf present = .ok address := by
  cases present with
  | true =>
    exact ⟨_, by rw [dodagId, if_pos rfl, addressAt_of (h24 rfl)]; rfl⟩
  | false => exact ⟨none, rfl⟩

lemma msgCode_of (h : 6 ≤ buf.length) : msgCode buf = .ok (Octets.get buf 1) := index_get (by omega)

lemma Announced.length_ge (h : Announced buf) : 6 ≤ buf.length := by
  unfold Announced at h
  split at h
  · exact h
  · exact le_trans (by decide) h
  · exact le_trans (by decide) h.1
  · exact le_trans (by decide) h.1
  · exact h.elim
  · exact h.elim

lemma Announced.exists_options (h : Announced buf) : ∃ o, options buf = .ok o := by
  have h6 := h.length_ge
  unfold Announced at h
  rw [options, msgCode_of h6, ok_bind]
  cases hcode : RplControlMessage.ofByte (Octets.get buf 1) with
  | dodagInformationSolicitation =>
    rw [reject_of_not (not_lt.mpr h6), ok_bind, sliceFrom_of h6]
    exact ⟨_, rfl⟩
  | dodagInformationObject =>
    rw [hcode] at h
    rw [reject_of_not (not_lt.mpr h), ok_bind, sliceFrom_of h]
    exact ⟨_, rfl⟩
  | destinationAdvertisementObject =>
    rw [hcode] at h
    rw [daoDodagIdPresent, bit_of 6 (by omega), ok_bind]
    exact exists_optionsBehind h.1 h.2
  | destinationAdvertisementObjectAck =>
    rw [hcode] at h
    rw [daoAckDodagIdPresent, bit_of 7 (by omega), ok_bind]
    exact exists_optionsBehind h.1 h.2
  | secure value =>
    rw [hcode] at h
    exact h.elim
  | unknown value =>
    rw [hcode] at h
    exact h.elim

lemma Announced.accessorsSafe (h : Announced buf) : AccessorsSafe buf := by
  have h6 := h.length_ge
  obtain ⟨o, ho⟩ := h.exists_options
  refine ⟨Safe.of_eq ho trivial, ?_⟩
  unfold Announced at h
  cases hcode : RplControlMessage.ofByte (Octets.get buf 1) with
  | dodagInformationObject =>
    rw [hcode] at h
    exact Safe.of_eq (addressAt_of h) trivial
  | destinationAdvertisementObject =>
    rw [hcode] at h
    obtain ⟨address, haddress⟩ := exists_dodagId h.2
    rw [daoDodagId, daoDodagIdPresent, bit_of 6 (by omega), ok_bind]
    exact Safe.of_eq haddress trivial
  | destinationAdvertisementObjectAck =>
    rw [hcode] at h
    obtain ⟨address, haddress⟩ := exists_dodagId h.2
    rw [daoAckDodagId, daoAckDodagIdPresent, bit_of 7 (by omega), ok_bind]
    exact Safe.of_eq haddress trivial
  | _ => trivial

lemma Announced.exists_parse (h : Announced buf) (hcheck : checkLen buf = .ok ()) :
    ∃ repr, parse buf = .ok repr := by
  have h6 := h.length_ge
  obtain ⟨o, ho⟩ := h.exists_options
  unfold Announced at h
  rw [parse, hcheck, ok_bind, ho, ok_bind, msgCode_of h6, ok_bind]
  cases hcode : RplControlMessage.ofByte (Octets.get buf 1) with
  | dodagInformationSolicitation => exact ⟨_, rfl⟩
  | dodagInformationObject =>
    rw [hcode] at h
    dsimp only
    rw [index_get (by omega), ok_bind, index_get (by omega), ok_bind, index_get (by omega),
      ok_bind, readU16_of (by omega), ok_bind, index_get (by omega), ok_bind,
      addressAt_of (by omega), ok_bind]
    exact ⟨_, rfl⟩
  | destinationAdvertisementObject =>
    rw [hcode] at h
    obtain ⟨address, haddress⟩ := exists_dodagId h.2
    dsimp only
    rw [index_get (by omega), ok_bind, bit_of 7 (by omega), ok_bind, index_get (by omega),
      ok_bind, daoDodagIdPresent, bit_of 6 (by omega), ok_bind, haddress, ok_bind]
    exact ⟨_, rfl⟩
  | destinationAdvertisementObjectAck =>
    rw [hcode] at h
    obtain ⟨address, haddress⟩ := exists_dodagId h.2
    dsimp only
    rw [index_get (by omega), ok_bind, index_get (by omega), ok_bind, index_get (by omega),
      ok_bind, daoAckDodagIdPresent, bit_of 7 (by omega), ok_bind, haddress, ok_bind]
    exact ⟨_, rfl⟩
  | secure value =>
    rw [hcode] at h
    exact h.elim
  | unknown value =>
    rw [hcode] at h
    exact h.elim

lemma exact_iff (htype : Message.ofByte (Octets.get buf 0) = .rplControl) :
    Exact buf ↔ ¬ Misread buf := by
  rw [← accepted_iff_announced, ← checkLen_eq_ok htype]
  constructor
  · exact Exact.accepts_iff
  · intro h
    exact ⟨h, fun hcheck => (h.mp hcheck).accessorsSafe,
      fun hcheck => (h.mp hcheck).exists_parse hcheck⟩

/-! ### Emitted messages -/

lemma setField_parts {parts : List (List UInt8)} {rest : List UInt8} {octet : UInt8} {n : ℕ}
    (k : ℕ) (shift mask value : UInt8) (hk : parts[k]? = some [octet])
    (hn : ((parts.map List.length).take k).sum = n) :
    setField (parts.flatten ++ rest) n shift mask value =
      .ok ((parts.set k [Octets.withField octet shift mask value]).flatten ++ rest) := by
  rw [setField, index_parts k hk hn, ok_bind, write_parts k ?_ hn]
  rw [List.getElem?_map, hk]
  rfl

/-- The octets of an identifier that may be present. -/
def dodagOctets : Option Ipv6.Address → List UInt8
  | some address => Ipv6.octets address
  | none => []

lemma length_dodagOctets (dodagId : Option Ipv6.Address) :
    (dodagOctets dodagId).length = if dodagId.isSome then 16 else 0 := by
  cases dodagId with
  | none => rfl
  | some address => exact Ipv6.length_octets address

/-- An advertisement or its acknowledgement, in front of the options. -/
def daoFields (type code k k' instance' flags reserved last : UInt8) (dodag : List UInt8) :
    List (List UInt8) :=
  [[type], [code], [k, k'], [instance'], [flags], [reserved], [last], dodag]

lemma exists_daoFields {old : List UInt8} {n : ℕ} (h : 8 + n ≤ old.length) :
    ∃ (type code k k' instance' flags reserved last : UInt8) (dodag rest : List UInt8),
      dodag.length = n ∧
      old = (daoFields type code k k' instance' flags reserved last dodag).flatten ++ rest := by
  obtain ⟨parts, rest, hsizes, rfl⟩ := List.exists_parts [1, 1, 2, 1, 1, 1, 1, n] (l := old)
    (by simp only [List.sum_cons, List.sum_nil]; omega)
  simp only [List.map_eq_cons_iff, List.map_eq_nil_iff, List.length_eq_one_iff,
    List.length_eq_two] at hsizes
  obtain ⟨_, _, rfl, ⟨type, rfl⟩, _, _, rfl, ⟨code, rfl⟩, _, _, rfl, ⟨k, k', rfl⟩, _, _, rfl,
    ⟨i, rfl⟩, _, _, rfl, ⟨flags, rfl⟩, _, _, rfl, ⟨reserved, rfl⟩, _, _, rfl, ⟨last, rfl⟩, dodag, _,
    rfl, hdodag, rfl⟩ := hsizes
  exact ⟨type, code, k, k', i, flags, reserved, last, dodag, rest, hdodag, rfl⟩

section Dao

variable {type code k k' i flags reserved last : UInt8} {dodag rest : List UInt8}

lemma setDodagId_eq (shift : UInt8) {dodagId : Option Ipv6.Address}
    (hdodag : dodag.length = (dodagOctets dodagId).length) :
    setDodagId ((daoFields type code k k' i flags reserved last dodag).flatten ++ rest) shift
        dodagId =
      .ok ((daoFields type code k k' i
        (Octets.withField flags shift 0b1 (Octets.ofBool dodagId.isSome)) reserved last
        (dodagOctets dodagId)).flatten ++ rest) := by
  cases dodagId with
  | none =>
    obtain rfl := List.eq_nil_of_length_eq_zero hdodag
    exact setField_parts 4 shift 0b1 _ rfl rfl
  | some address =>
    rw [setDodagId, write_parts 7 (by simp [daoFields, hdodag, dodagOctets]) (by rfl), ok_bind]
    exact setField_parts 4 shift 0b1 _ rfl rfl

lemma length_daoFields :
    (daoFields type code k k' i flags reserved last dodag).flatten.length = 8 + dodag.length := by
  simp [daoFields]
  omega

/-- The options are copied behind what is in front of them. -/
lemma copyOptions_eq {l m options : List UInt8} (hstart : optionsStart (l ++ m) = .ok l.length)
    (hm : m.length = options.length) : copyOptions (l ++ m) options = .ok (l ++ options) := by
  have hlen : l.length + options.length = (l ++ m).length := by rw [List.length_append, hm]
  have hwrite := write_append (r := []) rfl hm (l := l)
  rw [List.append_nil, List.append_nil] at hwrite
  rw [copyOptions, hstart, ok_bind, copyAt_eq_write le_rfl hlen]
  exact hwrite

lemma bit_daoFields (shift : UInt8) :
    bit ((daoFields type code k k' i flags reserved last dodag).flatten ++ rest) 5 shift =
      .ok (Octets.flag flags shift) := by
  rw [bit, index_parts 4 (by rfl) (by rfl)]
  rfl

lemma msgCode_daoFields :
    msgCode ((daoFields type code k k' i flags reserved last dodag).flatten ++ rest) = .ok code :=
  index_parts 1 rfl rfl

/-- The options start behind the identifier. -/
lemma optionsStart_daoFields {dodagId : Option Ipv6.Address} {shift : UInt8}
    (hcode : code = 0x02 ∧ shift = 6 ∨ code = 0x03 ∧ shift = 7)
    (hflag : Octets.flag flags shift = dodagId.isSome) :
    optionsStart ((daoFields type code k k' i flags reserved last
        (dodagOctets dodagId)).flatten ++ rest) =
      .ok (daoFields type code k k' i flags reserved last
        (dodagOctets dodagId)).flatten.length := by
  rw [optionsStart, msgCode_daoFields, ok_bind, length_daoFields, length_dodagOctets]
  obtain ⟨rfl, rfl⟩ | ⟨rfl, rfl⟩ := hcode
  · change (do return if ← daoDodagIdPresent _ then 24 else 8) = _
    rw [daoDodagIdPresent, bit_daoFields, ok_bind, hflag]
    cases dodagId <;> rfl
  · change (do return if ← daoAckDodagIdPresent _ then 24 else 8) = _
    rw [daoAckDodagIdPresent, bit_daoFields, ok_bind, hflag]
    cases dodagId <;> rfl

lemma dodagId_daoFields {dodagId : Option Ipv6.Address} :
    RplRepr.dodagId ((daoFields type code k k' i flags reserved last
      (dodagOctets dodagId)).flatten ++ rest) dodagId.isSome = .ok dodagId := by
  cases dodagId with
  | none => rfl
  | some address =>
    rw [RplRepr.dodagId, Option.isSome_some, if_pos rfl, addressAt_parts 7 (by rfl) (by rfl)]
    rfl

/-- An acknowledgement is emitted, with the other bits of its flags left as they were. -/
lemma emit_daoAck {rplInstanceId : Rpl.InstanceId} {sequence status : UInt8}
    {dodagId : Option Ipv6.Address} (hdodag : dodag.length = (dodagOctets dodagId).length) :
    emit (.destinationAdvertisementObjectAck rplInstanceId sequence status dodagId)
        (daoFields type code k k' i flags reserved last dodag).flatten =
      .ok (daoFields 0x9b 0x03 k k' rplInstanceId.toByte
        (Octets.withField flags 7 0b1 (Octets.ofBool dodagId.isSome)) sequence status
        (dodagOctets dodagId)).flatten := by
  have hpresent := (Octets.flag_withField_seven dodagId.isSome flags).1
  rw [← List.append_nil (daoFields type code k k' i flags reserved last dodag).flatten]
  rw [emit, setMsgType, write_parts 0 (by rfl) (by rfl), ok_bind]
  dsimp only
  rw [setMsgCode, write_parts 1 (by rfl) (by rfl), ok_bind,
    write_parts 3 (by rfl) (by rfl), ok_bind, write_parts 5 (by rfl) (by rfl), ok_bind,
    write_parts 6 (by rfl) (by rfl), ok_bind, setDaoAckDodagId]
  refine (congrArg (· >>= fun buf => copyOptions buf []) (setDodagId_eq 7 hdodag)).trans ?_
  rw [ok_bind, copyOptions_eq (optionsStart_daoFields (.inr ⟨rfl, rfl⟩) hpresent) rfl,
    List.append_nil]
  rfl

/-- An acknowledgement is read back if the check accepts it, which depends on bit 6 of its flags. -/
lemma parse_daoAck {dodagId : Option Ipv6.Address} {repr : RplRepr}
    (hflag : Octets.flag flags 7 = dodagId.isSome) :
    parse (daoFields 0x9b 0x03 k k' i flags reserved last (dodagOctets dodagId)).flatten =
        .ok repr ↔
      (dodagId.isSome ∨ Octets.flag flags 6 = false) ∧
        repr = .destinationAdvertisementObjectAck (.ofByte i) reserved last dodagId := by
  rw [← List.append_nil (daoFields _ _ _ _ _ _ _ _ _).flatten]
  generalize hbuf :
    (daoFields 0x9b 0x03 k k' i flags reserved last (dodagOctets dodagId)).flatten ++ [] = buf
  have hlen : buf.length = 8 + if dodagId.isSome then 16 else 0 := by
    rw [← hbuf, List.append_nil, length_daoFields, length_dodagOctets]
  have hacc : Accepted buf ↔ dodagId.isSome ∨ Octets.flag flags 6 = false := by
    rw [← hbuf]
    change 8 ≤ _ ∧ (Octets.flag flags 6 → 24 ≤ _) ↔ _
    rw [hbuf, hlen]
    cases dodagId <;> cases Octets.flag flags 6 <;> simp
  have hann : Announced buf := by
    rw [← hbuf]
    change 8 ≤ _ ∧ (Octets.flag flags 7 → 24 ≤ _)
    rw [hbuf, hlen, hflag]
    cases dodagId <;> simp
  rw [← hacc, ← checkLen_eq_ok (by rw [← hbuf]; rfl)]
  obtain ⟨o, ho⟩ := hann.exists_options
  have hparse : checkLen buf = .ok () →
      parse buf = .ok (.destinationAdvertisementObjectAck (.ofByte i) reserved last dodagId) := by
    intro hcheck
    rw [parse, hcheck, ok_bind, ho, ok_bind, ← hbuf, msgCode_daoFields, ok_bind]
    change (do
      let i ← index _ 4
      let reserved ← index _ 6
      let last ← index _ 7
      let dodagId ← RplRepr.dodagId _ (← daoAckDodagIdPresent _)
      return destinationAdvertisementObjectAck (.ofByte i) reserved last dodagId) = _
    rw [index_parts 3 (by rfl) (by rfl), ok_bind, index_parts 5 (by rfl) (by rfl), ok_bind,
      index_parts 6 (by rfl) (by rfl), ok_bind, daoAckDodagIdPresent, bit_daoFields, ok_bind, hflag,
      dodagId_daoFields]
    rfl
  constructor
  · intro h
    obtain ⟨⟨⟩, hcheck, -⟩ := bind_eq_ok.mp h
    rw [hparse hcheck] at h
    cases h
    exact ⟨hcheck, rfl⟩
  · rintro ⟨hcheck, rfl⟩
    exact hparse hcheck

lemma exists_parse_emit_iff {rplInstanceId : Rpl.InstanceId} {sequence status : UInt8}
    {dodagId : Option Ipv6.Address} {old : List UInt8}
    (hold : old.length =
      bufferLen (.destinationAdvertisementObjectAck rplInstanceId sequence status dodagId)) :
    (∃ out, emit (.destinationAdvertisementObjectAck rplInstanceId sequence status dodagId) old =
        .ok out ∧ parse out =
          .ok (.destinationAdvertisementObjectAck rplInstanceId sequence status dodagId)) ↔
      rplInstanceId.id < 128 ∧
        (dodagId.isSome ∨ Octets.flag (Octets.get old 5) 6 = false) := by
  have hlen : old.length = 8 + (dodagOctets dodagId).length := by
    rw [hold, length_dodagOctets, bufferLen]
    split_ifs <;> rfl
  obtain ⟨type, code, k, k', i, flags, reserved, last, dodag, rest, hdodag, rfl⟩ :=
    exists_daoFields (le_of_eq hlen.symm)
  rw [List.length_append, length_daoFields, hdodag] at hlen
  obtain rfl := List.eq_nil_of_length_eq_zero (l := rest) (by omega)
  obtain ⟨h7, h6⟩ := Octets.flag_withField_seven dodagId.isSome flags
  rw [List.append_nil, emit_daoAck hdodag]
  simp only [Except.ok.injEq, exists_eq_left', parse_daoAck h7, h6]
  change _ ↔ _ ∧ (_ ∨ Octets.flag flags 6 = false)
  rw [← Rpl.InstanceId.ofByte_toByte_iff, and_comm]
  refine and_congr_left fun _ => ?_
  simp [eq_comm]

end Dao

/-- The check accepts what a message announces except for the acknowledgements it misreads, and an
acknowledgement parses back exactly if its instance fits and, without an identifier, bit 6 of its
flags was clear before. -/
theorem lengthCheck_iff {buf : List UInt8}
    (htype : Message.ofByte (Octets.get buf 0) = .rplControl) {rplInstanceId : Rpl.InstanceId}
    {sequence status : UInt8} {dodagId : Option Ipv6.Address} {old : List UInt8}
    (hold : old.length =
      bufferLen (.destinationAdvertisementObjectAck rplInstanceId sequence status dodagId)) :
    (Exact buf ↔ ¬ Misread buf) ∧
      ((∃ out, emit (.destinationAdvertisementObjectAck rplInstanceId sequence status dodagId) old =
          .ok out ∧ parse out =
            .ok (.destinationAdvertisementObjectAck rplInstanceId sequence status dodagId)) ↔
        rplInstanceId.id < 128 ∧
          (dodagId.isSome ∨ Octets.flag (Octets.get old 5) 6 = false)) :=
  ⟨exact_iff htype, exists_parse_emit_iff hold⟩

/-- An acknowledgement without an identifier, emitted where an advertisement without one was. -/
theorem lengthCheck_sample :
    Exact [0x9b, 0x03, 0, 0, 1, 0x80, 7, 0, 0xfd, 0, 0, 0, 0, 0, 0, 0, 0, 0, 0, 0, 0, 0, 0, 1] ∧
    ∃ out, emit (.destinationAdvertisementObjectAck (.global 1) 7 0 none)
        [0x9b, 0x02, 0, 0, 1, 0x80, 0, 6] = .ok out ∧
      parse out = .ok (.destinationAdvertisementObjectAck (.global 1) 7 0 none) := by
  have hsample := @lengthCheck_iff
    [0x9b, 0x03, 0, 0, 1, 0x80, 7, 0, 0xfd, 0, 0, 0, 0, 0, 0, 0, 0, 0, 0, 0, 0, 0, 0, 1] (by decide)
    (.global 1) 7 0 none [0x9b, 0x02, 0, 0, 1, 0x80, 0, 6] (by decide)
  exact ⟨hsample.1.mpr fun h => absurd h.2.2.1 (by decide),
    hsample.2.mpr ⟨by decide, .inr (by decide)⟩⟩

/-- An acknowledgement of 8 octets that says it has an identifier is accepted and cannot be read,
and one without an identifier is emitted over an advertisement with one and is not accepted. -/
theorem not_lengthCheck :
    (checkLen [0x9b, 0x03, 0, 0, 1, 0x80, 7, 0] = .ok () ∧
      ¬ Announced [0x9b, 0x03, 0, 0, 1, 0x80, 7, 0] ∧
      daoAckDodagId [0x9b, 0x03, 0, 0, 1, 0x80, 7, 0] = .error (.panic .sliceOutOfRange) ∧
      parse [0x9b, 0x03, 0, 0, 1, 0x80, 7, 0] = fail) ∧
    emit (.destinationAdvertisementObjectAck (.global 1) 7 0 none)
        [0x9b, 0x02, 0, 0, 1, 0x40, 0, 6] = .ok [0x9b, 0x03, 0, 0, 1, 0x40, 7, 0] ∧
      parse [0x9b, 0x03, 0, 0, 1, 0x40, 7, 0] = fail := by
  refine ⟨⟨by decide, ?_, by decide, by decide⟩, by decide,
    by decide⟩
  exact fun h => absurd (h.2 (by decide)) (by decide)

end RplRepr

end Smoltcp
