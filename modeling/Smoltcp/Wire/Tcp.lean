import Smoltcp.Panic
import Smoltcp.Lib.Serial

/-!
# Sequence numbers and segments

A sequence number is compared by the sign of its wrapping difference to another one, so `gt` is
not `lt` with its arguments exchanged: two numbers that are half the circle apart are each less
than the other. Sums and differences panic outside the range of `i32`. A sum with the constant `1`
does not, and is written `shift a 1`.
-/

namespace Smoltcp

open Serial

abbrev SeqNumber := BitVec 32

namespace SeqNumber

variable (a b : SeqNumber)

/-- `impl Add<usize> for SeqNumber`. -/
def add (n : ℕ) : Checked SeqNumber :=
  if n < 2 ^ 31 then .ok (shift a n) else .error .seqAddOverflow

/-- `impl Sub for SeqNumber`. -/
def sub : Checked ℕ :=
  if dist a b < 0 then .error .seqSubUnderflow else .ok (dist a b).toNat

def lt : Prop := dist a b < 0

def le : Prop := dist a b ≤ 0

def gt : Prop := 0 < dist a b

def ge : Prop := 0 ≤ dist a b

instance : Decidable (lt a b) := inferInstanceAs (Decidable (_ < _))

instance : Decidable (le a b) := inferInstanceAs (Decidable (_ ≤ _))

instance : Decidable (gt a b) := inferInstanceAs (Decidable (_ < _))

instance : Decidable (ge a b) := inferInstanceAs (Decidable (_ ≤ _))

def max : SeqNumber := if gt a b then a else b

def min : SeqNumber := if lt a b then a else b

variable {a b : SeqNumber} {n : ℕ}

lemma add_of_lt (h : n < 2 ^ 31) : add a n = .ok (shift a n) := if_pos h

lemma add_eq_ok : add a n = .ok b ↔ n < 2 ^ 31 ∧ b = shift a n := by
  unfold add
  split_ifs with h
  · exact ⟨fun hb => ⟨h, (Except.ok.inj hb).symm⟩, fun hb => congrArg _ hb.2.symm⟩
  · exact ⟨nofun, fun hb => absurd hb.1 h⟩

lemma sub_of_nonneg (h : 0 ≤ dist a b) : sub a b = .ok (dist a b).toNat := if_neg (by omega)

lemma sub_eq_ok : sub a b = .ok n ↔ dist a b = n := by
  unfold sub
  split_ifs with h
  · refine ⟨nofun, fun hb => ?_⟩
    omega
  · rw [Except.ok.injEq]
    omega

/-- A sequence number in reach of another one is found again by its distance. -/
lemma dist_shift_nat (h : n < 2 ^ 31) : dist (shift a n) a = n := by
  have hd := dist_shift_shift_of_lt a (j := n) (k := 0) (by omega) (by omega)
  simpa using hd

end SeqNumber

/-! ### Segments -/

inductive TcpControl where
  | none
  | psh
  | syn
  | fin
  | rst
  deriving DecidableEq, Repr

namespace TcpControl

/-- The length of a control flag, in terms of sequence space. -/
def len : TcpControl → ℕ
  | .syn | .fin => 1
  | _ => 0

def quashPsh : TcpControl → TcpControl
  | .psh => .none
  | c => c

end TcpControl

/-- `fn() -> u32`. The argument stands for the platform's clock, which the function reads. -/
abbrev TcpTimestampGenerator := ℕ → UInt32

structure TcpTimestampRepr where
  tsval : UInt32
  tsecr : UInt32
  deriving DecidableEq, Repr

namespace TcpTimestampRepr

def generateReplyWithTsval (clock : ℕ) (generator : Option TcpTimestampGenerator)
    (tsval : UInt32) : Option TcpTimestampRepr :=
  generator.map fun g => ⟨g clock, tsval⟩

def generateReply (clock : ℕ) (ts : TcpTimestampRepr) (generator : Option TcpTimestampGenerator) :
    Option TcpTimestampRepr :=
  generateReplyWithTsval clock generator ts.tsval

end TcpTimestampRepr

/-- A high-level representation of a TCP segment. -/
structure TcpRepr where
  srcPort : UInt16
  dstPort : UInt16
  control : TcpControl
  seqNumber : SeqNumber
  ackNumber : Option SeqNumber
  windowLen : UInt16
  windowScale : Option UInt8
  maxSegSize : Option UInt16
  sackPermitted : Bool
  sackRanges : Vector (Option (UInt32 × UInt32)) 3
  timestamp : Option TcpTimestampRepr
  payload : List UInt8
  deriving DecidableEq, Repr

def tcpHeaderLen : ℕ := 20

namespace TcpRepr

def headerLen (repr : TcpRepr) : ℕ :=
  let length := tcpHeaderLen
  let length := if repr.maxSegSize.isSome then length + 4 else length
  let length := if repr.windowScale.isSome then length + 3 else length
  let length := if repr.sackPermitted then length + 2 else length
  let length := if repr.timestamp.isSome then length + 10 else length
  let sackRangeLen := (repr.sackRanges.toList.map fun o => if o.isSome then 8 else 0).sum
  let length := if 0 < sackRangeLen then length + sackRangeLen + 2 else length
  if length % 4 ≠ 0 then length + (4 - length % 4) else length

def bufferLen (repr : TcpRepr) : ℕ := repr.headerLen + repr.payload.length

/-- The length of the segment, in terms of sequence space. -/
def segmentLen (repr : TcpRepr) : ℕ := repr.payload.length + repr.control.len

/-- The segment has no flags set (except PSH) and no data. -/
def isEmpty (repr : TcpRepr) : Prop :=
  repr.payload = [] ∧ (repr.control = .none ∨ repr.control = .psh)

instance (repr : TcpRepr) : Decidable repr.isEmpty := inferInstanceAs (Decidable (_ ∧ _))

/-- What `Repr::parse` guarantees of every segment it returns: the ports are there, the window
scale is cut to 14, and the segment fits an IP packet. -/
structure Parsed (repr : TcpRepr) : Prop where
  srcPort_ne : repr.srcPort ≠ 0
  dstPort_ne : repr.dstPort ≠ 0
  windowScale_le : ∀ k, repr.windowScale = some k → k ≤ 14
  length_payload_lt : repr.payload.length < 2 ^ 16

end TcpRepr

end Smoltcp
