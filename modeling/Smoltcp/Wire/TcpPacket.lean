import Smoltcp.Wire.Checksum
import Smoltcp.Wire.Outcome
import Smoltcp.Wire.Tcp

/-!
# TCP segments as octets

Accessors and setters of the header fields, the options, and how a segment is parsed and emitted.
The header length shares a word with the flags, and is kept in units of 4 octets. The checksum
covers the whole buffer.
-/

namespace Smoltcp

namespace TcpPacket

open Outcome

/-! ### Fields -/

section Fields

variable (buf : List UInt8)

def srcPort : Outcome UInt16 := readU16 buf 0

def dstPort : Outcome UInt16 := readU16 buf 2

def seqNumber : Outcome SeqNumber := readU32 buf 4

def ackNumber : Outcome SeqNumber := readU32 buf 8

def flag (mask : UInt16) : Outcome Bool := do
  let raw ← readU16 buf 12
  return raw &&& mask ≠ 0

def fin : Outcome Bool := flag buf 0x001

def syn : Outcome Bool := flag buf 0x002

def rst : Outcome Bool := flag buf 0x004

def psh : Outcome Bool := flag buf 0x008

def ack : Outcome Bool := flag buf 0x010

/-- The header length, in octets. -/
def headerLen : Outcome ℕ := do
  let raw ← readU16 buf 12
  return ((raw >>> 12) * 4).toUInt8.toNat

def windowLen : Outcome UInt16 := readU16 buf 14

/-- Ensure that no accessor method will panic if called. -/
def checkLen : Outcome Unit := do
  if buf.length < tcpHeaderLen then fail
  else
    let headerLen ← headerLen buf
    if buf.length < headerLen ∨ headerLen < tcpHeaderLen then fail else return ()

/-- The sum over the pseudo-header and the segment. -/
def sum (srcAddr dstAddr : IpAddress) : Outcome UInt16 := do
  let pseudo ← ofChecked (Checksum.pseudoHeader srcAddr dstAddr .tcp buf.length)
  return Checksum.combine [pseudo, Checksum.data buf]

def verifyChecksum (srcAddr dstAddr : IpAddress) : Outcome Bool := do
  return (← sum buf srcAddr dstAddr) = 0xffff

def options : Outcome (List UInt8) := do
  slice buf tcpHeaderLen (← headerLen buf)

def payload : Outcome (List UInt8) := do
  sliceFrom buf (← headerLen buf)

def setSrcPort (value : UInt16) : Outcome (List UInt8) := write buf 0 (Octets.ofU16 value)

def setDstPort (value : UInt16) : Outcome (List UInt8) := write buf 2 (Octets.ofU16 value)

def setSeqNumber (value : SeqNumber) : Outcome (List UInt8) := write buf 4 (Octets.ofU32 value)

def setAckNumber (value : SeqNumber) : Outcome (List UInt8) := write buf 8 (Octets.ofU32 value)

def clearFlags : Outcome (List UInt8) := do
  let raw ← readU16 buf 12
  write buf 12 (Octets.ofU16 (raw &&& ~~~ (0x0fff : UInt16)))

def setFlag (mask : UInt16) (value : Bool) : Outcome (List UInt8) := do
  let raw ← readU16 buf 12
  write buf 12 (Octets.ofU16 (if value then raw ||| mask else raw &&& ~~~ mask))

def setFin (value : Bool) : Outcome (List UInt8) := setFlag buf 0x001 value

def setSyn (value : Bool) : Outcome (List UInt8) := setFlag buf 0x002 value

def setRst (value : Bool) : Outcome (List UInt8) := setFlag buf 0x004 value

def setPsh (value : Bool) : Outcome (List UInt8) := setFlag buf 0x008 value

def setAck (value : Bool) : Outcome (List UInt8) := setFlag buf 0x010 value

/-- Set the flag of a control. -/
def setControl : TcpControl → Outcome (List UInt8)
  | .none => return buf
  | .psh => setPsh buf true
  | .syn => setSyn buf true
  | .fin => setFin buf true
  | .rst => setRst buf true

/-- Set the header length, in octets. -/
def setHeaderLen (value : UInt8) : Outcome (List UInt8) := do
  let raw ← readU16 buf 12
  write buf 12 (Octets.ofU16 ((raw &&& ~~~ (0xf000 : UInt16)) ||| ((value.toUInt16 / 4) <<< 12)))

def setWindowLen (value : UInt16) : Outcome (List UInt8) := write buf 14 (Octets.ofU16 value)

def setChecksum (value : UInt16) : Outcome (List UInt8) := write buf 16 (Octets.ofU16 value)

def setUrgentAt (value : UInt16) : Outcome (List UInt8) := write buf 18 (Octets.ofU16 value)

/-- Compute and fill in the checksum. -/
def fillChecksum (srcAddr dstAddr : IpAddress) : Outcome (List UInt8) := do
  let buf ← setChecksum buf 0
  let checksum := ~~~ (← sum buf srcAddr dstAddr)
  setChecksum buf checksum

end Fields

end TcpPacket

/-! ### Options -/

abbrev SackRanges := Vector (Option (UInt32 × UInt32)) 3

abbrev SackRanges.empty : SackRanges := #v[none, none, none]

/-- A representation of a single TCP option. -/
inductive TcpOption where
  | endOfList
  | noOperation
  | maxSegmentSize (value : UInt16)
  | windowScale (value : UInt8)
  | sackPermitted
  | sackRange (ranges : SackRanges)
  | timeStamp (tsval tsecr : UInt32)
  | unknown (kind : UInt8) (data : List UInt8)
  deriving DecidableEq, Repr

namespace TcpOption

open Outcome

/-- `l.get(a..b)`. -/
def getRange (l : List UInt8) (a b : ℕ) : Option (List UInt8) :=
  if a ≤ b ∧ b ≤ l.length then some ((l.take b).drop a) else none

/-- The range at `left`, if the data goes on so far. -/
def readRange (data : List UInt8) (left : ℕ) : Outcome (Option (UInt32 × UInt32)) :=
  if left < data.length then do
    let rangeLeft ← readU32 data left
    let rangeRight ← readU32 data (left + 4)
    return some (.ofBitVec rangeLeft, .ofBitVec rangeRight)
  else return none

/-- The option of a kind other than the end and no operation. -/
def parseData (kind : UInt8) (length : ℕ) (data : List UInt8) : Outcome TcpOption :=
  if kind = 0x02 then
    if length = 4 then do return .maxSegmentSize (← readU16 data 0)
    else fail
  else if kind = 0x03 then
    if length = 3 then do return .windowScale (← index data 0)
    else fail
  else if kind = 0x04 then
    if length = 2 then return .sackPermitted
    else fail
  else if kind = 0x05 then do
    -- more than three ranges are cut off, since there is no room for them
    reject (length < 10 ∨ (length - 2) % 8 ≠ 0)
    let first ← readRange data 0
    let second ← readRange data 8
    let third ← readRange data 16
    return .sackRange #v[first, second, third]
  else if kind = 0x08 ∧ length = 10 then do
    let tsval ← readU32 data 0
    let tsecr ← readU32 data 4
    return .timeStamp (.ofBitVec tsval) (.ofBitVec tsecr)
  else return .unknown kind data

/-- The length of the first option, and the option. -/
def parseHead (buffer : List UInt8) : Outcome (ℕ × TcpOption) := do
  let kind ← okOr buffer[0]?
  if kind = 0x00 then return (1, .endOfList)
  else if kind = 0x01 then return (1, .noOperation)
  else
    let length := (← okOr buffer[1]?).toNat
    let data ← okOr (getRange buffer 2 length)
    return (length, ← parseData kind length data)

/-- Parse the first option, and return what is behind it too. -/
def parse (buffer : List UInt8) : Outcome (List UInt8 × TcpOption) := do
  let (length, option) ← parseHead buffer
  return (← sliceFrom buffer length, option)

def bufferLen : TcpOption → ℕ
  | .endOfList => 1
  | .noOperation => 1
  | .maxSegmentSize _ => 4
  | .windowScale _ => 3
  | .sackPermitted => 2
  | .sackRange ranges => (ranges.toList.filter Option.isSome).length * 8 + 2
  | .timeStamp _ _ => 10
  | .unknown _ data => 2 + data.length

/-- Write ranges one behind the other. -/
def emitRanges (buffer : List UInt8) (pos : ℕ) : List (UInt32 × UInt32) → Outcome (List UInt8)
  | [] => return buffer
  | (first, second) :: ranges => do
    let buffer ← write buffer pos (Octets.ofU32 first.toBitVec)
    let buffer ← write buffer (pos + 4) (Octets.ofU32 second.toBitVec)
    emitRanges buffer (pos + 8) ranges

/-- Write the kind and the data of an option other than the end and no operation. -/
def emitData (buffer : List UInt8) : TcpOption → Outcome (List UInt8)
  | .endOfList | .noOperation => .error (.panic .unreachable)
  | .maxSegmentSize value => do
    let buffer ← write buffer 0 [0x02]
    write buffer 2 (Octets.ofU16 value)
  | .windowScale value => do
    let buffer ← write buffer 0 [0x03]
    write buffer 2 [value]
  | .sackPermitted => write buffer 0 [0x04]
  | .sackRange ranges => do
    let buffer ← write buffer 0 [0x05]
    emitRanges buffer 2 (ranges.toList.filterMap id)
  | .timeStamp tsval tsecr => do
    let buffer ← write buffer 0 [0x08]
    let buffer ← write buffer 2 (Octets.ofU32 tsval.toBitVec)
    write buffer 6 (Octets.ofU32 tsecr.toBitVec)
  | .unknown kind data => do
    let buffer ← write buffer 0 [kind]
    -- the data must be as long as the rest of the buffer
    if buffer.length = 2 + data.length then write buffer 2 data
    else .error (.panic .sliceOutOfRange)

/-- Emit an option: the octets of it, and the buffer behind them. -/
def emit (option : TcpOption) (buffer : List UInt8) : Outcome (List UInt8 × List UInt8) := do
  let (length, buffer) ← match option with
    | .endOfList => pure (1, List.replicate buffer.length 0x00)
    | .noOperation => do pure (1, ← write buffer 0 [0x01])
    | option => do
      let length := option.bufferLen
      let buffer ← write buffer 1 [.ofNat length]
      pure (length, ← emitData buffer option)
  return (buffer.take length, ← sliceFrom buffer length)

end TcpOption

/-! ### Representation -/

/-- The control flag of a segment; flags that exclude each other are an error. -/
def TcpControl.ofFlags (syn fin rst psh : Bool) : Outcome TcpControl :=
  match syn, fin, rst, psh with
  | false, false, false, false => .ok .none
  | false, false, false, true => .ok .psh
  | true, false, false, _ => .ok .syn
  | false, true, false, _ => .ok .fin
  | false, false, true, _ => .ok .rst
  | _, _, _, _ => Outcome.fail

namespace TcpRepr

open Outcome

/-- What is collected from the options of a segment. -/
structure Options where
  maxSegSize : Option UInt16 := none
  windowScale : Option UInt8 := none
  sackPermitted : Bool := false
  sackRanges : SackRanges := .empty
  timestamp : Option TcpTimestampRepr := none
  deriving DecidableEq, Repr

/-- Take in an option. -/
def Options.take (acc : Options) : TcpOption → Options
  | .maxSegmentSize value => { acc with maxSegSize := some value }
  -- the shift count is limited to 14
  | .windowScale value => { acc with windowScale := some (if 14 < value then 14 else value) }
  | .sackPermitted => { acc with sackPermitted := true }
  | .sackRange ranges => { acc with sackRanges := ranges }
  | .timeStamp tsval tsecr => { acc with timestamp := some ⟨tsval, tsecr⟩ }
  | _ => acc

lemma parse_rest_lt {options rest : List UInt8} {option : TcpOption}
    (h : TcpOption.parse options = .ok (rest, option)) : rest.length < options.length := by
  obtain ⟨⟨length, option'⟩, hhead, hrest⟩ := bind_eq_ok.mp h
  obtain ⟨rest', hslice, heq⟩ := bind_eq_ok.mp hrest
  obtain ⟨rfl, rfl⟩ := Prod.mk.inj (Except.ok.inj heq)
  -- an option has at least one octet
  have hpos : 0 < length := by
    obtain ⟨kind, -, hhead⟩ := bind_eq_ok.mp hhead
    split_ifs at hhead with hend hnop
    · cases hhead
      exact Nat.one_pos
    · cases hhead
      exact Nat.one_pos
    · obtain ⟨len, -, hhead⟩ := bind_eq_ok.mp hhead
      obtain ⟨data, hdata, hhead⟩ := bind_eq_ok.mp hhead
      obtain ⟨option', -, hhead⟩ := bind_eq_ok.mp hhead
      obtain ⟨rfl, -⟩ := Prod.mk.inj (Except.ok.inj hhead)
      unfold TcpOption.getRange at hdata
      split_ifs at hdata with hrange
      · omega
      · cases hdata
  by_cases hle : length ≤ options.length
  · rw [sliceFrom_of hle] at hslice
    cases hslice
    rw [List.length_drop]
    omega
  · simp [sliceFrom, slice, Checked.slice, hle, ofChecked] at hslice

/-- The loop over the options. -/
def parseOptions (options : List UInt8) (acc : Options) : Outcome Options :=
  if options = [] then return acc
  else
    match _h : TcpOption.parse options with
    | .error e => .error e
    | .ok (nextOptions, option) =>
      if option = .endOfList then return acc else parseOptions nextOptions (acc.take option)
termination_by options.length
decreasing_by exact parse_rest_lt _h

/-- Valid checksum is expected, if checksums are verified. -/
def expectChecksum (rx : Bool) (buf : List UInt8) (srcAddr dstAddr : IpAddress) : Outcome Unit :=
  if rx then do
    reject (!(← TcpPacket.verifyChecksum buf srcAddr dstAddr))
  else return ()

def readControl (buf : List UInt8) : Outcome TcpControl := do
  TcpControl.ofFlags (← TcpPacket.syn buf) (← TcpPacket.fin buf) (← TcpPacket.rst buf)
    (← TcpPacket.psh buf)

def readAckNumber (buf : List UInt8) : Outcome (Option SeqNumber) := do
  if ← TcpPacket.ack buf then return some (← TcpPacket.ackNumber buf) else return none

/-- Parse a segment. `rx` tells whether checksums are verified. -/
def parse (rx : Bool) (buf : List UInt8) (srcAddr dstAddr : IpAddress) : Outcome TcpRepr := do
  TcpPacket.checkLen buf
  -- Source and destination ports must be present.
  reject ((← TcpPacket.srcPort buf) = 0)
  reject ((← TcpPacket.dstPort buf) = 0)
  expectChecksum rx buf srcAddr dstAddr
  let control ← readControl buf
  let ackNumber ← readAckNumber buf
  let options ← parseOptions (← TcpPacket.options buf) {}
  return {
    srcPort := ← TcpPacket.srcPort buf
    dstPort := ← TcpPacket.dstPort buf
    control
    seqNumber := ← TcpPacket.seqNumber buf
    ackNumber
    windowLen := ← TcpPacket.windowLen buf
    windowScale := options.windowScale
    maxSegSize := options.maxSegSize
    sackPermitted := options.sackPermitted
    sackRanges := options.sackRanges
    timestamp := options.timestamp
    payload := ← TcpPacket.payload buf }

/-- Emit an option, if there is one, behind those that were emitted. -/
def emitOption (option : Option TcpOption) (buffer : List UInt8 × List UInt8) :
    Outcome (List UInt8 × List UInt8) :=
  match option with
  | none => return buffer
  | some option => do
    let (octets, rest) ← option.emit buffer.2
    return (buffer.1 ++ octets, rest)

/-- The option about selective acknowledgements. -/
def sackOption (repr : TcpRepr) : Option TcpOption :=
  if repr.sackPermitted then some .sackPermitted
  else if repr.ackNumber.isSome ∧ repr.sackRanges.toList.any Option.isSome then
    some (.sackRange repr.sackRanges)
  else none

/-- Fill the options of the header. -/
def emitOptions (repr : TcpRepr) (options : List UInt8) : Outcome (List UInt8) := do
  let buffer ← emitOption (repr.maxSegSize.map .maxSegmentSize) ([], options)
  let buffer ← emitOption (repr.windowScale.map .windowScale) buffer
  let buffer ← emitOption repr.sackOption buffer
  let (octets, rest) ← emitOption (repr.timestamp.map fun ts => .timeStamp ts.tsval ts.tsecr) buffer
  if rest = [] then return octets
  else
    let (last, padding) ← TcpOption.endOfList.emit rest
    return octets ++ last ++ padding

/-- Emit a segment. `tx` tells whether checksums are computed. -/
def emit (tx : Bool) (repr : TcpRepr) (buf : List UInt8) (srcAddr dstAddr : IpAddress) :
    Outcome (List UInt8) := do
  let buf ← TcpPacket.setSrcPort buf repr.srcPort
  let buf ← TcpPacket.setDstPort buf repr.dstPort
  let buf ← TcpPacket.setSeqNumber buf repr.seqNumber
  let buf ← TcpPacket.setAckNumber buf (repr.ackNumber.getD 0)
  let buf ← TcpPacket.setWindowLen buf repr.windowLen
  let buf ← TcpPacket.setHeaderLen buf (.ofNat repr.headerLen)
  let buf ← TcpPacket.clearFlags buf
  let buf ← TcpPacket.setControl buf repr.control
  let buf ← TcpPacket.setAck buf repr.ackNumber.isSome
  let options ← emitOptions repr (← TcpPacket.options buf)
  let buf ← write buf tcpHeaderLen options
  let buf ← TcpPacket.setUrgentAt buf 0
  let buf ← write buf (← TcpPacket.headerLen buf) repr.payload
  if tx then TcpPacket.fillChecksum buf srcAddr dstAddr else TcpPacket.setChecksum buf 0

end TcpRepr

end Smoltcp
