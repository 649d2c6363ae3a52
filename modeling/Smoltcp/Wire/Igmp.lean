import Smoltcp.Time
import Smoltcp.Wire.Address
import Smoltcp.Wire.Checksum

/-!
# IGMP messages

Messages of the group management protocol, versions 1 and 2. All have eight octets.
-/

namespace Smoltcp

namespace Igmp

/-- Message version and type. -/
inductive Message where
  | membershipQuery
  | membershipReportV2
  | leaveGroup
  | membershipReportV1
  | unknown (value : UInt8)
  deriving DecidableEq, Repr

namespace Message

def toByte : Message → UInt8
  | .membershipQuery => 0x11
  | .membershipReportV2 => 0x16
  | .leaveGroup => 0x17
  | .membershipReportV1 => 0x12
  | .unknown value => value

def ofByte (value : UInt8) : Message :=
  if value = 0x11 then .membershipQuery
  else if value = 0x16 then .membershipReportV2
  else if value = 0x17 then .leaveGroup
  else if value = 0x12 then .membershipReportV1
  else .unknown value

end Message

end Igmp

/-- Type of a membership report. -/
inductive IgmpVersion where
  | version1
  | version2
  deriving DecidableEq, Repr

inductive IgmpRepr where
  | membershipQuery (maxRespTime : Duration) (groupAddr : Ipv4.Address) (version : IgmpVersion)
  | membershipReport (groupAddr : Ipv4.Address) (version : IgmpVersion)
  | leaveGroup (groupAddr : Ipv4.Address)
  deriving DecidableEq, Repr

namespace Igmp

def headerEnd : ℕ := 8

section Fields

variable (buf : List UInt8)

def msgType : Message := .ofByte (Octets.get buf 0)

def maxRespCode : UInt8 := Octets.get buf 1

def groupAddr : Ipv4.Address := Octets.readU32 buf 4

end Fields

def maxRespCodeToDuration (value : UInt8) : Duration :=
  let value := value.toUInt64
  let decisecs : UInt64 :=
    if value < 128 then value
    else ((value &&& (0xf : UInt64)) ||| 0x10) <<< (((value >>> 4) &&& (0x7 : UInt64)) + 3)
  Duration.fromMillis (decisecs * 100)

/-- The loop that finds the exponent, at most eight times. -/
def respExponent : ℕ → UInt64 → UInt8 → UInt64 × UInt8
  | 0, mant, exp => (mant, exp)
  | n + 1, mant, exp =>
    if 0x1f < mant then respExponent n (mant >>> 1) (exp + 1) else (mant, exp)

def durationToMaxRespCode (duration : Duration) : UInt8 :=
  let decisecs := duration.totalMillis / 100
  if decisecs < 128 then decisecs.toUInt8
  else if decisecs < 31744 then
    let (mant, exp) := respExponent 8 (decisecs >>> 3) 0
    (0x80 : UInt8) ||| (exp <<< 4) ||| (mant.toUInt8 &&& (0xf : UInt8))
  else 0xff

end Igmp

namespace IgmpRepr

open Igmp

/-- Parse a message. The checksum is not verified. -/
def parse (buf : List UInt8) : Except WireError IgmpRepr :=
  if buf.length < headerEnd then .error .mk
  else
    let addr := groupAddr buf
    -- Check if the address is 0.0.0.0 or multicast.
    if ¬ Ipv4.isUnspecified addr ∧ ¬ Ipv4.isMulticast addr then .error .mk
    else
      match msgType buf with
      | .membershipQuery =>
        let version := if maxRespCode buf = 0 then .version1 else .version2
        .ok (.membershipQuery (maxRespCodeToDuration (maxRespCode buf)) addr version)
      | .membershipReportV2 => .ok (.membershipReport addr .version2)
      | .leaveGroup => .ok (.leaveGroup addr)
      | .membershipReportV1 => .ok (.membershipReport addr .version1)
      | .unknown _ => .error .mk

def bufferLen (_ : IgmpRepr) : ℕ := headerEnd

/-- The type, the response code that is set and the group of a message. A leave keeps the octet that
was there. -/
def fields : IgmpRepr → Message × Option UInt8 × Ipv4.Address
  | .membershipQuery maxRespTime groupAddr version =>
    let code := match version with
      | .version1 => 0
      | .version2 => durationToMaxRespCode maxRespTime
    (.membershipQuery, some code, groupAddr)
  | .membershipReport groupAddr version =>
    let type := match version with
      | .version1 => .membershipReportV1
      | .version2 => .membershipReportV2
    (type, some 0, groupAddr)
  | .leaveGroup groupAddr => (.leaveGroup, none, groupAddr)

/-- Emit a message into a buffer of its length. -/
def emit (repr : IgmpRepr) (buf : List UInt8) : List UInt8 :=
  let (type, code, groupAddr) := repr.fields
  let buf := buf.overwrite 0 [type.toByte]
  let buf := match code with
    | some code => buf.overwrite 1 [code]
    | none => buf
  let buf := Octets.writeU32 buf 4 groupAddr
  let buf := Octets.writeU16 buf 2 0
  Octets.writeU16 buf 2 (~~~ (Checksum.data buf))

end IgmpRepr

end Smoltcp
