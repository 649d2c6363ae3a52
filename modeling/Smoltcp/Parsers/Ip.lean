import Smoltcp.Parsers.Parser
import Smoltcp.Wire.Address

/-!
# Parsing addresses, endpoints and blocks from text

The parser of IPv6 addresses goes on from part to part as long as there is a colon. The parts in
front of a double colon and those behind it are kept apart until the end.
-/

namespace Smoltcp

open Outcome

abbrev colon : UInt8 := 58

abbrev dot : UInt8 := 46

abbrev slash : UInt8 := 47

abbrev openBracket : UInt8 := 91

abbrev closeBracket : UInt8 := 93

/-- An address from its eight segments. -/
def Ipv6.ofSegments (segments : List UInt16) : Address :=
  Octets.toU128 (segments.flatMap Octets.ofU16)

namespace Parser

/-- The four numbers of an IPv4 address, with points between them. -/
def acceptIpv4Octets : Parser (List UInt8) :=
  [0, 1, 2, 3].mapM fun n => do
    let octet ← acceptNumber 3 0x100 false
    if n ≠ 3 then acceptChar dot
    return .ofNat octet

def acceptIpv4 : Parser Ipv4.Address := do
  let octets ← acceptIpv4Octets
  return .ofNat 32 (Octets.toNatBE octets)

/-! ### IPv6 addresses -/

/-- The parts of an address in front of a double colon, in an array of eight, and behind it, in one
of six, and how many there are. -/
structure Parts where
  head : List UInt16
  tail : List UInt16
  headIdx : ℕ
  tailIdx : ℕ
  deriving DecidableEq, Repr

/-- `parts[idx] = value; idx += 1`. -/
def push (parts : List UInt16) (idx : ℕ) (value : UInt16) : Outcome (List UInt16 × ℕ) :=
  if idx < parts.length then .ok (parts.set idx value, idx + 1)
  else .error (.panic .indexOutOfRange)

def acceptIpv4MappedIpv6Part (parts : List UInt16) (idx : ℕ) : Parser (List UInt16 × ℕ) := do
  let octets ← acceptIpv4Octets
  let (parts, idx) ← lift (push parts idx (Octets.readU16 octets 0))
  lift (push parts idx (Octets.readU16 octets 2))

/-- A colon and the last two parts of an address in decimal, if they are there. -/
def tryMapped (parts : List UInt16) (idx : ℕ) : Parser (List UInt16 × ℕ) := do
  let mapped ← tryDo do
    acceptChar colon
    acceptIpv4MappedIpv6Part parts idx
  return mapped.getD (parts, idx)

/-- The part is added to the others, with what comes behind it if the address is a mapped one. -/
def acceptMapped (parts : List UInt16) (idx : ℕ) (part : ℕ) (mapped : List UInt16 → ℕ → Prop)
    [∀ parts idx, Decidable (mapped parts idx)] : Parser (List UInt16 × ℕ) := do
  let (parts, idx) ← lift (push parts idx (.ofNat part))
  if mapped parts idx then tryMapped parts idx else return (parts, idx)

/-- What is in front of a part: a double colon, a single one, or at the very start nothing. Returns
whether it is a double colon, and whether the part belongs behind one. -/
def acceptColons (parts : Parts) (useTail : Bool) : Parser (Bool × Bool) := do
  match ← tryDo (acceptStr [colon, colon]) with
  | some _ => if !useTail ∧ parts.headIdx < 7 then return (true, true) else err
  | none =>
    if parts.headIdx ≠ 0 ∨ useTail ∧ parts.tailIdx ≠ 0 then acceptChar colon
    return (false, useTail)

/-- A part is added to the head or to the tail. -/
def addPart (parts : Parts) (useTail : Bool) (part : ℕ) : Parser Parts :=
  if !useTail ∧ parts.headIdx < 8 then do
    let (head, headIdx) ← acceptMapped parts.head parts.headIdx part fun head headIdx =>
      headIdx = 6 ∧ head.take 6 = [0, 0, 0, 0, 0, 0xffff]
    return { parts with head, headIdx }
  else if parts.tailIdx < 6 then do
    let (tail, tailIdx) ← acceptMapped parts.tail parts.tailIdx part fun tail tailIdx =>
      tailIdx = 1 ∧ tail.head? = some 0xffff ∧ parts.head = [0, 0, 0, 0, 0, 0, 0, 0]
    return { parts with tail, tailIdx }
  else err

/-- A part, which may be missing behind a double colon. -/
def acceptPart (parts : Parts) (doubleColon useTail : Bool) : Parser Parts := do
  match ← tryDo (acceptNumber 4 0x10000 true) with
  | some part => addPart parts useTail part
  | none => if doubleColon then return parts else err

/-- The next part and what is in front of it. -/
def acceptNext (parts : Parts) (useTail : Bool) : Parser (Parts × Bool) := do
  let (doubleColon, useTail) ← acceptColons parts useTail
  let parts ← acceptPart parts doubleColon useTail
  return (parts, useTail)

/-! Every part takes some of the text. -/

variable {data rest : List UInt8}

lemma length_lt_of_acceptNumber {maxDigits maxValue v : ℕ} {hex : Bool} (hmax : 0 < maxDigits)
    (h : acceptNumber maxDigits maxValue hex data = .ok (v, rest)) : rest.length < data.length := by
  obtain ⟨m, rfl, -⟩ := exists_numeral hmax h
  have hpos := List.length_pos_iff.mpr m.ne_nil
  rw [List.length_append]
  omega

lemma acceptStr_colons :
    acceptStr [colon, colon] data = .ok ((), rest) ↔ data = colon :: colon :: rest := by
  constructor
  · intro h
    obtain ⟨⟨⟩, rest', hfirst, hsecond⟩ := bind_eq_ok.mp h
    obtain ⟨⟨⟩, rest'', hsecond, hnil⟩ := bind_eq_ok.mp hsecond
    cases hnil
    rw [acceptChar_eq_ok hfirst, acceptChar_eq_ok hsecond]
  · rintro rfl
    rfl

/-- A number of an IPv4 address. -/
abbrev Octet := Numeral false 3 0x100

lemma acceptIpv4Octets_eq : acceptIpv4Octets = (do
    let a ← acceptNumber 3 0x100 false
    acceptChar dot
    let b ← acceptNumber 3 0x100 false
    acceptChar dot
    let c ← acceptNumber 3 0x100 false
    acceptChar dot
    let d ← acceptNumber 3 0x100 false
    return [.ofNat a, .ofNat b, .ofNat c, .ofNat d]) := by
  simp only [acceptIpv4Octets, List.mapM_cons, List.mapM_nil, bind_assoc, pure_bind, ne_eq]
  simp

/-- The four numbers of an IPv4 address. -/
structure Quad where
  a : Octet
  b : Octet
  c : Octet
  d : Octet

def Quad.text (q : Quad) : List UInt8 :=
  q.a.digits ++ dot :: (q.b.digits ++ dot :: (q.c.digits ++ dot :: q.d.digits))

def Quad.octets (q : Quad) : List UInt8 :=
  [.ofNat q.a.value, .ofNat q.b.value, .ofNat q.c.value, .ofNat q.d.value]

lemma acceptIpv4Octets_of (q : Quad) (hrest : q.d.digits.length = 3 ∨ NoDigit false rest) :
    acceptIpv4Octets (q.text ++ rest) = .ok (q.octets, rest) := by
  have hdot (data : List UInt8) : NoDigit false (dot :: data) := noDigit_cons rfl
  simp only [Quad.text, List.append_assoc, List.cons_append]
  rw [acceptIpv4Octets_eq, bind_of_eq (acceptNumber_of q.a (.inr (hdot _))),
    bind_of_eq (acceptChar_of _ _), bind_of_eq (acceptNumber_of q.b (.inr (hdot _))),
    bind_of_eq (acceptChar_of _ _), bind_of_eq (acceptNumber_of q.c (.inr (hdot _))),
    bind_of_eq (acceptChar_of _ _), bind_of_eq (acceptNumber_of q.d hrest)]
  rfl

lemma exists_quad {octets : List UInt8} (h : acceptIpv4Octets data = .ok (octets, rest)) :
    ∃ q : Quad, data = q.text ++ rest ∧ octets = q.octets := by
  rw [acceptIpv4Octets_eq] at h
  obtain ⟨a, _, ha, h⟩ := bind_eq_ok.mp h
  obtain ⟨⟨⟩, _, hdot, h⟩ := bind_eq_ok.mp h
  obtain ⟨b, _, hb, h⟩ := bind_eq_ok.mp h
  obtain ⟨⟨⟩, _, hdot', h⟩ := bind_eq_ok.mp h
  obtain ⟨c, _, hc, h⟩ := bind_eq_ok.mp h
  obtain ⟨⟨⟩, _, hdot'', h⟩ := bind_eq_ok.mp h
  obtain ⟨d, _, hd, h⟩ := bind_eq_ok.mp h
  cases h
  obtain ⟨a, rfl, rfl⟩ := exists_numeral (by decide) ha
  obtain ⟨b, rfl, rfl⟩ := exists_numeral (by decide) hb
  obtain ⟨c, rfl, rfl⟩ := exists_numeral (by decide) hc
  obtain ⟨d, rfl, rfl⟩ := exists_numeral (by decide) hd
  rw [acceptChar_eq_ok hdot, acceptChar_eq_ok hdot', acceptChar_eq_ok hdot'']
  exact ⟨⟨a, b, c, d⟩, by simp [Quad.text], rfl⟩

lemma quiet_acceptIpv4Octets : Quiet acceptIpv4Octets := by
  have hnumber := quiet_acceptNumber 3 0x100 false
  have hdot := quiet_acceptChar dot
  rw [acceptIpv4Octets_eq]
  exact hnumber.bind fun a => hdot.bind fun _ => hnumber.bind fun b => hdot.bind fun _ =>
    hnumber.bind fun c => hdot.bind fun _ => hnumber.bind fun d => quiet_pure _

lemma shrinks_acceptIpv4Octets : Shrinks acceptIpv4Octets := by
  intro data octets rest h
  obtain ⟨q, rfl, -⟩ := exists_quad h
  rw [List.length_append]
  exact Nat.le_add_left _ _

lemma shrinks_acceptMapped (parts : List UInt16) (idx part : ℕ) (mapped : List UInt16 → ℕ → Prop)
    [∀ parts idx, Decidable (mapped parts idx)] :
    Shrinks (acceptMapped parts idx part mapped) := by
  refine (shrinks_lift _).bind fun r => ?_
  have htry : Shrinks (tryMapped r.1 r.2) := by
    refine (Shrinks.tryDo ?_).bind fun _ => shrinks_pure _
    refine (shrinks_acceptChar _).bind fun _ => shrinks_acceptIpv4Octets.bind fun _ => ?_
    exact (shrinks_lift _).bind fun _ => shrinks_lift _
  dsimp only
  split_ifs
  · exact htry
  · exact shrinks_pure _

variable {parts : Parts} {doubleColon useTail : Bool}

lemma acceptColons_double (parts : Parts) (useTail : Bool) (data : List UInt8) :
    acceptColons parts useTail (colon :: colon :: data) =
      if !useTail ∧ parts.headIdx < 7 then .ok ((true, true), data) else fail := by
  rw [acceptColons, bind_of_eq (tryDo_of_eq (acceptStr_colons.mpr rfl))]
  dsimp only
  split_ifs <;> rfl

lemma acceptColons_single (h : ∀ rest, data ≠ colon :: colon :: rest) :
    acceptColons parts useTail data =
      if parts.headIdx ≠ 0 ∨ useTail ∧ parts.tailIdx ≠ 0 then do
        let (_, rest) ← acceptChar colon data
        return ((false, useTail), rest)
      else .ok ((false, useTail), data) := by
  obtain ⟨⟨⟩, rest, hstr⟩ | hstr := quiet_acceptStr [colon, colon] data
  · exact absurd (acceptStr_colons.mp hstr) (h rest)
  · rw [acceptColons, bind_of_eq (tryDo_of_fail hstr)]
    dsimp only
    split_ifs <;> rfl

lemma acceptPart_of {part : ℕ} (h : acceptNumber 4 0x10000 true data = .ok (part, rest)) :
    acceptPart parts doubleColon useTail data = addPart parts useTail part rest := by
  rw [acceptPart, bind_of_eq (tryDo_of_eq h)]

lemma acceptPart_none (h : acceptNumber 4 0x10000 true data = fail) :
    acceptPart parts doubleColon useTail data =
      if doubleColon then .ok (parts, data) else fail := by
  rw [acceptPart, bind_of_eq (tryDo_of_fail h)]
  dsimp only
  split_ifs <;> rfl

lemma acceptPart_shrinks {parts' : Parts}
    (h : acceptPart parts doubleColon useTail data = .ok (parts', rest)) :
    rest.length < data.length ∨ doubleColon = true ∧ rest = data := by
  obtain ⟨part, rest', hnumber⟩ | hnumber := quiet_acceptNumber 4 0x10000 true data
  · rw [acceptPart_of hnumber] at h
    have hpush : Shrinks (addPart parts useTail part) := by
      unfold addPart
      split_ifs
      · exact (shrinks_acceptMapped _ _ _ _).bind fun _ => shrinks_pure _
      · exact (shrinks_acceptMapped _ _ _ _).bind fun _ => shrinks_pure _
      · exact shrinks_err
    exact .inl ((hpush _ _ _ h).trans_lt (length_lt_of_acceptNumber (by decide) hnumber))
  · rw [acceptPart_none hnumber] at h
    split_ifs at h with hdouble
    · cases h
      exact .inr ⟨hdouble, rfl⟩
    · cases h

/-- Every call takes some of the text. -/
lemma length_lt_of_acceptNext {parts' : Parts} {useTail' : Bool}
    (h : acceptNext parts useTail data = .ok ((parts', useTail'), rest)) :
    rest.length < data.length := by
  obtain ⟨⟨doubleColon, useTail''⟩, rest', hcolons, hpart⟩ := bind_eq_ok.mp h
  obtain ⟨parts'', rest'', hpart, hreturn⟩ := bind_eq_ok.mp hpart
  cases hreturn
  by_cases hdouble : ∃ behind, data = colon :: colon :: behind
  · obtain ⟨behind, rfl⟩ := hdouble
    rw [acceptColons_double] at hcolons
    split_ifs at hcolons
    · cases hcolons
      obtain hlt | ⟨-, rfl⟩ := acceptPart_shrinks hpart
      · exact hlt.trans (Nat.lt_add_of_pos_right Nat.two_pos)
      · exact Nat.lt_add_of_pos_right Nat.two_pos
    · cases hcolons
  · rw [acceptColons_single (not_exists.mp hdouble)] at hcolons
    have hle : rest'.length ≤ data.length ∧ doubleColon = false := by
      split_ifs at hcolons
      · obtain ⟨⟨⟨⟩, rest₁⟩, hchar, hreturn⟩ := Outcome.bind_eq_ok.mp hcolons
        cases hreturn
        exact ⟨shrinks_acceptChar _ _ _ _ hchar, rfl⟩
      · cases hcolons
        exact ⟨le_rfl, rfl⟩
    obtain hlt | ⟨htrue, -⟩ := acceptPart_shrinks hpart
    · exact hlt.trans_le hle.1
    · rw [hle.2] at htrue
      cases htrue

/-- Parts up to the end of the address. -/
def acceptIpv6Part (parts : Parts) (useTail : Bool) (data : List UInt8) :
    Outcome (Parts × List UInt8) :=
  match _ : acceptNext parts useTail data with
  | .error e => .error e
  | .ok ((parts, useTail), rest) =>
    if 8 < parts.headIdx + parts.tailIdx then fail
    else if rest.head? = some colon then acceptIpv6Part parts useTail rest
    else if parts.headIdx < 8 ∧ !useTail then fail
    else .ok (parts, rest)
termination_by data.length
decreasing_by exact length_lt_of_acceptNext ‹_›

/-- The parts behind a double colon are copied to the end of the address. -/
def acceptIpv6 : Parser Ipv6.Address := do
  let parts ← acceptIpv6Part ⟨List.replicate 8 0, List.replicate 6 0, 0, 0⟩ false
  let addr ← lift do
    let start ← sub 8 parts.tailIdx
    copyAt parts.head start 8 (← slice parts.tail 0 parts.tailIdx)
  return Ipv6.ofSegments addr

def acceptIp : Parser IpAddress := do
  match ← tryDo acceptIpv4 with
  | some ipv4 => return .ipv4 ipv4
  | none =>
    match ← tryDo acceptIpv6 with
    | some ipv6 => return .ipv6 ipv6
    | none => err

/-! ### Endpoints -/

def acceptIpv4Endpoint : Parser IpEndpoint := do
  let ip ← acceptIpv4
  match ← tryDo acceptEof with
  | some _ => return ⟨.ipv4 ip, 0⟩
  | none =>
    acceptChar colon
    let port ← acceptNumber 5 65535 false
    return ⟨.ipv4 ip, .ofNat port⟩

def acceptIpv6Endpoint : Parser IpEndpoint := do
  if ← lookaheadChar openBracket then
    acceptChar openBracket
    let ip ← acceptIpv6
    acceptChar closeBracket
    acceptChar colon
    let port ← acceptNumber 5 65535 false
    return ⟨.ipv6 ip, .ofNat port⟩
  else
    let ip ← acceptIpv6
    return ⟨.ipv6 ip, 0⟩

def acceptIpEndpoint : Parser IpEndpoint := do
  match ← tryDo acceptIpv4Endpoint with
  | some ipv4 => return ipv4
  | none =>
    match ← tryDo acceptIpv6Endpoint with
    | some ipv6 => return ipv6
    | none => err

end Parser

/-! ### Whole texts -/

open Smoltcp.Parser

/-- Parse a string representation of an IP address. -/
def IpAddress.fromStr (s : List UInt8) : Outcome IpAddress := untilEof acceptIp s

/-- Parse a string representation of an IPv4 CIDR. -/
def Ipv4.Cidr.fromStr : List UInt8 → Outcome Ipv4.Cidr := untilEof do
  let ip ← acceptIpv4
  acceptChar slash
  let prefixLen ← acceptNumber 2 33 false
  lift (ofChecked (Ipv4.Cidr.new ip prefixLen))

/-- Parse a string representation of an IPv6 CIDR. -/
def Ipv6.Cidr.fromStr : List UInt8 → Outcome Ipv6.Cidr := untilEof do
  let ip ← acceptIpv6
  acceptChar slash
  let prefixLen ← acceptNumber 3 129 false
  lift (ofChecked (Ipv6.Cidr.new ip prefixLen))

/-- Parse a string representation of an IP CIDR. -/
def IpCidr.fromStr (s : List UInt8) : Outcome IpCidr :=
  match Ipv4.Cidr.fromStr s with
  | .ok cidr => .ok (.ipv4 cidr)
  | .error (.panic p) => .error (.panic p)
  | .error .malformed => do return .ipv6 (← Ipv6.Cidr.fromStr s)

def IpEndpoint.fromStr (s : List UInt8) : Outcome IpEndpoint := untilEof acceptIpEndpoint s

end Smoltcp
