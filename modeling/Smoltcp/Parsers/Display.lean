import Smoltcp.Lib.LongestRun
import Smoltcp.Parsers.Conformance

/-!
# Addresses, blocks and endpoints as they are printed

A number is printed without leading zeros. The first of the longest runs of zero segments of an
IPv6 address is left out. What is printed for a block is read back. What is printed for an endpoint
is mostly not if its address is an IPv6 address, since there are no brackets around it.
-/

namespace Smoltcp

/-! ### Numbers -/

namespace Parser

/-- A digit as it is printed, in lower case. -/
def printDigit (d : ℕ) : UInt8 := if d < 10 then .ofNat (48 + d) else .ofNat (87 + d)

/-- A number as it is printed, without leading zeros. -/
def print (hex : Bool) (n : ℕ) : List UInt8 :=
  if n = 0 then [48] else (Nat.digits (base hex) n).reverse.map printDigit

section Printing

variable {hex : Bool} {maxDigits maxValue n d : ℕ}

lemma one_lt_base (hex : Bool) : 1 < base hex := by
  cases hex <;> decide

lemma digit_printDigit (h : d < base hex) : digit hex (printDigit d) = some d := by
  have hdec : ∀ d < 10, digit false (printDigit d) = some d := by decide
  have hhex : ∀ d < 16, digit true (printDigit d) = some d := by decide
  cases hex with
  | false => exact hdec d h
  | true => exact hhex d h

lemma valueFrom_printDigit {l : List ℕ} (h : ∀ d ∈ l, d < base hex) :
    valueFrom hex (l.reverse.map printDigit) 0 = Nat.ofDigits (base hex) l := by
  induction l with
  | nil => rfl
  | cons d l ih =>
    have ih := ih fun d hd => h d (List.mem_cons_of_mem _ hd)
    rw [valueFrom] at ih ⊢
    rw [List.reverse_cons, List.map_append, List.foldl_append, ih, List.map_singleton,
      List.foldl_cons, List.foldl_nil, digit_printDigit (h d List.mem_cons_self),
      Option.getD_some, Nat.ofDigits_cons, Nat.mul_comm, Nat.add_comm]

lemma print_ne_nil (hex : Bool) (n : ℕ) : print hex n ≠ [] := by
  unfold print
  split_ifs with hn
  · exact List.cons_ne_nil _ _
  · simpa using Nat.digits_ne_nil_iff_ne_zero.mpr hn

lemma isSome_digit_print : ∀ chr ∈ print hex n, (digit hex chr).isSome := by
  intro chr hchr
  unfold print at hchr
  split_ifs at hchr with hn
  · rw [List.mem_singleton.mp hchr]
    rfl
  · obtain ⟨d, hd, rfl⟩ := List.mem_map.mp hchr
    rw [digit_printDigit (Nat.digits_lt_base (one_lt_base hex) (List.mem_reverse.mp hd))]
    rfl

lemma valueFrom_print : valueFrom hex (print hex n) 0 = n := by
  unfold print
  split_ifs with hn
  · cases hex <;> exact hn.symm
  · rw [valueFrom_printDigit fun d hd => Nat.digits_lt_base (one_lt_base hex) hd,
      Nat.ofDigits_digits]

lemma length_print_le (hpos : 0 < maxDigits) (h : n < base hex ^ maxDigits) :
    (print hex n).length ≤ maxDigits := by
  unfold print
  split_ifs with hn
  · exact hpos
  · rw [List.length_map, List.length_reverse]
    exact (Nat.digits_length_le_iff (one_lt_base hex) n).mpr h

/-- The numeral that is printed for a number. -/
def Numeral.print (n : ℕ) (hpos : 0 < maxDigits) (hlen : n < base hex ^ maxDigits)
    (hlt : n < maxValue) : Numeral hex maxDigits maxValue where
  digits := Parser.print hex n
  ne_nil := print_ne_nil hex n
  length_le := length_print_le hpos hlen
  isDigit := isSome_digit_print
  value_lt := valueFrom_print.symm ▸ hlt

@[simp] lemma Numeral.value_print (hpos : 0 < maxDigits) (hlen : n < base hex ^ maxDigits)
    (hlt : n < maxValue) : (Numeral.print n hpos hlen hlt).value = n := valueFrom_print

end Printing

/-- A number of an IPv4 address as it is printed. -/
def Octet.print (v : UInt8) : Octet :=
  Numeral.print v.toNat (by decide) (v.toNat_lt.trans (by decide)) v.toNat_lt

/-- A group as it is printed. -/
def Group.print (v : UInt16) : Group :=
  Numeral.print v.toNat (by decide) (v.toNat_lt.trans_le (by decide)) v.toNat_lt

def PrefixLen.print (len : ℕ) (h : len ≤ 128) : PrefixLen :=
  Numeral.print len (by decide) (h.trans_lt (by decide)) (Nat.lt_succ_of_le h)

@[simp] lemma Group.part_print (v : UInt16) : Group.part (.print v) = v := by
  rw [Group.part, Group.print, Numeral.value_print]
  exact UInt16.ofNat_toNat

/-- The four numbers of an IPv4 address as they are printed. -/
def Quad.print (a b c d : UInt8) : Quad := ⟨.print a, .print b, .print c, .print d⟩

lemma Quad.octets_print (a b c d : UInt8) : (Quad.print a b c d).octets = [a, b, c, d] := by
  simp [Quad.octets, Quad.print, Octet.print]

end Parser

/-! ### Addresses -/

open Smoltcp.Parser

/-- The numbers of 16 bits in some octets. -/
def toU16s : List UInt8 → List UInt16
  | hi :: lo :: l => Octets.toU16 hi lo :: toU16s l
  | _ => []

/-- The eight segments of an address. -/
def Ipv6.segments (addr : Address) : List UInt16 := toU16s (octets addr)

/-- Four octets with points between them. -/
def displayOctets (octets : List UInt8) : List UInt8 :=
  [dot].intercalate (octets.map fun octet => print false octet.toNat)

def Ipv4.display (addr : Address) : List UInt8 := displayOctets (octets addr)

/-- A part of an address with colons between the segments. -/
def fmtSubslice (chunk : List UInt16) : List UInt8 :=
  [colon].intercalate (chunk.map fun segment => print true segment.toNat)

def Ipv6.display (addr : Address) : List UInt8 :=
  let segments := segments addr
  if segments.take 6 = [0, 0, 0, 0, 0, 0xffff] then
    colon :: colon :: (print true 0xffff ++ colon :: displayOctets ((octets addr).drop 12))
  else
    let zeroes := Span.longestRun (· = 0) segments
    if 1 < zeroes.len then
      fmtSubslice (segments.take zeroes.start) ++ colon :: colon ::
        fmtSubslice (segments.drop (zeroes.start + zeroes.len))
    else fmtSubslice segments

def IpAddress.display : IpAddress → List UInt8
  | .ipv4 addr => Ipv4.display addr
  | .ipv6 addr => Ipv6.display addr

def Ipv4.Cidr.display (cidr : Cidr) : List UInt8 :=
  Ipv4.display cidr.address ++ slash :: print false cidr.prefixLen

def Ipv6.Cidr.display (cidr : Cidr) : List UInt8 :=
  Ipv6.display cidr.address ++ slash :: print false cidr.prefixLen

def IpCidr.display : IpCidr → List UInt8
  | .ipv4 cidr => cidr.display
  | .ipv6 cidr => cidr.display

def IpEndpoint.display (endpoint : IpEndpoint) : List UInt8 :=
  endpoint.addr.display ++ colon :: print false endpoint.port.toNat

/-! ### Segments -/

section Segments

variable {parts : List UInt16}

lemma toU16s_flatMap (parts : List UInt16) :
    toU16s (parts.flatMap Octets.ofU16) = parts := by
  induction parts with
  | nil => rfl
  | cons v parts ih =>
    rw [List.flatMap_cons, Octets.ofU16, List.cons_append, List.cons_append, List.nil_append,
      toU16s, Octets.toU16_ofNat, ih]

lemma flatMap_toU16s (n : ℕ) (l : List UInt8) (h : l.length = 2 * n) :
    (toU16s l).flatMap Octets.ofU16 = l := by
  induction n generalizing l with
  | zero =>
    obtain rfl := List.length_eq_zero_iff.mp h
    rfl
  | succ n ih =>
    obtain ⟨hi, l, rfl⟩ := List.exists_cons_of_length_eq_add_one h
    obtain ⟨lo, l, rfl⟩ := List.exists_cons_of_length_eq_add_one (Nat.succ.inj h)
    rw [toU16s, List.flatMap_cons, Octets.ofU16_toU16,
      ih l (Nat.succ.inj (Nat.succ.inj h))]
    rfl

lemma length_toU16s (n : ℕ) (l : List UInt8) (h : l.length = 2 * n) :
    (toU16s l).length = n := by
  have hlen := congrArg List.length (flatMap_toU16s n l h)
  rw [List.length_flatMap, h] at hlen
  simp at hlen
  omega

@[simp] lemma Ipv6.length_segments (addr : Address) : (segments addr).length = 8 :=
  length_toU16s 8 _ (Octets.length_ofU128 addr)

@[simp] lemma Ipv6.ofSegments_segments (addr : Address) : ofSegments (segments addr) = addr := by
  rw [ofSegments, segments, octets, flatMap_toU16s 8 _ (Octets.length_ofU128 addr),
    Octets.toU128_ofU128]

lemma Ipv6.segments_ofSegments (h : parts.length = 8) : segments (ofSegments parts) = parts := by
  have hlen : (parts.flatMap Octets.ofU16).length = 16 := by
    simp [List.length_flatMap, h]
  rw [segments, octets, ofSegments, Octets.ofU128_toU128 hlen, toU16s_flatMap]

end Segments

/-! ### Printed addresses -/

namespace Parser

open Outcome

section Printed

variable {text : List UInt8} {parts : List UInt16} {hd tl gs : List Group} {q : Quad}

lemma displayOctets_eq (a b c d : UInt8) :
    displayOctets [a, b, c, d] = (Quad.print a b c d).text := by
  simp [displayOctets, Quad.text, Quad.print, Octet.print, Numeral.print]

lemma fmtSubslice_eq (chunk : List UInt16) : fmtSubslice chunk = groupsText (chunk.map .print) := by
  rw [fmtSubslice, groupsText, List.map_map]
  rfl

@[simp] lemma values_print (chunk : List UInt16) : values (chunk.map .print) = chunk := by
  rw [values, List.map_map]
  conv_rhs => rw [← List.map_id chunk]
  exact List.map_congr_left fun v _ => Group.part_print v

lemma exists_display (addr : Ipv4.Address) : ∃ q : Quad, Ipv4.display addr = q.text ∧
    BitVec.ofNat 32 (Octets.toNatBE q.octets) = addr := by
  refine ⟨Quad.print _ _ _ _, displayOctets_eq _ _ _ _, ?_⟩
  have hlt := addr.isLt
  apply BitVec.eq_of_toNat_eq
  rw [Quad.octets_print, BitVec.toNat_ofNat]
  simp only [Octets.toNatBE, List.foldl_cons, List.foldl_nil, UInt8.toNat_ofNat']
  omega

lemma acceptIpv4_display (addr : Ipv4.Address) {rest : List UInt8} (hrest : NoDigit false rest) :
    acceptIpv4 (Ipv4.display addr ++ rest) = .ok (addr, rest) := by
  obtain ⟨q, htext, haddr⟩ := exists_display addr
  rw [htext, acceptIpv4, bind_of_eq (acceptIpv4Octets_of q (.inr hrest)), haddr]
  rfl

lemma drop_toU16s (n : ℕ) (l : List UInt8) : (toU16s l).drop n = toU16s (l.drop (2 * n)) := by
  induction n generalizing l with
  | zero => rfl
  | succ n ih =>
    match l with
    | [] => simp [toU16s]
    | [octet] =>
      have hnil : [octet].drop (2 * (n + 1)) = [] := by
        rw [List.drop_eq_nil_iff, List.length_singleton]
        omega
      rw [hnil]
      rfl
    | hi :: lo :: l =>
      rw [toU16s, List.drop_succ_cons, ih]
      rfl

/-- The text of an address with its segments: without brackets, in lower case, the first of the
longest runs of zeros left out, and the end in decimal for an IPv4-mapped address. -/
inductive Printed : List UInt8 → List UInt16 → Prop where
  | mapped (q : Quad) :
      Printed (colon :: colon :: ((Group.print 0xffff).digits ++ colon :: q.text))
        (gapped [] (0xffff :: q.parts))
  | run {hd tl : List Group} (hlen : hd.length + tl.length ≤ 6)
      (hlongest : Span.IsLongest (· = 0) (gapped (values hd) (values tl)) 8
        ⟨hd.length, 8 - (hd.length + tl.length)⟩) :
      Printed (groupsText hd ++ colon :: colon :: groupsText tl) (gapped (values hd) (values tl))
  | full {gs : List Group} (hlen : gs.length = 8)
      (hnone : ∀ s : Span, 1 < s.len → ¬ s.IsRun (· = 0) (values gs)) :
      Printed (groupsText gs) (values gs)

theorem printed_display (addr : Ipv6.Address) :
    Printed (Ipv6.display addr) (Ipv6.segments addr) := by
  unfold Ipv6.display
  dsimp only
  split_ifs with hmapped hzeroes
  · -- the last four octets are those of the IPv4 address
    have hlen : ((Ipv6.octets addr).drop 12).length = 4 := by
      rw [List.length_drop, Ipv6.octets, Octets.length_ofU128]
    obtain ⟨a, b, c, d, hoctets⟩ := List.length_eq_four.mp hlen
    have hdrop : (Ipv6.segments addr).drop 6 = (Quad.print a b c d).parts := by
      rw [Ipv6.segments, drop_toU16s, hoctets, Quad.parts, Quad.octets_print]
      rfl
    have hsegments : Ipv6.segments addr = gapped [] (0xffff :: (Quad.print a b c d).parts) := by
      rw [← List.take_append_drop 6 (Ipv6.segments addr), hmapped, hdrop]
      rfl
    rw [hsegments, hoctets, displayOctets_eq]
    exact .mapped _
  all_goals
    have hlongest := Span.isLongest_longestRun (· = 0) (Ipv6.segments addr)
    rw [Ipv6.length_segments] at hlongest
    have hle := hlongest.le
    generalize Span.longestRun (· = 0) (Ipv6.segments addr) = zeroes at *
  · have hsplit := hlongest.isRun.eq_append
    have hstart : ((Ipv6.segments addr).take zeroes.start).length = zeroes.start := by
      rw [List.length_take, Ipv6.length_segments]
      omega
    have hend : ((Ipv6.segments addr).drop (zeroes.start + zeroes.len)).length =
        8 - (zeroes.start + zeroes.len) := by
      rw [List.length_drop, Ipv6.length_segments]
    rw [fmtSubslice_eq, fmtSubslice_eq]
    generalize (Ipv6.segments addr).take zeroes.start = hd at *
    generalize (Ipv6.segments addr).drop (zeroes.start + zeroes.len) = tl at *
    have hgap : Ipv6.segments addr = gapped (values (hd.map .print)) (values (tl.map .print)) := by
      rw [values_print, values_print, gapped, hstart, hend,
        show 8 - (zeroes.start + (8 - (zeroes.start + zeroes.len))) = zeroes.len by omega]
      exact hsplit
    rw [hgap] at hlongest ⊢
    refine .run ?_ ?_
    · rw [List.length_map, List.length_map]
      omega
    · rw [List.length_map, List.length_map, hstart, hend,
        show 8 - (zeroes.start + (8 - (zeroes.start + zeroes.len))) = zeroes.len by omega]
      exact hlongest
  · rw [fmtSubslice_eq]
    have hprinted := @Printed.full ((Ipv6.segments addr).map .print) (by simp) ?_
    · rwa [values_print] at hprinted
    · rw [values_print]
      intro s hs hrun
      have hfirst := hlongest.first s (by omega) hrun
        ((hrun.length_le (by omega)).trans_eq (Ipv6.length_segments addr))
      omega

/-- What is printed for an address is taken for that address. -/
lemma Printed.accepted (h : Printed text parts) : Accepted text parts := by
  cases h with
  | mapped q =>
    have htail := @Tail.mapped [] (.print 0xffff) q [] (by simp [values]) (Group.part_print 0xffff)
    have haccepted := @Accepted.gap [] _ _ htail (Nat.zero_le 6) (by simp [Quad.parts, values])
      (by simp [Quad.parts, values])
    simpa [groupsBehind, groupsText, values] using haccepted
  | run hlen hlongest =>
    exact .gap (.groups _) (by omega) (by rw [length_values]; omega) (by rw [length_values]; omega)
  | full hlen hnone => exact .full hlen

lemma Accepted.length_eq (h : Accepted text parts) : parts.length = 8 := by
  have hgap (hs ts : List UInt16) (hle : hs.length + ts.length ≤ 8) :
      (gapped hs ts).length = 8 := by
    rw [gapped, List.length_append, List.length_append, List.length_replicate]
    omega
  cases h with
  | full hlen => rw [length_values, hlen]
  | mapped hm =>
    rw [List.length_append, hm]
    rfl
  | gap htl hhd hts hsum => exact hgap _ _ (by rwa [length_values])
  | third htl hne hne' hhd hts hsum => exact hgap _ _ (by rwa [length_values])

/-- A text is taken for one address only. -/
lemma Accepted.unique {parts' : List UInt16} (h : Accepted text parts) (h' : Accepted text parts') :
    parts = parts' := by
  have hok := fromStr_eq_ipv6.mpr ⟨parts, h, rfl⟩
  have hok' := fromStr_eq_ipv6.mpr ⟨parts', h', rfl⟩
  rw [hok'] at hok
  have haddr := IpAddress.ipv6.inj (Except.ok.inj hok)
  have hsegments := congrArg Ipv6.segments haddr
  rw [Ipv6.segments_ofSegments h.length_eq, Ipv6.segments_ofSegments h'.length_eq] at hsegments
  exact hsegments.symm

/-! ### Endpoints -/

/-- The address ends in two or more zero segments behind another segment, and there are never as
many zero segments in a row in front of that. -/
def EndsInZeros (parts : List UInt16) : Prop :=
  ∃ front g n, parts = front ++ g :: List.replicate n 0 ∧ g ≠ 0 ∧ 2 ≤ n ∧
    ¬ List.replicate n 0 <:+: front

lemma isRun_gapped (hd tl : List UInt16) : Span.IsRun (· = 0) (gapped hd tl)
    ⟨hd.length, 8 - (hd.length + tl.length)⟩ := Span.isRun_append hd tl _ 0

/-- The zeros at the end are what is left out of the text. -/
lemma endsInZeros_gapped {hd tl : List UInt16} (hlen : hd.length + tl.length ≤ 6)
    (hlongest : Span.IsLongest (· = 0) (gapped hd tl) 8
      ⟨hd.length, 8 - (hd.length + tl.length)⟩) :
    EndsInZeros (gapped hd tl) ↔ tl = [] ∧ hd ≠ [] := by
  have hgap : (gapped hd tl).length = 8 := by
    rw [gapped, List.length_append, List.length_append, List.length_replicate]
    omega
  constructor
  · rintro ⟨front, g, n, hparts, hg, hn, hfront⟩
    have hlength : front.length + (n + 1) = 8 := by
      rw [← hgap, hparts, List.length_append, List.length_cons, List.length_replicate]
    -- the zeros at the end are a run, and the longest run is not in front of them
    have hrun : Span.IsRun (· = 0) (gapped hd tl) ⟨front.length + 1, n⟩ := by
      have happend := Span.isRun_append (front ++ [g]) [] n (0 : UInt16)
      rwa [List.append_nil, List.append_assoc, List.singleton_append, ← hparts,
        List.length_append, List.length_singleton] at happend
    have hmost := hlongest.first _ (show 0 < n by omega) hrun
      (show front.length + 1 + n ≤ 8 by omega)
    dsimp only at hmost
    have hnot : ¬ (hd.length ≤ front.length ∧ front.length < 8 - tl.length) := by
      rintro ⟨hle, hlt⟩
      have hzero := Span.getElem?_of_isRun (isRun_gapped hd tl) (i := front.length)
        (by rw [Span.mem_iff]; dsimp only; omega)
      rw [hparts, List.getElem?_append_right le_rfl, Nat.sub_self] at hzero
      exact hg (Option.some.inj hzero)
    by_cases hle : hd.length ≤ front.length
    · exfalso
      refine hfront ?_
      have hinfront : Span.IsRun (· = 0) front ⟨hd.length, n⟩ := by
        intro i hi
        rw [Span.mem_iff] at hi
        dsimp only at hi
        have hzero := Span.getElem?_of_isRun (isRun_gapped hd tl) (i := i)
          (by rw [Span.mem_iff]; dsimp only; omega)
        rw [hparts, List.getElem?_append_left (by omega)] at hzero
        exact ⟨0, hzero, rfl⟩
      rw [hinfront.eq_append]
      exact List.infix_append _ _ _
    · refine ⟨List.length_eq_zero_iff.mp (by omega), ?_⟩
      rintro rfl
      exact hle (Nat.zero_le _)
  · rintro ⟨rfl, hne⟩
    obtain ⟨front, g, rfl⟩ := (List.eq_nil_or_concat' hd).resolve_left hne
    rw [List.length_append, List.length_singleton] at hlen hlongest
    have hparts : gapped (front ++ [g]) [] =
        front ++ g :: List.replicate (8 - (front.length + 1 + 0)) 0 := by
      rw [gapped, List.append_nil, List.append_assoc, List.length_append]
      rfl
    refine ⟨front, g, _, hparts, ?_, by omega, ?_⟩
    · rintro rfl
      have hlonger := Span.isRun_append front [] (8 - front.length) (0 : UInt16)
      have hreplicate : List.replicate (8 - front.length) (0 : UInt16) =
          0 :: List.replicate (8 - (front.length + 1 + 0)) 0 := by
        rw [← List.replicate_succ]
        congr 1
        omega
      rw [List.append_nil, hreplicate, ← hparts] at hlonger
      have hmost := hlongest.first _ (show 0 < 8 - front.length by omega) hlonger
        (show front.length + (8 - front.length) ≤ 8 by omega)
      dsimp only at hmost
      omega
    · rintro ⟨s, t, hjoin⟩
      have hrun := Span.isRun_append s t (8 - (front.length + 1 + 0)) (0 : UInt16)
      rw [hjoin] at hrun
      have hle := hrun.length_le (show 0 < 8 - (front.length + 1 + 0) by omega)
      have hall := hrun.append (g :: List.replicate (8 - (front.length + 1 + 0)) 0)
      rw [← hparts] at hall
      dsimp only at hle
      have hmost := hlongest.first _ (show 0 < 8 - (front.length + 1 + 0) by omega) hall
        (show s.length + (8 - (front.length + 1 + 0)) ≤ 8 by omega)
      dsimp only at hmost
      omega

lemma Printed.not_full_endsInZeros (hnone : ∀ s : Span, 1 < s.len → ¬ s.IsRun (· = 0) parts) :
    ¬ EndsInZeros parts := by
  rintro ⟨front, g, n, rfl, -, hn, -⟩
  have hrun := Span.isRun_append (front ++ [g]) [] n (0 : UInt16)
  rw [List.append_nil, List.append_assoc, List.singleton_append] at hrun
  exact hnone ⟨_, n⟩ hn hrun

lemma not_mapped_endsInZeros (q : Quad) : ¬ EndsInZeros (gapped [] (0xffff :: q.parts)) := by
  rintro ⟨front, g, n, hparts, -, hn, hfront⟩
  have hlen := congrArg List.length hparts
  rw [List.length_append, List.length_cons, List.length_replicate] at hlen
  have height : (gapped [] (0xffff :: q.parts)).length = 8 := rfl
  by_cases htwo : n = 2
  · subst htwo
    have hfive : front.length = 5 := by omega
    have htake := congrArg (List.take 5) hparts
    rw [List.take_left' hfive] at htake
    refine hfront ?_
    rw [← htake]
    exact ⟨[], [0, 0, 0], rfl⟩
  · have hget := congrArg (fun l => l[5]?) hparts
    rw [List.getElem?_append_right (by omega), List.getElem?_cons, if_neg (by omega),
      List.getElem?_replicate_of_lt (by omega)] at hget
    cases hget

/-- The fields of a text without a double colon are those of eight parts. -/
lemma Accepted.fieldsLen_eq (h : Accepted text parts) (hnil : [] ∉ fields text) :
    fieldsLen (fields text) = 8 := by
  cases h with
  | full hlen => rw [fieldsLen_groups, hlen]
  | mapped hm =>
    have hlen := congrArg List.length hm
    rw [length_values, List.length_cons] at hlen
    rw [fields_cons, fields_quad, fieldsLen_append, fieldsLen_groups, hlen]
    simp [fieldsLen, fieldLen_quad]
  | gap htl hhd hts hsum =>
    rw [fields_double] at hnil
    exact absurd (List.mem_append_right _ List.mem_cons_self) hnil
  | third htl hne hne' hhd hts hsum =>
    rw [fields_double] at hnil
    exact absurd (List.mem_append_right _ List.mem_cons_self) hnil

lemma not_accepted_nine (hlen : gs.length = 9) : ¬ Accepted (groupsText gs) parts := by
  intro h
  have hne : gs ≠ [] := by
    rintro rfl
    cases hlen
  have height := h.fieldsLen_eq fun hmem => hne (nil_mem_groups.mp hmem)
  rw [fieldsLen_groups, hlen] at height
  cases height

lemma not_accepted_colons (g : Group) :
    ¬ Accepted (colon :: colon :: colon :: g.digits) parts := by
  intro h
  have hfields : fields (colon :: colon :: colon :: g.digits) = [[], [], [], g.digits] := by
    have hgroup : fields g.digits = [g.digits] :=
      List.splitOn_eq_singleton (not_mem_digits g rfl)
    rw [← List.nil_append (colon :: colon :: colon :: g.digits), fields_double,
      ← List.nil_append (colon :: g.digits), fields_cons, hgroup]
    rfl
  obtain hnot | ⟨hd, ts, behind, htl, -, -, heq⟩ := h.nil_not_mem_or
  · rw [hfields] at hnot
    exact hnot List.mem_cons_self
  · rw [hfields] at heq
    have hhd : hd = [] := by
      have hhead : (fields (groupsText hd)).head? = some [] := by
        obtain heq | ⟨-, -, heq⟩ := heq
        all_goals
          have hhead := congrArg List.head? heq
          rwa [head?_append_fields, List.head?_cons, eq_comm] at hhead
      exact head?_fields_groups.mp hhead
    subst hhd
    obtain heq | ⟨hne, -⟩ := heq
    · -- a field of the tail is empty, but not all are
      have hbehind : fields behind = [[], g.digits] :=
        (List.cons.inj (List.cons.inj heq).2).2.symm
      have hlen := htl.fieldsLen
      have hnil := htl.nil_mem.mp (by rw [hbehind]; exact List.mem_cons_self)
      rw [hbehind, hnil, fieldsLen_cons, fieldsLen_cons, fieldLen_group] at hlen
      cases hlen
    · exact hne rfl

/-- The longest run is left out, so the first segment behind it is not zero. -/
lemma gapped_concat_ne {hd tl : List UInt16} (hne : tl ≠ []) (hlen : hd.length + tl.length ≤ 6)
    (hlongest : Span.IsLongest (· = 0) (gapped hd tl) 8 ⟨hd.length, 8 - (hd.length + tl.length)⟩) :
    gapped hd tl ≠ gapped hd (tl ++ [0]) := by
  intro heq
  obtain ⟨v, ts, rfl⟩ := List.exists_cons_of_ne_nil hne
  rw [List.length_cons] at hlen hlongest
  obtain ⟨k, hk⟩ : ∃ k, 8 - (hd.length + (ts.length + 1)) = k + 1 :=
    Nat.exists_eq_succ_of_ne_zero (by omega)
  have hk' : 8 - (hd.length + (v :: ts ++ [0]).length) = k := by
    simp only [List.length_append, List.length_cons, List.length_nil]
    omega
  have hgap : gapped hd (v :: ts) = hd ++ List.replicate (k + 1) 0 ++ v :: ts := by
    rw [gapped, List.length_cons, hk]
  have hv : v = 0 := by
    rw [hgap, gapped, hk', List.replicate_succ', List.append_assoc, List.append_assoc,
      List.append_assoc] at heq
    have htail := List.append_cancel_left (List.append_cancel_left heq)
    exact (List.cons.inj htail).1.symm
  subst hv
  have hlonger := Span.isRun_append hd ts (k + 2) (0 : UInt16)
  have hsplit : hd ++ List.replicate (k + 2) 0 ++ ts = gapped hd (0 :: ts) := by
    rw [hgap, List.replicate_succ' (n := k + 1)]
    simp
  rw [hsplit] at hlonger
  have hmost := hlongest.first _ (show 0 < k + 2 by omega) hlonger
    (show hd.length + (k + 2) ≤ 8 by omega)
  dsimp only at hmost
  omega

/-- With a colon and a zero behind it the printed text is only taken for the same address if it ends
in a double colon. -/
lemma Printed.accepted_zero (h : Printed text parts) :
    Accepted (text ++ colon :: (Group.print 0).digits) parts ↔ EndsInZeros parts := by
  cases h with
  | mapped q =>
    refine iff_of_false (fun h => ?_) (not_mapped_endsInZeros q)
    have htail := @Tail.mapped [] (.print 0xffff) q [.print 0] (by simp [values])
      (Group.part_print 0xffff)
    have haccepted := @Accepted.gap [] _ _ htail (Nat.zero_le 6) (by simp [Quad.parts, values])
      (by simp [Quad.parts, values])
    have htext : groupsText [] ++ colon :: colon :: ((Group.print 0xffff).digits ++
        colon :: (q.text ++ groupsBehind [Group.print 0])) =
        colon :: colon :: ((Group.print 0xffff).digits ++ colon :: q.text) ++
          colon :: (Group.print 0).digits := by
      simp [groupsText, groupsBehind]
    rw [htext] at haccepted
    have heq := congrArg (fun l => l[4]?) (h.unique haccepted)
    simp [gapped, Quad.parts, values] at heq
  | @run hd tl hlen hlongest =>
    rw [← length_values hd, ← length_values tl] at hlongest
    rw [endsInZeros_gapped (by rwa [length_values, length_values]) hlongest, values, values,
      List.map_eq_nil_iff, Ne, List.map_eq_nil_iff, ← values, ← values]
    by_cases htl : tl = []
    · subst htl
      have htext : groupsText hd ++ colon :: colon :: groupsText [] ++
          colon :: (Group.print 0).digits =
          groupsText hd ++ colon :: colon :: colon :: groupsText [Group.print 0] := by
        simp [groupsText]
      rw [htext]
      by_cases hhd : hd = []
      · subst hhd
        refine iff_of_false (fun h => ?_) fun h => h.2 rfl
        simp only [groupsText, List.map_nil, List.map_singleton, List.intercalate_singleton] at h
        exact not_accepted_colons (Group.print 0) h
      · refine iff_of_true ?_ ⟨rfl, hhd⟩
        have haccepted := Accepted.third (.groups [Group.print 0]) hhd (List.cons_ne_nil _ _)
          (by simpa using hlen) (by simp [values]) (by simp [values] at hlen ⊢; omega)
        have hparts : gapped (values hd) (values [Group.print 0]) =
          gapped (values hd) (values []) := by
          have hsucc : 8 - (values hd).length = 7 - (values hd).length + 1 := by
            rw [length_values]
            simp at hlen
            omega
          have hone : values [Group.print 0] = [0] := by simp [values]
          have hzero : values [] = [] := rfl
          rw [hone, hzero, gapped, gapped, List.length_nil, List.append_nil, Nat.add_zero, hsucc,
            List.replicate_succ', List.append_assoc, List.length_singleton,
            show 8 - ((values hd).length + 1) = 7 - (values hd).length by omega]
        rwa [hparts] at haccepted
    · refine iff_of_false (fun h => ?_) fun h => htl h.1
      have htext : groupsText hd ++ colon :: colon :: groupsText tl ++
          colon :: (Group.print 0).digits =
          groupsText hd ++ colon :: colon :: groupsText (tl ++ [Group.print 0]) := by
        rw [groupsText_concat htl]
        simp
      rw [htext] at h
      by_cases hsix : tl.length = 6
      · obtain rfl : hd = [] := List.length_eq_zero_iff.mp (by omega)
        exact not_accepted_first (by rw [List.length_append, hsix]; rfl) h
      · have hvalues : values (tl ++ [Group.print 0]) = values tl ++ [0] := by simp [values]
        have haccepted := @Accepted.gap hd _ _ (.groups (tl ++ [Group.print 0])) (by omega)
          (by rw [length_values, List.length_append, List.length_singleton]; omega)
          (by rw [length_values, List.length_append, List.length_singleton]; omega)
        rw [hvalues] at haccepted
        refine gapped_concat_ne ?_ (by rwa [length_values, length_values]) hlongest
          (h.unique haccepted)
        simpa [values] using htl
  | @full gs hlen hnone =>
    refine iff_of_false (fun h => ?_) (Printed.not_full_endsInZeros hnone)
    have hne : gs ≠ [] := by
      rintro rfl
      cases hlen
    rw [← groupsText_concat hne] at h
    exact not_accepted_nine (by rw [List.length_append, hlen]; rfl) h

end Printed

/-! ### Reading back -/

section ReadingBack

variable {text rest : List UInt8} {e : IpEndpoint}

lemma noDigit_nil (hex : Bool) : NoDigit hex [] := by
  rintro chr ⟨⟩

lemma head?_groups (gs : List Group) (behind : List UInt8) :
    (groupsText gs ++ colon :: behind).head? ≠ some openBracket := by
  cases gs with
  | nil =>
    rintro ⟨⟩
  | cons g gs =>
    rw [groupsText_cons, List.append_assoc]
    obtain ⟨chr, digits, hdigits⟩ := List.exists_cons_of_ne_nil g.ne_nil
    rw [hdigits]
    intro h
    have hdigit :=
      g.isDigit openBracket (by rw [hdigits, ← Option.some.inj h]; exact List.mem_cons_self)
    cases hdigit

/-- An endpoint that is no IPv4 endpoint and has no brackets is an address. -/
lemma endpoint_fromStr_eq_ok (hipv4 : acceptIpv4Endpoint text = fail)
    (hopen : text.head? ≠ some openBracket) :
    IpEndpoint.fromStr text = .ok e ↔
      ∃ parts, Accepted text parts ∧ e = ⟨.ipv6 (Ipv6.ofSegments parts), 0⟩ := by
  have hstops : Stops [] := by rintro chr ⟨⟩
  have hiff (a : Ipv6.Address) := @acceptIpv6_eq_ok [] text a hstops
  simp only [List.append_nil] at hiff
  have hipv4Endpoint : tryDo acceptIpv4Endpoint text = .ok (none, text) :=
    tryDo_of_fail hipv4
  have hlook : lookaheadChar openBracket text = .ok (false, text) := by
    rw [lookaheadChar, decide_eq_false hopen]
  have hipv6Endpoint : acceptIpv6Endpoint text =
      (acceptIpv6 >>= fun ip => pure ⟨.ipv6 ip, 0⟩ : Parser IpEndpoint) text := by
    rw [acceptIpv6Endpoint, bind_of_eq hlook]
    rfl
  rw [IpEndpoint.fromStr, untilEof_eq_ok, acceptIpEndpoint, bind_of_eq hipv4Endpoint]
  dsimp only
  constructor
  · intro h
    obtain ⟨r, rest, htry, hreturn⟩ := bind_eq_ok.mp h
    obtain ⟨endpoint, rfl, hok⟩ | ⟨rfl, -, -⟩ := tryDo_eq_ok htry
    · cases hreturn
      rw [hipv6Endpoint] at hok
      obtain ⟨a, rest, haddr, hreturn⟩ := bind_eq_ok.mp hok
      cases hreturn
      obtain ⟨parts, haccepted, rfl⟩ := (hiff a).mp haddr
      exact ⟨parts, haccepted, rfl⟩
    · cases hreturn
  · rintro ⟨parts, haccepted, rfl⟩
    have haddr := (hiff _).mpr ⟨parts, haccepted, rfl⟩
    have hok : acceptIpv6Endpoint text = .ok (⟨.ipv6 (Ipv6.ofSegments parts), 0⟩, []) := by
      rw [hipv6Endpoint, bind_of_eq haddr]
      rfl
    rw [bind_of_eq (tryDo_of_eq hok)]
    rfl

lemma acceptNumber_print {maxDigits maxValue n : ℕ} {hex : Bool} (hpos : 0 < maxDigits)
    (hlen : n < base hex ^ maxDigits) (hlt : n < maxValue) (hrest : NoDigit hex rest) :
    acceptNumber maxDigits maxValue hex (print hex n ++ rest) = .ok (n, rest) := by
  have hnumber := @acceptNumber_of rest hex maxDigits maxValue (.print n hpos hlen hlt) (.inr hrest)
  rwa [Numeral.value_print] at hnumber

lemma head?_display (addr : Ipv4.Address) (rest : List UInt8) :
    (Ipv4.display addr ++ rest).head? ≠ some openBracket := by
  obtain ⟨q, hq, -⟩ := exists_display addr
  rw [hq, Quad.text, List.append_assoc]
  obtain ⟨chr, digits, hdigits⟩ := List.exists_cons_of_ne_nil q.a.ne_nil
  rw [hdigits]
  intro h
  have hdigit := q.a.isDigit openBracket (by
    rw [hdigits, ← Option.some.inj h]
    exact List.mem_cons_self)
  cases hdigit

/-- An IPv4 endpoint is read back unless the port is the last one. -/
lemma ipv4Endpoint_fromStr (addr : Ipv4.Address) (port : UInt16) :
    IpEndpoint.fromStr (IpEndpoint.display ⟨.ipv4 addr, port⟩) = .ok ⟨.ipv4 addr, port⟩ ↔
      port ≠ 65535 := by
  have haddr := @acceptIpv4_display addr (colon :: print false port.toNat) (noDigit_cons rfl)
  have heof : tryDo acceptEof (colon :: print false port.toNat) =
      .ok (none, colon :: print false port.toNat) := rfl
  constructor
  · rintro h rfl
    have hfail : acceptIpv4Endpoint (Ipv4.display addr ++ colon :: print false 65535) = fail := by
      have hprint : print false 65535 = [54, 53, 53, 51, 53] := by decide
      rw [acceptIpv4Endpoint]
      refine (bind_of_eq haddr).trans ((bind_of_eq heof).trans ?_)
      dsimp only
      refine (bind_of_eq (acceptChar_of _ _)).trans (bind_of_fail ?_)
      change acceptNumber 5 65535 false (print false 65535) = fail
      rw [hprint]
      rfl
    obtain ⟨parts, haccepted, -⟩ :=
      (endpoint_fromStr_eq_ok hfail (head?_display addr _)).mp h
    have hnone := haccepted.acceptIpv4 []
    rw [List.append_nil] at hnone
    exact Outcome.fail_ne_ok (hnone.symm.trans haddr)
  · intro hne
    have hlt : port.toNat < 65535 := by
      have hle := port.toNat_lt
      have hne : port.toNat ≠ 65535 := fun h => hne (UInt16.toNat.inj h)
      omega
    have hport := @acceptNumber_print [] 5 65535 port.toNat false (by decide)
      (hlt.trans (by decide)) hlt (noDigit_nil false)
    rw [List.append_nil] at hport
    have hok : acceptIpv4Endpoint (Ipv4.display addr ++ colon :: print false port.toNat) =
        .ok (⟨.ipv4 addr, port⟩, []) := by
      rw [acceptIpv4Endpoint]
      refine (bind_of_eq haddr).trans ((bind_of_eq heof).trans ?_)
      dsimp only
      refine (bind_of_eq (acceptChar_of _ _)).trans ((bind_of_eq hport).trans ?_)
      rw [UInt16.ofNat_toNat]
      rfl
    rw [IpEndpoint.fromStr, untilEof_eq_ok, acceptIpEndpoint]
    exact bind_of_eq (tryDo_of_eq hok)

/-- An IPv6 endpoint is only read back if the port is 0 and the address ends in a double colon. -/
lemma ipv6Endpoint_fromStr (addr : Ipv6.Address) (port : UInt16) :
    IpEndpoint.fromStr (IpEndpoint.display ⟨.ipv6 addr, port⟩) = .ok ⟨.ipv6 addr, port⟩ ↔
      port = 0 ∧ EndsInZeros (Ipv6.segments addr) := by
  have hprinted := printed_display addr
  have hiff (e : IpEndpoint) :
      IpEndpoint.fromStr (Ipv6.display addr ++ colon :: print false port.toNat) = .ok e ↔
        ∃ parts, Accepted (Ipv6.display addr ++ colon :: print false port.toNat) parts ∧
          e = ⟨.ipv6 (Ipv6.ofSegments parts), 0⟩ := by
    obtain ⟨gs, behind, htext⟩ := hprinted.accepted.exists_colon
    have hfront : Ipv6.display addr ++ colon :: print false port.toNat =
        groupsText gs ++ colon :: (behind ++ colon :: print false port.toNat) := by
      rw [htext, List.append_assoc, List.cons_append]
    refine endpoint_fromStr_eq_ok ?_ ?_
    · rw [hfront]
      exact bind_of_fail (acceptIpv4_fail (acceptIpv4Octets_groups gs _))
    · rw [hfront]
      exact head?_groups gs _
  have hzero : print false (0 : UInt16).toNat = (Group.print 0).digits := rfl
  rw [IpEndpoint.display, IpAddress.display, hiff]
  constructor
  · rintro ⟨parts, haccepted, heq⟩
    obtain ⟨haddr, rfl⟩ := IpEndpoint.mk.inj heq
    have hparts : Ipv6.segments addr = parts := by
      rw [IpAddress.ipv6.inj haddr, Ipv6.segments_ofSegments haccepted.length_eq]
    rw [hzero, ← hparts] at haccepted
    exact ⟨rfl, hprinted.accepted_zero.mp haccepted⟩
  · rintro ⟨rfl, hends⟩
    refine ⟨_, ?_, congrArg (IpEndpoint.mk · 0) (congrArg IpAddress.ipv6
      (Ipv6.ofSegments_segments addr).symm)⟩
    rw [hzero]
    exact hprinted.accepted_zero.mpr hends

lemma ipv4Cidr_fromStr (cidr : Ipv4.Cidr) : Ipv4.Cidr.fromStr cidr.display = .ok cidr := by
  have haddr := @acceptIpv4_display cidr.address (slash :: print false cidr.prefixLen)
    (noDigit_cons rfl)
  have hle := cidr.prefixLen_le
  have hlen := @acceptNumber_print [] 2 33 cidr.prefixLen false (by decide)
    (hle.trans_lt (by decide)) (Nat.lt_succ_of_le hle) (noDigit_nil false)
  rw [List.append_nil] at hlen
  rw [Ipv4.Cidr.fromStr, untilEof_eq_ok, Ipv4.Cidr.display, bind_of_eq haddr,
    bind_of_eq (acceptChar_of _ _), bind_of_eq hlen, lift, Ipv4.Cidr.new, dif_pos hle]
  rfl

lemma ipv6Cidr_fromStr (cidr : Ipv6.Cidr) : IpCidr.fromStr cidr.display = .ok (.ipv6 cidr) := by
  have haccepted := (printed_display cidr.address).accepted
  have htext : cidr.display =
      blockText (Ipv6.display cidr.address) (.print cidr.prefixLen cidr.prefixLen_le) := rfl
  have hipv4 : Ipv4.Cidr.fromStr cidr.display = fail := by
    rw [Ipv4.Cidr.fromStr, untilEof, Ipv6.Cidr.display, bind_of_fail (haccepted.acceptIpv4 _)]
    rfl
  have hipv6 := cidr_fromStr_of haccepted (.print cidr.prefixLen cidr.prefixLen_le)
  rw [← htext] at hipv6
  rw [IpCidr.fromStr, hipv4]
  change (do return IpCidr.ipv6 (← Ipv6.Cidr.fromStr cidr.display)) = _
  rw [hipv6, ok_bind]
  simp only [Ipv6.ofSegments_segments, PrefixLen.print, Numeral.value_print]
  rfl

end ReadingBack

end Parser

/-- Endpoints that are read back from what is printed for them. -/
def IpEndpoint.ReadsBack : IpEndpoint → Prop
  | ⟨.ipv4 _, port⟩ => port ≠ 65535
  | ⟨.ipv6 addr, port⟩ => port = 0 ∧ EndsInZeros (Ipv6.segments addr)

/-- Every block is read back from what is printed for it, and exactly these endpoints are. -/
theorem display_fromStr :
    (∀ cidr : IpCidr, IpCidr.fromStr cidr.display = .ok cidr) ∧
      ∀ e : IpEndpoint, IpEndpoint.fromStr e.display = .ok e ↔ e.ReadsBack := by
  refine ⟨fun cidr => ?_, fun e => ?_⟩
  · cases cidr with
    | ipv4 cidr =>
      rw [IpCidr.display, IpCidr.fromStr, ipv4Cidr_fromStr]
    | ipv6 cidr => exact ipv6Cidr_fromStr cidr
  · obtain ⟨addr | addr, port⟩ := e
    · exact ipv4Endpoint_fromStr addr port
    · exact ipv6Endpoint_fromStr addr port

end Smoltcp
