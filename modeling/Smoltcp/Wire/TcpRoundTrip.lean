import Smoltcp.Wire.Integrity

/-!
# Segments that are emitted and parsed again

The octets of an option are written by `emit` and read by `parse`, so the loop over options finds
those that were emitted (`parseOptions_octets`), with padding of zeros behind them.
-/

namespace Smoltcp

open Octets Outcome

/-! ### Options -/

namespace TcpOption

/-- The octets of ranges, one behind the other. -/
def rangeOctets (ranges : List (UInt32 × UInt32)) : List UInt8 :=
  ranges.flatMap fun r => ofU32 r.1.toBitVec ++ ofU32 r.2.toBitVec

/-- The octets of an option. -/
def octets : TcpOption → List UInt8
  | .endOfList => [0x00]
  | .noOperation => [0x01]
  | .maxSegmentSize value => [0x02, 4] ++ ofU16 value
  | .windowScale value => [0x03, 3, value]
  | .sackPermitted => [0x04, 2]
  | .sackRange ranges =>
    [0x05, .ofNat (TcpOption.sackRange ranges).bufferLen] ++
      rangeOctets (ranges.toList.filterMap id)
  | .timeStamp tsval tsecr => [0x08, 10] ++ ofU32 tsval.toBitVec ++ ofU32 tsecr.toBitVec
  | .unknown kind data => [kind, .ofNat (2 + data.length)] ++ data

/-- The options that are emitted into a header. -/
inductive Emitted : TcpOption → Prop where
  | maxSegmentSize (value : UInt16) : Emitted (.maxSegmentSize value)
  | windowScale (value : UInt8) : Emitted (.windowScale value)
  | sackPermitted : Emitted .sackPermitted
  | one (a : UInt32 × UInt32) : Emitted (.sackRange #v[some a, none, none])
  | two (a b : UInt32 × UInt32) : Emitted (.sackRange #v[some a, some b, none])
  | three (a b c : UInt32 × UInt32) : Emitted (.sackRange #v[some a, some b, some c])
  | timeStamp (tsval tsecr : UInt32) : Emitted (.timeStamp tsval tsecr)

lemma length_rangeOctets (ranges : List (UInt32 × UInt32)) :
    (rangeOctets ranges).length = 8 * ranges.length := by
  induction ranges with
  | nil => rfl
  | cons r ranges ih =>
    simp only [rangeOctets, List.flatMap_cons, List.length_append, length_ofU32,
      List.length_cons] at ih ⊢
    omega

lemma length_octets_sackRange {ranges : SackRanges}
    (hcount : (ranges.toList.filter Option.isSome).length = (ranges.toList.filterMap id).length) :
    (sackRange ranges).octets.length = (sackRange ranges).bufferLen := by
  rw [octets, List.length_append, length_rangeOctets, bufferLen, hcount, List.length_cons,
    List.length_singleton]
  omega

lemma Emitted.length_octets {option : TcpOption} (h : Emitted option) :
    option.octets.length = option.bufferLen := by
  cases h with
  | one a => exact length_octets_sackRange rfl
  | two a b => exact length_octets_sackRange rfl
  | three a b c => exact length_octets_sackRange rfl
  | _ => rfl

lemma Emitted.octets_ne_nil {option : TcpOption} (h : Emitted option) : option.octets ≠ [] := by
  cases h <;> exact List.cons_ne_nil _ _

lemma Emitted.ne_endOfList {option : TcpOption} (h : Emitted option) : option ≠ .endOfList := by
  cases h <;> nofun

lemma emitRanges_append {s : List (UInt32 × UInt32)} {l m r : List UInt8} {n : ℕ}
    (hn : l.length = n) (hm : m.length = 8 * s.length) :
    emitRanges (l ++ m ++ r) n s = .ok (l ++ rangeOctets s ++ r) := by
  induction s generalizing l m n with
  | nil =>
    obtain rfl : m = [] := List.length_eq_zero_iff.mp hm
    rfl
  | cons a s ih =>
    have hsplit : m = m.take 4 ++ ((m.drop 4).take 4 ++ m.drop 8) := by
      rw [← List.drop_drop (i := 4) (j := 4), List.take_append_drop, List.take_append_drop]
    simp only [List.length_cons] at hm
    rw [emitRanges, hsplit]
    have hfirst := write_append (l := l) (m := m.take 4) (d := ofU32 a.1.toBitVec)
      (r := (m.drop 4).take 4 ++ (m.drop 8 ++ r)) hn (by simp; omega)
    have hsecond := write_append (l := l ++ ofU32 a.1.toBitVec) (m := (m.drop 4).take 4)
      (d := ofU32 a.2.toBitVec) (r := m.drop 8 ++ r) (n := n + 4) (by simp [hn])
      (by simp; omega)
    have hrest := ih (l := l ++ ofU32 a.1.toBitVec ++ ofU32 a.2.toBitVec) (m := m.drop 8)
      (n := n + 8) (by simp [hn]) (by simp; omega)
    simp only [List.append_assoc] at hfirst hsecond hrest ⊢
    rw [hfirst, ok_bind, hsecond, ok_bind, hrest]
    simp [rangeOctets]

/-- What is written at the front of a buffer behind the two octets of kind and length. -/
lemma emit_of_data {option : TcpOption} {m r : List UInt8} {d : List UInt8} {kind : UInt8}
    (hlen : option.bufferLen = 2 + d.length) (hm : m.length = option.bufferLen)
    (hend : option ≠ .endOfList) (hnop : option ≠ .noOperation)
    (hdata : ∀ a : UInt8, ∀ m' : List UInt8, m'.length = d.length →
      emitData (a :: .ofNat option.bufferLen :: m' ++ r) option =
        .ok (kind :: .ofNat option.bufferLen :: d ++ r)) :
    option.emit (m ++ r) = .ok (kind :: .ofNat option.bufferLen :: d, r) := by
  match m, hm.trans hlen with
  | a :: b :: m', hm' =>
    have hwrite : write (a :: b :: m' ++ r) 1 [.ofNat option.bufferLen] =
        .ok (a :: .ofNat option.bufferLen :: m' ++ r) :=
      write_append (l := [a]) (m := [b]) (r := m' ++ r) rfl rfl
    have hemit : option.emit (a :: b :: m' ++ r) = (do
        let buffer ← write (a :: b :: m' ++ r) 1 [.ofNat option.bufferLen]
        let buffer ← emitData buffer option
        return (buffer.take option.bufferLen, ← sliceFrom buffer option.bufferLen)) := by
      cases option <;> first | rfl | contradiction
    have hlen' : option.bufferLen = (kind :: .ofNat option.bufferLen :: d).length := by
      rw [hlen, List.length_cons, List.length_cons]
      omega
    have hm'' : m'.length = d.length := by
      simp only [List.length_cons] at hm'
      omega
    rw [hemit, hwrite, ok_bind, hdata a m' hm'', ok_bind,
      sliceFrom_of (by rw [List.length_append]; omega), ok_bind, pure_eq_ok]
    rw [List.take_left' hlen'.symm, List.drop_left' hlen'.symm]
  | [_], hm' => simp at hm'; omega
  | [], hm' => simp at hm'; omega

lemma write_kind (a kind : UInt8) (l : List UInt8) : write (a :: l) 0 [kind] = .ok (kind :: l) :=
  write_append (l := []) (m := [a]) (r := l) rfl rfl

lemma write_data (a b : UInt8) {m data rest : List UInt8} (hm : m.length = data.length) :
    write (a :: b :: m ++ rest) 2 data = .ok (a :: b :: data ++ rest) :=
  write_append (l := [a, b]) rfl hm

/-- Ranges are emitted, if their number is that of the filled places. -/
lemma emit_sackRange {ranges : SackRanges} {m rest : List UInt8}
    (hcount : (ranges.toList.filter Option.isSome).length = (ranges.toList.filterMap id).length)
    (hm : m.length = (TcpOption.sackRange ranges).bufferLen) :
    (TcpOption.sackRange ranges).emit (m ++ rest) =
      .ok ((TcpOption.sackRange ranges).octets, rest) := by
  have hlen := length_rangeOctets (ranges.toList.filterMap id)
  refine emit_of_data (d := rangeOctets (ranges.toList.filterMap id)) ?_ hm nofun nofun
    fun a m' hm' => ?_
  · rw [bufferLen, hlen, hcount]
    omega
  · rw [emitData, List.cons_append, write_kind, ok_bind]
    exact emitRanges_append (l := [0x05, _]) rfl (by omega)

/-- An option is emitted as its octets. -/
lemma Emitted.emit_eq {option : TcpOption} (h : Emitted option) {m r : List UInt8}
    (hm : m.length = option.bufferLen) : option.emit (m ++ r) = .ok (option.octets, r) := by
  cases h with
  | maxSegmentSize value =>
    refine emit_of_data (d := ofU16 value) rfl hm nofun nofun fun a m' hm' => ?_
    rw [emitData, List.cons_append, write_kind, ok_bind]
    exact write_data _ _ hm'
  | windowScale value =>
    refine emit_of_data (d := [value]) rfl hm nofun nofun fun a m' hm' => ?_
    rw [emitData, List.cons_append, write_kind, ok_bind]
    exact write_data _ _ hm'
  | sackPermitted =>
    refine emit_of_data (d := []) rfl hm nofun nofun fun a m' hm' => ?_
    obtain rfl : m' = [] := List.length_eq_zero_iff.mp hm'
    exact write_kind _ _ _
  | one a => exact emit_sackRange rfl hm
  | two a b => exact emit_sackRange rfl hm
  | three a b c => exact emit_sackRange rfl hm
  | timeStamp tsval tsecr =>
    refine emit_of_data (d := ofU32 tsval.toBitVec ++ ofU32 tsecr.toBitVec) rfl hm nofun nofun
      fun a m' hm' => ?_
    have hranges := emitRanges_append (s := [(tsval, tsecr)])
      (l := [0x08, .ofNat (TcpOption.timeStamp tsval tsecr).bufferLen]) (r := r) rfl hm'
    rw [emitRanges] at hranges
    rw [emitData, List.cons_append, write_kind, ok_bind]
    simpa [emitRanges, rangeOctets] using hranges

lemma readRange_rangeOctets (ranges : List (UInt32 × UInt32)) (i : ℕ) :
    readRange (rangeOctets ranges) (8 * i) = .ok ranges[i]? := by
  have hlen := length_rangeOctets ranges
  unfold readRange
  by_cases hi : i < ranges.length
  · obtain ⟨r, hr⟩ : ∃ r, ranges[i]? = some r := ⟨_, List.getElem?_eq_getElem hi⟩
    have hsplit : rangeOctets ranges = rangeOctets (ranges.take i) ++ ofU32 r.1.toBitVec ++
        (ofU32 r.2.toBitVec ++ rangeOctets (ranges.drop (i + 1))) := by
      have hcons : ranges = ranges.take i ++ r :: ranges.drop (i + 1) := by
        have hget : ranges[i] = r := by
          rw [List.getElem?_eq_getElem hi] at hr
          exact Option.some.inj hr
        rw [← hget, ← List.drop_eq_getElem_cons hi, List.take_append_drop]
      conv_lhs => rw [hcons]
      simp [rangeOctets]
    have hfirst : (rangeOctets (ranges.take i)).length = 8 * i := by
      rw [length_rangeOctets, List.length_take_of_le (by omega)]
    rw [if_pos (by omega), hr, hsplit, readU32_append hfirst, ok_bind, ← List.append_assoc,
      readU32_append (by simp [hfirst])]
    rfl
  · rw [if_neg (by omega), List.getElem?_eq_none (by omega)]
    rfl

lemma parseData_rangeOctets {ranges : List (UInt32 × UInt32)} (hne : ranges ≠ []) :
    parseData 0x05 (8 * ranges.length + 2) (rangeOctets ranges) =
      .ok (.sackRange #v[ranges[0]?, ranges[1]?, ranges[2]?]) := by
  have hpos := List.length_pos_of_ne_nil hne
  have h0 := readRange_rangeOctets ranges 0
  have h1 := readRange_rangeOctets ranges 1
  have h2 := readRange_rangeOctets ranges 2
  simp only [Nat.mul_zero, Nat.mul_one, Nat.reduceMul] at h0 h1 h2
  change (do
    reject _
    let first ← readRange (rangeOctets ranges) 0
    let second ← readRange (rangeOctets ranges) 8
    let third ← readRange (rangeOctets ranges) 16
    Except.ok (TcpOption.sackRange #v[first, second, third])) = _
  rw [reject_of_not (by omega), ok_bind, h0, ok_bind, h1, ok_bind, h2, ok_bind]

/-- The octets of an option are parsed to what is read from its data. -/
lemma parse_of_data {option : TcpOption} {kind : UInt8} {n : ℕ} {d : List UInt8}
    (hend : kind ≠ 0x00) (hnop : kind ≠ 0x01) (hn : n < 256) (hlen : n = 2 + d.length)
    (hdata : parseData kind n d = .ok option) (rest : List UInt8) :
    parse (kind :: .ofNat n :: d ++ rest) = .ok (rest, option) := by
  have hval : (UInt8.ofNat n).toNat = n := by
    rw [UInt8.toNat_ofNat']
    omega
  have hlen' : n = (kind :: UInt8.ofNat n :: d).length := by
    rw [hlen, List.length_cons, List.length_cons]
    omega
  have hrange : getRange (kind :: .ofNat n :: d ++ rest) 2 n = some d := by
    rw [getRange, if_pos, List.take_left' hlen'.symm]
    · rfl
    · rw [List.length_append]
      omega
  have hhead : parseHead (kind :: .ofNat n :: d ++ rest) = .ok (n, option) := by
    rw [parseHead]
    change (if kind = 0x00 then _ else if kind = 0x01 then _ else _) = _
    rw [if_neg hend, if_neg hnop]
    change (do
      let d ← okOr (getRange (kind :: .ofNat n :: d ++ rest) 2 (UInt8.ofNat n).toNat)
      let option ← parseData kind (UInt8.ofNat n).toNat d
      .ok ((UInt8.ofNat n).toNat, option)) = _
    rw [hval, hrange, okOr, ok_bind, hdata, ok_bind]
  rw [parse, hhead, ok_bind]
  change (do let rest ← sliceFrom (kind :: .ofNat n :: d ++ rest) n; .ok (rest, option)) = _
  rw [sliceFrom_of (by rw [List.length_append]; omega), ok_bind, List.drop_left' hlen'.symm]

/-- The octets of an option are parsed to it. -/
lemma Emitted.parse_octets {option : TcpOption} (h : Emitted option) (rest : List UInt8) :
    parse (option.octets ++ rest) = .ok (rest, option) := by
  cases h with
  | maxSegmentSize value =>
    refine parse_of_data (n := 4) (d := ofU16 value) (by decide) (by decide) (by decide) rfl ?_
      rest
    exact congrArg (Except.ok ∘ TcpOption.maxSegmentSize) (toU16_ofNat value)
  | windowScale value =>
    exact parse_of_data (n := 3) (d := [value]) (by decide) (by decide) (by decide) rfl rfl rest
  | sackPermitted =>
    exact parse_of_data (n := 2) (d := []) (by decide) (by decide) (by decide) rfl rfl rest
  | one a =>
    exact parse_of_data (n := 10) (d := rangeOctets [a]) (by decide) (by decide) (by decide) rfl
      (@parseData_rangeOctets [a] nofun) rest
  | two a b =>
    exact parse_of_data (n := 18) (d := rangeOctets [a, b]) (by decide) (by decide) (by decide)
      rfl (@parseData_rangeOctets [a, b] nofun) rest
  | three a b c =>
    exact parse_of_data (n := 26) (d := rangeOctets [a, b, c]) (by decide) (by decide)
      (by decide) rfl (@parseData_rangeOctets [a, b, c] nofun) rest
  | timeStamp tsval tsecr =>
    refine parse_of_data (n := 10) (d := ofU32 tsval.toBitVec ++ ofU32 tsecr.toBitVec)
      (by decide) (by decide) (by decide) rfl ?_ rest
    have h0 := readU32_append (l := []) (r := ofU32 tsecr.toBitVec) (n := 0) rfl tsval.toBitVec
    have h4 := readU32_append (l := ofU32 tsval.toBitVec) (r := []) (n := 4) rfl tsecr.toBitVec
    rw [List.nil_append] at h0
    rw [List.append_nil] at h4
    change (do
      let val ← Outcome.readU32 (ofU32 tsval.toBitVec ++ ofU32 tsecr.toBitVec) 0
      let ecr ← Outcome.readU32 (ofU32 tsval.toBitVec ++ ofU32 tsecr.toBitVec) 4
      Except.ok (TcpOption.timeStamp (.ofBitVec val) (.ofBitVec ecr))) = _
    rw [h0, ok_bind, h4, ok_bind]

end TcpOption

namespace TcpRepr

/-! ### All options of a segment -/

lemma parseOptions_zeros (n : ℕ) (acc : Options) :
    parseOptions (List.replicate n 0) acc = .ok acc := by
  cases n with
  | zero =>
    rw [parseOptions]
    rfl
  | succ n =>
    have hparse : TcpOption.parse (List.replicate (n + 1) 0) =
        .ok (List.replicate n 0, .endOfList) := by
      have hhead : TcpOption.parseHead (0 :: List.replicate n 0) = .ok (1, .endOfList) := rfl
      have hrest : sliceFrom (0 :: List.replicate n (0 : UInt8)) 1 = .ok (List.replicate n 0) := by
        rw [sliceFrom_of (by simp), List.drop_one, List.tail_cons]
      rw [List.replicate_succ, TcpOption.parse, hhead, ok_bind]
      dsimp only
      rw [hrest]
      rfl
    rw [parseOptions, if_neg (by simp)]
    split
    · simp_all
    · simp_all

/-- The loop takes in all options that were emitted, and ends at the padding. -/
lemma parseOptions_octets {opts : List TcpOption} (h : ∀ o ∈ opts, o.Emitted) (n : ℕ)
    (acc : Options) : parseOptions (opts.flatMap TcpOption.octets ++ List.replicate n 0) acc =
      .ok (opts.foldl Options.take acc) := by
  induction opts generalizing acc with
  | nil => exact parseOptions_zeros n acc
  | cons o opts ih =>
    have ho := h o List.mem_cons_self
    have hparse := ho.parse_octets (opts.flatMap TcpOption.octets ++ List.replicate n 0)
    have hrest := ih (fun p hp => h p (List.mem_cons_of_mem o hp)) (acc.take o)
    rw [List.flatMap_cons, List.append_assoc, parseOptions, if_neg (by simp [ho.octets_ne_nil])]
    split
    · simp_all
    · rename_i next option hok
      rw [hparse] at hok
      cases hok
      rw [if_neg ho.ne_endOfList, hrest, List.foldl_cons]

/-- The octets of an option that may be there. -/
def optionOctets (option : Option TcpOption) : List UInt8 :=
  option.toList.flatMap TcpOption.octets

lemma emitOption_eq {option : Option TcpOption} (h : ∀ o ∈ option, o.Emitted)
    {done options : List UInt8} (hlen : (optionOctets option).length ≤ options.length) :
    emitOption option (done, options) =
      .ok (done ++ optionOctets option, options.drop (optionOctets option).length) := by
  cases option with
  | none => simp [emitOption, optionOctets]
  | some o =>
    have ho := h o rfl
    have hoctets : optionOctets (some o) = o.octets := by simp [optionOctets]
    rw [hoctets] at hlen ⊢
    have hemit := ho.emit_eq (m := options.take o.octets.length)
      (r := options.drop o.octets.length) (by
        rw [List.length_take_of_le hlen, ho.length_octets])
    rw [List.take_append_drop] at hemit
    rw [emitOption, hemit]
    rfl

/-- The options of a segment, in the order they are emitted. -/
def optionList (repr : TcpRepr) : List TcpOption :=
  (repr.maxSegSize.map TcpOption.maxSegmentSize).toList ++
    (repr.windowScale.map TcpOption.windowScale).toList ++ repr.sackOption.toList ++
    (repr.timestamp.map fun ts => TcpOption.timeStamp ts.tsval ts.tsecr).toList

/-- The number of octets of the options. -/
def optionsLen (repr : TcpRepr) : ℕ := (repr.optionList.map TcpOption.bufferLen).sum

/-- The segments that the socket emits: with ports, a window scale of at most 14, selective
acknowledgements without gaps that come with an acknowledgement and not together with the permission
to send them, and options that a header has room for. -/
structure Emittable (repr : TcpRepr) : Prop where
  srcPort_ne : repr.srcPort ≠ 0
  dstPort_ne : repr.dstPort ≠ 0
  windowScale_le : ∀ k ∈ repr.windowScale, k ≤ 14
  packed : ∀ i j : Fin 3, i ≤ j → repr.sackRanges[j].isSome → repr.sackRanges[i].isSome
  acked : ∀ i : Fin 3, repr.sackRanges[i].isSome →
    repr.ackNumber.isSome ∧ repr.sackPermitted = false
  optionsLen_le : repr.optionsLen ≤ 40

/-- Ranges without gaps are none, or they make an option. -/
lemma sackRanges_cases {ranges : SackRanges}
    (h : ∀ i j : Fin 3, i ≤ j → ranges[j].isSome → ranges[i].isSome) :
    ranges = #v[none, none, none] ∨
      (ranges[(0 : Fin 3)].isSome ∧ (TcpOption.sackRange ranges).Emitted) := by
  obtain ⟨a, b, c, rfl⟩ : ∃ a b c, ranges = #v[a, b, c] := by
    refine ⟨ranges[0], ranges[1], ranges[2], ?_⟩
    ext i hi
    interval_cases i <;> rfl
  have h01 := h 0 1 (by decide)
  have h12 := h 1 2 (by decide)
  simp only [Fin.getElem_fin] at h01 h12
  cases a with
  | none =>
    cases b with
    | some b => simp at h01
    | none =>
      cases c with
      | some c => simp at h12
      | none => exact .inl rfl
  | some a =>
    refine .inr ⟨rfl, ?_⟩
    cases b with
    | none =>
      cases c with
      | some c => simp at h12
      | none => exact .one a
    | some b =>
      cases c with
      | none => exact .two a b
      | some c => exact .three a b c

variable {repr : TcpRepr}

/-- The option about selective acknowledgements: nothing, the permission, or ranges. -/
lemma sackOption_cases (h : Emittable repr) :
    (repr.sackPermitted = false ∧ repr.sackRanges = #v[none, none, none] ∧
      repr.sackOption = none) ∨
    (repr.sackPermitted = true ∧ repr.sackRanges = #v[none, none, none] ∧
      repr.sackOption = some .sackPermitted) ∨
    (repr.sackPermitted = false ∧ (TcpOption.sackRange repr.sackRanges).Emitted ∧
      repr.sackOption = some (.sackRange repr.sackRanges)) := by
  rcases sackRanges_cases h.packed with hnone | ⟨hsome, hemitted⟩
  · cases hp : repr.sackPermitted with
    | false => exact .inl ⟨rfl, hnone, by simp [sackOption, hp, hnone]⟩
    | true => exact .inr (.inl ⟨rfl, hnone, by simp [sackOption, hp]⟩)
  · obtain ⟨hack, hperm⟩ := h.acked 0 hsome
    refine .inr (.inr ⟨hperm, hemitted, ?_⟩)
    have hany : repr.sackRanges.toList.any Option.isSome = true :=
      List.any_eq_true.mpr ⟨repr.sackRanges[0], by simp, hsome⟩
    simp [sackOption, hperm, hack, hany]

lemma Emittable.sackOption_emitted (h : Emittable repr) : ∀ o ∈ repr.sackOption, o.Emitted := by
  intro o ho
  rcases sackOption_cases h with ⟨-, -, hopt⟩ | ⟨-, -, hopt⟩ | ⟨-, hemitted, hopt⟩
  · simp [hopt] at ho
  · simp only [hopt, Option.mem_some] at ho
    subst ho
    exact .sackPermitted
  · simp only [hopt, Option.mem_some] at ho
    subst ho
    exact hemitted

lemma Emittable.emitted (h : Emittable repr) : ∀ o ∈ repr.optionList, o.Emitted := by
  intro o ho
  simp only [optionList, List.mem_append, Option.mem_toList,
    Option.map_eq_some_iff] at ho
  rcases ho with ((⟨v, -, rfl⟩ | ⟨v, -, rfl⟩) | ho) | ⟨ts, -, rfl⟩
  · exact .maxSegmentSize v
  · exact .windowScale v
  · exact h.sackOption_emitted o ho
  · exact .timeStamp ts.tsval ts.tsecr

lemma Emittable.length_octets (h : Emittable repr) :
    (repr.optionList.flatMap TcpOption.octets).length = repr.optionsLen := by
  rw [optionsLen, List.length_flatMap]
  congr 1
  refine List.map_congr_left fun o ho => (h.emitted o ho).length_octets

lemma emit_endOfList {rest : List UInt8} (h : rest ≠ []) :
    TcpOption.endOfList.emit rest = .ok ([0], List.replicate (rest.length - 1) 0) := by
  obtain ⟨a, rest, rfl⟩ := List.exists_cons_of_ne_nil h
  have hrest : sliceFrom (0 :: List.replicate rest.length (0 : UInt8)) 1 =
      .ok (List.replicate rest.length 0) := by
    rw [sliceFrom_of (by simp), List.drop_one, List.tail_cons]
  change (do
    let padding ← sliceFrom (0 :: List.replicate rest.length (0 : UInt8)) 1
    Except.ok ([(0 : UInt8)], padding)) = _
  rw [hrest]
  rfl

lemma optionList_eq (repr : TcpRepr) : repr.optionList.flatMap TcpOption.octets =
    optionOctets (repr.maxSegSize.map .maxSegmentSize) ++
      optionOctets (repr.windowScale.map .windowScale) ++ optionOctets repr.sackOption ++
      optionOctets (repr.timestamp.map fun ts => .timeStamp ts.tsval ts.tsecr) := by
  simp only [optionList, optionOctets, List.flatMap_append]

/-- The options are filled in, with zeros behind them. -/
lemma emitOptions_eq (h : Emittable repr) {options : List UInt8}
    (hlen : repr.optionsLen ≤ options.length) :
    emitOptions repr options = .ok (repr.optionList.flatMap TcpOption.octets ++
      List.replicate (options.length - repr.optionsLen) 0) := by
  have hmss : ∀ o ∈ repr.maxSegSize.map TcpOption.maxSegmentSize, o.Emitted := by
    intro o ho
    obtain ⟨v, -, rfl⟩ := Option.map_eq_some_iff.mp ho
    exact .maxSegmentSize v
  have hws : ∀ o ∈ repr.windowScale.map TcpOption.windowScale, o.Emitted := by
    intro o ho
    obtain ⟨v, -, rfl⟩ := Option.map_eq_some_iff.mp ho
    exact .windowScale v
  have hts : ∀ o ∈ repr.timestamp.map (fun ts => TcpOption.timeStamp ts.tsval ts.tsecr),
      o.Emitted := by
    intro o ho
    obtain ⟨ts, -, rfl⟩ := Option.map_eq_some_iff.mp ho
    exact .timeStamp ts.tsval ts.tsecr
  have hall := h.length_octets
  rw [optionList_eq] at hall ⊢
  simp only [List.length_append] at hall
  rw [emitOptions, emitOption_eq hmss (by omega), ok_bind,
    emitOption_eq hws (by rw [List.length_drop]; omega), ok_bind,
    emitOption_eq h.sackOption_emitted (by simp only [List.length_drop]; omega), ok_bind,
    emitOption_eq hts (by simp only [List.length_drop]; omega), ok_bind]
  simp only [List.drop_drop, List.nil_append]
  generalize hn : _ + (optionOctets (Option.map _ repr.timestamp)).length = n
  obtain rfl : n = repr.optionsLen := by omega
  split_ifs with hnil
  · have hzero : options.length - repr.optionsLen = 0 := by
      have := congrArg List.length hnil
      simpa using this
    rw [hzero, List.replicate_zero, List.append_nil]
    rfl
  · rw [emit_endOfList hnil, ok_bind, List.length_drop]
    dsimp only
    rw [List.append_assoc, ← List.replicate_one, List.replicate_append_replicate]
    have hpos := List.length_pos_of_ne_nil hnil
    rw [List.length_drop] at hpos
    rw [show 1 + (options.length - repr.optionsLen - 1) = options.length - repr.optionsLen by omega]
    rfl

/-- What is taken in from the options is what the segment has. -/
lemma foldl_optionList (h : Emittable repr) :
    repr.optionList.foldl Options.take {} = {
      maxSegSize := repr.maxSegSize
      windowScale := repr.windowScale
      sackPermitted := repr.sackPermitted
      sackRanges := repr.sackRanges
      timestamp := repr.timestamp } := by
  have hmss : (repr.maxSegSize.map TcpOption.maxSegmentSize).toList.foldl Options.take {} =
      { maxSegSize := repr.maxSegSize } := by
    cases repr.maxSegSize <;> rfl
  have hws : (repr.windowScale.map TcpOption.windowScale).toList.foldl Options.take
      { maxSegSize := repr.maxSegSize } =
      { maxSegSize := repr.maxSegSize, windowScale := repr.windowScale } := by
    cases hk : repr.windowScale with
    | none => rfl
    | some k =>
      have hle : ¬ 14 < k := UInt8.not_lt.mpr (h.windowScale_le k hk)
      change ({ maxSegSize := repr.maxSegSize, windowScale := some (if 14 < k then 14 else k) } :
        Options) = _
      rw [if_neg hle]
  have hsack : repr.sackOption.toList.foldl Options.take
      { maxSegSize := repr.maxSegSize, windowScale := repr.windowScale } =
      { maxSegSize := repr.maxSegSize, windowScale := repr.windowScale,
        sackPermitted := repr.sackPermitted, sackRanges := repr.sackRanges } := by
    rcases sackOption_cases h with ⟨hp, hr, hopt⟩ | ⟨hp, hr, hopt⟩ | ⟨hp, hr, hopt⟩
    · rw [hp, hr, hopt]
      rfl
    · rw [hp, hr, hopt]
      rfl
    · rw [hp, hopt]
      rfl
  simp only [optionList, List.foldl_append, hmss, hws, hsack]
  cases repr.timestamp <;> rfl

/-- The number of octets of the option about selective acknowledgements, as it is counted for the
header. -/
lemma sackOption_len (h : Emittable repr) :
    (if repr.sackPermitted then 2 else 0) +
      (if 0 < (repr.sackRanges.toList.map fun o => if o.isSome then 8 else 0).sum then
        (repr.sackRanges.toList.map fun o => if o.isSome then 8 else 0).sum + 2 else 0) =
      repr.sackOption.elim 0 TcpOption.bufferLen := by
  rcases sackOption_cases h with ⟨hp, hr, hopt⟩ | ⟨hp, hr, hopt⟩ | ⟨hp, hr, hopt⟩
  · simp [hp, hr, hopt]
  · simp [hp, hr, hopt, TcpOption.bufferLen]
  · rw [hp, hopt]
    generalize repr.sackRanges = ranges at hr
    cases hr <;> rfl

lemma optionsLen_eq (repr : TcpRepr) :
    repr.optionsLen = (if repr.maxSegSize.isSome then 4 else 0) +
      (if repr.windowScale.isSome then 3 else 0) + repr.sackOption.elim 0 TcpOption.bufferLen +
      (if repr.timestamp.isSome then 10 else 0) := by
  simp only [optionsLen, optionList, List.map_append, List.sum_append]
  cases repr.maxSegSize <;> cases repr.windowScale <;> cases repr.sackOption <;>
    cases repr.timestamp <;> rfl

lemma headerLen_eq (h : Emittable repr) :
    repr.headerLen = tcpHeaderLen + (repr.optionsLen + 3) / 4 * 4 := by
  have hlen := optionsLen_eq repr
  rw [← sackOption_len h] at hlen
  have hif : ∀ (b : Bool) (x n : ℕ), (if b then x + n else x) = x + if b then n else 0 := by
    intro b x n
    cases b <;> rfl
  have hrange : ∀ x n : ℕ, (if 0 < n then x + n + 2 else x) = x + if 0 < n then n + 2 else 0 := by
    intro x n
    split_ifs <;> omega
  have hround : ∀ n : ℕ, (if n % 4 ≠ 0 then n + (4 - n % 4) else n) = (n + 3) / 4 * 4 := by
    intro n
    split_ifs <;> omega
  simp only [headerLen, hif, hrange, hround, tcpHeaderLen]
  omega

end TcpRepr

/-! ### The fixed header -/

/-- The first 20 octets of a segment, by fields. -/
structure TcpHeader where
  srcPort : UInt16
  dstPort : UInt16
  seqNumber : BitVec 32
  ackNumber : BitVec 32
  flags : UInt16
  windowLen : UInt16
  checksum : UInt16
  urgentAt : UInt16

namespace TcpHeader

def octets (h : TcpHeader) : List UInt8 :=
  ofU16 h.srcPort ++ ofU16 h.dstPort ++ ofU32 h.seqNumber ++ ofU32 h.ackNumber ++ ofU16 h.flags ++
    ofU16 h.windowLen ++ ofU16 h.checksum ++ ofU16 h.urgentAt

@[simp] lemma length_octets (h : TcpHeader) : h.octets.length = 20 := rfl

/-- Every 20 octets are those of some header. -/
lemma exists_octets {buf : List UInt8} (hlen : 20 ≤ buf.length) :
    ∃ h : TcpHeader, buf = h.octets ++ buf.drop 20 := by
  obtain ⟨v, rest, rfl, hv⟩ : ∃ v rest, buf = v ++ rest ∧ v.length = 20 :=
    ⟨buf.take 20, buf.drop 20, (List.take_append_drop ..).symm, by simpa using hlen⟩
  match v, hv with
  | [a, b, c, d, e, f, g, h, i, j, k, l, m, n, o, p, q, r, s, t], _ =>
    refine ⟨⟨toU16 a b, toU16 c d, toU32 e f g h, toU32 i j k l, toU16 m n, toU16 o p, toU16 q r,
      toU16 s t⟩, ?_⟩
    simp only [octets, ofU16_toU16, ofU32_toU32]
    rfl

variable (h : TcpHeader) (rest : List UInt8)

lemma write_octets {i : ℕ} {data : List UInt8} (hi : i + data.length ≤ 20) :
    write (h.octets ++ rest) i data = .ok (h.octets.overwrite i data ++ rest) := by
  rw [write_of (by simp; omega), List.overwrite_append_left (by simpa using hi)]

lemma readFlags : Outcome.readU16 (h.octets ++ rest) 12 = .ok h.flags := by
  rw [readU16_of (by simp; omega)]
  exact congrArg _ (toU16_ofNat _)

@[simp] lemma srcPort_octets : TcpPacket.srcPort (h.octets ++ rest) = .ok h.srcPort := by
  rw [TcpPacket.srcPort, readU16_of (by simp; omega)]
  exact congrArg _ (toU16_ofNat _)

@[simp] lemma dstPort_octets : TcpPacket.dstPort (h.octets ++ rest) = .ok h.dstPort := by
  rw [TcpPacket.dstPort, readU16_of (by simp; omega)]
  exact congrArg _ (toU16_ofNat _)

@[simp] lemma windowLen_octets : TcpPacket.windowLen (h.octets ++ rest) = .ok h.windowLen := by
  rw [TcpPacket.windowLen, readU16_of (by simp; omega)]
  exact congrArg _ (toU16_ofNat _)

@[simp] lemma seqNumber_octets : TcpPacket.seqNumber (h.octets ++ rest) = .ok h.seqNumber := by
  rw [TcpPacket.seqNumber, readU32_of (by simp; omega)]
  exact congrArg _ (toU32_ofNat _)

@[simp] lemma ackNumber_octets : TcpPacket.ackNumber (h.octets ++ rest) = .ok h.ackNumber := by
  rw [TcpPacket.ackNumber, readU32_of (by simp; omega)]
  exact congrArg _ (toU32_ofNat _)

@[simp] lemma setSrcPort_octets (v : UInt16) : TcpPacket.setSrcPort (h.octets ++ rest) v =
    .ok ({ h with srcPort := v }.octets ++ rest) := h.write_octets rest (by simp)

@[simp] lemma setDstPort_octets (v : UInt16) : TcpPacket.setDstPort (h.octets ++ rest) v =
    .ok ({ h with dstPort := v }.octets ++ rest) := h.write_octets rest (by simp)

@[simp] lemma setSeqNumber_octets (v : SeqNumber) : TcpPacket.setSeqNumber (h.octets ++ rest) v =
    .ok ({ h with seqNumber := v }.octets ++ rest) := h.write_octets rest (by simp)

@[simp] lemma setAckNumber_octets (v : SeqNumber) : TcpPacket.setAckNumber (h.octets ++ rest) v =
    .ok ({ h with ackNumber := v }.octets ++ rest) := h.write_octets rest (by simp)

@[simp] lemma setWindowLen_octets (v : UInt16) : TcpPacket.setWindowLen (h.octets ++ rest) v =
    .ok ({ h with windowLen := v }.octets ++ rest) := h.write_octets rest (by simp)

@[simp] lemma setChecksum_octets (v : UInt16) : TcpPacket.setChecksum (h.octets ++ rest) v =
    .ok ({ h with checksum := v }.octets ++ rest) := h.write_octets rest (by simp)

@[simp] lemma setUrgentAt_octets (v : UInt16) : TcpPacket.setUrgentAt (h.octets ++ rest) v =
    .ok ({ h with urgentAt := v }.octets ++ rest) := h.write_octets rest (by simp)

@[simp] lemma setHeaderLen_octets (v : UInt8) : TcpPacket.setHeaderLen (h.octets ++ rest) v =
    .ok ({ h with flags := (h.flags &&& ~~~ (0xf000 : UInt16)) |||
      ((v.toUInt16 / 4) <<< 12) }.octets ++ rest) := by
  rw [TcpPacket.setHeaderLen, readFlags, ok_bind]
  exact h.write_octets rest (by simp)

@[simp] lemma clearFlags_octets : TcpPacket.clearFlags (h.octets ++ rest) =
    .ok ({ h with flags := h.flags &&& ~~~ (0x0fff : UInt16) }.octets ++ rest) := by
  rw [TcpPacket.clearFlags, readFlags, ok_bind]
  exact h.write_octets rest (by simp)

@[simp] lemma setFlag_octets (mask : UInt16) (v : Bool) :
    TcpPacket.setFlag (h.octets ++ rest) mask v = .ok ({ h with
      flags := if v then h.flags ||| mask else h.flags &&& ~~~ mask }.octets ++ rest) := by
  rw [TcpPacket.setFlag, readFlags, ok_bind]
  exact h.write_octets rest (by simp)

@[simp] lemma flag_octets (mask : UInt16) : TcpPacket.flag (h.octets ++ rest) mask =
    .ok (h.flags &&& mask ≠ 0) := by
  rw [TcpPacket.flag, readFlags]
  rfl

@[simp] lemma headerLen_octets : TcpPacket.headerLen (h.octets ++ rest) =
    .ok ((h.flags >>> 12) * 4).toUInt8.toNat := by
  rw [TcpPacket.headerLen, readFlags]
  rfl

end TcpHeader

/-! ### Flags -/

/-- The bit of a control flag. -/
def TcpControl.mask : TcpControl → UInt16
  | .none => 0
  | .psh => 0x008
  | .syn => 0x002
  | .fin => 0x001
  | .rst => 0x004

namespace TcpRepr

/-- The word of header length and flags, for a header of `4 * k` octets. -/
def flagsWord (k : Fin 16) (control : TcpControl) (ack : Bool) : UInt16 :=
  let raw := (UInt16.ofNat k <<< 12) ||| control.mask
  if ack then raw ||| 0x010 else raw &&& ~~~ (0x010 : UInt16)

lemma flagsWord_eq (k : Fin 16) (control : TcpControl) (ack : Bool) :
    (if ack then (UInt16.ofNat k <<< 12) ||| control.mask ||| 0x010
      else ((UInt16.ofNat k <<< 12) ||| control.mask) &&& ~~~ (0x010 : UInt16)) =
      flagsWord k control ack := rfl

/-- Of the word that was there before, nothing is left. -/
lemma clear_word (raw : UInt16) (k : Fin 16) :
    ((raw &&& ~~~ (0xf000 : UInt16)) ||| (UInt16.ofNat k <<< 12)) &&& ~~~ (0x0fff : UInt16) =
      UInt16.ofNat k <<< 12 := by
  have hraw : (raw &&& ~~~ (0xf000 : UInt16)) &&& ~~~ (0x0fff : UInt16) = 0 := by
    rw [UInt16.and_assoc]
    exact UInt16.and_zero
  have hk : ∀ k : Fin 16, (UInt16.ofNat k <<< 12) &&& ~~~ (0x0fff : UInt16) =
      UInt16.ofNat k <<< 12 := by decide
  have hdistrib : ∀ a b c : UInt16, (a ||| b) &&& c = (a &&& c) ||| (b &&& c) := by
    intro a b c
    apply UInt16.eq_of_toBitVec_eq
    ext i hi
    simp [Bool.and_or_distrib_right]
  rw [hdistrib, hraw, hk, UInt16.zero_or]

/-- The header length and the flags are read back from their word. -/
lemma read_flagsWord (k : Fin 16) (control : TcpControl) (ack : Bool) :
    ((flagsWord k control ack >>> 12) * 4).toUInt8.toNat = 4 * k ∧
    decide (flagsWord k control ack &&& 0x010 ≠ 0) = ack ∧
    TcpControl.ofFlags (flagsWord k control ack &&& 0x002 ≠ 0)
      (flagsWord k control ack &&& 0x001 ≠ 0) (flagsWord k control ack &&& 0x004 ≠ 0)
      (flagsWord k control ack &&& 0x008 ≠ 0) = .ok control := by
  revert k
  cases control <;> cases ack <;> decide

variable {repr : TcpRepr}

/-- The header length in units of 4 octets. -/
lemma Emittable.exists_units (h : Emittable repr) :
    ∃ k : Fin 16, 5 ≤ k.val ∧ repr.headerLen = 4 * k ∧
      (UInt8.ofNat repr.headerLen).toUInt16 / 4 = UInt16.ofNat k := by
  have hlen := headerLen_eq h
  have hle := h.optionsLen_le
  simp only [tcpHeaderLen] at hlen
  refine ⟨⟨repr.headerLen / 4, by omega⟩, by simp only; omega, by simp only; omega, ?_⟩
  have hall : ∀ k : Fin 16, (UInt8.ofNat (4 * k)).toUInt16 / 4 = UInt16.ofNat k := by decide
  have hk := hall ⟨repr.headerLen / 4, by omega⟩
  simp only at hk
  rwa [show 4 * (repr.headerLen / 4) = repr.headerLen by omega] at hk

/-- The header that is emitted, with a checksum. -/
def header (repr : TcpRepr) (k : Fin 16) (checksum : UInt16) : TcpHeader where
  srcPort := repr.srcPort
  dstPort := repr.dstPort
  seqNumber := repr.seqNumber
  ackNumber := repr.ackNumber.getD 0
  flags := flagsWord k repr.control repr.ackNumber.isSome
  windowLen := repr.windowLen
  checksum := checksum
  urgentAt := 0

/-- The octets behind the fixed header. -/
def body (repr : TcpRepr) : List UInt8 :=
  repr.optionList.flatMap TcpOption.octets ++
    List.replicate (repr.headerLen - tcpHeaderLen - repr.optionsLen) 0 ++ repr.payload

/-- The octets behind the fixed header, as the options and the payload are written there. -/
lemma write_body (h : Emittable repr) {k : Fin 16} (hk : repr.headerLen = 4 * k)
    {hdr : TcpHeader} (hflags : hdr.flags = flagsWord k repr.control repr.ackNumber.isSome)
    {rest : List UInt8} (hrest : tcpHeaderLen + rest.length = repr.bufferLen) :
    (do
      let options ← emitOptions repr (← TcpPacket.options (hdr.octets ++ rest))
      let buf ← write (hdr.octets ++ rest) tcpHeaderLen options
      let buf ← TcpPacket.setUrgentAt buf 0
      write buf (← TcpPacket.headerLen buf) repr.payload) =
    .ok ({ hdr with urgentAt := 0 }.octets ++ repr.body) := by
  have hlen := headerLen_eq h
  simp only [tcpHeaderLen, bufferLen] at hlen hrest
  have hread := (read_flagsWord k repr.control repr.ackNumber.isSome).1
  have htake : (rest.take (repr.headerLen - 20)).length = repr.headerLen - 20 :=
    List.length_take_of_le (by omega)
  have hoptions : TcpPacket.options (hdr.octets ++ rest) =
      .ok (rest.take (repr.headerLen - 20)) := by
    rw [TcpPacket.options, TcpHeader.headerLen_octets, ok_bind, hflags, hread, ← hk,
      slice_of (by simp [tcpHeaderLen]; omega) (by simp; omega), List.take_append,
      List.take_of_length_le (by simp; omega), TcpHeader.length_octets, tcpHeaderLen,
      List.drop_left' hdr.length_octets]
  set options := repr.optionList.flatMap TcpOption.octets ++
    List.replicate (repr.headerLen - 20 - repr.optionsLen) 0 with hdef
  have hfill : emitOptions repr (rest.take (repr.headerLen - 20)) = .ok options := by
    rw [emitOptions_eq h (by omega), htake]
  have hoptlen : options.length = repr.headerLen - 20 := by
    rw [hdef, List.length_append, h.length_octets, List.length_replicate]
    omega
  have hwrite : write (hdr.octets ++ rest) tcpHeaderLen options =
      .ok (hdr.octets ++ options ++ rest.drop (repr.headerLen - 20)) := by
    have hat := write_append (l := hdr.octets) (m := rest.take (repr.headerLen - 20))
      (d := options) (r := rest.drop (repr.headerLen - 20)) (n := tcpHeaderLen) rfl
      (by rw [htake, hoptlen])
    rwa [List.append_assoc, List.take_append_drop] at hat
  have hpayload : write ({ hdr with urgentAt := 0 }.octets ++ options ++
      rest.drop (repr.headerLen - 20)) repr.headerLen repr.payload =
      .ok ({ hdr with urgentAt := 0 }.octets ++ options ++ repr.payload) := by
    have hat := write_append (l := { hdr with urgentAt := 0 }.octets ++ options)
      (m := rest.drop (repr.headerLen - 20)) (d := repr.payload) (r := [])
      (n := repr.headerLen) (by simp [hoptlen]; omega) (by rw [List.length_drop]; omega)
    rwa [List.append_nil, List.append_nil] at hat
  have hheader : ∀ rest : List UInt8,
      TcpPacket.headerLen ({ hdr with urgentAt := 0 }.octets ++ rest) = .ok repr.headerLen := by
    intro rest
    rw [TcpHeader.headerLen_octets]
    dsimp only
    rw [hflags, hread, hk]
  rw [hoptions, ok_bind, hfill, ok_bind, hwrite, ok_bind, List.append_assoc,
    TcpHeader.setUrgentAt_octets, ok_bind, hheader, ok_bind, ← List.append_assoc, hpayload, body,
    List.append_assoc]
  rfl

lemma setControl_octets (hdr : TcpHeader) (rest : List UInt8) (control : TcpControl) :
    TcpPacket.setControl (hdr.octets ++ rest) control =
      .ok ({ hdr with flags := hdr.flags ||| control.mask }.octets ++ rest) := by
  cases control with
  | none =>
    rw [TcpControl.mask, UInt16.or_zero]
    rfl
  | psh => exact hdr.setFlag_octets rest 0x008 true
  | syn => exact hdr.setFlag_octets rest 0x002 true
  | fin => exact hdr.setFlag_octets rest 0x001 true
  | rst => exact hdr.setFlag_octets rest 0x004 true

/-- What is emitted does not depend on what was in the buffer. -/
lemma emit_eq (h : Emittable repr) {k : Fin 16} (hk : repr.headerLen = 4 * k)
    (hunits : (UInt8.ofNat repr.headerLen).toUInt16 / 4 = UInt16.ofNat k) {hdr : TcpHeader}
    {rest : List UInt8} (hrest : tcpHeaderLen + rest.length = repr.bufferLen) (tx : Bool)
    (srcAddr dstAddr : IpAddress) :
    repr.emit tx (hdr.octets ++ rest) srcAddr dstAddr =
      if tx then TcpPacket.fillChecksum ((repr.header k hdr.checksum).octets ++ repr.body)
        srcAddr dstAddr
      else TcpPacket.setChecksum ((repr.header k hdr.checksum).octets ++ repr.body) 0 := by
  have hbody := @write_body repr h k hk
    { repr.header k hdr.checksum with urgentAt := hdr.urgentAt } rfl rest hrest
  have hlast := congrArg (fun x => x >>= fun buf => if tx then
    TcpPacket.fillChecksum buf srcAddr dstAddr else TcpPacket.setChecksum buf 0) hbody
  simp only [bind_assoc, ok_bind] at hlast
  rw [emit, TcpHeader.setSrcPort_octets, ok_bind, TcpHeader.setDstPort_octets, ok_bind,
    TcpHeader.setSeqNumber_octets, ok_bind, TcpHeader.setAckNumber_octets, ok_bind,
    TcpHeader.setWindowLen_octets, ok_bind, TcpHeader.setHeaderLen_octets, ok_bind,
    TcpHeader.clearFlags_octets, ok_bind, setControl_octets, ok_bind, TcpPacket.setAck,
    TcpHeader.setFlag_octets, ok_bind]
  dsimp only [header] at hlast ⊢
  rw [hunits, clear_word, flagsWord_eq]
  exact hlast

lemma length_body (h : Emittable repr) :
    repr.body.length = repr.headerLen - tcpHeaderLen + repr.payload.length := by
  have hlen := headerLen_eq h
  simp only [tcpHeaderLen] at hlen
  simp only [body, List.length_append, h.length_octets, List.length_replicate, tcpHeaderLen]
  omega

/-- The segment is parsed from the octets that were emitted. -/
lemma parse_eq (h : Emittable repr) {k : Fin 16} (hk : repr.headerLen = 4 * k) {checksum : UInt16}
    {rx : Bool} {srcAddr dstAddr : IpAddress}
    (hverify : rx → TcpPacket.verifyChecksum ((repr.header k checksum).octets ++ repr.body)
      srcAddr dstAddr = .ok true) :
    parse rx ((repr.header k checksum).octets ++ repr.body) srcAddr dstAddr = .ok repr := by
  have hlen := headerLen_eq h
  have hbody := length_body h
  simp only [tcpHeaderLen] at hlen hbody
  obtain ⟨hread, hack, hcontrol⟩ := read_flagsWord k repr.control repr.ackNumber.isSome
  have hheader : TcpPacket.headerLen ((repr.header k checksum).octets ++ repr.body) =
      .ok repr.headerLen := by
    rw [TcpHeader.headerLen_octets]
    change Except.ok ((flagsWord k repr.control repr.ackNumber.isSome >>> 12) * 4).toUInt8.toNat = _
    rw [hread, hk]
  have hcheck : TcpPacket.checkLen ((repr.header k checksum).octets ++ repr.body) = .ok () := by
    rw [TcpPacket.checkLen, if_neg (by simp [tcpHeaderLen]), hheader, ok_bind,
      if_neg (by simp [tcpHeaderLen]; omega)]
    rfl
  have hoptions : TcpPacket.options ((repr.header k checksum).octets ++ repr.body) =
      .ok (repr.optionList.flatMap TcpOption.octets ++
        List.replicate (repr.headerLen - tcpHeaderLen - repr.optionsLen) 0) := by
    rw [TcpPacket.options, hheader, ok_bind, slice_of (by simp [tcpHeaderLen]; omega)
      (by simp; omega), List.take_append, List.take_of_length_le (by simp; omega),
      TcpHeader.length_octets, tcpHeaderLen, List.drop_left' (TcpHeader.length_octets _), body,
      List.take_left']
    · rfl
    · simp [h.length_octets, tcpHeaderLen]
      omega
  have hpayload : TcpPacket.payload ((repr.header k checksum).octets ++ repr.body) =
      .ok repr.payload := by
    rw [TcpPacket.payload, hheader, ok_bind, sliceFrom_of (by simp; omega), body,
      ← List.append_assoc, List.drop_left']
    simp [h.length_octets, tcpHeaderLen]
    omega
  have hsum : expectChecksum rx ((repr.header k checksum).octets ++ repr.body) srcAddr dstAddr =
      .ok () := by
    cases rx with
    | false => rfl
    | true =>
      rw [expectChecksum, if_pos rfl, hverify rfl]
      rfl
  have hctl : readControl ((repr.header k checksum).octets ++ repr.body) = .ok repr.control := by
    simp only [readControl, TcpPacket.syn, TcpPacket.fin, TcpPacket.rst, TcpPacket.psh,
      TcpHeader.flag_octets, ok_bind]
    exact hcontrol
  have hackno : readAckNumber ((repr.header k checksum).octets ++ repr.body) =
      .ok repr.ackNumber := by
    simp only [readAckNumber, TcpPacket.ack, TcpHeader.flag_octets, ok_bind,
      TcpHeader.ackNumber_octets]
    change (if decide (flagsWord k repr.control repr.ackNumber.isSome &&& 0x010 ≠ 0) = true then
      Except.ok (some (repr.ackNumber.getD 0)) else Except.ok none) = _
    rw [hack]
    cases repr.ackNumber <;> rfl
  rw [parse, hcheck, ok_bind, TcpHeader.srcPort_octets, ok_bind]
  erw [reject_of_not h.srcPort_ne]
  rw [ok_bind, TcpHeader.dstPort_octets, ok_bind]
  erw [reject_of_not h.dstPort_ne]
  rw [ok_bind, hsum, ok_bind, hctl, ok_bind, hackno, ok_bind, hoptions, ok_bind,
    parseOptions_octets h.emitted, ok_bind, ok_bind, ok_bind, TcpHeader.seqNumber_octets, ok_bind,
    TcpHeader.windowLen_octets, ok_bind, hpayload, ok_bind, foldl_optionList h]
  rfl

lemma fillChecksum_octets (hdr : TcpHeader) (rest : List UInt8) {srcAddr dstAddr : IpAddress}
    (hversion : srcAddr.version = dstAddr.version) :
    ∃ v, TcpPacket.fillChecksum (hdr.octets ++ rest) srcAddr dstAddr =
      .ok ({ hdr with checksum := v }.octets ++ rest) := by
  obtain ⟨c, hc, -⟩ := @Checksum.pseudoHeader_ne_zero srcAddr dstAddr .tcp (by decide) hversion
    ({ hdr with checksum := 0 }.octets ++ rest).length
  simp only [TcpPacket.fillChecksum, TcpHeader.setChecksum_octets, ok_bind, TcpPacket.sum, hc,
    ofChecked, pure_eq_ok]
  exact ⟨_, rfl⟩

/-- A segment is parsed back from what was emitted, whatever was in the buffer. Checksums that are
verified must have been computed too, over addresses of one version, and the sum over the segment
must not overflow. -/
theorem parse_emit (h : Emittable repr) {buf : List UInt8} (hbuf : buf.length = repr.bufferLen)
    {tx rx : Bool} {srcAddr dstAddr : IpAddress} (htx : rx → tx)
    (hversion : tx → srcAddr.version = dstAddr.version) (hmax : rx → repr.bufferLen ≤ 2 ^ 17) :
    repr.headerLen % 4 = 0 ∧ repr.headerLen ≤ 60 ∧
      ∃ out, repr.emit tx buf srcAddr dstAddr = .ok out ∧ out.length = buf.length ∧
        TcpPacket.checkLen out = .ok () ∧ parse rx out srcAddr dstAddr = .ok repr := by
  obtain ⟨k, hk5, hk, hunits⟩ := h.exists_units
  have hbody := length_body h
  have hklt := k.isLt
  have hge : 20 ≤ buf.length := by
    rw [hbuf, bufferLen]
    omega
  simp only [tcpHeaderLen] at hbody
  obtain ⟨hdr, hhdr⟩ := TcpHeader.exists_octets hge
  have hrest : tcpHeaderLen + (buf.drop 20).length = repr.bufferLen := by
    rw [← hbuf, List.length_drop, tcpHeaderLen]
    omega
  have hemit := @emit_eq repr h k hk hunits hdr _ hrest tx srcAddr dstAddr
  rw [← hhdr] at hemit
  have hlen : ∀ v, ((repr.header k v).octets ++ repr.body).length = buf.length := by
    intro v
    rw [List.length_append, TcpHeader.length_octets, hbody, hbuf, bufferLen]
    omega
  refine ⟨by omega, by omega, ?_⟩
  -- what is emitted has the header with some checksum, which is verified if it has to be
  obtain ⟨v, hout, hverify⟩ : ∃ v, repr.emit tx buf srcAddr dstAddr =
      .ok ((repr.header k v).octets ++ repr.body) ∧
      (rx → TcpPacket.verifyChecksum ((repr.header k v).octets ++ repr.body) srcAddr dstAddr =
        .ok true) := by
    cases tx with
    | false => exact ⟨0, hemit, fun hrx => absurd (htx hrx) Bool.false_ne_true⟩
    | true =>
      rw [if_pos rfl] at hemit
      obtain ⟨v, hv⟩ := fillChecksum_octets (repr.header k hdr.checksum) repr.body (hversion rfl)
      refine ⟨v, hemit.trans hv, fun hrx => ?_⟩
      obtain ⟨w, hw, hverify, -⟩ := @TcpPacket.fillChecksum_protects
        ((repr.header k hdr.checksum).octets ++ repr.body) _ _ (hversion rfl)
        (by rw [hlen]; exact hge) (by rw [hlen, hbuf]; exact hmax hrx)
      rw [hv] at hw
      rw [← Except.ok.inj hw] at hverify
      exact hverify
  have hparse := parse_eq h hk hverify
  refine ⟨_, hout, hlen v, ?_, hparse⟩
  obtain ⟨u, hcheck, -⟩ := bind_eq_ok.mp hparse
  exact hcheck

/-! ### Segments that are not parsed back -/

/-- What is parsed with checksums verified has a valid checksum. -/
lemma verify_of_parse {buf : List UInt8} {srcAddr dstAddr : IpAddress} {r : TcpRepr}
    (h : parse true buf srcAddr dstAddr = .ok r) :
    TcpPacket.verifyChecksum buf srcAddr dstAddr = .ok true := by
  obtain ⟨_, -, h⟩ := bind_eq_ok.mp h
  obtain ⟨_, -, h⟩ := bind_eq_ok.mp h
  obtain ⟨_, -, h⟩ := bind_eq_ok.mp h
  obtain ⟨_, -, h⟩ := bind_eq_ok.mp h
  obtain ⟨_, -, h⟩ := bind_eq_ok.mp h
  obtain ⟨_, hsum, -⟩ := bind_eq_ok.mp h
  rw [expectChecksum, if_pos rfl] at hsum
  obtain ⟨valid, hvalid, hreject⟩ := bind_eq_ok.mp hsum
  cases valid with
  | false => cases hreject
  | true => exact hvalid

lemma accumulate_replicate (n : ℕ) :
    Checksum.accumulate (List.replicate (2 * n) 0xff) = n * 65535 := by
  induction n with
  | zero => rfl
  | succ n ih =>
    rw [show 2 * (n + 1) = 2 * n + 2 from rfl, List.replicate_succ, List.replicate_succ,
      Checksum.accumulate, ih, Nat.succ_mul, Nat.add_comm]
    rfl

/-- A segment whose words sum up to one less than the accumulator overflows at. Then the checksum
makes it overflow, and the carry is lost. -/
lemma not_verify_of_overflow {hdr : TcpHeader} {rest : List UInt8} {srcAddr dstAddr : IpAddress}
    {c : UInt16} (hc : Checksum.pseudoHeader srcAddr dstAddr .tcp (20 + rest.length) = .ok c)
    (hpos : 0 < c.toNat) (hlt : c.toNat < 65535)
    (hsum : Checksum.accumulate ({ hdr with checksum := 0 }.octets ++ rest) = 2 ^ 32 - 1) :
    ∃ v, TcpPacket.fillChecksum (hdr.octets ++ rest) srcAddr dstAddr =
        .ok ({ hdr with checksum := v }.octets ++ rest) ∧
      TcpPacket.verifyChecksum ({ hdr with checksum := v }.octets ++ rest) srcAddr dstAddr =
        .ok false := by
  set zeroed : TcpHeader := { hdr with checksum := 0 } with hzeroed
  set s := Checksum.combine [c, Checksum.data (zeroed.octets ++ rest)] with hs
  set filled : TcpHeader := { hdr with checksum := ~~~ s } with hfilled
  have hlen : ∀ h : TcpHeader, (h.octets ++ rest).length = 20 + rest.length := by simp
  have hdata : (Checksum.data (zeroed.octets ++ rest)).toNat = 65535 := by
    rw [Checksum.data, hsum]
    decide
  have hcombine : ∀ a : UInt16, (Checksum.combine [c, a]).toNat =
      OnesComplement.fold (c.toNat + a.toNat) := by
    intro a
    rw [Checksum.toNat_combine (by simp)]
    rfl
  have hsval : s.toNat = c.toNat := by
    rw [hs, hcombine, hdata, OnesComplement.fold_of_ne (by omega)]
    omega
  have hnot : (~~~ s).toNat = 65535 - c.toNat := by rw [Checksum.toNat_complement, hsval]
  have hacc : Checksum.accumulate (filled.octets ++ rest) % 2 ^ 32 = 65534 - c.toNat := by
    have hadd : Checksum.accumulate (filled.octets ++ rest) =
        Checksum.accumulate (zeroed.octets ++ rest) + (~~~ s).toNat := by
      rw [Checksum.accumulate_append (by simp), Checksum.accumulate_append (by simp)]
      simp only [hfilled, hzeroed, TcpHeader.octets, ofU16, ofU32, List.cons_append,
        List.nil_append, Checksum.accumulate, toU16_ofNat]
      have hzero : (0 : UInt16).toNat = 0 := rfl
      omega
    rw [hadd, hsum, hnot]
    omega
  have hfail : Checksum.combine [c, Checksum.data (filled.octets ++ rest)] ≠ 0xffff := by
    rw [Ne, Checksum.eq_max_iff, hcombine, Checksum.data, hacc,
      Checksum.toNat_propagateCarries_eq (by omega), OnesComplement.fold_add_fold,
      OnesComplement.fold_of_ne (by omega)]
    omega
  refine ⟨~~~ s, ?_, ?_⟩
  · simp only [TcpPacket.fillChecksum, TcpHeader.setChecksum_octets, ok_bind, TcpPacket.sum]
    rw [hlen, hc]
    rfl
  · rw [TcpPacket.verifyChecksum, TcpPacket.sum, hlen, hc]
    exact congrArg Except.ok (decide_eq_false hfail)

/-- A segment with neither options nor data. -/
def bare : TcpRepr where
  srcPort := 1
  dstPort := 1
  control := .none
  seqNumber := 0
  ackNumber := none
  windowLen := 0
  windowScale := none
  maxSegSize := none
  sackPermitted := false
  sackRanges := SackRanges.empty
  timestamp := none
  payload := []

lemma emittable_bare (payload : List UInt8) : Emittable { bare with payload } where
  srcPort_ne := show bare.srcPort ≠ 0 by decide
  dstPort_ne := show bare.dstPort ≠ 0 by decide
  windowScale_le := nofun
  packed := show ∀ i j : Fin 3, i ≤ j → bare.sackRanges[j].isSome → bare.sackRanges[i].isSome by
    decide
  acked := show ∀ i : Fin 3, bare.sackRanges[i].isSome → bare.ackNumber.isSome ∧
    bare.sackPermitted = false by decide
  optionsLen_le := show bare.optionsLen ≤ 40 by decide

/-- A segment of data with a window scale, two selective acknowledgements and a timestamp. -/
def selective : TcpRepr where
  srcPort := 80
  dstPort := 49500
  control := .psh
  seqNumber := 0xfffffffe
  ackNumber := some 10001
  windowLen := 4096
  windowScale := some 14
  maxSegSize := some 1460
  sackPermitted := false
  sackRanges := #v[some (10005, 10009), some (10012, 10020), none]
  timestamp := some ⟨7, 0xffffffff⟩
  payload := [1, 2, 3]

lemma emittable_selective : Emittable selective where
  srcPort_ne := by decide
  dstPort_ne := by decide
  windowScale_le := by
    rintro k ⟨⟩
    decide
  packed := by decide
  acked := by decide
  optionsLen_le := by decide

theorem parse_emit_selective :
    selective.headerLen = 56 ∧ ∃ out,
      emit true selective (List.replicate 59 0xaa) (.ipv4 0x0a000001) (.ipv4 0x0a000002) = .ok out ∧
        TcpPacket.checkLen out = .ok () ∧
        parse true out (.ipv4 0x0a000001) (.ipv4 0x0a000002) = .ok selective := by
  obtain ⟨-, -, out, hemit, -, hcheck, hparse⟩ := @parse_emit selective emittable_selective
    (List.replicate 59 0xaa) (by decide) true true (.ipv4 0x0a000001) (.ipv4 0x0a000002)
    (fun _ => rfl) (fun _ => rfl) (fun _ => by decide)
  exact ⟨by decide, out, hemit, hcheck, hparse⟩

lemma headerLen_bare (payload : List UInt8) : headerLen { bare with payload } = 20 :=
  show headerLen bare = 20 by decide

lemma bufferLen_bare (payload : List UInt8) :
    bufferLen { bare with payload } = 20 + payload.length := by
  rw [bufferLen, headerLen_bare]

lemma body_bare (payload : List UInt8) : body { bare with payload } = payload := by
  have hopts : optionList { bare with payload } = [] := rfl
  simp [body, hopts, headerLen_bare payload, tcpHeaderLen]

/-- A payload that makes the sum over the segment one less than the accumulator overflows at. -/
lemma not_parse_of_overflow {payload : List UInt8} {srcAddr dstAddr : IpAddress} {c : UInt16}
    (hc : Checksum.pseudoHeader srcAddr dstAddr .tcp (20 + payload.length) = .ok c)
    (hpos : 0 < c.toNat) (hlt : c.toNat < 65535)
    (hsum : 0x5002 + Checksum.accumulate payload = 2 ^ 32 - 1) {buf : List UInt8}
    (hbuf : buf.length = 20 + payload.length) :
    ∃ out, emit true { bare with payload } buf srcAddr dstAddr = .ok out ∧
      parse true out srcAddr dstAddr ≠ .ok { bare with payload } := by
  obtain ⟨hdr, hhdr⟩ := TcpHeader.exists_octets (show 20 ≤ buf.length by omega)
  have hemit := @emit_eq { bare with payload } (emittable_bare payload) 5 (headerLen_bare payload)
    (by rw [headerLen_bare payload]; rfl) hdr (buf.drop 20)
    (by rw [bufferLen_bare payload, List.length_drop, tcpHeaderLen]; omega)
    true srcAddr dstAddr
  rw [← hhdr, if_pos rfl, body_bare] at hemit
  have hzeroed : Checksum.accumulate ({ header { bare with payload } 5 hdr.checksum with
      checksum := 0 }.octets ++ payload) = 2 ^ 32 - 1 := by
    have hfixed : Checksum.accumulate ({ header { bare with payload } 5 hdr.checksum with
        checksum := 0 }.octets) = 0x5002 := by
      have hflags : flagsWord 5 .none false = 0x5000 := by decide
      change Checksum.accumulate
        (TcpHeader.octets ⟨1, 1, 0, 0, flagsWord 5 .none false, 0, 0, 0⟩) = 0x5002
      rw [hflags]
      decide
    rw [Checksum.accumulate_append (by simp), hfixed, hsum]
  obtain ⟨v, hfill, hverify⟩ := not_verify_of_overflow hc hpos hlt hzeroed
  refine ⟨_, hemit.trans hfill, fun hparse => ?_⟩
  have hvalid := verify_of_parse hparse
  rw [hverify] at hvalid
  cases hvalid

/-- Checksums that are verified but not computed, addresses of two versions, and a segment so long
that the sum overflows. -/
theorem parse_emit_unless :
    (∃ out, emit false bare (List.replicate 20 0) (.ipv4 1) (.ipv4 2) = .ok out ∧
      parse true out (.ipv4 1) (.ipv4 2) = .error .malformed) ∧
    emit true bare (List.replicate 20 0) (.ipv4 1) (.ipv6 2) = .error (.panic .unreachable) ∧
    (∀ repr, repr = { bare with payload := List.replicate (2 * 65536) 0xff ++ [0xaf, 0xfd] } →
      Emittable repr ∧ ∃ out, emit true repr (List.replicate repr.bufferLen 0) (.ipv4 1) (.ipv4 2) =
        .ok out ∧ parse true out (.ipv4 1) (.ipv4 2) ≠ .ok repr) := by
  refine ⟨⟨[0, 1, 0, 1, 0, 0, 0, 0, 0, 0, 0, 0, 0x50, 0, 0, 0, 0, 0, 0, 0], by decide, by decide⟩,
    by decide, ?_⟩
  rintro repr rfl
  refine ⟨emittable_bare _, ?_⟩
  have hlen : (List.replicate (2 * 65536) (0xff : UInt8) ++ [0xaf, 0xfd]).length = 131074 := by
    rw [List.length_append, List.length_replicate]
    rfl
  refine not_parse_of_overflow (c := 0x1f) ?_ (by decide) (by decide) ?_ ?_
  · rw [hlen]
    decide
  · have htail : Checksum.accumulate [0xaf, 0xfd] = 45053 := by decide
    rw [Checksum.accumulate_append (by rw [List.length_replicate]), accumulate_replicate, htail]
    omega
  · rw [List.length_replicate, bufferLen_bare]

end TcpRepr

end Smoltcp
