import Smoltcp.Iface.Errors

/-!
# The options of a hop-by-hop header

An iterator goes through the options of a header, up to the first that is malformed. The header is
parsed to those that it has room for: they are obeyed, the next one has to be well formed, and those
behind it are not looked at.
-/

namespace Smoltcp

open Outcome

/-! ### Parsing options -/

namespace Ipv6OptionRepr

lemma checkLen_safe (buf : List UInt8) : Safe (Ipv6Option.checkLen buf) fun _ =>
    0 < buf.length ∧ (Octets.get buf 0 ≠ 0 → 2 ≤ buf.length ∧
      (Octets.get buf 1).toNat + 2 ≤ buf.length) := by
  unfold Ipv6Option.checkLen
  refine Safe.ite (fun _ => Safe.fail) fun hpos => ?_
  rw [index_get (by omega), ok_bind]
  refine Safe.ite (fun hpad => Safe.ok ⟨by omega, fun hne => absurd hpad hne⟩) fun hne => ?_
  refine Safe.ite (fun _ => Safe.fail) fun hone => ?_
  rw [index_get (by omega), ok_bind]
  exact (Safe.reject _).mono fun _ hlen => ⟨by omega, fun _ => ⟨by omega, by omega⟩⟩

lemma parseRpl_safe (data : List UInt8) : Safe (parseRpl data) fun _ => data.length = 4 := by
  unfold parseRpl Icmpv6Packet.bit
  refine Safe.bind (Safe.reject _) fun _ hlen => ?_
  rw [index_get (by omega), index_get (by omega), readU16_of (by omega)]
  exact Safe.ok (not_not.mp hlen)

/-- Parsing an option does not panic, and an option is in the octets that it was parsed from. -/
lemma parse_safe (rpl : Bool) (buf : List UInt8) :
    Safe (parse rpl buf) fun repr => repr.bufferLen ≤ buf.length := by
  unfold parse
  refine Safe.bind (checkLen_safe buf) fun _ hlen => ?_
  obtain ⟨hpos, hlen⟩ := hlen
  rw [index_get hpos, ok_bind]
  refine Safe.ite (fun _ => Safe.ok hpos) fun hne => ?_
  obtain ⟨htwo, hle⟩ := hlen hne
  have hdata : Ipv6Option.data buf =
      .ok ((buf.take ((Octets.get buf 1).toNat + 2)).drop 2) := by
    rw [Ipv6Option.data, index_get htwo, ok_bind, slice_of (by omega) hle]
  have hlength : ((buf.take ((Octets.get buf 1).toNat + 2)).drop 2).length =
      (Octets.get buf 1).toNat := by
    rw [List.length_drop, List.length_take]
    omega
  rw [index_get htwo, hdata]
  simp only [ok_bind]
  refine Safe.ite (fun _ => Safe.ok hle) fun _ => ?_
  refine Safe.ite (fun _ => ?_) fun _ => ?_
  · refine Safe.ite (fun hlen => ?_) fun _ => Safe.fail
    rw [readU16_of (by rw [hlength, hlen]; decide), ok_bind]
    rw [hlen] at hle
    exact Safe.ok hle
  refine Safe.ite (fun _ => ?_) fun _ => Safe.ok hle
  refine Safe.bind (parseRpl_safe _) fun repr hfour => ?_
  rw [hlength] at hfour
  rw [hfour] at hle
  exact Safe.ok hle

end Ipv6OptionRepr

/-! ### The iterator -/

namespace Ipv6OptionsIterator

variable {rpl : Bool} {data : List UInt8} {pos : ℕ}

/-- The option at a position. -/
def option (rpl : Bool) (data : List UInt8) (pos : ℕ) : Outcome Ipv6OptionRepr := do
  let opt ← sliceFrom data pos
  Ipv6Option.checkLen opt
  Ipv6OptionRepr.parse rpl opt

/-- What the iterator returns from a position on: the options, and the first error. -/
def items (rpl : Bool) (data : List UInt8) (pos : ℕ) : List (Outcome Ipv6OptionRepr) :=
  if pos < data.length then
    match option rpl data pos with
    | .ok repr =>
      have := repr.bufferLen_pos
      .ok repr :: items rpl data (pos + repr.bufferLen)
    | .error e => [.error e]
  else []
termination_by data.length - pos

lemma option_safe (rpl : Bool) (hpos : pos ≤ data.length) :
    Safe (option rpl data pos) fun repr => pos + repr.bufferLen ≤ data.length := by
  rw [option, sliceFrom_of hpos, ok_bind]
  refine Safe.bind (Ipv6OptionRepr.checkLen_safe _) fun _ _ => ?_
  refine (Ipv6OptionRepr.parse_safe _ _).mono fun repr hle => ?_
  rw [List.length_drop] at hle
  omega

/-- There are at most as many options as octets. -/
lemma length_items_le (rpl : Bool) (data : List UInt8) (pos : ℕ) :
    (items rpl data pos).length ≤ data.length - pos := by
  induction pos using items.induct rpl data with
  | case1 pos hlt repr hoption hpos ih =>
    rw [items, if_pos hlt, hoption]
    dsimp only
    rw [List.length_cons]
    omega
  | case2 pos hlt e hoption =>
    rw [items, if_pos hlt, hoption, List.length_singleton]
    omega
  | case3 pos hnlt =>
    rw [items, if_neg hnlt]
    exact Nat.zero_le _

/-- No item is a panic. -/
lemma safe_of_mem_items (rpl : Bool) (data : List UInt8) (hpos : pos ≤ data.length)
    {item : Outcome Ipv6OptionRepr} (hitem : item ∈ items rpl data pos) :
    item = fail ∨ ∃ repr, item = .ok repr := by
  induction pos using items.induct rpl data with
  | case1 pos hlt repr hoption _ ih =>
    rw [items, if_pos hlt, hoption] at hitem
    obtain rfl | hitem := List.mem_cons.mp hitem
    · exact .inr ⟨repr, rfl⟩
    · have hle := (Safe.iff.mp (option_safe rpl hpos)).2 repr hoption
      exact ih hle hitem
  | case2 pos hlt e hoption =>
    rw [items, if_pos hlt, hoption] at hitem
    obtain rfl := List.mem_singleton.mp hitem
    cases e with
    | malformed => exact .inl rfl
    | panic p => exact absurd hoption ((Safe.iff.mp (option_safe rpl hpos)).1 p)
  | case3 pos hnlt =>
    rw [items, if_neg hnlt] at hitem
    cases hitem

/-- The options among some items. -/
def options (items : List (Outcome Ipv6OptionRepr)) : List Ipv6OptionRepr :=
  items.filterMap Except.toOption

/-- The options that there is room for, if the one behind them is well formed too. -/
def collect : ℕ → List (Outcome Ipv6OptionRepr) → Outcome (List Ipv6OptionRepr)
  | _, [] => .ok []
  | _, .error e :: _ => .error e
  | 0, .ok _ :: _ => .ok []
  | room + 1, .ok repr :: items => do return repr :: (← collect room items)

lemma collect_of_malformed {room : ℕ} {items : List (Outcome Ipv6OptionRepr)}
    (hsafe : ∀ item ∈ items, item = fail ∨ ∃ repr, item = .ok repr)
    (h : fail ∈ items.take (room + 1)) : collect room items = fail := by
  induction items generalizing room with
  | nil => cases h
  | cons item items ih =>
    obtain rfl | ⟨repr, rfl⟩ := hsafe item List.mem_cons_self
    · cases room <;> rfl
    · rw [List.take_succ_cons] at h
      have hrest : fail ∈ items.take room := (List.mem_cons.mp h).resolve_left nofun
      cases room with
      | zero => cases hrest
      | succ room =>
        have hfail := ih (fun item hitem => hsafe item (List.mem_cons_of_mem _ hitem)) hrest
        rw [collect, hfail]
        rfl

lemma collect_of_wellFormed {room : ℕ} {items : List (Outcome Ipv6OptionRepr)}
    (hsafe : ∀ item ∈ items, item = fail ∨ ∃ repr, item = .ok repr)
    (h : fail ∉ items.take (room + 1)) : collect room items = .ok (options (items.take room)) := by
  induction items generalizing room with
  | nil => cases room <;> rfl
  | cons item items ih =>
    rw [List.take_succ_cons] at h
    obtain rfl | ⟨repr, rfl⟩ := hsafe item List.mem_cons_self
    · exact absurd List.mem_cons_self h
    · cases room with
      | zero => rfl
      | succ room =>
        have hrest : collect room items = .ok (options (items.take room)) :=
          ih (fun item hitem => hsafe item (List.mem_cons_of_mem _ hitem))
            fun hmem => h (List.mem_cons_of_mem _ hmem)
        rw [collect, hrest]
        rfl

lemma parseOptions_of_lt {maxOptions : ℕ} {before : List Ipv6OptionRepr} (hlt : pos < data.length) :
    Ipv6HopByHopRepr.parseOptions rpl maxOptions data pos before =
      option rpl data pos >>= fun repr =>
        if before.length < maxOptions then
          Ipv6HopByHopRepr.parseOptions rpl maxOptions data (pos + repr.bufferLen)
            (before ++ [repr])
        else .ok before := by
  rw [Ipv6HopByHopRepr.parseOptions, if_pos hlt, option, bind_assoc]
  simp only [bind_assoc, pure_eq_ok]

/-- The loop over the options collects what the iterator returns. -/
lemma parseOptions_eq {maxOptions : ℕ} (rpl : Bool) (data : List UInt8) (pos : ℕ)
    {before : List Ipv6OptionRepr} (hroom : before.length ≤ maxOptions) :
    Ipv6HopByHopRepr.parseOptions rpl maxOptions data pos before =
      (collect (maxOptions - before.length) (items rpl data pos)).map (before ++ ·) := by
  induction pos using items.induct rpl data generalizing before with
  | case1 pos hlt repr hoption hpos ih =>
    rw [parseOptions_of_lt hlt, items, if_pos hlt, hoption, ok_bind]
    dsimp only
    by_cases hfull : before.length < maxOptions
    · obtain ⟨room, hroom⟩ : ∃ room, maxOptions - before.length = room + 1 :=
        Nat.exists_eq_add_one_of_ne_zero (by omega)
      have hlength : (before ++ [repr]).length = before.length + 1 := by simp
      have hrest : maxOptions - (before ++ [repr]).length = room := by omega
      rw [if_pos hfull, ih (by omega), hrest, hroom, collect]
      cases collect room (items rpl data (pos + repr.bufferLen)) with
      | error e => rfl
      | ok reprs =>
        change Except.ok (before ++ [repr] ++ reprs) = Except.ok (before ++ repr :: reprs)
        rw [List.append_assoc, List.singleton_append]
    · have hnone : maxOptions - before.length = 0 := by omega
      rw [if_neg hfull, hnone, collect, Except.map, List.append_nil]
  | case2 pos hlt e hoption =>
    have hcollect : collect (maxOptions - before.length) [.error e] = .error e := by
      cases maxOptions - before.length <;> rfl
    rw [parseOptions_of_lt hlt, items, if_pos hlt, hoption]
    dsimp only
    rw [hcollect]
    rfl
  | case3 pos hnlt =>
    rw [Ipv6HopByHopRepr.parseOptions, if_neg hnlt, items, if_neg hnlt]
    cases maxOptions - before.length <;> simp [collect, Except.map]

/-- A header parses to its first options, and not at all if one of those or the next one is
malformed. -/
lemma parse_eq (rpl : Bool) (maxOptions : ℕ) (h : data ≠ []) :
    Ipv6HopByHopRepr.parse rpl maxOptions data =
      if fail ∈ (items rpl data 0).take (maxOptions + 1) then fail
      else .ok ⟨options ((items rpl data 0).take maxOptions)⟩ := by
  have hsafe : ∀ item ∈ items rpl data 0, item = fail ∨ ∃ repr, item = .ok repr :=
    fun _ hitem => safe_of_mem_items rpl data (Nat.zero_le _) hitem
  rw [Ipv6HopByHopRepr.parse, reject_of_not (by simpa using h), ok_bind,
    parseOptions_eq rpl data 0 (Nat.zero_le _)]
  split_ifs with hmalformed
  · rw [List.length_nil, Nat.sub_zero, collect_of_malformed hsafe hmalformed]
    rfl
  · rw [List.length_nil, Nat.sub_zero, collect_of_wellFormed hsafe hmalformed]
    rfl

end Ipv6OptionsIterator

/-! ### Processing -/

/-- An extension header is in the payload that it was parsed from. -/
lemma Ipv6ExtHeaderRepr.parse_spec (buf : List UInt8) :
    parse buf = fail ∨ ∃ extRepr, parse buf = .ok extRepr ∧
      extRepr.data.length = extRepr.length.toNat * 8 + 6 ∧
      (extRepr.length.toNat + 1) * 8 ≤ buf.length := by
  rw [parse, checkLen]
  by_cases hshort : buf.length < minHeaderSize
  · rw [if_pos hshort]
    exact .inl rfl
  have hmin : 8 ≤ buf.length := Nat.le_of_not_lt hshort
  rw [if_neg hshort, headerStop, index_get (by omega), index_get (by omega)]
  simp only [ok_bind, pure_eq_ok]
  by_cases hlen : buf.length < (Octets.get buf 1).toNat * 8 + 8
  · rw [reject_of hlen]
    exact .inl rfl
  · rw [reject_of_not hlen, ok_bind, slice_of (by omega) (by omega)]
    refine .inr ⟨_, rfl, ?_, ?_⟩
    · rw [List.length_drop, List.length_take]
      dsimp only
      omega
    · dsimp only
      omega

namespace InterfaceInner

variable {cfg : IfaceConfig} {ipv6Repr : Ipv6Repr}

/-- The first option that is not skipped decides what happens to a packet, of those that there is
room for. -/
def Obeys (iface : InterfaceInner cfg) (ipv6Repr : Ipv6Repr) (payload : List UInt8)
    (extRepr : Ipv6ExtHeaderRepr) (items : List (Outcome Ipv6OptionRepr)) : Prop :=
  let obeyed := Ipv6OptionsIterator.options (items.take cfg.ipv6HbhMaxOptions)
  match obeyed.find? fun option => option.failureType ≠ .skip with
  | none => iface.processHopbyhop ipv6Repr payload =
      .ok (.next extRepr.nextHeader (payload.drop ((extRepr.length.toNat + 1) * 8)))
  | some option => ∃ answer, iface.processHopbyhop ipv6Repr payload = .ok (.discard answer) ∧
      (answer.isSome ↔ option.failureType.notifies ipv6Repr.dstAddr) ∧
      ∀ packet ∈ answer, iface.optionProblem ipv6Repr payload = .ok packet

lemma exists_optionProblem (iface : InterfaceInner cfg) (hsrc : Ipv6.isUnicast ipv6Repr.srcAddr)
    (payload : List UInt8) : ∃ packet, iface.optionProblem ipv6Repr payload = .ok packet := by
  rw [optionProblem]
  exact exists_icmpv6Reply hsrc _

/-- A packet is discarded if its header or an option that is looked at is malformed, otherwise the
options that there is room for are obeyed. -/
theorem processHopbyhop_spec (iface : InterfaceInner cfg) (hsrc : Ipv6.isUnicast ipv6Repr.srcAddr)
    (payload : List UInt8) :
    (Ipv6ExtHeaderRepr.parse payload = fail ∧
      iface.processHopbyhop ipv6Repr payload = .ok (.discard none)) ∨
    ∃ extRepr, Ipv6ExtHeaderRepr.parse payload = .ok extRepr ∧
      (extRepr.length.toNat + 1) * 8 ≤ payload.length ∧
      (Ipv6OptionsIterator.items cfg.protoRpl extRepr.data 0).length ≤ extRepr.data.length ∧
      if fail ∈ (Ipv6OptionsIterator.items cfg.protoRpl extRepr.data 0).take
          (cfg.ipv6HbhMaxOptions + 1) then
        iface.processHopbyhop ipv6Repr payload = .ok (.discard none)
      else
        iface.Obeys ipv6Repr payload extRepr
          (Ipv6OptionsIterator.items cfg.protoRpl extRepr.data 0) := by
  obtain hparse | ⟨extRepr, hparse, hdata, hlen⟩ := Ipv6ExtHeaderRepr.parse_spec payload
  · refine .inl ⟨hparse, ?_⟩
    rw [processHopbyhop, parseHopbyhop, hparse]
    rfl
  refine .inr ⟨extRepr, hparse, hlen, Ipv6OptionsIterator.length_items_le _ _ _, ?_⟩
  have hne : extRepr.data ≠ [] := List.ne_nil_of_length_pos (by omega)
  have hheaders := Ipv6OptionsIterator.parse_eq cfg.protoRpl cfg.ipv6HbhMaxOptions hne
  split_ifs with hmalformed
  · rw [if_pos hmalformed] at hheaders
    rw [processHopbyhop, parseHopbyhop, hparse, ok_bind, hheaders]
    rfl
  · rw [if_neg hmalformed] at hheaders
    unfold Obeys processHopbyhop parseHopbyhop
    rw [hparse, ok_bind, hheaders]
    simp only [ok_bind, pure_eq_ok, discardedBy_eq]
    generalize (Ipv6OptionsIterator.options _).find? _ = first
    have hrest : Checked.slice payload (extRepr.headerLen + extRepr.data.length) payload.length =
        .ok (payload.drop ((extRepr.length.toNat + 1) * 8)) := by
      have hstop : extRepr.headerLen + extRepr.data.length = (extRepr.length.toNat + 1) * 8 := by
        rw [Ipv6ExtHeaderRepr.headerLen]
        omega
      rw [hstop, Checked.slice_of hlen le_rfl, List.take_length]
    cases first with
    | none =>
      dsimp only
      rw [Checked.ok_bind, hrest]
      rfl
    | some option =>
      dsimp only
      by_cases hnotifies : option.failureType.notifies ipv6Repr.dstAddr
      · obtain ⟨packet, hpacket⟩ := iface.exists_optionProblem hsrc payload
        rw [if_pos hnotifies, hpacket]
        refine ⟨some packet, rfl, iff_of_true rfl hnotifies, fun other hother => ?_⟩
        rw [Option.mem_some_iff.mp hother]
      · rw [if_neg hnotifies]
        exact ⟨none, rfl, iff_of_false Bool.false_ne_true hnotifies,
          fun _ hnone => absurd hnone (Option.not_mem_none _)⟩

/-- An option that asks to discard the packet is obeyed. -/
theorem processHopbyhop_first :
    (InterfaceInner.new 1514 {} (.ethernet 0x020000000001) 0 1 1 :
      InterfaceInner .default).processHopbyhop ⟨1, 2, .hopByHop, 8, 64⟩
      [59, 0, 0x41, 0, 0, 0, 0, 0] =
      .ok (.discard none) := by
  let iface : InterfaceInner .default := InterfaceInner.new 1514 {} (.ethernet 0x020000000001) 0 1 1
  have hparse : Ipv6ExtHeaderRepr.parse [59, 0, 0x41, 0, 0, 0, 0, 0] =
      .ok ⟨.ofByte 59, 0, [0x41, 0, 0, 0, 0, 0]⟩ := by decide
  have hsrc : Ipv6.isUnicast (⟨1, 2, .hopByHop, 8, 64⟩ : Ipv6Repr).srcAddr := by decide
  obtain ⟨-, h⟩ | ⟨extRepr, hext, -, -, h⟩ :=
    processHopbyhop_spec iface hsrc [59, 0, 0x41, 0, 0, 0, 0, 0]
  · exact h
  obtain rfl := Except.ok.inj (hparse.symm.trans hext)
  rw [if_neg (by decide +kernel), Obeys] at h
  have hfirst : (Ipv6OptionsIterator.options ((Ipv6OptionsIterator.items false
      [0x41, 0, 0, 0, 0, 0] 0).take 4)).find? (fun option => option.failureType ≠ .skip) =
      some (.unknown 0x41 0 []) := by decide +kernel
  change match (Ipv6OptionsIterator.options ((Ipv6OptionsIterator.items false
      [0x41, 0, 0, 0, 0, 0] 0).take 4)).find? (fun option => option.failureType ≠ .skip) with
    | none => _
    | some option => _ at h
  rw [hfirst] at h
  obtain ⟨answer, hanswer, hsome, -⟩ := h
  cases answer with
  | none => exact hanswer
  | some packet => exact absurd (hsome.mp rfl) (by decide)

/-- Behind four options of padding, an option that asks to discard the packet is not obeyed. -/
theorem processHopbyhop_fifth :
    ∃ (iface : InterfaceInner .default) (ipv6Repr : Ipv6Repr) (payload : List UInt8)
      (extRepr : Ipv6ExtHeaderRepr) (option : Ipv6OptionRepr) (rest : List UInt8),
      Ipv6.isUnicast ipv6Repr.srcAddr ∧ Ipv6ExtHeaderRepr.parse payload = .ok extRepr ∧
      fail ∉ Ipv6OptionsIterator.items false extRepr.data 0 ∧
      .ok option ∈ Ipv6OptionsIterator.items false extRepr.data 0 ∧
      option.failureType = .discard ∧
      iface.processHopbyhop ipv6Repr payload = .ok (.next extRepr.nextHeader rest) := by
  refine ⟨InterfaceInner.new 1514 {} (.ethernet 0x020000000001) 0 1 1, ⟨1, 2, .hopByHop, 8, 64⟩,
    [59, 0, 0, 0, 0, 0, 0x41, 0], ⟨.ofByte 59, 0, [0, 0, 0, 0, 0x41, 0]⟩, .unknown 0x41 0 [], [],
    by decide, by decide +kernel, by decide +kernel, by decide +kernel, by decide, ?_⟩
  exact processHopbyhop_eq_next.mpr ⟨_, ⟨[.pad1, .pad1, .pad1, .pad1]⟩, by decide +kernel,
    by decide, rfl, by decide⟩

end InterfaceInner

end Smoltcp
