import Smoltcp.Wire.TcpPacket

/-!
# Accessors for selective acknowledgement

Two accessors of a segment look for an option of their own, beside the loop of `TcpRepr.parse`. They
take the first option they find and do not stop at the end of the list, while the loop takes the
last one in front of it. All three are read off the options in front of the end of the list and the
octets behind it: `upToEnd`.
-/

namespace Smoltcp

open Outcome

namespace TcpOption

variable {β : Type} {options behind : List UInt8} {before : List TcpOption}

/-- Take the first option that is picked. -/
def search (pick : TcpOption → Option β) (default : β) (options : List UInt8) : Outcome β :=
  if options = [] then return default
  else
    match _h : TcpOption.parse options with
    | .error e => .error e
    | .ok (nextOptions, option) =>
      match pick option with
      | some value => return value
      | none => search pick default nextOptions
termination_by options.length
decreasing_by exact TcpRepr.parse_rest_lt _h

def permitted? (option : TcpOption) : Option Bool :=
  if option = .sackPermitted then some true else none

def ranges? : TcpOption → Option SackRanges
  | .sackRange slice => some slice
  | _ => none

/-- The options in front of the end of the list, and the octets behind it. -/
def upToEnd (options : List UInt8) : Outcome (List TcpOption × List UInt8) :=
  if options = [] then return ([], [])
  else
    match _h : TcpOption.parse options with
    | .error e => .error e
    | .ok (nextOptions, option) =>
      if option = .endOfList then return ([], nextOptions)
      else do
        let (before, behind) ← upToEnd nextOptions
        return (option :: before, behind)
termination_by options.length
decreasing_by exact TcpRepr.parse_rest_lt _h

/-- All options, as if there were no end of the list. -/
def readAll (options : List UInt8) : Outcome (List TcpOption) :=
  if options = [] then return []
  else
    match _h : TcpOption.parse options with
    | .error e => .error e
    | .ok (nextOptions, option) => do return option :: (← readAll nextOptions)
termination_by options.length
decreasing_by exact TcpRepr.parse_rest_lt _h

/-- The octets are options up to the last one, and none of them is picked. -/
def Free (pick : TcpOption → Option β) (octets : List UInt8) : Prop :=
  ∃ all, readAll octets = .ok all ∧ all.filterMap pick = []

end TcpOption

namespace TcpPacket

variable (buf : List UInt8)

/-- Returns whether the selective acknowledgement SYN flag is set or not. -/
def selectiveAckPermitted : Outcome Bool := do
  TcpOption.search TcpOption.permitted? false (← options buf)

/-- The selective acknowledgement ranges, if any. -/
def selectiveAckRanges : Outcome SackRanges := do
  TcpOption.search TcpOption.ranges? SackRanges.empty (← options buf)

end TcpPacket

namespace TcpOption

variable {β : Type} {options behind : List UInt8} {before : List TcpOption}
  {pick : TcpOption → Option β} {default : β}

lemma ne_nil_of_parse {options next : List UInt8} {option : TcpOption}
    (h : TcpOption.parse options = .ok (next, option)) : options ≠ [] := by
  rintro rfl
  cases h

lemma search_of {next : List UInt8} {option : TcpOption}
    (h : TcpOption.parse options = .ok (next, option)) :
    search pick default options =
      match pick option with
      | some value => .ok value
      | none => search pick default next := by
  rw [search, if_neg (ne_nil_of_parse h), h]
  rfl

lemma readAll_of {next : List UInt8} {option : TcpOption}
    (h : TcpOption.parse options = .ok (next, option)) :
    readAll options = (do return option :: (← readAll next)) := by
  rw [readAll, if_neg (ne_nil_of_parse h), h]

/-- A search goes through the options in front of the end of the list, and then on behind it. -/
lemma search_eq (hend : pick .endOfList = none) (h : upToEnd options = .ok (before, behind)) :
    search pick default options =
      match (before.filterMap pick).head? with
      | some value => .ok value
      | none => search pick default behind := by
  induction options using upToEnd.induct generalizing before with
  | case1 =>
    rw [upToEnd, if_pos rfl] at h
    cases h
    rfl
  | case2 options hne e hparse =>
    rw [upToEnd, if_neg hne, hparse] at h
    cases h
  | case3 options hne next hparse =>
    rw [upToEnd, if_neg hne, hparse] at h
    cases h
    rw [search_of hparse, hend]
    rfl
  | case4 options hne next option hparse hoption ih =>
    rw [upToEnd, if_neg hne, hparse] at h
    simp only [hoption, if_false] at h
    obtain ⟨⟨rest, tail⟩, hrest, heq⟩ := bind_eq_ok.mp h
    cases heq
    rw [search_of hparse]
    cases hpick : pick option with
    | some value => simp [hpick]
    | none => simp [hpick, ih hrest]

/-- The default is what a search answers where it finds nothing, unless an option stands for the
default itself. -/
lemma search_eq_default_iff
    (hpick : ∀ {octets rest option}, TcpOption.parse octets = .ok (rest, option) →
      pick option ≠ some default) :
    search pick default options = .ok default ↔ Free pick options := by
  unfold Free
  induction options using readAll.induct with
  | case1 => simp [search, readAll]
  | case2 options hne e hparse =>
    rw [search, if_neg hne, hparse, readAll, if_neg hne, hparse]
    exact ⟨nofun, nofun⟩
  | case3 options hne next option hparse ih =>
    have hne' := hpick hparse
    rw [search_of hparse, readAll_of hparse]
    cases hsome : pick option with
    | some value =>
      refine ⟨fun h => absurd (hsome.trans (congrArg some (Except.ok.inj h))) hne', ?_⟩
      rintro ⟨all, hall, hnil⟩
      obtain ⟨rest, -, heq⟩ := bind_eq_ok.mp hall
      cases heq
      simp [hsome] at hnil
    | none =>
      rw [ih]
      constructor
      · rintro ⟨all, hall, hnil⟩
        exact ⟨option :: all, by rw [hall]; rfl, by simpa [hsome] using hnil⟩
      · rintro ⟨all, hall, hnil⟩
        obtain ⟨rest, hrest, heq⟩ := bind_eq_ok.mp hall
        cases heq
        exact ⟨rest, hrest, by simpa [hsome] using hnil⟩

lemma parseData_sackRange_ne {kind : UInt8} {length : ℕ} {data : List UInt8}
    {slice : SackRanges} (hlen : 10 ≤ length → 0 < data.length)
    (h : parseData kind length data = .ok (.sackRange slice)) : slice ≠ #v[none, none, none] := by
  unfold parseData at h
  split_ifs at h with hmss hmss4 hws hws3 hperm hperm2 hsack htime
  · obtain ⟨_, -, h⟩ := bind_eq_ok.mp h
    cases h
  · cases h
  · obtain ⟨_, -, h⟩ := bind_eq_ok.mp h
    cases h
  · cases h
  · cases h
  · cases h
  · obtain ⟨_, hreject, h⟩ := bind_eq_ok.mp h
    obtain ⟨first, hfirst, h⟩ := bind_eq_ok.mp h
    obtain ⟨second, -, h⟩ := bind_eq_ok.mp h
    obtain ⟨third, -, h⟩ := bind_eq_ok.mp h
    cases h
    have hten : 10 ≤ length := by
      by_contra hlt
      rw [reject_of (.inl (by omega))] at hreject
      cases hreject
    rw [readRange, if_pos (hlen hten)] at hfirst
    obtain ⟨_, -, hfirst⟩ := bind_eq_ok.mp hfirst
    obtain ⟨_, -, hfirst⟩ := bind_eq_ok.mp hfirst
    cases hfirst
    simp
  · obtain ⟨_, -, h⟩ := bind_eq_ok.mp h
    obtain ⟨_, -, h⟩ := bind_eq_ok.mp h
    cases h
  · cases h

/-- An option of ranges has at least one of them. -/
lemma parse_sackRange_ne {octets rest : List UInt8} {slice : SackRanges}
    (h : TcpOption.parse octets = .ok (rest, .sackRange slice)) : slice ≠ #v[none, none, none] := by
  obtain ⟨⟨length, option⟩, hhead, hrest⟩ := bind_eq_ok.mp h
  obtain ⟨_, -, heq⟩ := bind_eq_ok.mp hrest
  obtain rfl := (Prod.mk.inj (Except.ok.inj heq)).2
  obtain ⟨kind, -, hhead⟩ := bind_eq_ok.mp hhead
  split_ifs at hhead with hend hnop
  · cases hhead
  · cases hhead
  · obtain ⟨len, -, hhead⟩ := bind_eq_ok.mp hhead
    obtain ⟨data, hdata, hhead⟩ := bind_eq_ok.mp hhead
    obtain ⟨option, hparse, heq⟩ := bind_eq_ok.mp hhead
    obtain rfl := (Prod.mk.inj (Except.ok.inj heq)).2
    have hlen : 10 ≤ len.toNat → 0 < data.length := by
      unfold getRange at hdata
      split_ifs at hdata with hrange
      · cases hdata
        intro hten
        rw [List.length_drop, List.length_take]
        omega
      · cases hdata
    exact parseData_sackRange_ne hlen hparse

end TcpOption

namespace TcpRepr

open TcpOption

variable {options behind : List UInt8} {before : List TcpOption}

/-- The loop over the options takes in those in front of the end of the list. -/
lemma parseOptions_eq (options : List UInt8) (acc : Options) :
    parseOptions options acc = (upToEnd options).map fun s => s.1.foldl Options.take acc := by
  induction options using upToEnd.induct generalizing acc with
  | case1 => simp [parseOptions, upToEnd, Except.map]
  | case2 options hne e hparse =>
    rw [parseOptions, if_neg hne, hparse, upToEnd, if_neg hne, hparse]
    rfl
  | case3 options hne next hparse =>
    rw [parseOptions, if_neg hne, hparse, upToEnd, if_neg hne, hparse]
    rfl
  | case4 options hne next option hparse hoption ih =>
    rw [parseOptions, if_neg hne, hparse, upToEnd, if_neg hne, hparse]
    simp only [hoption, if_false, ih]
    cases upToEnd next <;> rfl

lemma take_sackPermitted (acc : Options) (option : TcpOption) :
    (acc.take option).sackPermitted = (acc.sackPermitted || decide (option = .sackPermitted)) := by
  cases option with
  | sackPermitted => exact (Bool.or_true _).symm
  | _ => exact (Bool.or_false _).symm

lemma take_sackRanges (acc : Options) (option : TcpOption) :
    (acc.take option).sackRanges = (ranges? option).getD acc.sackRanges := by
  cases option <;> rfl

lemma foldl_take_sackPermitted (before : List TcpOption) (acc : Options) :
    (before.foldl Options.take acc).sackPermitted =
      (acc.sackPermitted || decide (.sackPermitted ∈ before)) := by
  induction before generalizing acc with
  | nil => simp
  | cons option before ih =>
    simp only [List.foldl_cons, ih, take_sackPermitted, List.mem_cons, Bool.or_assoc,
      Bool.decide_or, eq_comm]

/-- Of the options of ranges, the last one counts. -/
lemma foldl_take_sackRanges (before : List TcpOption) (acc : Options) :
    (before.foldl Options.take acc).sackRanges =
      (before.filterMap ranges?).getLast?.getD acc.sackRanges := by
  induction before generalizing acc with
  | nil => rfl
  | cons option before ih =>
    rw [List.foldl_cons, ih, take_sackRanges]
    cases hoption : ranges? option with
    | none => simp [hoption]
    | some slice => simp [hoption, List.getLast?_cons]

variable {rx : Bool} {buf : List UInt8} {srcAddr dstAddr : IpAddress} {repr : TcpRepr}

/-- What a segment that is accepted says of selective acknowledgement. -/
lemma parse_options (h : parse rx buf srcAddr dstAddr = .ok repr) :
    ∃ options before behind, TcpPacket.options buf = .ok options ∧
      upToEnd options = .ok (before, behind) ∧
      repr.sackPermitted = decide (.sackPermitted ∈ before) ∧
      repr.sackRanges = (before.filterMap ranges?).getLast?.getD #v[none, none, none] := by
  unfold parse at h
  obtain ⟨_, -, h⟩ := bind_eq_ok.mp h
  obtain ⟨_, -, h⟩ := bind_eq_ok.mp h
  obtain ⟨_, -, h⟩ := bind_eq_ok.mp h
  obtain ⟨_, -, h⟩ := bind_eq_ok.mp h
  obtain ⟨_, -, h⟩ := bind_eq_ok.mp h
  obtain ⟨_, -, h⟩ := bind_eq_ok.mp h
  obtain ⟨_, -, h⟩ := bind_eq_ok.mp h
  obtain ⟨_, -, h⟩ := bind_eq_ok.mp h
  obtain ⟨octets, hoptions, h⟩ := bind_eq_ok.mp h
  obtain ⟨options, hparse, h⟩ := bind_eq_ok.mp h
  obtain ⟨_, -, h⟩ := bind_eq_ok.mp h
  obtain ⟨_, -, h⟩ := bind_eq_ok.mp h
  obtain ⟨_, -, h⟩ := bind_eq_ok.mp h
  obtain ⟨_, -, h⟩ := bind_eq_ok.mp h
  obtain ⟨_, -, h⟩ := bind_eq_ok.mp h
  obtain rfl := Except.ok.inj h
  rw [parseOptions_eq] at hparse
  cases hread : upToEnd octets with
  | error e =>
    rw [hread] at hparse
    cases hparse
  | ok sections =>
    rw [hread] at hparse
    obtain rfl := Except.ok.inj hparse
    refine ⟨octets, sections.1, sections.2, hoptions, hread, ?_, ?_⟩
    · exact foldl_take_sackPermitted sections.1 {}
    · exact foldl_take_sackRanges sections.1 {}

end TcpRepr

namespace TcpPacket

open TcpOption

/-- The options in front of the end of the list, and the octets behind it. -/
def optionsUpToEnd (buf : List UInt8) : Outcome (List TcpOption × List UInt8) := do
  upToEnd (← options buf)

/-- The permission is in front of the end of the list or nowhere, the first option of ranges is the
last one too, and if there is none then there is none behind the end of the list. What is looked
through behind the end has to be options. -/
structure Unambiguous (before : List TcpOption) (behind : List UInt8) : Prop where
  permitted : .sackPermitted ∈ before ∨ Free permitted? behind
  ranges_head : (before.filterMap ranges?).head? = (before.filterMap ranges?).getLast?
  ranges_behind : before.filterMap ranges? = [] → Free ranges? behind

variable {rx : Bool} {buf options behind : List UInt8} {before : List TcpOption}
  {srcAddr dstAddr : IpAddress} {repr : TcpRepr}

lemma search_permitted_iff (h : upToEnd options = .ok (before, behind)) :
    search permitted? false options = .ok (decide (.sackPermitted ∈ before)) ↔
      .sackPermitted ∈ before ∨ Free permitted? behind := by
  rw [search_eq rfl h]
  by_cases hmem : .sackPermitted ∈ before
  · have hhead : (before.filterMap permitted?).head? = some true := by
      rw [List.head?_filterMap]
      cases hsome : before.findSome? permitted? with
      | none =>
        have := List.findSome?_eq_none_iff.mp hsome .sackPermitted hmem
        cases this
      | some value =>
        obtain ⟨option, -, hoption⟩ := List.exists_of_findSome?_eq_some hsome
        unfold permitted? at hoption
        split_ifs at hoption
        exact hoption.symm
    rw [hhead, decide_eq_true hmem]
    exact ⟨fun _ => .inl hmem, fun _ => rfl⟩
  · have hnil : before.filterMap permitted? = [] := by
      rw [List.filterMap_eq_nil_iff]
      intro option hoption
      refine if_neg fun h => hmem ?_
      rwa [← h]
    rw [hnil, decide_eq_false hmem]
    refine Iff.trans ?_ (or_iff_right hmem).symm
    exact search_eq_default_iff fun {_ _ option} _ => by
      unfold permitted?
      split_ifs <;> nofun

lemma search_ranges_iff (h : upToEnd options = .ok (before, behind)) :
    search ranges? #v[none, none, none] options =
        .ok ((before.filterMap ranges?).getLast?.getD #v[none, none, none]) ↔
      (before.filterMap ranges?).head? = (before.filterMap ranges?).getLast? ∧
        (before.filterMap ranges? = [] → Free ranges? behind) := by
  rw [search_eq rfl h]
  cases hfilter : before.filterMap ranges? with
  | nil =>
    refine Iff.trans (search_eq_default_iff ?_) (by simp)
    intro octets rest option hparse hranges
    cases option with
    | sackRange slice => exact parse_sackRange_ne hparse (Option.some.inj hranges)
    | _ => cases hranges
  | cons slice slices =>
    simp [List.getLast?_cons]

/-- The accessors agree with the parser exactly on the segments whose options are unambiguous. -/
theorem accessors_agree_iff (h : TcpRepr.parse rx buf srcAddr dstAddr = .ok repr) :
    (selectiveAckPermitted buf = .ok repr.sackPermitted ∧
        selectiveAckRanges buf = .ok repr.sackRanges) ↔
      ∃ before behind, optionsUpToEnd buf = .ok (before, behind) ∧ Unambiguous before behind := by
  obtain ⟨options, before, behind, hoptions, hread, hpermitted, hranges⟩ := TcpRepr.parse_options h
  have hend : optionsUpToEnd buf = .ok (before, behind) := by
    rw [optionsUpToEnd, hoptions]
    exact hread
  rw [selectiveAckPermitted, selectiveAckRanges, hoptions, ok_bind, ok_bind, hpermitted, hranges,
    search_permitted_iff hread, search_ranges_iff hread]
  constructor
  · rintro ⟨hp, hhead, hbehind⟩
    exact ⟨before, behind, hend, hp, hhead, hbehind⟩
  · rintro ⟨before', behind', hend', hunambiguous⟩
    obtain ⟨rfl, rfl⟩ := Prod.mk.inj (Except.ok.inj (hend.symm.trans hend'))
    exact ⟨hunambiguous.permitted, hunambiguous.ranges_head, hunambiguous.ranges_behind⟩

/-- A SYN whose options are the four octets. -/
def synWith (options : List UInt8) : List UInt8 :=
  [0, 80, 0, 81, 0, 0, 0, 1, 0, 0, 0, 0, 0x60, 0x02, 0, 0, 0, 0, 0, 0] ++ options

lemma parse_synWith {opts : List UInt8} {acc : TcpRepr.Options}
    (hread : checkLen (synWith opts) = .ok () ∧ srcPort (synWith opts) = .ok 80 ∧
      dstPort (synWith opts) = .ok 81 ∧ TcpRepr.readControl (synWith opts) = .ok .syn ∧
      TcpRepr.readAckNumber (synWith opts) = .ok none ∧ seqNumber (synWith opts) = .ok 1 ∧
      windowLen (synWith opts) = .ok 0 ∧ payload (synWith opts) = .ok [])
    (hopts : TcpPacket.options (synWith opts) = .ok opts)
    (h : TcpRepr.parseOptions opts {} = .ok acc) :
    ∃ repr, TcpRepr.parse false (synWith opts) (.ipv4 1) (.ipv4 2) = .ok repr ∧
      repr.sackPermitted = acc.sackPermitted ∧ repr.sackRanges = acc.sackRanges := by
  obtain ⟨hcheck, hsrc, hdst, hcontrol, hack, hseq, hwindow, hpayload⟩ := hread
  refine ⟨⟨80, 81, .syn, 1, none, 0, acc.windowScale, acc.maxSegSize, acc.sackPermitted,
    acc.sackRanges, acc.timestamp, []⟩, ?_, rfl, rfl⟩
  unfold TcpRepr.parse
  rw [hcheck, hsrc, hdst, hcontrol, hack, hseq, hwindow, hpayload, hopts]
  change (do let options ← TcpRepr.parseOptions opts {}; _) = _
  rw [h]
  rfl

/-- A segment with the permission, in front of the end of the list. -/
theorem accessors_agree_permitted :
    selectiveAckPermitted (synWith [4, 2, 1, 0]) = .ok true ∧
      selectiveAckRanges (synWith [4, 2, 1, 0]) = .ok #v[none, none, none] := by
  have hopts : TcpPacket.options (synWith [4, 2, 1, 0]) = .ok [4, 2, 1, 0] := by decide
  have hpermitted : TcpOption.parse [4, 2, 1, 0] = .ok ([1, 0], .sackPermitted) := by decide
  have hnop : TcpOption.parse [1, 0] = .ok ([0], .noOperation) := by decide
  have hend : TcpOption.parse [0] = .ok ([], .endOfList) := by decide
  have hread : upToEnd [4, 2, 1, 0] = .ok ([.sackPermitted, .noOperation], []) := by
    rw [upToEnd, if_neg (by simp), hpermitted]
    change (do let s ← upToEnd [1, 0]; _) = _
    rw [upToEnd, if_neg (by simp), hnop]
    change (do let s ← (do let s ← upToEnd [0]; _); _) = _
    rw [upToEnd, if_neg (by simp), hend]
    rfl
  have hfree : Free ranges? [] := ⟨[], by rw [readAll, if_pos rfl]; rfl, rfl⟩
  have hparse : TcpRepr.parseOptions [4, 2, 1, 0] {} = .ok { sackPermitted := true } := by
    rw [TcpRepr.parseOptions_eq, hread]
    rfl
  obtain ⟨repr, hparse, hp, hr⟩ := parse_synWith (by decide) (by decide) hparse
  have hagree := (accessors_agree_iff hparse).mpr
    ⟨_, _, by rw [optionsUpToEnd, hopts]; exact hread, .inl List.mem_cons_self, rfl, fun _ => hfree⟩
  rwa [hp, hr] at hagree

/-- The permission behind the end of the list is found by the accessor. -/
theorem accessors_behind_end :
    ∃ repr, TcpRepr.parse false (synWith [0, 4, 2, 0]) (.ipv4 1) (.ipv4 2) = .ok repr ∧
      repr.sackPermitted = false ∧ selectiveAckPermitted (synWith [0, 4, 2, 0]) = .ok true := by
  have hopts : TcpPacket.options (synWith [0, 4, 2, 0]) = .ok [0, 4, 2, 0] := by decide
  have hend : TcpOption.parse [0, 4, 2, 0] = .ok ([4, 2, 0], .endOfList) := by decide
  have hpermitted : TcpOption.parse [4, 2, 0] = .ok ([0], .sackPermitted) := by decide
  have hparse : TcpRepr.parseOptions [0, 4, 2, 0] {} = .ok {} := by
    rw [TcpRepr.parseOptions, if_neg (by simp), hend]
    rfl
  obtain ⟨repr, hparse, hp, -⟩ := parse_synWith (by decide) (by decide) hparse
  refine ⟨repr, hparse, hp, ?_⟩
  rw [selectiveAckPermitted, hopts, ok_bind, search_of hend]
  change search permitted? false [4, 2, 0] = .ok true
  rw [search_of hpermitted]
  rfl

end TcpPacket

end Smoltcp
