import Smoltcp.Iface.Interface

/-!
# The source address of an IPv6 packet

Of the addresses that are candidates for a destination one is to be taken that is the best in the
order of three rules. The loop compares each address with the one that it has so far, and the later
rules overrule the earlier ones there. So it depends on the order of the addresses what is taken,
unless the best addresses win every comparison.
-/

namespace Smoltcp

/-! ### Choosing step by step -/

section Fold

variable {α : Type} {step : α → α → α}

/-- What is kept by every step is reached once an element of the list leads there. -/
lemma foldl_reaches {kept running : α → Prop} {l : List α}
    (hrunning : ∀ c a, running c → a ∈ l → running (step c a))
    (hkept : ∀ c a, kept c → a ∈ l → kept (step c a)) {m : α} (hm : m ∈ l)
    (hreach : ∀ c, running c → kept (step c m)) {init : α} (hinit : running init) :
    kept (l.foldl step init) := by
  obtain ⟨before, after, rfl⟩ := List.append_of_mem hm
  have hrun : running (before.foldl step init) :=
    List.foldlRecOn before step hinit fun c hc a ha =>
      hrunning c a hc (List.mem_append_left _ ha)
  rw [List.foldl_append, List.foldl_cons]
  refine List.foldlRecOn after step (hreach _ hrun) fun c hc a ha => ?_
  exact hkept c a hc (List.mem_append_right _ (List.mem_cons_of_mem _ ha))

end Fold

namespace InterfaceInner

/-! ### The order of the rules -/

section Rules

variable (dstAddr : Ipv6.Address)

/-- Rule 2: of two scopes the smaller one is preferred, unless it is smaller than the scope of the
destination. -/
def PrefersScope (b a : Ipv6.Cidr) : Prop :=
  if scope b.address < scope a.address then scope dstAddr ≤ scope b.address
  else scope a.address < scope b.address ∧ scope a.address < scope dstAddr

/-- The first of the rules 1, 2 and 8 that decides prefers `b` to `a`. -/
def Better (b a : Ipv6.Cidr) : Prop :=
  (b.address = dstAddr ∧ a.address ≠ dstAddr) ∨
    (b.address = dstAddr ↔ a.address = dstAddr) ∧
      (PrefersScope dstAddr b a ∨ scope b.address = scope a.address ∧
        commonPrefixLength a dstAddr < commonPrefixLength b dstAddr)

/-- A candidate that no other one is better than. -/
structure Best (cidrs : List Ipv6.Cidr) (m : Ipv6.Cidr) : Prop where
  mem : m ∈ cidrs
  candidate : isCandidateSourceAddress dstAddr m.address
  not_better : ∀ b ∈ cidrs, isCandidateSourceAddress dstAddr b.address → ¬ Better dstAddr b m

/-- One of the addresses, and a best one if there are candidates. -/
def Follows (cidrs : List Ipv6.Cidr) (srcAddr : Ipv6.Address) : Prop :=
  (∃ cidr ∈ cidrs, cidr.address = srcAddr) ∧
    ((∃ b ∈ cidrs, isCandidateSourceAddress dstAddr b.address) →
      ∃ m, Best dstAddr cidrs m ∧ m.address = srcAddr)

/-- The loop takes `a` when it has `c`. -/
def Displaces (c a : Ipv6.Cidr) : Prop :=
  (c.address ≠ dstAddr ∧ a.address = dstAddr) ∨
    (scope c.address < scope a.address ∧ scope c.address < scope dstAddr) ∨
    (scope a.address ≤ scope c.address ∧ scope dstAddr < scope a.address) ∨
    commonPrefixLength c dstAddr < commonPrefixLength a dstAddr

/-- An address with the address of a best one. -/
def IsGood (cidrs : List Ipv6.Cidr) (c : Ipv6.Cidr) : Prop :=
  c ∈ cidrs ∧ ∃ m, Best dstAddr cidrs m ∧ m.address = c.address

/-- The best addresses win every comparison. -/
structure Settled (cidrs : List Ipv6.Cidr) : Prop where
  taken : ∀ m, Best dstAddr cidrs m → ∀ c ∈ cidrs, ¬ IsGood dstAddr cidrs c → Displaces dstAddr c m
  kept : ∀ c, IsGood dstAddr cidrs c →
    Best dstAddr cidrs c ∨ scope dstAddr < scope c.address →
    ∀ a ∈ cidrs, isCandidateSourceAddress dstAddr a.address → ¬ IsGood dstAddr cidrs a →
      ¬ Displaces dstAddr c a

end Rules

section Order

variable {dstAddr : Ipv6.Address} {cidrs : List Ipv6.Cidr} {a b c m m' : Ipv6.Cidr}

lemma not_better_self (a : Ipv6.Cidr) : ¬ Better dstAddr a a := by
  simp [Better, PrefersScope]

lemma Better.trans (hab : Better dstAddr a b) (hbc : Better dstAddr b c) : Better dstAddr a c := by
  unfold Better PrefersScope at *
  grind

/-- There is a best one among candidates. -/
lemma exists_best (h : ∃ b ∈ cidrs, isCandidateSourceAddress dstAddr b.address) :
    ∃ m, Best dstAddr cidrs m := by
  induction cidrs with
  | nil =>
    obtain ⟨b, hb, -⟩ := h
    cases hb
  | cons a cidrs ih =>
    by_cases hrest : ∃ b ∈ cidrs, isCandidateSourceAddress dstAddr b.address
    · obtain ⟨m, hm⟩ := ih hrest
      by_cases hbetter : isCandidateSourceAddress dstAddr a.address ∧ Better dstAddr a m
      · refine ⟨a, List.mem_cons_self, hbetter.1, ?_⟩
        rintro b hb hcandidate hba
        obtain rfl | hb := List.mem_cons.mp hb
        · exact not_better_self b hba
        · exact hm.not_better b hb hcandidate (hba.trans hbetter.2)
      · refine ⟨m, List.mem_cons_of_mem _ hm.mem, hm.candidate, ?_⟩
        intro b hb hcandidate hbm
        obtain rfl | hb := List.mem_cons.mp hb
        · exact hbetter ⟨hcandidate, hbm⟩
        · exact hm.not_better b hb hcandidate hbm
    · have hno : ∀ b ∈ cidrs, ¬ isCandidateSourceAddress dstAddr b.address :=
        fun b hb hcandidate => hrest ⟨b, hb, hcandidate⟩
      obtain ⟨b, hb, hcandidate⟩ := h
      obtain rfl | hb := List.mem_cons.mp hb
      · refine ⟨b, List.mem_cons_self, hcandidate, ?_⟩
        intro b' hb' hcandidate' hbetter
        obtain rfl | hb' := List.mem_cons.mp hb'
        · exact not_better_self b' hbetter
        · exact hno b' hb' hcandidate'
      · exact absurd hcandidate (hno b hb)

/-- The best ones do not differ in what the rules compare. -/
lemma Best.keys (h : Best dstAddr cidrs m) (h' : Best dstAddr cidrs m') :
    (m'.address = dstAddr ↔ m.address = dstAddr) ∧ scope m'.address = scope m.address ∧
      commonPrefixLength m' dstAddr = commonPrefixLength m dstAddr := by
  have hm := h.not_better m' h'.mem h'.candidate
  have hm' := h'.not_better m h.mem h.candidate
  unfold Better PrefersScope at hm hm'
  grind

lemma Best.isGood (h : Best dstAddr cidrs m) : IsGood dstAddr cidrs m := ⟨h.mem, m, h, rfl⟩

lemma IsGood.candidate (h : IsGood dstAddr cidrs c) :
    isCandidateSourceAddress dstAddr c.address := by
  obtain ⟨m, hm, heq⟩ := h.2
  rw [← heq]
  exact hm.candidate

/-- An address with the address of a best one can only have a shorter prefix in common with the
destination. -/
lemma IsGood.keys (hc : IsGood dstAddr cidrs c) (h : Best dstAddr cidrs m) :
    (c.address = dstAddr ↔ m.address = dstAddr) ∧ scope c.address = scope m.address ∧
      commonPrefixLength c dstAddr ≤ commonPrefixLength m dstAddr := by
  obtain ⟨m', h', heq⟩ := hc.2
  obtain ⟨hdst, hscope, -⟩ := h.keys h'
  rw [heq] at hdst hscope
  have hnot := h.not_better c hc.1 hc.candidate
  unfold Better at hnot
  exact ⟨hdst, hscope, by grind⟩

lemma Best.of_keys (h : Best dstAddr cidrs m) (hc : IsGood dstAddr cidrs c)
    (hle : commonPrefixLength m dstAddr ≤ commonPrefixLength c dstAddr) :
    Best dstAddr cidrs c := by
  obtain ⟨hdst, hscope, hle'⟩ := hc.keys h
  refine ⟨hc.1, hc.candidate, fun b hb hcandidate hbetter => ?_⟩
  refine h.not_better b hb hcandidate ?_
  unfold Better PrefersScope at *
  grind

/-- A destination that is one of the addresses is the best one. -/
lemma Follows.eq_of_mem {srcAddr : Ipv6.Address} (h : Follows dstAddr cidrs srcAddr)
    (hdst : Ipv6.isUnicast dstAddr) (hmem : ∃ c ∈ cidrs, c.address = dstAddr) :
    srcAddr = dstAddr := by
  obtain ⟨c, hc, rfl⟩ := hmem
  have hcandidate : isCandidateSourceAddress c.address c.address :=
    ⟨fun h => h.2 h.1, fun h => hdst (.inl h.1), fun h => hdst h.symm⟩
  obtain ⟨m, hm, rfl⟩ := h.2 ⟨c, hc, hcandidate⟩
  by_contra hne
  exact hm.not_better c hc hcandidate (.inl ⟨rfl, hne⟩)

lemma prefer_eq_if (h : isCandidateSourceAddress dstAddr a.address) :
    (Displaces dstAddr c a → prefer dstAddr c a = a) ∧
      (¬ Displaces dstAddr c a → prefer dstAddr c a = c) := by
  unfold Displaces prefer
  rw [if_neg (not_not.mpr h)]
  grind

lemma prefer_of_not (h : ¬ isCandidateSourceAddress dstAddr a.address) :
    prefer dstAddr c a = c := if_pos h

lemma prefer_mem (hc : c ∈ cidrs) (ha : a ∈ cidrs) : prefer dstAddr c a ∈ cidrs := by
  obtain heq | heq := prefer_eq dstAddr c a
  · rwa [heq]
  · rwa [heq]

/-! ### Orders of the addresses -/

/-- An address that is only displaced by addresses of this kind. -/
def IsSafe (dstAddr : Ipv6.Address) (cidrs : List Ipv6.Cidr) (c : Ipv6.Cidr) : Prop :=
  IsGood dstAddr cidrs c ∧ (Best dstAddr cidrs c ∨ scope dstAddr < scope c.address)

lemma Settled.isSafe_prefer (h : Settled dstAddr cidrs) (hc : IsSafe dstAddr cidrs c)
    (ha : a ∈ cidrs) : IsSafe dstAddr cidrs (prefer dstAddr c a) := by
  by_cases hcandidate : isCandidateSourceAddress dstAddr a.address
  case neg => rwa [prefer_of_not hcandidate]
  obtain ⟨htakes, hstays⟩ := prefer_eq_if (c := c) hcandidate
  by_cases hdisplaces : Displaces dstAddr c a
  case neg => rwa [hstays hdisplaces]
  have hgood : IsGood dstAddr cidrs a := by
    by_contra hnot
    exact h.kept c hc.1 hc.2 a ha hcandidate hnot hdisplaces
  rw [htakes hdisplaces]
  refine ⟨hgood, .inr ?_⟩
  obtain ⟨m, hm, -⟩ := hc.1.2
  obtain ⟨hdst, hscope, -⟩ := hc.1.keys hm
  obtain ⟨hdst', hscope', -⟩ := hgood.keys hm
  obtain hbest | hlt := hc.2
  · obtain ⟨-, -, hle⟩ := hgood.keys hbest
    unfold Displaces at hdisplaces
    grind
  · omega

lemma Settled.isSafe_best (h : Settled dstAddr cidrs) (hm : Best dstAddr cidrs m)
    (hc : c ∈ cidrs) : IsSafe dstAddr cidrs (prefer dstAddr c m) := by
  obtain ⟨htakes, hstays⟩ := prefer_eq_if (c := c) hm.candidate
  by_cases hdisplaces : Displaces dstAddr c m
  · rw [htakes hdisplaces]
    exact ⟨hm.isGood, .inl hm⟩
  · have hgood : IsGood dstAddr cidrs c := by
      by_contra hnot
      exact hdisplaces (h.taken m hm c hc hnot)
    rw [hstays hdisplaces]
    refine ⟨hgood, .inl (hm.of_keys hgood ?_)⟩
    exact Nat.not_lt.mp fun hlt => hdisplaces (.inr (.inr (.inr hlt)))

/-- The loop ends with a best address, whatever the order of the addresses is. -/
lemma Settled.isGood_foldl (h : Settled dstAddr cidrs) {l : List Ipv6.Cidr} (hperm : l.Perm cidrs)
    (hm : Best dstAddr cidrs m) (hc : c ∈ cidrs) :
    IsGood dstAddr cidrs (l.foldl (prefer dstAddr) c) := by
  have hrunning : ∀ c a, c ∈ cidrs → a ∈ l → prefer dstAddr c a ∈ cidrs :=
    fun c a hc ha => prefer_mem hc (hperm.mem_iff.mp ha)
  have hkept : ∀ c a, IsSafe dstAddr cidrs c → a ∈ l → IsSafe dstAddr cidrs (prefer dstAddr c a) :=
    fun c a hc ha => h.isSafe_prefer hc (hperm.mem_iff.mp ha)
  have hsafe := foldl_reaches hrunning hkept (hperm.mem_iff.mpr hm.mem)
    (fun c hc => h.isSafe_best hm hc) hc
  exact hsafe.1

/-- The loop ends with a best address for every order of the addresses. -/
def SettlesAll (dstAddr : Ipv6.Address) (cidrs : List Ipv6.Cidr) : Prop :=
  ∀ c l, (c :: l).Perm cidrs → IsGood dstAddr cidrs ((c :: l).foldl (prefer dstAddr) c)

lemma prefer_self (c : Ipv6.Cidr) : prefer dstAddr c c = c := by
  obtain heq | heq := prefer_eq dstAddr c c <;> exact heq

lemma foldl_prefer_self {l : List Ipv6.Cidr} (h : ∀ a ∈ l, prefer dstAddr c a = c) :
    l.foldl (prefer dstAddr) c = c := by
  induction l with
  | nil => rfl
  | cons a l ih =>
    rw [List.foldl_cons, h a List.mem_cons_self]
    exact ih fun b hb => h b (List.mem_cons_of_mem _ hb)

/-- An address that no best one displaces stays, if the best ones come right behind it. -/
lemma SettlesAll.taken (h : SettlesAll dstAddr cidrs) (hm : Best dstAddr cidrs m)
    (hc : c ∈ cidrs) (hbad : ¬ IsGood dstAddr cidrs c) : Displaces dstAddr c m := by
  classical
  by_contra hnot
  let good (a : Ipv6.Cidr) : Bool := decide (IsGood dstAddr cidrs a)
  have hperm : (c :: ((cidrs.erase c).filter good ++ (cidrs.erase c).filter fun a => !good a)).Perm
      cidrs :=
    ((List.filter_append_perm good _).cons c).trans (List.perm_cons_erase hc).symm
  have hstays : ((cidrs.erase c).filter good).foldl (prefer dstAddr) c = c := by
    refine foldl_prefer_self fun g hg => ?_
    have hg : IsGood dstAddr cidrs g := by simpa [good] using (List.mem_filter.mp hg).2
    obtain ⟨hdst, hscope, hle⟩ := hg.keys hm
    refine (prefer_eq_if hg.candidate).2 fun hdisplaces => hnot ?_
    unfold Displaces at hdisplaces ⊢
    grind
  have hgood := h _ _ hperm
  rw [List.foldl_cons, prefer_self, List.foldl_append, hstays] at hgood
  refine absurd hgood (List.foldlRecOn (motive := fun c => ¬ IsGood dstAddr cidrs c) _ _ hbad ?_)
  intro c' hc' a ha
  have ha : ¬ IsGood dstAddr cidrs a := by simpa [good] using (List.mem_filter.mp ha).2
  obtain heq | heq := prefer_eq dstAddr c' a
  · rwa [heq]
  · rwa [heq]

/-- What displaces a best address does so at the end of the list. -/
lemma SettlesAll.kept (h : SettlesAll dstAddr cidrs) (hg : IsGood dstAddr cidrs m)
    (hsafe : Best dstAddr cidrs m ∨ scope dstAddr < scope m.address) (ha : a ∈ cidrs)
    (hcandidate : isCandidateSourceAddress dstAddr a.address) (hbad : ¬ IsGood dstAddr cidrs a) :
    ¬ Displaces dstAddr m a := by
  intro hdisplaces
  have hne : a ≠ m := by
    rintro rfl
    exact hbad hg
  have hperm : ((cidrs.erase m).erase a ++ [m, a]).Perm cidrs := by
    have hmem : a ∈ cidrs.erase m := (List.mem_erase_of_ne hne).mpr ha
    refine List.perm_append_comm.trans ?_
    exact ((List.perm_cons_erase hmem).symm.cons m).trans (List.perm_cons_erase hg.1).symm
  obtain ⟨first, l, hl⟩ : ∃ first l, (cidrs.erase m).erase a ++ [m, a] = first :: l :=
    List.exists_cons_of_ne_nil (by simp)
  rw [hl] at hperm
  have hgood := h _ _ hperm
  rw [← hl, List.foldl_append, List.foldl_cons, List.foldl_cons, List.foldl_nil] at hgood
  generalize ((cidrs.erase m).erase a).foldl (prefer dstAddr) first = c at hgood
  -- whatever the loop has then, it does not keep a best address
  obtain ⟨htakes, hstays⟩ := prefer_eq_if (c := prefer dstAddr c m) hcandidate
  refine hbad ?_
  rwa [htakes ?_] at hgood
  by_contra hnot
  rw [hstays hnot] at hgood
  obtain ⟨m', hm', -⟩ := hg.2
  obtain ⟨hdst, hscope, hle⟩ := hg.keys hm'
  obtain ⟨hdst', hscope', hle'⟩ := hgood.keys hm'
  obtain ⟨htakes', hstays'⟩ := prefer_eq_if (c := c) hg.candidate
  by_cases hfirst : Displaces dstAddr c m
  · rw [htakes' hfirst] at hnot
    exact hnot hdisplaces
  · rw [hstays' hfirst] at hnot hdst' hscope' hle' hgood
    obtain hbest | hlt := hsafe
    · obtain ⟨-, -, hle''⟩ := hgood.keys hbest
      unfold Displaces at hdisplaces hnot
      grind
    · unfold Displaces at hfirst
      grind

/-- A candidate that is better than all others, and wins against them in either order. -/
lemma settled_of_wins (hm : m ∈ cidrs) (hcandidate : isCandidateSourceAddress dstAddr m.address)
    (h : ∀ c ∈ cidrs, c ≠ m → c.address ≠ m.address ∧ ¬ Better dstAddr c m ∧
      Better dstAddr m c ∧ Displaces dstAddr c m ∧ ¬ Displaces dstAddr m c) :
    Settled dstAddr cidrs := by
  have hbest : Best dstAddr cidrs m := by
    refine ⟨hm, hcandidate, fun c hc _ hbetter => ?_⟩
    by_cases heq : c = m
    · rw [heq] at hbetter
      exact not_better_self m hbetter
    · exact (h c hc heq).2.1 hbetter
  have hunique : ∀ m', Best dstAddr cidrs m' → m' = m := by
    intro m' hm'
    by_contra hne
    exact hm'.not_better m hm hcandidate (h m' hm'.mem hne).2.2.1
  constructor
  · intro m' hm' c hc hbad
    rw [hunique m' hm']
    refine (h c hc ?_).2.2.2.1
    rintro rfl
    exact hbad hbest.isGood
  · intro c hg _ a ha _ hbad
    have hc : c = m := by
      obtain ⟨hmem, m', hm', haddr⟩ := hg
      rw [hunique m' hm'] at haddr
      by_contra hne
      exact (h c hmem hne).1 haddr.symm
    rw [hc]
    refine (h a ha ?_).2.2.2.2
    rintro rfl
    exact hbad hbest.isGood

lemma settlesAll_iff (hm : Best dstAddr cidrs m) :
    SettlesAll dstAddr cidrs ↔ Settled dstAddr cidrs := by
  constructor
  · intro h
    exact ⟨fun m hm c hc hbad => h.taken hm hc hbad,
      fun c hc hsafe a ha hcandidate hbad => h.kept hc hsafe ha hcandidate hbad⟩
  · intro h c l hperm
    exact h.isGood_foldl hperm hm (hperm.mem_iff.mp List.mem_cons_self)

end Order

/-! ### The source address -/

section Source

variable {cfg : IfaceConfig} {iface : InterfaceInner cfg} {dstAddr srcAddr : Ipv6.Address}
  {cidrs l : List Ipv6.Cidr} {c : Ipv6.Cidr}

lemma getSourceAddressIpv6_of_cons (hspecified : ¬ Ipv6.isUnspecified dstAddr)
    (hloopback : ¬ Ipv6.isLoopback dstAddr) (h : iface.ipv6Cidrs = c :: l) :
    iface.getSourceAddressIpv6 dstAddr = .ok ((c :: l).foldl (prefer dstAddr) c).address := by
  rw [getSourceAddressIpv6, Checked.assert_of hspecified, Checked.ok_bind, h]
  exact if_neg hloopback

/-- The addresses of an interface in any order. -/
lemma exists_ipv6Cidrs (iface : InterfaceInner cfg) (l : List Ipv6.Cidr) :
    ∃ other : InterfaceInner cfg, other.ipv6Cidrs = l := by
  refine ⟨{ iface with ipAddrs := l.map .ipv6 }, ?_⟩
  simp [ipv6Cidrs, List.filterMap_map]

lemma best_congr (h : l.Perm cidrs) : Best dstAddr l c ↔ Best dstAddr cidrs c :=
  ⟨fun hb => ⟨h.mem_iff.mp hb.mem, hb.candidate, fun b hm => hb.not_better b (h.mem_iff.mpr hm)⟩,
    fun hb => ⟨h.mem_iff.mpr hb.mem, hb.candidate, fun b hm => hb.not_better b (h.mem_iff.mp hm)⟩⟩

lemma follows_congr (h : l.Perm cidrs) :
    Follows dstAddr l srcAddr ↔ Follows dstAddr cidrs srcAddr := by
  simp only [Follows, h.mem_iff, best_congr h]

/-- If there are candidates, a source address is right exactly if it is that of a best one. -/
lemma follows_address_iff (hc : c ∈ cidrs)
    (h : ∃ b ∈ cidrs, isCandidateSourceAddress dstAddr b.address) :
    Follows dstAddr cidrs c.address ↔ IsGood dstAddr cidrs c :=
  ⟨fun hf => ⟨hc, hf.2 h⟩, fun hg => ⟨⟨c, hc, rfl⟩, fun _ => hg.2⟩⟩

/-- The source address follows the rules for every order of the addresses of an interface, exactly
if the best addresses win every comparison. -/
theorem follows_iff_settled (hspecified : ¬ Ipv6.isUnspecified dstAddr)
    (hloopback : ¬ Ipv6.isLoopback dstAddr) (hcidrs : iface.ipv6Cidrs ≠ []) :
    (∀ other : InterfaceInner cfg, other.ipv6Cidrs.Perm iface.ipv6Cidrs →
      ∃ srcAddr, other.getSourceAddressIpv6 dstAddr = .ok srcAddr ∧
        Follows dstAddr other.ipv6Cidrs srcAddr) ↔ Settled dstAddr iface.ipv6Cidrs := by
  generalize iface.ipv6Cidrs = cidrs at hcidrs
  have hfold : ∀ other : InterfaceInner cfg, other.ipv6Cidrs.Perm cidrs →
      ∃ c l, other.ipv6Cidrs = c :: l ∧ (c :: l).Perm cidrs ∧
        other.getSourceAddressIpv6 dstAddr = .ok ((c :: l).foldl (prefer dstAddr) c).address := by
    intro other hperm
    have hne : other.ipv6Cidrs ≠ [] := fun hnil => hcidrs (List.perm_nil.mp (hnil ▸ hperm.symm))
    obtain ⟨c, l, heq⟩ := List.exists_cons_of_ne_nil hne
    exact ⟨c, l, heq, heq ▸ hperm, getSourceAddressIpv6_of_cons hspecified hloopback heq⟩
  have hmem : ∀ c l, (c :: l).Perm cidrs → (c :: l).foldl (prefer dstAddr) c ∈ cidrs := by
    intro c l hperm
    refine hperm.mem_iff.mp ?_
    obtain heq | hmem := foldl_prefer_mem dstAddr (c :: l) c
    · rw [heq]
      exact List.mem_cons_self
    · exact hmem
  by_cases hcandidate : ∃ b ∈ cidrs, isCandidateSourceAddress dstAddr b.address
  · obtain ⟨m, hm⟩ := exists_best hcandidate
    rw [← settlesAll_iff hm]
    constructor
    · intro hall c l hperm
      obtain ⟨other, hother⟩ := exists_ipv6Cidrs iface (c :: l)
      obtain ⟨srcAddr, hsrc, hfollows⟩ := hall other (hother ▸ hperm)
      rw [getSourceAddressIpv6_of_cons hspecified hloopback hother] at hsrc
      cases hsrc
      rw [hother, follows_congr hperm] at hfollows
      exact (follows_address_iff (hmem c l hperm) hcandidate).mp hfollows
    · intro hall other hperm
      obtain ⟨c, l, -, hl, hsrc⟩ := hfold other hperm
      refine ⟨_, hsrc, (follows_congr hperm).mpr ?_⟩
      exact (follows_address_iff (hmem c l hl) hcandidate).mpr (hall c l hl)
  · -- without candidates any address will do
    refine iff_of_true (fun other hperm => ?_)
      ⟨fun m hm => absurd ⟨m, hm.mem, hm.candidate⟩ hcandidate,
        fun c hg => absurd ⟨c, hg.1, hg.candidate⟩ hcandidate⟩
    obtain ⟨c, l, -, hl, hsrc⟩ := hfold other hperm
    refine ⟨_, hsrc, (follows_congr hperm).mpr ?_⟩
    exact ⟨⟨_, hmem c l hl, rfl⟩, fun h => absurd h hcandidate⟩

/-- An interface with the addresses fe80::1/64 and 2001:db8::1/64, the second of which displaces
the first. -/
theorem follows_of_pair :
    ∃ (iface : InterfaceInner .default) (c m : Ipv6.Cidr), iface.ipv6Cidrs = [c, m] ∧
      Displaces 0x20010db8000000000000000000000003 c m ∧
      ∀ other : InterfaceInner .default, other.ipv6Cidrs.Perm iface.ipv6Cidrs →
        ∃ srcAddr, other.getSourceAddressIpv6 0x20010db8000000000000000000000003 = .ok srcAddr ∧
          Follows 0x20010db8000000000000000000000003 other.ipv6Cidrs srcAddr := by
  let c : Ipv6.Cidr := ⟨0xfe800000000000000000000000000001, 64, by decide⟩
  let m : Ipv6.Cidr := ⟨0x20010db8000000000000000000000001, 64, by decide⟩
  let iface : InterfaceInner .default :=
    { InterfaceInner.new 1514 {} (.ethernet 0x020000000001) 0 1 1 with
      ipAddrs := [.ipv6 c, .ipv6 m] }
  have hcidrs : iface.ipv6Cidrs = [c, m] := rfl
  have hwins : c.address ≠ m.address ∧ ¬ Better 0x20010db8000000000000000000000003 c m ∧
      Better 0x20010db8000000000000000000000003 m c ∧
      Displaces 0x20010db8000000000000000000000003 c m ∧
      ¬ Displaces 0x20010db8000000000000000000000003 m c := by
    unfold Better PrefersScope Displaces
    decide
  refine ⟨iface, c, m, hcidrs, hwins.2.2.2.1,
    (follows_iff_settled (by decide) (by decide) (by simp [hcidrs])).mpr ?_⟩
  rw [hcidrs]
  refine settled_of_wins (List.mem_cons_of_mem _ List.mem_cons_self) (by decide) ?_
  intro a ha hne
  obtain rfl | ha := List.mem_cons.mp ha
  · exact hwins
  · exact absurd (List.mem_singleton.mp ha) hne

/-- With the addresses 2001:db8::1/64 and 2001:db8::2/128, packets to 2001:db8::1 are sent from
2001:db8::2. -/
theorem source_not_destination :
    ∃ (iface : InterfaceInner .default) (dstAddr srcAddr : Ipv6.Address),
      (∀ cidr ∈ iface.ipv6Cidrs, Ipv6.isUnicast cidr.address) ∧
        ¬ Ipv6.isUnspecified dstAddr ∧ ¬ Ipv6.isLoopback dstAddr ∧
        (∃ cidr ∈ iface.ipv6Cidrs, cidr.address = dstAddr) ∧
        iface.getSourceAddressIpv6 dstAddr = .ok srcAddr ∧ srcAddr ≠ dstAddr ∧
        ¬ Follows dstAddr iface.ipv6Cidrs srcAddr := by
  let iface : InterfaceInner .default :=
    { InterfaceInner.new 1514 {} (.ethernet 0x020000000001) 0 1 1 with
      ipAddrs := [.ipv6 ⟨0x20010db8000000000000000000000001, 64, by decide⟩,
        .ipv6 ⟨0x20010db8000000000000000000000002, 128, by decide⟩] }
  have hmem : ∃ cidr ∈ iface.ipv6Cidrs, cidr.address = 0x20010db8000000000000000000000001 := by
    decide
  have hne : (0x20010db8000000000000000000000002 : Ipv6.Address) ≠
      0x20010db8000000000000000000000001 := by decide
  exact ⟨iface, 0x20010db8000000000000000000000001, 0x20010db8000000000000000000000002,
    by decide, by decide, by decide, hmem, by decide, hne,
    fun h => hne (h.eq_of_mem (by decide) hmem)⟩

end Source

end InterfaceInner

end Smoltcp
