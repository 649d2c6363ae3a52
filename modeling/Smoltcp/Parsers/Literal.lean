import Smoltcp.Parsers.Pieces

/-!
# IPv6 addresses as text

Groups of up to four digits stand between colons. A double colon stands for the groups that are left
out. The last two parts of an IPv4-mapped address may be written as an IPv4 address.
-/

/-- What is in front of the first element with a property, and what is behind it. -/
lemma List.append_cons_inj_of_first {α : Type*} {p : α → Prop} {l l' r r' : List α} {a a' : α}
    (h : l ++ a :: r = l' ++ a' :: r') (hl : ∀ x ∈ l, ¬ p x) (hl' : ∀ x ∈ l', ¬ p x) (ha : p a)
    (ha' : p a') : l = l' ∧ a = a' ∧ r = r' := by
  induction l generalizing l' with
  | nil =>
    cases l' with
    | nil => exact ⟨rfl, List.cons.inj h⟩
    | cons x l' =>
      obtain rfl := (List.cons.inj h).1
      exact absurd ha (hl' a List.mem_cons_self)
  | cons x l ih =>
    cases l' with
    | nil =>
      obtain rfl := (List.cons.inj h).1
      exact absurd ha' (hl x List.mem_cons_self)
    | cons x' l' =>
      obtain ⟨rfl, htail⟩ := List.cons.inj h
      obtain ⟨rfl, hrest⟩ := ih htail (fun y hy => hl y (List.mem_cons_of_mem _ hy))
        fun y hy => hl' y (List.mem_cons_of_mem _ hy)
      exact ⟨rfl, hrest⟩

namespace Smoltcp.Parser

open Outcome Piece

/-- Groups with colons between them. -/
def groupsText (gs : List Group) : List UInt8 := [colon].intercalate (gs.map Numeral.digits)

/-- Groups with a colon in front of each. -/
def groupsBehind (gs : List Group) : List UInt8 := gs.flatMap fun g => colon :: g.digits

def values (gs : List Group) : List UInt16 := gs.map Group.part

/-- What is left behind an address: no part of it could be there. -/
def Stops (rest : List UInt8) : Prop :=
  ∀ chr ∈ rest.head?, chr ≠ colon ∧ chr ≠ dot ∧ digit true chr = none

section Groups

variable {behind rest : List UInt8} {m : List UInt16 → Prop} {l : List UInt16} {gs : List Group}

@[simp] lemma length_values (gs : List Group) : (values gs).length = gs.length := List.length_map _

@[simp] lemma allParts_groups (gs : List Group) : allParts (gs.map .group) = values gs := by
  induction gs with
  | nil => rfl
  | cons g gs ih => exact congrArg (Group.part g :: ·) ih

@[simp] lemma chain_groups (gs : List Group) : chain (gs.map .group) = groupsBehind gs := by
  induction gs with
  | nil => rfl
  | cons g gs ih => exact congrArg (colon :: g.digits ++ ·) ih

lemma groupsText_cons (g : Group) (gs : List Group) :
    groupsText (g :: gs) = g.digits ++ groupsBehind gs := by
  induction gs generalizing g with
  | nil => simp [groupsText, groupsBehind]
  | cons g' gs ih =>
    have hcons : groupsText (g :: g' :: gs) = g.digits ++ colon :: groupsText (g' :: gs) := by
      simp [groupsText]
    rw [hcons, ih]
    rfl

@[simp] lemma joined_groups (gs : List Group) : joined (gs.map .group) = groupsText gs := by
  cases gs with
  | nil => rfl
  | cons g gs => rw [groupsText_cons, ← chain_groups, List.map_cons, joined, text]

lemma allParts_append (ps qs : List Piece) : allParts (ps ++ qs) = allParts ps ++ allParts qs :=
  List.flatMap_append

lemma length_allParts_mapped (gs : List Group) (g : Group) (q : Quad) (qs : List Piece) :
    (allParts (gs.map .group ++ .mapped g q :: qs)).length =
      gs.length + 3 + (allParts qs).length := by
  rw [allParts_append, allParts_groups, allParts, List.flatMap_cons, ← allParts]
  simp [Piece.parts, Quad.parts]
  omega

lemma eq_nil_of_allParts {ps : List Piece} (h : (allParts ps).length = 0) : ps = [] := by
  cases ps with
  | nil => rfl
  | cons p ps =>
    exact absurd (List.append_eq_nil_iff.mp (List.length_eq_zero_iff.mp h)).1 p.parts_ne_nil

lemma joined_mapped (gs : List Group) (g : Group) (q : Quad) :
    joined (gs.map .group ++ [.mapped g q]) = groupsText (gs ++ [g]) ++ colon :: q.text := by
  cases gs with
  | nil => simp [joined, chain, groupsText, Piece.text]
  | cons g' gs =>
    rw [List.cons_append, groupsText_cons, List.map_cons, List.cons_append, joined]
    simp [chain, groupsBehind, Piece.text, List.flatMap_map]

lemma allParts_mapped (gs : List Group) (g : Group) (q : Quad) :
    allParts (gs.map .group ++ [.mapped g q]) = values (gs ++ [g]) ++ q.parts := by
  rw [allParts_append, allParts_groups]
  simp [values, allParts, Piece.parts]

lemma digit_hex {chr : UInt8} (h : (digit false chr).isSome) : (digit true chr).isSome := by
  unfold digit at h ⊢
  split_ifs at h ⊢ <;> simp_all

lemma noDigit_decimal (h : ∀ chr ∈ rest.head?, digit true chr = none) : NoDigit false rest := by
  intro chr hchr
  by_contra hdigit
  have hhex := digit_hex (Option.isSome_iff_ne_none.mpr hdigit)
  rw [h chr hchr] at hhex
  cases hhex

/-- No IPv4 address starts with a whole group. -/
lemma acceptIpv4Octets_group (g : Group)
    (h : ∀ chr ∈ behind.head?, chr ≠ dot ∧ digit true chr = none) :
    acceptIpv4Octets (g.digits ++ behind) = fail := by
  refine (quiet_acceptIpv4Octets _).resolve_left ?_
  rintro ⟨octets, rest, hok⟩
  obtain ⟨q, hquad, -⟩ := exists_quad hok
  rw [Quad.text, List.append_assoc, List.cons_append] at hquad
  obtain ⟨c, hc, hbehind⟩ | ⟨c, hc, hbehind⟩ := List.append_eq_append_iff.mp hquad
  · cases c with
    | nil => exact (h dot (by rw [hbehind]; rfl)).1 rfl
    | cons chr c =>
      have hdigit := digit_hex (q.a.isDigit chr (by rw [hc]; simp))
      rw [(h chr (by rw [hbehind]; rfl)).2] at hdigit
      cases hdigit
  · cases c with
    | nil => exact (h dot (by rw [← List.nil_append behind, ← hbehind]; rfl)).1 rfl
    | cons chr c =>
      obtain rfl := (List.cons.inj hbehind).1
      have hdigit := g.isDigit dot (by rw [hc]; simp)
      cases hdigit

/-- What may be behind a group for it to be read whole. -/
structure Ends (behind : List UInt8) : Prop where
  head : ∀ chr ∈ behind.head?, chr ≠ dot ∧ digit true chr = none
  noQuad : NoQuad behind

lemma Stops.ends (h : Stops rest) : Ends rest := by
  refine ⟨fun chr hchr => (h chr hchr).2, ?_⟩
  rintro behind rfl
  exact absurd rfl (h colon rfl).1

lemma ends_double (rest : List UInt8) : Ends (colon :: colon :: rest) := by
  refine ⟨?_, ?_⟩
  · rintro chr ⟨⟩
    exact ⟨by decide, rfl⟩
  · rintro behind ⟨⟩
    rw [acceptIpv4Octets_eq, bind_of_fail (acceptNumber_fail (noDigit_cons rfl))]

lemma ends_group (g : Group) (h : ∀ chr ∈ behind.head?, chr ≠ dot ∧ digit true chr = none) :
    Ends (colon :: (g.digits ++ behind)) := by
  refine ⟨?_, ?_⟩
  · rintro chr ⟨⟩
    exact ⟨by decide, rfl⟩
  · rintro behind ⟨⟩
    exact acceptIpv4Octets_group g h

lemma Ends.chain (h : Ends behind) (gs : List Group) : Ends (groupsBehind gs ++ behind) := by
  induction gs with
  | nil => exact h
  | cons g gs ih =>
    rw [groupsBehind, List.flatMap_cons, List.append_assoc, List.cons_append]
    exact ends_group g ih.head

lemma Ends.follows (h : Ends behind) (m : List UInt16 → Prop) (l : List UInt16) (g : Group) :
    (Piece.group g).Follows m l behind :=
  ⟨acceptNumber_of g (.inr fun chr hchr => (h.head chr hchr).2), fun _ => h.noQuad⟩

lemma reads_groups (h : Ends behind) (m : List UInt16 → Prop) (l : List UInt16) (gs : List Group) :
    Reads m l (gs.map .group) behind := by
  induction gs generalizing l with
  | nil => trivial
  | cons g gs ih =>
    refine ⟨?_, ih _⟩
    rw [chain_groups]
    exact (h.chain gs).follows m l g

lemma reads_append {ps qs : List Piece} :
    Reads m l (ps ++ qs) rest ↔
      Reads m l ps (chain qs ++ rest) ∧ Reads m (l ++ allParts ps) qs rest := by
  induction ps generalizing l with
  | nil => simp [Reads, allParts]
  | cons p ps ih =>
    have hchain : chain (ps ++ qs) ++ rest = chain ps ++ (chain qs ++ rest) := by
      rw [chain, List.flatMap_append, List.append_assoc]
      rfl
    have hparts : l ++ allParts (p :: ps) = l ++ p.parts ++ allParts ps := by
      rw [List.append_assoc]
      rfl
    rw [List.cons_append, Reads, Reads, ih, hchain, hparts, and_assoc]

/-- Only groups are read, or there is a first piece that ends in decimal. -/
lemma exists_groups (ps : List Piece) (h : Reads m l ps rest) :
    (∃ gs : List Group, ps = gs.map .group) ∨
      ∃ (gs : List Group) (g : Group) (q : Quad) (qs : List Piece),
        ps = gs.map .group ++ .mapped g q :: qs ∧ m (l ++ values gs ++ [Group.part g]) ∧
          Reads m (l ++ values gs ++ (Group.part g :: q.parts)) qs rest := by
  induction ps generalizing l with
  | nil => exact .inl ⟨[], rfl⟩
  | cons p ps ih =>
    cases p with
    | group g =>
      obtain ⟨gs, rfl⟩ | ⟨gs, g', q, qs, rfl, hm, hr⟩ := ih h.2
      · exact .inl ⟨g :: gs, rfl⟩
      · refine .inr ⟨g :: gs, g', q, qs, rfl, ?_, ?_⟩
        · simpa [values, Piece.parts] using hm
        · simpa [values, Piece.parts] using hr
    | mapped g q =>
      refine .inr ⟨[], g, q, ps, rfl, ?_, ?_⟩
      · simpa [values] using h.1.1
      · simpa [values, Piece.parts] using h.2

end Groups

/-! ### What the parser takes -/

/-- What is taken behind the double colon: groups, of which the first may have numbers in decimal
behind it if the groups in front are zeros. -/
inductive Tail (hd : List Group) : List UInt8 → List UInt16 → Prop where
  | groups (tl : List Group) : Tail hd (groupsText tl) (values tl)
  | mapped (g : Group) (q : Quad) (tl : List Group) (hzero : ∀ v ∈ values hd, v = 0)
      (hg : Group.part g = 0xffff) :
      Tail hd (g.digits ++ colon :: (q.text ++ groupsBehind tl))
        (Group.part g :: (q.parts ++ values tl))

/-- The texts that are taken for an address, and its parts. -/
inductive Accepted : List UInt8 → List UInt16 → Prop where
  | full {gs : List Group} (hlen : gs.length = 8) : Accepted (groupsText gs) (values gs)
  | mapped {gs : List Group} {q : Quad} (hm : HeadMapped (values gs)) :
      Accepted (groupsText gs ++ colon :: q.text) (values gs ++ q.parts)
  | gap {hd : List Group} {text : List UInt8} {ts : List UInt16} (htl : Tail hd text ts)
      (hhd : hd.length ≤ 6) (hts : ts.length ≤ 6) (hsum : hd.length + ts.length ≤ 8) :
      Accepted (groupsText hd ++ colon :: colon :: text) (gapped (values hd) ts)
  | third {hd : List Group} {text : List UInt8} {ts : List UInt16} (htl : Tail hd text ts)
      (hne : hd ≠ []) (hne' : ts ≠ []) (hhd : hd.length ≤ 6) (hts : ts.length ≤ 6)
      (hsum : hd.length + ts.length ≤ 8) :
      Accepted (groupsText hd ++ colon :: colon :: colon :: text) (gapped (values hd) ts)

section Taken

variable {rest text : List UInt8} {hs ts : List UInt16} {hd : List Group} {ps : List Piece}

/-- Pieces of less than eight parts are groups. -/
lemma exists_groups_head (h : Reads HeadMapped [] ps rest) (hlen : (allParts ps).length < 8) :
    ∃ gs : List Group, ps = gs.map .group := by
  obtain hgs | ⟨gs, g, q, qs, rfl, hm, -⟩ := exists_groups ps h
  · exact hgs
  · have hsix := congrArg List.length hm
    simp only [List.nil_append, List.length_append, length_values, List.length_cons,
      List.length_nil] at hsix
    rw [length_allParts_mapped] at hlen
    omega

/-- What is read behind the double colon. -/
lemma exists_tail (h : Reads (TailMapped hs) [] ps rest) (hhs : hs = values hd) :
    Tail hd (joined ps) (allParts ps) := by
  obtain ⟨gs, rfl⟩ | ⟨gs, g, q, qs, rfl, ⟨hg, hzero⟩, hr⟩ := exists_groups ps h
  · rw [joined_groups, allParts_groups]
    exact .groups gs
  · rw [List.nil_append] at hg hr
    obtain rfl : gs = [] := by
      have hlen := congrArg List.length hg
      simpa using hlen
    obtain ⟨tl, rfl⟩ | ⟨tl, g', q', qs', rfl, ⟨hg', -⟩, -⟩ := exists_groups qs hr
    · subst hhs
      have htail := Tail.mapped g q tl hzero (List.cons.inj hg).1
      have htext : joined (.mapped g q :: tl.map .group) =
          g.digits ++ colon :: (q.text ++ groupsBehind tl) := by
        rw [joined, chain_groups, text, List.append_assoc, List.cons_append]
      have hparts : allParts (.mapped g q :: tl.map .group) =
          Group.part g :: (q.parts ++ values tl) := by
        rw [← allParts_groups]
        rfl
      rw [List.map_nil, List.nil_append, htext, hparts]
      exact htail
    · have hlen := congrArg List.length hg'
      simp at hlen

lemma Tail.exists_reads (h : Tail hd text ts) (hstops : Stops rest) :
    ∃ ps, text = joined ps ∧ ts = allParts ps ∧ Reads (TailMapped (values hd)) [] ps rest := by
  cases h with
  | groups tl =>
    exact ⟨tl.map .group, (joined_groups tl).symm, (allParts_groups tl).symm,
      reads_groups hstops.ends _ _ tl⟩
  | mapped g q tl hzero hg =>
    refine ⟨.mapped g q :: tl.map .group, ?_, ?_, ⟨⟨?_, hzero⟩, ?_⟩,
      reads_groups hstops.ends _ _ tl⟩
    · rw [joined, chain_groups, Piece.text, List.append_assoc, List.cons_append]
    · rw [← allParts_groups]
      rfl
    · rw [hg]
      rfl
    · rw [chain_groups]
      have hends := hstops.ends.chain tl
      exact acceptIpv4Octets_of q (.inr (noDigit_decimal fun chr hchr => (hends.head chr hchr).2))

lemma Taken.accepted (h : Taken rest text hs ts) : Accepted text (gapped hs ts) := by
  cases h with
  | @full ps hlen hr =>
    have hgap : gapped (allParts ps) [] = allParts ps := by
      simp [gapped, hlen]
    rw [hgap]
    obtain ⟨gs, rfl⟩ | ⟨gs, g, q, qs, rfl, hm, hr'⟩ := exists_groups ps hr
    · rw [joined_groups, allParts_groups]
      rw [allParts_groups, length_values] at hlen
      exact .full hlen
    · have hsix := congrArg List.length hm
      simp only [List.nil_append, List.length_append, length_values, List.length_cons,
        List.length_nil] at hsix
      rw [length_allParts_mapped] at hlen
      obtain rfl : qs = [] := eq_nil_of_allParts (by omega)
      have hm' : HeadMapped (values (gs ++ [g])) := by simpa [values] using hm
      rw [joined_mapped, allParts_mapped]
      exact .mapped hm'
  | @gap hd tl hhd htl hsum hr hr' =>
    obtain ⟨gs, rfl⟩ := exists_groups_head hr (by omega)
    rw [allParts_groups] at hhd hsum hr' ⊢
    rw [length_values] at hhd hsum
    rw [joined_groups]
    exact .gap (exists_tail hr' rfl) (by omega) htl hsum
  | @third hd tl hne hne' hhd htl hsum hr hr' =>
    obtain ⟨gs, rfl⟩ := exists_groups_head hr (by omega)
    rw [allParts_groups] at hhd hsum hr' ⊢
    rw [length_values] at hhd hsum
    rw [joined_groups]
    refine .third (exists_tail hr' rfl) (fun h => hne (by rw [h]; rfl)) ?_ (by omega) htl hsum
    exact fun h => hne' (eq_nil_of_allParts (by rw [h]; rfl))

lemma Accepted.exists_taken {parts : List UInt16} (h : Accepted text parts) (hstops : Stops rest) :
    ∃ hs ts, Taken rest text hs ts ∧ parts = gapped hs ts := by
  have hnone : NoDigit false rest := noDigit_decimal fun chr hchr => (hstops chr hchr).2.2
  cases h with
  | @full gs hlen =>
    have htaken := @Taken.full rest (gs.map .group) (by rwa [allParts_groups, length_values])
      (reads_groups hstops.ends _ _ gs)
    rw [joined_groups, allParts_groups] at htaken
    exact ⟨_, _, htaken, by simp [gapped, hlen]⟩
  | @mapped gs q hm =>
    have hlen := congrArg List.length hm
    rw [length_values, List.length_cons] at hlen
    obtain ⟨gs, g, rfl⟩ := List.eq_nil_or_concat' gs |>.resolve_left (by rintro rfl; cases hlen)
    have hends : Ends (chain [.mapped g q] ++ rest) := by
      have hends := @ends_group (colon :: (q.text ++ rest)) g (by
        rintro chr ⟨⟩
        exact ⟨by decide, rfl⟩)
      simpa [chain, Piece.text] using hends
    have hreads : Reads HeadMapped [] (gs.map .group ++ [.mapped g q]) rest := by
      refine reads_append.mpr ⟨reads_groups hends _ _ gs, ⟨?_, ?_⟩, trivial⟩
      · simpa [values] using hm
      · exact acceptIpv4Octets_of q (.inr hnone)
    have hparts := congrArg List.length (allParts_mapped gs g q)
    rw [List.length_append, length_values, hlen] at hparts
    have htaken := @Taken.full rest _ hparts hreads
    rw [joined_mapped, allParts_mapped] at htaken
    refine ⟨_, _, htaken, ?_⟩
    rw [gapped, List.length_append, length_values, hlen]
    simp [Quad.parts]
  | @gap hd text ts htl hhd hts hsum =>
    obtain ⟨ps, rfl, rfl, hr⟩ := htl.exists_reads hstops
    have htaken := @Taken.gap rest (hd.map .group) ps
      (by rw [allParts_groups, length_values]; omega)
      hts (by rwa [allParts_groups, length_values]) (reads_groups (ends_double _) _ _ hd)
      (by rwa [allParts_groups])
    rw [joined_groups, allParts_groups] at htaken
    exact ⟨_, _, htaken, rfl⟩
  | @third hd text ts htl hne hne' hhd hts hsum =>
    obtain ⟨ps, rfl, rfl, hr⟩ := htl.exists_reads hstops
    have htaken := @Taken.third rest (hd.map .group) ps (by simpa using hne)
      (by rintro rfl; exact hne' rfl) (by rw [allParts_groups, length_values]; omega)
      hts (by rwa [allParts_groups, length_values]) (reads_groups (ends_double _) _ _ hd)
      (by rwa [allParts_groups])
    rw [joined_groups, allParts_groups] at htaken
    exact ⟨_, _, htaken, rfl⟩

/-- What is taken for an address in front of a text that could not be part of one. -/
theorem acceptIpv6_eq_ok {a : Ipv6.Address} (hstops : Stops rest) :
    acceptIpv6 (text ++ rest) = .ok (a, rest) ↔
      ∃ parts, Accepted text parts ∧ a = Ipv6.ofSegments parts := by
  constructor
  · intro h
    obtain ⟨text', hs, ts, htext, htaken, ha, -⟩ := exists_taken_of_acceptIpv6 h
    obtain rfl := List.append_cancel_right htext
    exact ⟨_, htaken.accepted, ha⟩
  · rintro ⟨parts, haccepted, rfl⟩
    obtain ⟨hs, ts, htaken, rfl⟩ := haccepted.exists_taken hstops
    refine acceptIpv6_of ?_ htaken.length_le.1 htaken.length_le.2
    exact htaken.acceptIpv6Part (fun h => (hstops colon h).1 rfl) fun chr hchr =>
      (hstops chr hchr).2.2

end Taken

/-! ### Whole texts -/

section Texts

variable {text rest behind : List UInt8} {parts : List UInt16} {a : Ipv6.Address}

lemma acceptIpv4_fail (h : acceptIpv4Octets text = fail) : acceptIpv4 text = fail := bind_of_fail h

lemma acceptIpv4Octets_groups (gs : List Group) (behind : List UInt8) :
    acceptIpv4Octets (groupsText gs ++ colon :: behind) = fail := by
  cases gs with
  | nil =>
    rw [acceptIpv4Octets_eq]
    exact bind_of_fail (acceptNumber_fail (noDigit_cons rfl))
  | cons g gs =>
    rw [groupsText_cons, List.append_assoc]
    refine acceptIpv4Octets_group g fun chr hchr => ?_
    obtain rfl : chr = colon := by cases gs <;> exact (Option.some.inj hchr).symm
    exact ⟨by decide, rfl⟩

lemma Accepted.exists_colon (h : Accepted text parts) :
    ∃ (gs : List Group) (behind : List UInt8), text = groupsText gs ++ colon :: behind := by
  cases h with
  | @full gs hlen =>
    obtain ⟨g, gs, rfl⟩ := List.exists_cons_of_length_eq_add_one hlen
    obtain ⟨g', gs, rfl⟩ := List.exists_cons_of_length_eq_add_one (Nat.succ.inj hlen)
    refine ⟨[g], g'.digits ++ groupsBehind gs, ?_⟩
    rw [groupsText_cons, groupsText_cons]
    simp [groupsBehind]
  | mapped hm => exact ⟨_, _, rfl⟩
  | gap htl hhd hts hsum => exact ⟨_, _, rfl⟩
  | third htl hne hne' hhd hts hsum => exact ⟨_, _, rfl⟩

/-- No text of an IPv6 address is one of an IPv4 address. -/
lemma Accepted.acceptIpv4 (h : Accepted text parts) (rest : List UInt8) :
    acceptIpv4 (text ++ rest) = fail := by
  obtain ⟨gs, behind, rfl⟩ := h.exists_colon
  rw [List.append_assoc, List.cons_append]
  exact acceptIpv4_fail (acceptIpv4Octets_groups gs _)

lemma acceptIp_of_ipv6 (hipv4 : acceptIpv4 text = fail) (h : acceptIpv6 text = .ok (a, rest)) :
    acceptIp text = .ok (.ipv6 a, rest) := by
  rw [acceptIp, bind_of_eq (tryDo_of_fail hipv4)]
  dsimp only
  rw [bind_of_eq (tryDo_of_eq h)]
  rfl

lemma acceptIpv6_of_acceptIp (h : acceptIp text = .ok (.ipv6 a, rest)) :
    acceptIpv6 text = .ok (a, rest) := by
  obtain ⟨ipv4, rest₁, hipv4, hbehind⟩ := bind_eq_ok.mp h
  obtain ⟨ip, rfl, -⟩ | ⟨rfl, rfl, -⟩ := tryDo_eq_ok hipv4
  · cases hbehind
  obtain ⟨ipv6, rest₂, hipv6, hreturn⟩ := bind_eq_ok.mp hbehind
  obtain ⟨ip, rfl, hok⟩ | ⟨rfl, -, -⟩ := tryDo_eq_ok hipv6
  · cases hreturn
    exact hok
  · cases hreturn

/-- The texts that are taken for an IPv6 address. -/
theorem fromStr_eq_ipv6 : IpAddress.fromStr text = .ok (.ipv6 a) ↔
    ∃ parts, Accepted text parts ∧ a = Ipv6.ofSegments parts := by
  have hstops : Stops [] := by rintro chr ⟨⟩
  have hiff := @acceptIpv6_eq_ok [] text a hstops
  rw [List.append_nil] at hiff
  rw [IpAddress.fromStr, untilEof_eq_ok]
  constructor
  · exact fun h => hiff.mp (acceptIpv6_of_acceptIp h)
  · rintro ⟨parts, haccepted, rfl⟩
    have hipv4 := haccepted.acceptIpv4 []
    rw [List.append_nil] at hipv4
    exact acceptIp_of_ipv6 hipv4 (hiff.mpr ⟨parts, haccepted, rfl⟩)

/-! ### Blocks -/

/-- The length of an IPv6 prefix. -/
abbrev PrefixLen := Numeral false 3 129

lemma PrefixLen.value_le (len : PrefixLen) : len.value ≤ 128 := Nat.le_of_lt_succ len.value_lt

/-- An address, a slash, and the length of its prefix. -/
def blockText (text : List UInt8) (len : PrefixLen) : List UInt8 := text ++ slash :: len.digits

lemma slash_not_mem (len : PrefixLen) : slash ∉ len.digits := by
  intro hmem
  have hdigit := len.isDigit slash hmem
  cases hdigit

lemma blockText_inj {text' : List UInt8} {len len' : PrefixLen}
    (h : blockText text len = blockText text' len') : text = text' ∧ len = len' := by
  have hrev := congrArg List.reverse h
  simp only [blockText, List.reverse_append, List.reverse_cons, List.append_assoc,
    List.singleton_append] at hrev
  have hnot (l : PrefixLen) : ∀ chr ∈ l.digits.reverse, ¬ chr = slash := by
    rintro _ hmem rfl
    exact slash_not_mem l (List.mem_reverse.mp hmem)
  obtain ⟨hlen, -, htext⟩ := List.append_cons_inj_of_first hrev (hnot len) (hnot len') rfl rfl
  exact ⟨List.reverse_injective htext, Numeral.ext (List.reverse_injective hlen)⟩

lemma stops_slash (rest : List UInt8) : Stops (slash :: rest) := by
  rintro chr ⟨⟩
  exact ⟨by decide, by decide, rfl⟩

lemma ofChecked_new (a : Ipv6.Address) (len : PrefixLen) :
    ofChecked (Ipv6.Cidr.new a len.value) = .ok ⟨a, len.value, len.value_le⟩ := by
  rw [Ipv6.Cidr.new, dif_pos len.value_le]
  rfl

/-- The texts that are taken for a block are those of addresses, with the length of the prefix. -/
theorem exists_of_cidr_fromStr {cidr : Ipv6.Cidr} (h : Ipv6.Cidr.fromStr behind = .ok cidr) :
    ∃ (text : List UInt8) (parts : List UInt16) (len : PrefixLen), behind = blockText text len ∧
      Accepted text parts ∧ cidr = ⟨Ipv6.ofSegments parts, len.value, len.value_le⟩ := by
  rw [Ipv6.Cidr.fromStr, untilEof_eq_ok] at h
  obtain ⟨a, rest, haddr, h⟩ := bind_eq_ok.mp h
  obtain ⟨⟨⟩, rest', hslash, h⟩ := bind_eq_ok.mp h
  obtain ⟨v, rest'', hlen, h⟩ := bind_eq_ok.mp h
  obtain rfl := acceptChar_eq_ok hslash
  obtain ⟨len, rfl, rfl⟩ := exists_numeral (by decide) hlen
  obtain ⟨text, hs, ts, rfl, htaken, rfl, -⟩ := exists_taken_of_acceptIpv6 haddr
  rw [lift, ofChecked_new, ok_bind] at h
  cases h
  exact ⟨text, _, len, by rw [blockText, List.append_nil], htaken.accepted, rfl⟩

theorem cidr_fromStr_of (h : Accepted text parts) (len : PrefixLen) :
    Ipv6.Cidr.fromStr (blockText text len) =
      .ok ⟨Ipv6.ofSegments parts, len.value, len.value_le⟩ := by
  have haddr := (acceptIpv6_eq_ok (stops_slash len.digits)).mpr ⟨parts, h, rfl⟩
  have hlen := @acceptNumber_of [] _ _ _ len (.inr (by rintro chr ⟨⟩))
  rw [List.append_nil] at hlen
  rw [Ipv6.Cidr.fromStr, untilEof_eq_ok, blockText, bind_of_eq haddr,
    bind_of_eq (acceptChar_of _ _), bind_of_eq hlen, lift, ofChecked_new]
  rfl

theorem cidr_fromStr_eq_ok {len : PrefixLen} {cidr : Ipv6.Cidr} :
    Ipv6.Cidr.fromStr (blockText text len) = .ok cidr ↔
      ∃ parts, Accepted text parts ∧ cidr = ⟨Ipv6.ofSegments parts, len.value, len.value_le⟩ := by
  constructor
  · intro h
    obtain ⟨text', parts, len', htext, haccepted, rfl⟩ := exists_of_cidr_fromStr h
    obtain ⟨rfl, rfl⟩ := blockText_inj htext
    exact ⟨parts, haccepted, rfl⟩
  · rintro ⟨parts, haccepted, rfl⟩
    exact cidr_fromStr_of haccepted len

/-! ### No panics -/

lemma Quiet.untilEof {α : Type} {f : Parser α} (h : Quiet f) (text : List UInt8) (p : Panic) :
    untilEof f text ≠ .error (.panic p) := by
  obtain ⟨a, rest, hok⟩ | hfail := h text
  · rw [Parser.untilEof, hok, ok_bind]
    cases rest with
    | nil => rintro ⟨⟩
    | cons chr rest => rintro ⟨⟩
  · rw [Parser.untilEof, hfail]
    rintro ⟨⟩

lemma quiet_acceptIpv4 : Quiet acceptIpv4 := quiet_acceptIpv4Octets.bind fun _ => quiet_pure _

lemma quiet_acceptIp : Quiet acceptIp := by
  refine quiet_acceptIpv4.tryDo.bind fun r => ?_
  split
  · exact quiet_pure _
  · refine quiet_acceptIpv6.tryDo.bind fun r => ?_
    split
    · exact quiet_pure _
    · exact quiet_err

/-- A block is only made with a prefix that is short enough. -/
lemma quiet_block (a : Ipv6.Address) : Quiet (do
    let prefixLen ← acceptNumber 3 129 false
    lift (ofChecked (Ipv6.Cidr.new a prefixLen))) := by
  intro data
  obtain ⟨v, rest, hok⟩ | hfail := quiet_acceptNumber 3 129 false data
  · obtain ⟨len, rfl, rfl⟩ := exists_numeral (by decide) hok
    rw [bind_of_eq hok, lift, ofChecked_new]
    exact .inl ⟨_, _, rfl⟩
  · exact .inr (bind_of_fail hfail)

lemma fromStr_ne_panic (text : List UInt8) (p : Panic) :
    IpAddress.fromStr text ≠ .error (.panic p) := quiet_acceptIp.untilEof text p

lemma cidr_fromStr_ne_panic (text : List UInt8) (p : Panic) :
    Ipv6.Cidr.fromStr text ≠ .error (.panic p) :=
  (quiet_acceptIpv6.bind fun a => (quiet_acceptChar slash).bind fun _ => quiet_block a).untilEof
    text p

end Texts

end Smoltcp.Parser
