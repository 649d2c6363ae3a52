import Smoltcp.Parsers.Literal

/-!
# Which texts denote an IPv6 address

The texts of RFC 4291 are compared with those that the parser takes. They differ in six kinds of
texts: the parser takes a double colon that leaves out nothing, a triple colon, and groups behind
numbers in decimal, and it refuses a double colon that leaves out one group at either end, and
zeros between a double colon and the last group in front of numbers in decimal.
-/

namespace Smoltcp.Parser

open Outcome Piece

/-! ### The texts of RFC 4291 -/

/-- The last two parts of the address are an IPv4 address. -/
def IsMapped (parts : List UInt16) : Prop := parts.take 6 = [0, 0, 0, 0, 0, 0xffff]

/-- The parts of the address that a text denotes. -/
inductive Denotes : List UInt8 → List UInt16 → Prop where
  | full {gs : List Group} (hlen : gs.length = 8) : Denotes (groupsText gs) (values gs)
  | compressed {hd tl : List Group} (hlen : hd.length + tl.length < 8) :
      Denotes (groupsText hd ++ colon :: colon :: groupsText tl) (gapped (values hd) (values tl))
  | fullMapped {gs : List Group} {q : Quad} (hlen : gs.length = 6)
      (hm : IsMapped (values gs ++ q.parts)) :
      Denotes (groupsText gs ++ colon :: q.text) (values gs ++ q.parts)
  | compressedMapped {hd tl : List Group} {q : Quad} (hlen : hd.length + tl.length < 6)
      (hm : IsMapped (gapped (values hd) (values tl ++ q.parts))) :
      Denotes (groupsText hd ++ colon :: colon :: (groupsText tl ++ colon :: q.text))
        (gapped (values hd) (values tl ++ q.parts))

/-- The texts that the parser gets wrong. -/
inductive Misread : List UInt8 → Prop where
  /-- A double colon that leaves out no group. -/
  | nothing {hd : List Group} {text : List UInt8} {ts : List UInt16} (htl : Tail hd text ts)
      (hhd : hd.length ≤ 6) (hts : ts.length ≤ 6) (hsum : hd.length + ts.length = 8) :
      Misread (groupsText hd ++ colon :: colon :: text)
  /-- A triple colon. -/
  | third {hd : List Group} {text : List UInt8} {ts : List UInt16} (htl : Tail hd text ts)
      (hne : hd ≠ []) (hne' : ts ≠ []) (hhd : hd.length ≤ 6) (hts : ts.length ≤ 6)
      (hsum : hd.length + ts.length ≤ 8) :
      Misread (groupsText hd ++ colon :: colon :: colon :: text)
  /-- Groups behind numbers in decimal. -/
  | continued {hd tl : List Group} {g : Group} {q : Quad} (hzero : ∀ v ∈ values hd, v = 0)
      (hg : Group.part g = 0xffff) (hne : tl ≠ []) (htl : tl.length ≤ 3)
      (hsum : hd.length + tl.length ≤ 5) :
      Misread (groupsText hd ++ colon :: colon ::
        (g.digits ++ colon :: (q.text ++ groupsBehind tl)))
  /-- A double colon that leaves out the last group. -/
  | last {hd : List Group} (hlen : hd.length = 7) : Misread (groupsText hd ++ [colon, colon])
  /-- A double colon that leaves out the first group. -/
  | first {tl : List Group} (hlen : tl.length = 7) : Misread (colon :: colon :: groupsText tl)
  /-- Zeros between a double colon and the last group in front of numbers in decimal. -/
  | zeros {hd tl : List Group} {g : Group} {q : Quad} (hzero : ∀ v ∈ values hd ++ values tl, v = 0)
      (hg : Group.part g = 0xffff) (hne : tl ≠ []) (hsum : hd.length + tl.length < 5) :
      Misread (groupsText hd ++ colon :: colon ::
        (groupsText tl ++ colon :: (g.digits ++ colon :: q.text)))

section Comparison

variable {text : List UInt8} {parts : List UInt16} {hd tl : List Group} {q : Quad}

/-- In front of a mapped IPv4 address are zeros and a last group. -/
lemma exists_of_isMapped (hlen : hd.length + tl.length < 6)
    (hm : IsMapped (gapped (values hd) (values tl ++ q.parts))) :
    ∃ tl' g, tl = tl' ++ [g] ∧ Group.part g = 0xffff ∧ ∀ v ∈ values hd ++ values tl', v = 0 := by
  have htake : values hd ++ List.replicate (6 - (hd.length + tl.length)) 0 ++ values tl =
      List.replicate 5 0 ++ [0xffff] := by
    have hgap : gapped (values hd) (values tl ++ q.parts) =
        values hd ++ List.replicate (6 - (hd.length + tl.length)) 0 ++ values tl ++ q.parts := by
      rw [gapped, ← List.append_assoc, length_values, List.length_append, length_values]
      have hquad : q.parts.length = 2 := rfl
      rw [hquad, show 8 - (hd.length + (tl.length + 2)) = 6 - (hd.length + tl.length) by omega]
    rw [IsMapped, hgap, List.take_left'] at hm
    · exact hm
    · simp only [List.length_append, length_values, List.length_replicate]
      omega
  obtain rfl | ⟨tl, g, rfl⟩ := List.eq_nil_or_concat' tl
  · rw [values, values, List.map_nil, List.append_nil, List.length_nil, Nat.add_zero,
      show 6 - hd.length = 6 - hd.length - 1 + 1 by simp at hlen; omega,
      List.replicate_succ', ← List.append_assoc] at htake
    have hlast := List.append_inj_right' htake rfl
    cases hlast
  · have hvalues : values (tl ++ [g]) = values tl ++ [Group.part g] := by simp [values]
    rw [hvalues, ← List.append_assoc] at htake
    have hlast := List.append_inj_right' htake rfl
    have hfront := List.append_inj_left' htake rfl
    refine ⟨tl, g, rfl, List.singleton_inj.mp hlast, fun v hv => ?_⟩
    have hmem : v ∈ List.replicate 5 (0 : UInt16) := by
      rw [← hfront]
      simp only [List.mem_append] at hv ⊢
      exact hv.imp .inl id
    exact List.eq_of_mem_replicate hmem

lemma groupsText_concat (hne : tl ≠ []) (g : Group) :
    groupsText (tl ++ [g]) = groupsText tl ++ colon :: g.digits := by
  obtain ⟨g', tl, rfl⟩ := List.exists_cons_of_ne_nil hne
  rw [List.cons_append, groupsText_cons, groupsText_cons]
  simp [groupsBehind]

lemma Denotes.accepted (h : Denotes text parts) (hnot : ¬ Misread text) : Accepted text parts := by
  cases h with
  | full hlen => exact .full hlen
  | @compressed hd tl hlen =>
    have hhd : hd.length ≤ 6 := by
      by_contra hlong
      obtain rfl : tl = [] := List.length_eq_zero_iff.mp (by omega)
      exact hnot (.last (by omega))
    have htl : tl.length ≤ 6 := by
      by_contra hlong
      obtain rfl : hd = [] := List.length_eq_zero_iff.mp (by omega)
      exact hnot (.first (by omega))
    exact .gap (.groups tl) hhd (by rwa [length_values]) (by rw [length_values]; omega)
  | fullMapped hlen hm =>
    refine .mapped ?_
    rwa [IsMapped, List.take_left' (by rw [length_values, hlen])] at hm
  | compressedMapped hlen hm =>
    obtain ⟨tl, g, rfl, hg, hzero⟩ := exists_of_isMapped hlen hm
    rw [List.length_append, List.length_singleton] at hlen
    by_cases htl : tl = []
    · subst htl
      have htail := Tail.mapped g ‹Quad› [] (fun v hv => hzero v (List.mem_append_left _ hv)) hg
      have haccepted := Accepted.gap htail (by omega) (by simp [Quad.parts, values])
        (by simp [Quad.parts, values]; omega)
      simpa [groupsBehind, groupsText, values] using haccepted
    · refine absurd ?_ hnot
      rw [groupsText_concat htl, List.append_assoc, List.cons_append]
      exact .zeros hzero hg htl (by omega)

lemma isMapped_of {g : Group} (hzero : ∀ v ∈ values hd ++ values tl, v = 0)
    (hg : Group.part g = 0xffff) (hlen : hd.length + tl.length ≤ 5) :
    IsMapped (gapped (values hd) (values (tl ++ [g]) ++ q.parts)) := by
  have hhd : values hd = List.replicate hd.length 0 :=
    List.eq_replicate_iff.mpr ⟨length_values hd, fun v hv => hzero v (List.mem_append_left _ hv)⟩
  have htl : values tl = List.replicate tl.length 0 :=
    List.eq_replicate_iff.mpr ⟨length_values tl, fun v hv => hzero v (List.mem_append_right _ hv)⟩
  have hvalues : values (tl ++ [g]) = List.replicate tl.length 0 ++ [0xffff] := by
    rw [values, List.map_append, ← values, htl, List.map_singleton, hg]
  have hgap : gapped (values hd) (values (tl ++ [g]) ++ q.parts) =
      List.replicate 5 0 ++ [0xffff] ++ q.parts := by
    have hquad : q.parts.length = 2 := rfl
    have hfive : hd.length + (8 - (hd.length + (tl.length + 1 + 2))) + tl.length = 5 := by omega
    rw [gapped, hhd, hvalues]
    simp only [List.length_append, List.length_replicate, List.length_singleton, hquad,
      ← List.append_assoc, List.replicate_append_replicate, hfive]
  rw [hgap, IsMapped]
  rfl

lemma Accepted.denotes (h : Accepted text parts) (hnot : ¬ Misread text) : Denotes text parts := by
  cases h with
  | full hlen => exact .full hlen
  | @mapped gs q hm =>
    have hlen : gs.length = 6 := by
      rw [← length_values, hm]
      rfl
    have hm' : IsMapped (values gs ++ q.parts) := by
      rw [IsMapped, List.take_left' (by rw [length_values, hlen])]
      exact hm
    exact .fullMapped hlen hm'
  | @gap hd text ts htl hhd hts hsum =>
    have hlt : hd.length + ts.length < 8 := by
      refine lt_of_le_of_ne hsum fun heq => hnot (.nothing htl hhd hts heq)
    cases htl with
    | groups tl =>
      rw [length_values] at hlt
      exact .compressed hlt
    | mapped g q tl hzero hg =>
      have hlen : (Group.part g :: (q.parts ++ values tl)).length = tl.length + 3 := by
        simp [Quad.parts]
      rw [hlen] at hts hlt
      by_cases hnil : tl = []
      · subst hnil
        have hgap : gapped (values hd) (Group.part g :: (q.parts ++ values [])) =
            gapped (values hd) (values [g] ++ q.parts) := by simp [values]
        have htext : g.digits ++ colon :: (q.text ++ groupsBehind []) =
            groupsText [g] ++ colon :: q.text := by simp [groupsBehind, groupsText]
        rw [hgap, htext]
        refine .compressedMapped (by rw [List.length_singleton]; omega) ?_
        exact @isMapped_of hd [] q g (by simpa [values] using hzero) hg (by simp; omega)
      · exact absurd (.continued hzero hg hnil (by omega) (by omega)) hnot
  | third htl hne hne' hhd hts hsum => exact absurd (.third htl hne hne' hhd hts hsum) hnot

end Comparison

/-! ### Fields between colons -/

section Fields

variable {text : List UInt8} {parts ts : List UInt16} {hd tl gs : List Group} {g : Group} {q : Quad}

abbrev fields (text : List UInt8) : List (List UInt8) := text.splitOn colon

/-- How many parts of an address a field stands for. -/
def fieldLen (field : List UInt8) : ℕ := if field = [] then 0 else if dot ∈ field then 2 else 1

def fieldsLen (fields : List (List UInt8)) : ℕ := (fields.map fieldLen).sum

lemma not_mem_digits (g : Group) {chr : UInt8} (h : digit true chr = none) : chr ∉ g.digits := by
  intro hmem
  have hdigit := g.isDigit chr hmem
  rw [h] at hdigit
  cases hdigit

lemma colon_not_mem_quad (q : Quad) : colon ∉ q.text := by
  have hoctet (n : Octet) : colon ∉ n.digits := by
    intro hmem
    have hdigit := n.isDigit colon hmem
    cases hdigit
  simp [Quad.text, hoctet, show colon ≠ dot by decide]

lemma dot_mem_quad (q : Quad) : dot ∈ q.text := by
  simp [Quad.text]

lemma fieldLen_group (g : Group) : fieldLen g.digits = 1 := by
  rw [fieldLen, if_neg g.ne_nil, if_neg (not_mem_digits g rfl)]

lemma fieldLen_quad (q : Quad) : fieldLen q.text = 2 := by
  have hmem := dot_mem_quad q
  rw [fieldLen, if_neg (List.ne_nil_of_mem hmem), if_pos hmem]

lemma fields_groups (hne : gs ≠ []) : fields (groupsText gs) = gs.map Numeral.digits := by
  refine List.splitOn_intercalate colon ?_ (by simpa using hne)
  intro field hfield
  obtain ⟨g, -, rfl⟩ := List.mem_map.mp hfield
  exact not_mem_digits g rfl

lemma fields_cons (text behind : List UInt8) :
    fields (text ++ colon :: behind) = fields text ++ fields behind :=
  List.splitOn_append_cons_self text behind

lemma fields_double (text behind : List UInt8) :
    fields (text ++ colon :: colon :: behind) = fields text ++ [] :: fields behind := by
  rw [fields_cons, ← List.nil_append (colon :: behind), fields_cons]
  rfl

lemma fieldsLen_append (l r : List (List UInt8)) :
    fieldsLen (l ++ r) = fieldsLen l + fieldsLen r := by
  simp [fieldsLen]

lemma fieldsLen_cons (field : List UInt8) (r : List (List UInt8)) :
    fieldsLen (field :: r) = fieldLen field + fieldsLen r := by
  simp [fieldsLen]

lemma fieldsLen_map (gs : List Group) : fieldsLen (gs.map Numeral.digits) = gs.length := by
  induction gs with
  | nil => rfl
  | cons g gs ih =>
    rw [List.map_cons, fieldsLen_cons, ih, fieldLen_group, List.length_cons, Nat.add_comm]

lemma fieldsLen_groups (gs : List Group) : fieldsLen (fields (groupsText gs)) = gs.length := by
  by_cases hne : gs = []
  · subst hne
    rfl
  · rw [fields_groups hne, fieldsLen_map]

lemma nil_not_mem_map (gs : List Group) : ([] : List UInt8) ∉ gs.map Numeral.digits := by
  intro hmem
  obtain ⟨g, -, hg⟩ := List.mem_map.mp hmem
  exact g.ne_nil hg

lemma nil_mem_groups : [] ∈ fields (groupsText gs) ↔ gs = [] := by
  constructor
  · intro hmem
    by_contra hne
    rw [fields_groups hne] at hmem
    exact nil_not_mem_map gs hmem
  · rintro rfl
    exact List.mem_singleton.mpr rfl

lemma dot_not_mem_map {field : List UInt8} (h : field ∈ gs.map Numeral.digits) : dot ∉ field := by
  obtain ⟨g, -, rfl⟩ := List.mem_map.mp h
  exact not_mem_digits g rfl

lemma dot_not_mem_groups {field : List UInt8} (h : field ∈ fields (groupsText gs)) :
    dot ∉ field := by
  by_cases hne : gs = []
  · subst hne
    obtain rfl := List.mem_singleton.mp h
    exact List.not_mem_nil
  · rw [fields_groups hne] at h
    exact dot_not_mem_map h

lemma fields_quad (q : Quad) : fields q.text = [q.text] :=
  List.splitOn_eq_singleton (colon_not_mem_quad q)

lemma fields_mapped (g : Group) (q : Quad) (tl : List Group) :
    fields (g.digits ++ colon :: (q.text ++ groupsBehind tl)) =
      g.digits :: q.text :: tl.map Numeral.digits := by
  have hgroup : fields g.digits = [g.digits] :=
    List.splitOn_eq_singleton (not_mem_digits g rfl)
  rw [fields_cons, hgroup]
  cases tl with
  | nil =>
    rw [groupsBehind, List.flatMap_nil, List.append_nil, fields_quad]
    rfl
  | cons g' tl =>
    have hbehind : groupsBehind (g' :: tl) = colon :: groupsText (g' :: tl) := by
      rw [groupsText_cons]
      rfl
    rw [hbehind, fields_cons, fields_quad, fields_groups (List.cons_ne_nil _ _)]
    rfl

lemma Tail.fieldsLen (h : Tail hd text ts) : fieldsLen (fields text) = ts.length := by
  cases h with
  | groups tl => rw [fieldsLen_groups, length_values]
  | mapped g q tl =>
    rw [fields_mapped, fieldsLen_cons, fieldsLen_cons, fieldsLen_map, fieldLen_group, fieldLen_quad]
    simp [Quad.parts]
    omega

lemma Tail.nil_mem (h : Tail hd text ts) : [] ∈ fields text ↔ ts = [] := by
  cases h with
  | groups tl => rw [nil_mem_groups, values, List.map_eq_nil_iff]
  | mapped g q tl =>
    rw [fields_mapped]
    refine iff_of_false ?_ (List.cons_ne_nil _ _)
    simp only [List.mem_cons, not_or]
    exact ⟨g.ne_nil.symm, (List.ne_nil_of_mem (dot_mem_quad q)).symm, nil_not_mem_map tl⟩

/-- A text without a double colon. -/
lemma Accepted.nil_not_mem_or (h : Accepted text parts) :
    [] ∉ fields text ∨ ∃ (hd : List Group) (ts : List UInt16) (behind : List UInt8),
      Tail hd behind ts ∧ hd.length ≤ 6 ∧ ts.length ≤ 6 ∧
        (fields text = fields (groupsText hd) ++ [] :: fields behind ∨
          hd ≠ [] ∧ ts ≠ [] ∧ fields text = fields (groupsText hd) ++
          [] :: [] :: fields behind) := by
  cases h with
  | @full gs hlen =>
    refine .inl fun hmem => ?_
    obtain rfl := nil_mem_groups.mp hmem
    cases hlen
  | @mapped gs q hm =>
    refine .inl fun hmem => ?_
    rw [fields_cons, fields_quad] at hmem
    obtain hmem | hmem := List.mem_append.mp hmem
    · obtain rfl := nil_mem_groups.mp hmem
      cases hm
    · exact (List.ne_nil_of_mem (dot_mem_quad q)) (List.mem_singleton.mp hmem).symm
  | gap htl hhd hts hsum =>
    exact .inr ⟨_, _, _, htl, hhd, hts, .inl (fields_double _ _)⟩
  | @third hd behind ts htl hne hne' hhd hts hsum =>
    refine .inr ⟨hd, ts, behind, htl, hhd, hts, .inr ⟨hne, hne', ?_⟩⟩
    rw [fields_double, ← List.nil_append (colon :: behind), fields_cons]
    rfl

lemma Denotes.nil_not_mem_or (h : Denotes text parts) :
    [] ∉ fields text ∨ ∃ hd tl : List Group,
      hd.length + tl.length < 8 ∧
        fields text = fields (groupsText hd) ++ [] :: fields (groupsText tl) ∨
      ∃ q : Quad, hd.length + tl.length < 6 ∧ tl ≠ [] ∧
        fields text = fields (groupsText hd) ++ [] :: (fields (groupsText tl) ++ [q.text]) := by
  cases h with
  | @full gs hlen =>
    refine .inl fun hmem => ?_
    obtain rfl := nil_mem_groups.mp hmem
    cases hlen
  | @fullMapped gs q hlen hm =>
    refine .inl fun hmem => ?_
    rw [fields_cons, fields_quad] at hmem
    obtain hmem | hmem := List.mem_append.mp hmem
    · obtain rfl := nil_mem_groups.mp hmem
      cases hlen
    · exact (List.ne_nil_of_mem (dot_mem_quad q)) (List.mem_singleton.mp hmem).symm
  | compressed hlen => exact .inr ⟨_, _, .inl ⟨hlen, fields_double _ _⟩⟩
  | @compressedMapped hd tl q hlen hm =>
    refine .inr ⟨hd, tl, .inr ⟨q, hlen, ?_, ?_⟩⟩
    · obtain ⟨tl', g, rfl, -⟩ := exists_of_isMapped hlen hm
      exact List.concat_ne_nil g tl'
    · rw [fields_double, fields_cons, fields_quad]

lemma head?_fields_groups : (fields (groupsText hd)).head? = some [] ↔ hd = [] := by
  constructor
  · intro h
    exact nil_mem_groups.mp (List.mem_of_head? h)
  · rintro rfl
    rfl

/-- The fields of a text with a double colon behind some groups start with these. -/
lemma head?_append_fields (hd : List Group) (r : List (List UInt8)) :
    (fields (groupsText hd) ++ r).head? = (fields (groupsText hd)).head? := by
  rw [List.head?_append_of_ne_nil _ (List.splitOn_ne_nil _ _)]

lemma not_denotes_nothing {behind : List UInt8} (htl : Tail hd behind ts)
    (hsum : hd.length + ts.length = 8) :
    ¬ Denotes (groupsText hd ++ colon :: colon :: behind) parts := by
  intro h
  have hlen : fieldsLen (fields (groupsText hd ++ colon :: colon :: behind)) = 8 := by
    rw [fields_double, fieldsLen_append, fieldsLen_cons, fieldsLen_groups, htl.fieldsLen]
    simpa [fieldLen] using hsum
  have hmem : [] ∈ fields (groupsText hd ++ colon :: colon :: behind) := by
    rw [fields_double]
    exact List.mem_append_right _ List.mem_cons_self
  obtain hnot | ⟨hd', tl', ⟨hlt, hfields⟩ | ⟨q, hlt, -, hfields⟩⟩ := h.nil_not_mem_or
  · exact hnot hmem
  · rw [hfields, fieldsLen_append, fieldsLen_cons, fieldsLen_groups, fieldsLen_groups] at hlen
    simp [fieldLen] at hlen
    omega
  · rw [hfields, fieldsLen_append, fieldsLen_cons, fieldsLen_append, fieldsLen_groups,
      fieldsLen_groups, fieldsLen_cons, fieldLen_quad] at hlen
    simp [fieldLen, fieldsLen] at hlen
    omega

lemma not_denotes_third {behind : List UInt8} (htl : Tail hd behind ts) (hne : hd ≠ [])
    (hne' : ts ≠ []) : ¬ Denotes (groupsText hd ++ colon :: colon :: colon :: behind) parts := by
  intro h
  have hfields : fields (groupsText hd ++ colon :: colon :: colon :: behind) =
      fields (groupsText hd) ++ [] :: [] :: fields behind := by
    rw [fields_double, ← List.nil_append (colon :: behind), fields_cons]
    rfl
  have hbehind : [] ∉ fields behind := fun hmem => hne' (htl.nil_mem.mp hmem)
  have hhd : ∀ field ∈ fields (groupsText hd), ¬ field = [] := by
    rintro _ hmem rfl
    exact hne (nil_mem_groups.mp hmem)
  -- groups in front of a double colon are those in front of the three colons
  have hbehind_eq : ∀ {hd' : List Group} {r : List (List UInt8)},
      fields (groupsText hd ++ colon :: colon :: colon :: behind) =
        fields (groupsText hd') ++ [] :: r → r = [] :: fields behind := by
    intro hd' r heq
    rw [hfields] at heq
    have hne'' : hd' ≠ [] := by
      rintro rfl
      have hhead := congrArg List.head? heq
      rw [head?_append_fields, head?_append_fields] at hhead
      exact hne (head?_fields_groups.mp hhead)
    have hhd' : ∀ field ∈ fields (groupsText hd'), ¬ field = [] := by
      rintro _ hmem rfl
      exact hne'' (nil_mem_groups.mp hmem)
    exact (List.append_cons_inj_of_first heq hhd hhd' rfl rfl).2.2.symm
  obtain hnot | ⟨hd', tl', ⟨hlt, heq⟩ | ⟨q, hlt, hne'', heq⟩⟩ := h.nil_not_mem_or
  · rw [hfields] at hnot
    exact hnot (List.mem_append_right _ List.mem_cons_self)
  · have hr := hbehind_eq heq
    have htl' : tl' = [] := head?_fields_groups.mp (by rw [hr]; rfl)
    subst htl'
    exact List.splitOn_ne_nil colon behind (List.cons.inj hr).2.symm
  · have hr := hbehind_eq heq
    have hhead := congrArg List.head? hr
    rw [head?_append_fields] at hhead
    exact hne'' (head?_fields_groups.mp hhead)

lemma not_denotes_continued (hne : tl ≠ []) :
    ¬ Denotes (groupsText hd ++ colon :: colon ::
      (g.digits ++ colon :: (q.text ++ groupsBehind tl))) parts := by
  intro h
  have hfields : fields (groupsText hd ++ colon :: colon ::
      (g.digits ++ colon :: (q.text ++ groupsBehind tl))) =
        (fields (groupsText hd) ++ [[], g.digits]) ++ q.text :: tl.map Numeral.digits := by
    rw [fields_double, fields_mapped, List.append_assoc]
    rfl
  have hfirst : ∀ field ∈ fields (groupsText hd) ++ [[], g.digits], ¬ dot ∈ field := by
    intro field hmem
    obtain hmem | hmem := List.mem_append.mp hmem
    · exact dot_not_mem_groups hmem
    · obtain rfl | rfl : field = [] ∨ field = g.digits := by simpa using hmem
      · exact List.not_mem_nil
      · exact not_mem_digits g rfl
  obtain hnot | ⟨hd', tl', ⟨hlt, heq⟩ | ⟨q', hlt, hne', heq⟩⟩ := h.nil_not_mem_or
  · rw [hfields] at hnot
    exact hnot (by simp)
  · have hmem : q.text ∈ fields (groupsText hd') ++ [] :: fields (groupsText tl') := by
      rw [← heq, hfields]
      exact List.mem_append_right _ List.mem_cons_self
    obtain hmem | hmem := List.mem_append.mp hmem
    · exact dot_not_mem_groups hmem (dot_mem_quad q)
    · obtain hnil | hmem := List.mem_cons.mp hmem
      · exact List.ne_nil_of_mem (dot_mem_quad q) hnil
      · exact dot_not_mem_groups hmem (dot_mem_quad q)
  · rw [hfields, ← List.cons_append, ← List.append_assoc] at heq
    have hfirst' : ∀ field ∈ fields (groupsText hd') ++ [] :: fields (groupsText tl'),
        ¬ dot ∈ field := by
      intro field hmem
      obtain hmem | hmem := List.mem_append.mp hmem
      · exact dot_not_mem_groups hmem
      · obtain rfl | hmem := List.mem_cons.mp hmem
        · exact List.not_mem_nil
        · exact dot_not_mem_groups hmem
    have hrest := (List.append_cons_inj_of_first heq hfirst hfirst' (dot_mem_quad q)
      (dot_mem_quad q')).2.2
    exact hne (List.map_eq_nil_iff.mp hrest)

lemma getLast?_append_fields (l : List (List UInt8)) (text : List UInt8) :
    (l ++ fields text).getLast? = (fields text).getLast? := by
  rw [List.getLast?_append_of_ne_nil _ (List.splitOn_ne_nil _ _)]

/-- The lengths of what is taken in front of a double colon and behind it. -/
lemma Accepted.exists_length (h : Accepted text parts) (hmem : [] ∈ fields text) :
    ∃ n m, n ≤ 6 ∧ m ≤ 6 ∧ fieldsLen (fields text) = n + m ∧
      ((fields text).head? = some [] → n = 0) ∧ ((fields text).getLast? = some [] → m = 0) := by
  obtain hnot | ⟨hd, ts, behind, htl, hhd, hts, hfields⟩ := h.nil_not_mem_or
  · exact absurd hmem hnot
  refine ⟨hd.length, ts.length, hhd, hts, ?_⟩
  have hlast : (fields behind).getLast? = some [] → ts.length = 0 := by
    intro hlast
    rw [htl.nil_mem.mp (List.mem_of_getLast? hlast)]
    rfl
  have hhead : (fields (groupsText hd)).head? = some [] → hd.length = 0 := by
    intro hhead
    rw [head?_fields_groups.mp hhead]
    rfl
  obtain hfields | ⟨-, -, hfields⟩ := hfields
  · refine ⟨?_, ?_, ?_⟩
    · rw [hfields, fieldsLen_append, fieldsLen_cons, fieldsLen_groups, htl.fieldsLen]
      simp [fieldLen]
    · rwa [hfields, head?_append_fields]
    · rwa [hfields, ← List.singleton_append, ← List.append_assoc, getLast?_append_fields]
  · refine ⟨?_, ?_, ?_⟩
    · rw [hfields, fieldsLen_append, fieldsLen_cons, fieldsLen_cons, fieldsLen_groups,
        htl.fieldsLen]
      simp [fieldLen]
    · rwa [hfields, head?_append_fields]
    · have happend : fields (groupsText hd) ++ [] :: [] :: fields behind =
          (fields (groupsText hd) ++ [[], []]) ++ fields behind := by
        rw [List.append_assoc]
        rfl
      rwa [hfields, happend, getLast?_append_fields]

lemma not_accepted_last (hlen : hd.length = 7) :
    ¬ Accepted (groupsText hd ++ [colon, colon]) parts := by
  intro h
  have hfields : fields (groupsText hd ++ [colon, colon]) =
      fields (groupsText hd) ++ [] :: fields [] := fields_double _ _
  obtain ⟨n, m, hn, hm, hsum, -, hlast⟩ := h.exists_length (by rw [hfields]; simp)
  rw [hfields, fieldsLen_append, fieldsLen_groups] at hsum
  have hm0 := hlast (by rw [hfields, ← List.singleton_append, ← List.append_assoc,
    getLast?_append_fields]; rfl)
  have hzero : fieldsLen ([] :: fields []) = 0 := rfl
  omega

lemma not_accepted_first (hlen : tl.length = 7) :
    ¬ Accepted (colon :: colon :: groupsText tl) parts := by
  intro h
  have hfields : fields (colon :: colon :: groupsText tl) = [] :: [] :: fields (groupsText tl) :=
    fields_double [] _
  obtain ⟨n, m, hn, hm, hsum, hhead, -⟩ := h.exists_length (by rw [hfields]; simp)
  have hn0 := hhead (by rw [hfields]; rfl)
  rw [hfields, fieldsLen_cons, fieldsLen_cons, fieldsLen_groups] at hsum
  have hzero : fieldLen [] = 0 := rfl
  omega

/-- In front of the first field with a point there is a field, and in front of that an empty one. -/
lemma Accepted.exists_of_dot (h : Accepted text parts) (hmem : [] ∈ fields text)
    {field : List UInt8} (hfield : field ∈ fields text) (hdot : dot ∈ field) :
    ∃ (l : List (List UInt8)) (g : Group) (q : Quad) (r : List (List UInt8)),
      fields text = (l ++ [[], g.digits]) ++ q.text :: r ∧
        ∀ field ∈ l ++ [[], g.digits], ¬ dot ∈ field := by
  obtain hnot | ⟨hd, ts, behind, htl, -, -, hfields⟩ := h.nil_not_mem_or
  · exact absurd hmem hnot
  cases htl with
  | groups tl =>
    -- no field has a point
    exfalso
    have hmem : field ∈ fields (groupsText hd) ∨ field = [] ∨ field ∈ fields (groupsText tl) := by
      obtain hfields | ⟨-, -, hfields⟩ := hfields
      all_goals
        rw [hfields] at hfield
        simpa using hfield
    obtain hmem | rfl | hmem := hmem
    · exact dot_not_mem_groups hmem hdot
    · exact List.not_mem_nil hdot
    · exact dot_not_mem_groups hmem hdot
  | mapped g q tl =>
    rw [fields_mapped] at hfields
    obtain hfields | ⟨-, -, hfields⟩ := hfields
    · refine ⟨fields (groupsText hd), g, q, tl.map Numeral.digits, ?_, ?_⟩
      · rw [hfields, List.append_assoc]
        rfl
      · intro field hmem
        obtain hmem | hmem := List.mem_append.mp hmem
        · exact dot_not_mem_groups hmem
        · obtain rfl | rfl : field = [] ∨ field = g.digits := by simpa using hmem
          · exact List.not_mem_nil
          · exact not_mem_digits g rfl
    · refine ⟨fields (groupsText hd) ++ [[]], g, q, tl.map Numeral.digits, ?_, ?_⟩
      · rw [hfields, List.append_assoc, List.append_assoc]
        rfl
      · intro field hmem
        rw [List.append_assoc] at hmem
        obtain hmem | hmem := List.mem_append.mp hmem
        · exact dot_not_mem_groups hmem
        · obtain rfl | rfl : field = [] ∨ field = g.digits := by simpa using hmem
          · exact List.not_mem_nil
          · exact not_mem_digits g rfl

lemma not_accepted_zeros (hne : tl ≠ []) :
    ¬ Accepted (groupsText hd ++ colon :: colon ::
      (groupsText tl ++ colon :: (g.digits ++ colon :: q.text))) parts := by
  intro h
  obtain ⟨tl, g', rfl⟩ := (List.eq_nil_or_concat' tl).resolve_left hne
  have hlast : fields (groupsText (tl ++ [g'])) = tl.map Numeral.digits ++ [g'.digits] := by
    rw [fields_groups (by simp), List.map_append]
    rfl
  have hfields : fields (groupsText hd ++ colon :: colon ::
      (groupsText (tl ++ [g']) ++ colon :: (g.digits ++ colon :: q.text))) =
        (fields (groupsText hd) ++ [] :: tl.map Numeral.digits ++ [g'.digits, g.digits]) ++
          [q.text] := by
    have hgroup : fields g.digits = [g.digits] := List.splitOn_eq_singleton (not_mem_digits g rfl)
    rw [fields_double, fields_cons, hlast, fields_cons, fields_quad, hgroup]
    simp
  have hfirst : ∀ field ∈ fields (groupsText hd) ++ [] :: tl.map Numeral.digits ++
      [g'.digits, g.digits], ¬ dot ∈ field := by
    intro field hmem
    obtain hmem | rfl | hmem | rfl | rfl : field ∈ fields (groupsText hd) ∨ field = [] ∨
        field ∈ tl.map Numeral.digits ∨ field = g'.digits ∨ field = g.digits := by
      simpa [or_assoc] using hmem
    · exact dot_not_mem_groups hmem
    · exact List.not_mem_nil
    · exact dot_not_mem_map hmem
    · exact not_mem_digits g' rfl
    · exact not_mem_digits g rfl
  obtain ⟨l, g'', q', r, heq, hfirst'⟩ := h.exists_of_dot (by rw [hfields]; simp)
    (by rw [hfields]; simp) (dot_mem_quad q)
  rw [hfields] at heq
  have hfront := (List.append_cons_inj_of_first heq hfirst hfirst' (dot_mem_quad q)
    (dot_mem_quad q')).1
  have htail := List.append_inj_right' hfront rfl
  exact g'.ne_nil (List.cons.inj htail).1

/-- A text of one of the kinds is either taken or denotes an address, but not both. -/
lemma Misread.exclusive (h : Misread text) :
    (∃ parts, Accepted text parts) ∧ (∀ parts, ¬ Denotes text parts) ∨
      (∃ parts, Denotes text parts) ∧ ∀ parts, ¬ Accepted text parts := by
  cases h with
  | nothing htl hhd hts hsum =>
    exact .inl ⟨⟨_, .gap htl hhd hts hsum.le⟩, fun _ => not_denotes_nothing htl hsum⟩
  | third htl hne hne' hhd hts hsum =>
    exact .inl ⟨⟨_, .third htl hne hne' hhd hts hsum⟩, fun _ => not_denotes_third htl hne hne'⟩
  | @continued hd tl g q hzero hg hne htl hsum =>
    refine .inl ⟨⟨_, .gap (.mapped g q tl hzero hg) (by omega) ?_ ?_⟩,
      fun _ => not_denotes_continued hne⟩
    · simp [Quad.parts]
      omega
    · simp [Quad.parts]
      omega
  | last hlen =>
    exact .inr ⟨⟨_, @Denotes.compressed _ [] (by rw [List.length_nil]; omega)⟩,
      fun _ => not_accepted_last hlen⟩
  | first hlen =>
    exact .inr ⟨⟨_, @Denotes.compressed [] _ (by rw [List.length_nil]; omega)⟩,
      fun _ => not_accepted_first hlen⟩
  | @zeros hd tl g q hzero hg hne hsum =>
    refine .inr ⟨⟨gapped (values hd) (values (tl ++ [g]) ++ q.parts), ?_⟩,
      fun _ => not_accepted_zeros hne⟩
    have hm : IsMapped (gapped (values hd) (values (tl ++ [g]) ++ q.parts)) :=
      isMapped_of hzero hg (by omega)
    have hdenotes := Denotes.compressedMapped (by
      rw [List.length_append, List.length_singleton]
      omega) hm
    rwa [groupsText_concat hne, List.append_assoc, List.cons_append] at hdenotes

end Fields

/-! ### What the parsers do -/

/-- The parsers of addresses and of blocks take a text for what it denotes, and do not panic. -/
structure Conforms (text : List UInt8) : Prop where
  address : ∀ a, IpAddress.fromStr text = .ok (.ipv6 a) ↔
    ∃ parts, Denotes text parts ∧ a = Ipv6.ofSegments parts
  block : ∀ (len : PrefixLen) cidr, Ipv6.Cidr.fromStr (blockText text len) = .ok cidr ↔
    ∃ parts, Denotes text parts ∧ cidr = ⟨Ipv6.ofSegments parts, len.value, len.value_le⟩
  exists_slash : ∀ cidr, Ipv6.Cidr.fromStr text = .ok cidr → ∃ addr len, text = blockText addr len
  address_ne_panic : ∀ p, IpAddress.fromStr text ≠ .error (.panic p)
  block_ne_panic : ∀ p, Ipv6.Cidr.fromStr text ≠ .error (.panic p)

lemma Misread.not_conforms {text : List UInt8} (h : Misread text) : ¬ Conforms text := by
  intro hconforms
  obtain ⟨⟨parts, haccepted⟩, hnot⟩ | ⟨⟨parts, hdenotes⟩, hnot⟩ := h.exclusive
  · obtain ⟨parts', hdenotes, -⟩ := (hconforms.address _).mp
      (fromStr_eq_ipv6.mpr ⟨parts, haccepted, rfl⟩)
    exact hnot parts' hdenotes
  · obtain ⟨parts', haccepted, -⟩ := fromStr_eq_ipv6.mp
      ((hconforms.address _).mpr ⟨parts, hdenotes, rfl⟩)
    exact hnot parts' haccepted

/-- The parsers do with a text what RFC 4291 says, unless it is of one of the six kinds. -/
theorem conforms_iff (text : List UInt8) : Conforms text ↔ ¬ Misread text := by
  constructor
  · exact fun h hmisread => hmisread.not_conforms h
  · intro hnot
    have hiff (parts : List UInt16) : Accepted text parts ↔ Denotes text parts :=
      ⟨fun h => h.denotes hnot, fun h => h.accepted hnot⟩
    refine ⟨fun a => ?_, fun len cidr => ?_, fun cidr h => ?_, fromStr_ne_panic text,
      cidr_fromStr_ne_panic text⟩
    · simp only [fromStr_eq_ipv6, hiff]
    · rw [cidr_fromStr_eq_ok]
      simp only [hiff]
    · obtain ⟨addr, parts, len, rfl, -⟩ := exists_of_cidr_fromStr h
      exact ⟨addr, len, rfl⟩

/-- A group of a single digit. -/
def Group.ofDigit (n : Fin 10) : Group where
  digits := [48 + .ofNat n]
  ne_nil := List.cons_ne_nil _ _
  length_le := Nat.le_of_ble_eq_true rfl
  isDigit := by
    simp only [List.mem_singleton, forall_eq]
    revert n
    decide +kernel
  value_lt := by
    revert n
    decide +kernel

/-- `1:::2` is taken for an address, and `1:2:3:4:5:6:7::` is not. -/
theorem not_conforms_colons : ¬ Conforms [49, 58, 58, 58, 50] ∧
    ¬ Conforms [49, 58, 50, 58, 51, 58, 52, 58, 53, 58, 54, 58, 55, 58, 58] := by
  constructor
  · have hmisread := @Misread.third [.ofDigit 1] _ _ (.groups [.ofDigit 2]) (List.cons_ne_nil _ _)
      (List.cons_ne_nil _ _) (by decide) (by decide) (by decide)
    exact hmisread.not_conforms
  · have hmisread := @Misread.last ([1, 2, 3, 4, 5, 6, 7].map .ofDigit) rfl
    exact hmisread.not_conforms

end Smoltcp.Parser
