import Smoltcp.Parsers.Ip

/-!
# The parts that the parser of IPv6 addresses takes

The arrays of the parser are filled from the front. Every call adds a part to one of them, which may
come with the two behind it, if the address is a mapped one and these are in decimal.
-/

namespace Smoltcp.Parser

open Outcome

variable {data rest : List UInt8}

/-! ### The arrays -/

/-- An array that is filled from the front. -/
def filled (n : ℕ) (l : List UInt16) : List UInt16 := l ++ List.replicate (n - l.length) 0

/-- The parser has taken some parts in front of a double colon and some behind it. -/
def Parts.of (hs ts : List UInt16) : Parts := ⟨filled 8 hs, filled 6 ts, hs.length, ts.length⟩

section Arrays

variable {n : ℕ} {l hs : List UInt16}

lemma length_filled (h : l.length ≤ n) : (filled n l).length = n := by
  rw [filled, List.length_append, List.length_replicate]
  omega

lemma take_filled (n : ℕ) (l : List UInt16) : (filled n l).take l.length = l :=
  List.take_left' rfl

lemma push_filled (h : l.length < n) (value : UInt16) :
    push (filled n l) l.length value = .ok (filled n (l ++ [value]), (l ++ [value]).length) := by
  have hset : (filled n l).set l.length value = filled n (l ++ [value]) := by
    obtain ⟨k, hk⟩ := Nat.exists_eq_add_of_lt h
    rw [filled, filled, List.set_append_right _ _ le_rfl, Nat.sub_self, List.length_append,
      List.length_singleton, show n - l.length = n - (l.length + 1) + 1 by omega,
      List.replicate_succ, List.set_cons_zero, List.append_assoc, List.singleton_append]
  rw [push, if_pos (by rwa [length_filled h.le]), hset, List.length_append, List.length_singleton]

/-- What an array of six holds behind the first part does not matter. -/
lemma filled_eq_mapped (h : l.length ≤ 8) :
    (l.length = 6 ∧ (filled 8 l).take 6 = [0, 0, 0, 0, 0, 0xffff]) ↔
      l = [0, 0, 0, 0, 0, 0xffff] := by
  constructor
  · rintro ⟨hlen, htake⟩
    rwa [← hlen, take_filled] at htake
  · rintro rfl
    exact ⟨rfl, rfl⟩

lemma filled_eq_zero (h : hs.length ≤ 8) :
    filled 8 hs = [0, 0, 0, 0, 0, 0, 0, 0] ↔ ∀ v ∈ hs, v = 0 := by
  have hzero : ([0, 0, 0, 0, 0, 0, 0, 0] : List UInt16) = List.replicate 8 0 := rfl
  rw [hzero, List.eq_replicate_iff, filled, List.length_append, List.length_replicate]
  constructor
  · rintro ⟨-, hall⟩ v hv
    exact hall v (List.mem_append_left _ hv)
  · intro hall
    refine ⟨by omega, fun v hv => ?_⟩
    obtain hv | hv := List.mem_append.mp hv
    · exact hall v hv
    · exact List.eq_of_mem_replicate hv

end Arrays

/-! ### Pieces -/

/-- A group of an IPv6 address. -/
abbrev Group := Numeral true 4 0x10000

def Group.part (g : Group) : UInt16 := .ofNat g.value

/-- The two parts of an address that four numbers stand for. -/
def Quad.parts (q : Quad) : List UInt16 := [Octets.readU16 q.octets 0, Octets.readU16 q.octets 2]

/-- There are no four numbers in decimal behind a colon. -/
def NoQuad (data : List UInt8) : Prop :=
  ∀ behind, data = colon :: behind → acceptIpv4Octets behind = fail

/-- What is read at a time: a group, or one and the two parts behind it in decimal. -/
inductive Piece where
  | group (g : Group)
  | mapped (g : Group) (q : Quad)

namespace Piece

def first : Piece → Group
  | group g => g
  | mapped g _ => g

def text : Piece → List UInt8
  | group g => g.digits
  | mapped g q => g.digits ++ colon :: q.text

def parts : Piece → List UInt16
  | group g => [Group.part g]
  | mapped g q => Group.part g :: q.parts

/-- The piece is what is read behind some parts, where this is left then. -/
def Follows (mapped : List UInt16 → Prop) (l : List UInt16) : Piece → List UInt8 → Prop
  | .group g, rest => acceptNumber 4 0x10000 true (g.digits ++ rest) = .ok (g.value, rest) ∧
      (mapped (l ++ [Group.part g]) → NoQuad rest)
  | .mapped g q, rest => mapped (l ++ [Group.part g]) ∧
      acceptIpv4Octets (q.text ++ rest) = .ok (q.octets, rest)

end Piece

/-- The parts in front of two that may be in decimal. -/
def HeadMapped (hs : List UInt16) : Prop := hs = [0, 0, 0, 0, 0, 0xffff]

/-- The same behind a double colon. -/
def TailMapped (hs ts : List UInt16) : Prop := ts = [0xffff] ∧ ∀ v ∈ hs, v = 0

section Pieces

variable {n : ℕ} {l hs ts : List UInt16} {m : List UInt16 → Prop} {p : Piece}

/-- Some piece is read where a number is. -/
lemma exists_piece (m : List UInt16 → Prop) (l : List UInt16) (data : List UInt8) :
    acceptNumber 4 0x10000 true data = fail ∨
      ∃ (p : Piece) (rest : List UInt8), data = p.text ++ rest ∧ p.Follows m l rest := by
  obtain ⟨v, rest, hnumber⟩ | hfail := quiet_acceptNumber 4 0x10000 true data
  · refine .inr ?_
    obtain ⟨g, rfl, rfl⟩ := exists_numeral (by decide) hnumber
    by_cases hm : m (l ++ [Group.part g]) ∧ ¬ NoQuad rest
    · obtain ⟨hm, hquad⟩ := hm
      unfold NoQuad at hquad
      push Not at hquad
      obtain ⟨behind, rfl, hquad⟩ := hquad
      obtain ⟨octets, rest', hquad⟩ := (quiet_acceptIpv4Octets behind).resolve_right hquad
      obtain ⟨q, rfl, rfl⟩ := exists_quad hquad
      refine ⟨.mapped g q, rest', ?_, hm, hquad⟩
      rw [Piece.text, List.append_assoc, List.cons_append]
    · exact ⟨.group g, rest, rfl, hnumber, fun h => not_not.mp (not_and.mp hm h)⟩
  · exact .inl hfail

/-- The number in front of a piece. -/
lemma Piece.Follows.acceptNumber (h : p.Follows m l rest) :
    ∃ behind, acceptNumber 4 0x10000 true (p.text ++ rest) = .ok (p.first.value, behind) ∧
      (p = .group p.first ∧ behind = rest ∨
        ∃ q, p = .mapped p.first q ∧ behind = colon :: (q.text ++ rest)) := by
  cases p with
  | group g => exact ⟨rest, h.1, .inl ⟨rfl, rfl⟩⟩
  | mapped g q =>
    refine ⟨colon :: (q.text ++ rest), ?_, .inr ⟨q, rfl, rfl⟩⟩
    rw [text, List.append_assoc, List.cons_append]
    exact acceptNumber_of g (.inr (noDigit_cons rfl))

lemma tryMapped_none {parts : List UInt16} {idx : ℕ} (h : NoQuad data) :
    tryMapped parts idx data = .ok ((parts, idx), data) := by
  have hfail : (do acceptChar colon; acceptIpv4MappedIpv6Part parts idx : Parser _) data =
    fail := by
    cases data with
    | nil => rfl
    | cons c behind =>
      by_cases hc : c = colon
      · subst hc
        rw [bind_of_eq (acceptChar_of _ _), acceptIpv4MappedIpv6Part, bind_of_fail (h behind rfl)]
      · exact bind_of_fail (by rw [acceptChar_cons, if_neg hc])
  rw [tryMapped, bind_of_eq (tryDo_of_fail hfail)]
  rfl

lemma tryMapped_of {q : Quad} (hlen : l.length + 2 ≤ n)
    (h : acceptIpv4Octets data = .ok (q.octets, rest)) :
    tryMapped (filled n l) l.length (colon :: data) =
      .ok ((filled n (l ++ q.parts), (l ++ q.parts).length), rest) := by
  have hpart : acceptIpv4MappedIpv6Part (filled n l) l.length data =
      .ok ((filled n (l ++ q.parts), (l ++ q.parts).length), rest) := by
    have hlen' : (l ++ [Octets.readU16 q.octets 0]).length < n := by
      rw [List.length_append, List.length_singleton]
      omega
    rw [acceptIpv4MappedIpv6Part, bind_of_eq h, bind_apply, lift,
      push_filled (Nat.lt_of_succ_lt hlen), Outcome.ok_bind]
    change lift (push (filled n _) _ _) rest = _
    rw [lift, push_filled hlen', List.append_assoc]
    rfl
  rw [tryMapped, bind_of_eq (tryDo_of_eq (by rw [bind_of_eq (acceptChar_of _ _), hpart]))]
  rfl

/-- The array with the parts of a piece. -/
lemma acceptMapped_of {mapped : List UInt16 → ℕ → Prop} [∀ parts idx, Decidable (mapped parts idx)]
    (hlt : l.length < n) (hm : ∀ v, mapped (filled n (l ++ [v])) (l ++ [v]).length ↔ m (l ++ [v]))
    (hroom : ∀ v, m (l ++ [v]) → l.length + 3 ≤ n) (h : p.Follows m l rest) {behind : List UInt8}
    (hbehind : p = .group p.first ∧ behind = rest ∨
      ∃ q, p = .mapped p.first q ∧ behind = colon :: (q.text ++ rest)) :
    acceptMapped (filled n l) l.length p.first.value mapped behind =
      .ok ((filled n (l ++ p.parts), (l ++ p.parts).length), rest) := by
  rw [acceptMapped, bind_apply, lift, push_filled hlt, Outcome.ok_bind]
  change (if mapped (filled n (l ++ [Group.part p.first])) (l ++ [Group.part p.first]).length then
    tryMapped _ _ else pure _ : Parser _) behind = _
  cases p with
  | group g =>
    obtain ⟨-, rfl⟩ | ⟨q, hq, -⟩ := hbehind
    · split_ifs with hmapped
      · exact tryMapped_none (h.2 ((hm _).mp hmapped))
      · rfl
    · cases hq
  | mapped g q =>
    obtain ⟨hg, -⟩ | ⟨q', hq, rfl⟩ := hbehind
    · cases hg
    · cases hq
      have hlen : (l ++ [Group.part g]).length + 2 ≤ n := by
        have := hroom _ h.1
        rw [List.length_append, List.length_singleton]
        omega
      have htry := tryMapped_of hlen h.2
      rw [List.append_assoc, List.singleton_append] at htry
      split_ifs with hmapped
      · exact htry
      · exact absurd ((hm _).mpr h.1) hmapped

lemma acceptPart_head {doubleColon : Bool} (h : p.Follows HeadMapped hs rest)
    (hlt : hs.length < 8) :
    acceptPart (.of hs ts) doubleColon false (p.text ++ rest) =
      .ok (.of (hs ++ p.parts) ts, rest) := by
  obtain ⟨behind, hnumber, hbehind⟩ := h.acceptNumber
  have hmapped := @acceptMapped_of rest 8 hs HeadMapped p (fun head headIdx =>
    headIdx = 6 ∧ head.take 6 = [0, 0, 0, 0, 0, 0xffff]) _ hlt
    (fun v => filled_eq_mapped (by rw [List.length_append, List.length_singleton]; exact hlt))
    (fun v hv => by have := congrArg List.length hv; simp at this; omega) h _ hbehind
  rw [acceptPart_of hnumber, addPart, if_pos ⟨rfl, hlt⟩]
  exact bind_of_eq hmapped

lemma acceptPart_tail {doubleColon useTail : Bool} (h : p.Follows (TailMapped hs) ts rest)
    (hhs : hs.length ≤ 8) (huse : useTail = true ∨ hs.length = 8) (hlt : ts.length < 6) :
    acceptPart (.of hs ts) doubleColon useTail (p.text ++ rest) =
      .ok (.of hs (ts ++ p.parts), rest) := by
  obtain ⟨behind, hnumber, hbehind⟩ := h.acceptNumber
  have hnot : ¬ ((!useTail) = true ∧ (Parts.of hs ts).headIdx < 8) := by
    rintro ⟨huse', hlt'⟩
    obtain rfl | hlen := huse
    · cases huse'
    · exact hlt'.ne hlen
  have hiff (v : UInt16) : ((ts ++ [v]).length = 1 ∧ (filled 6 (ts ++ [v])).head? = some 0xffff ∧
      filled 8 hs = [0, 0, 0, 0, 0, 0, 0, 0]) ↔ TailMapped hs (ts ++ [v]) := by
    rw [filled_eq_zero hhs, TailMapped, ← and_assoc]
    refine and_congr_left fun _ => ?_
    cases ts with
    | nil => simp [filled]
    | cons t ts => simp
  have hmapped := @acceptMapped_of rest 6 ts (TailMapped hs) p (fun tail tailIdx =>
    tailIdx = 1 ∧ tail.head? = some 0xffff ∧ filled 8 hs = [0, 0, 0, 0, 0, 0, 0, 0]) _ hlt hiff
    (fun v hv => by have := congrArg List.length hv.1; simp at this; simp [this]) h _ hbehind
  rw [acceptPart_of hnumber, addPart, if_neg hnot,
    if_pos (show (Parts.of hs ts).tailIdx < 6 from hlt)]
  exact bind_of_eq hmapped

lemma acceptPart_full {useTail : Bool} {part : ℕ} (huse : useTail = true ∨ hs.length = 8)
    (hfull : ts.length = 6) : addPart (.of hs ts) useTail part data = fail := by
  have hnot : ¬ ((!useTail) = true ∧ (Parts.of hs ts).headIdx < 8) := by
    rintro ⟨huse', hlt'⟩
    obtain rfl | hlen := huse
    · cases huse'
    · exact hlt'.ne hlen
  rw [addPart, if_neg hnot, if_neg (show ¬ (Parts.of hs ts).tailIdx < 6 from hfull.not_lt)]
  rfl

/-! ### One call -/

/-- The colon in front of a part, which the first one does not have. -/
def lead (hs ts : List UInt16) (useTail : Bool) : List UInt8 :=
  if hs ≠ [] ∨ useTail ∧ ts ≠ [] then [colon] else []

lemma acceptColons_rule (hs ts : List UInt16) (useTail : Bool) (data : List UInt8) :
    acceptColons (.of hs ts) useTail data = fail ∨
      (∃ rest, useTail = false ∧ hs.length < 7 ∧ data = colon :: colon :: rest ∧
        acceptColons (.of hs ts) useTail data = .ok ((true, true), rest)) ∨
      ∃ rest, data = lead hs ts useTail ++ rest ∧
        acceptColons (.of hs ts) useTail data = .ok ((false, useTail), rest) := by
  by_cases hdouble : ∃ rest, data = colon :: colon :: rest
  · obtain ⟨rest, rfl⟩ := hdouble
    rw [acceptColons_double]
    split_ifs with h
    · exact .inr (.inl ⟨rest, by simpa using h.1, h.2, rfl, rfl⟩)
    · exact .inl rfl
  · have hiff : ((Parts.of hs ts).headIdx ≠ 0 ∨ useTail = true ∧ (Parts.of hs ts).tailIdx ≠ 0) ↔
        hs ≠ [] ∨ useTail = true ∧ ts ≠ [] := by
      simp [Parts.of]
    rw [acceptColons_single (not_exists.mp hdouble), if_congr hiff rfl rfl, lead]
    split_ifs
    · obtain ⟨⟨⟩, rest, hchar⟩ | hfail := quiet_acceptChar colon data
      · rw [hchar]
        exact .inr (.inr ⟨rest, acceptChar_eq_ok hchar, rfl⟩)
      · rw [hfail]
        exact .inl rfl
    · exact .inr (.inr ⟨data, rfl, rfl⟩)

lemma acceptNext_of {parts : Parts} {useTail doubleColon useTail' : Bool}
    (h : acceptColons parts useTail data = .ok ((doubleColon, useTail'), rest)) :
    acceptNext parts useTail data = do
      let (parts, rest) ← acceptPart parts doubleColon useTail' rest
      return ((parts, useTail'), rest) := by
  rw [acceptNext, bind_of_eq h]
  rfl

/-- What a call does. -/
inductive NextRule (hs ts : List UInt16) (useTail : Bool) (data : List UInt8) :
    Outcome ((Parts × Bool) × List UInt8) → Prop where
  | fail : NextRule hs ts useTail data fail
  /-- A double colon with no part behind it. -/
  | opened {rest : List UInt8} (huse : useTail = false) (hlt : hs.length < 7)
      (hdata : data = colon :: colon :: rest) :
      NextRule hs ts useTail data (.ok ((.of hs ts, true), rest))
  | openedPart {p : Piece} {rest : List UInt8} (huse : useTail = false) (hlt : hs.length < 7)
      (hdata : data = colon :: colon :: (p.text ++ rest)) (hp : p.Follows (TailMapped hs) ts rest) :
      NextRule hs ts useTail data (.ok ((.of hs (ts ++ p.parts), true), rest))
  | head {p : Piece} {rest : List UInt8} (huse : useTail = false) (hlt : hs.length < 8)
      (hdata : data = lead hs ts useTail ++ (p.text ++ rest)) (hp : p.Follows HeadMapped hs rest) :
      NextRule hs ts useTail data (.ok ((.of (hs ++ p.parts) ts, false), rest))
  | tail {p : Piece} {rest : List UInt8} (huse : useTail = true ∨ hs.length = 8)
      (hlt : ts.length < 6) (hdata : data = lead hs ts useTail ++ (p.text ++ rest))
      (hp : p.Follows (TailMapped hs) ts rest) :
      NextRule hs ts useTail data (.ok ((.of hs (ts ++ p.parts), useTail), rest))

lemma acceptNext_rule {useTail : Bool} (hhs : hs.length ≤ 8) (hts : ts.length ≤ 6)
    (hempty : useTail = false → ts = []) (data : List UInt8) :
    NextRule hs ts useTail data (acceptNext (.of hs ts) useTail data) := by
  obtain hfail | ⟨rest, rfl, hlt, rfl, hcolons⟩ | ⟨rest, rfl, hcolons⟩ :=
    acceptColons_rule hs ts useTail data
  · rw [acceptNext, bind_of_fail hfail]
    exact .fail
  · obtain rfl := hempty rfl
    rw [acceptNext_of hcolons]
    obtain hnumber | ⟨p, rest, rfl, hp⟩ := exists_piece (TailMapped hs) [] rest
    · rw [acceptPart_none hnumber]
      exact .opened rfl hlt rfl
    · rw [acceptPart_tail hp hhs (.inl rfl) (Nat.succ_pos 5)]
      exact .openedPart rfl hlt rfl hp
  · rw [acceptNext_of hcolons]
    by_cases huse : useTail = true ∨ hs.length = 8
    · obtain hnumber | ⟨p, rest, rfl, hp⟩ := exists_piece (TailMapped hs) ts rest
      · rw [acceptPart_none hnumber]
        exact .fail
      · obtain hlt | hfull := hts.lt_or_eq
        · rw [acceptPart_tail hp hhs huse hlt]
          exact .tail huse hlt rfl hp
        · obtain ⟨behind, hnumber, -⟩ := hp.acceptNumber
          rw [acceptPart_of hnumber, acceptPart_full huse hfull]
          exact .fail
    · obtain ⟨huse, hlen⟩ := not_or.mp huse
      obtain rfl := Bool.eq_false_iff.mpr huse
      have hlt : hs.length < 8 := lt_of_le_of_ne hhs hlen
      obtain hnumber | ⟨p, rest, rfl, hp⟩ := exists_piece HeadMapped hs rest
      · rw [acceptPart_none hnumber]
        exact .fail
      · rw [acceptPart_head hp hlt]
        exact .head rfl hlt rfl hp

end Pieces

/-! ### All calls -/

/-- What is done after a call. -/
def goOn (parts : Parts) (useTail : Bool) (rest : List UInt8) : Outcome (Parts × List UInt8) :=
  if 8 < parts.headIdx + parts.tailIdx then fail
  else if rest.head? = some colon then acceptIpv6Part parts useTail rest
  else if parts.headIdx < 8 ∧ !useTail then fail
  else .ok (parts, rest)

lemma acceptIpv6Part_eq (parts : Parts) (useTail : Bool) (data : List UInt8) :
    acceptIpv6Part parts useTail data =
      acceptNext parts useTail data >>= fun r => goOn r.1.1 r.1.2 r.2 := by
  rw [acceptIpv6Part]
  split
  · next e h =>
    rw [h]
    rfl
  · next parts useTail rest h =>
    rw [h]
    rfl

lemma goOn_of (hs ts : List UInt16) (useTail : Bool) (rest : List UInt8) :
    goOn (.of hs ts) useTail rest =
      if 8 < hs.length + ts.length then fail
      else if rest.head? = some colon then acceptIpv6Part (.of hs ts) useTail rest
      else if hs.length < 8 ∧ !useTail then fail
      else .ok (.of hs ts, rest) := rfl

def Piece.chain (ps : List Piece) : List UInt8 := ps.flatMap fun p => colon :: p.text

lemma Piece.chain_cons (p : Piece) (ps : List Piece) (rest : List UInt8) :
    chain (p :: ps) ++ rest = [colon] ++ (p.text ++ (chain ps ++ rest)) := by
  rw [chain, chain, List.flatMap_cons, List.append_assoc, List.cons_append]
  rfl

def Piece.joined : List Piece → List UInt8
  | [] => []
  | p :: ps => p.text ++ Piece.chain ps

def Piece.allParts (ps : List Piece) : List UInt16 := ps.flatMap Piece.parts

/-- The pieces are what is read behind some parts, where this is left then. -/
def Piece.Reads (mapped : List UInt16 → Prop) : List UInt16 → List Piece → List UInt8 → Prop
  | _, [], _ => True
  | l, p :: ps, rest =>
    p.Follows mapped l (Piece.chain ps ++ rest) ∧ Piece.Reads mapped (l ++ p.parts) ps rest

open Piece

section Calls

variable {hs ts : List UInt16} {parts : Parts} {p : Piece} {ps : List Piece} {useTail : Bool}

lemma head?_text (p : Piece) (rest : List UInt8) : (p.text ++ rest).head? ≠ some colon := by
  have hgroup (g : Group) (rest : List UInt8) : (g.digits ++ rest).head? ≠ some colon := by
    obtain ⟨chr, digits, hdigits⟩ := List.exists_cons_of_ne_nil g.ne_nil
    have hdigit := g.isDigit chr (by rw [hdigits]; exact List.mem_cons_self)
    rw [hdigits]
    rintro ⟨⟩
    cases hdigit
  cases p with
  | group g => exact hgroup g rest
  | mapped g q =>
    rw [text, List.append_assoc]
    exact hgroup g _

lemma acceptColons_lead (h : data.head? ≠ some colon) :
    acceptColons (.of hs ts) useTail (lead hs ts useTail ++ data) =
      .ok ((false, useTail), data) := by
  have hnot : ∀ rest, lead hs ts useTail ++ data ≠ colon :: colon :: rest := by
    intro rest heq
    unfold lead at heq
    split_ifs at heq
    · cases heq
      exact h rfl
    · rw [List.nil_append] at heq
      rw [heq] at h
      exact h rfl
  have hiff : ((Parts.of hs ts).headIdx ≠ 0 ∨ useTail = true ∧ (Parts.of hs ts).tailIdx ≠ 0) ↔
      hs ≠ [] ∨ useTail = true ∧ ts ≠ [] := by
    simp [Parts.of]
  rw [acceptColons_single hnot, if_congr hiff rfl rfl, lead]
  split_ifs
  · rw [List.singleton_append, acceptChar_of]
    rfl
  · rfl

lemma acceptIpv6Part_head (hp : p.Follows HeadMapped hs rest) (hlt : hs.length < 8) :
    acceptIpv6Part (.of hs ts) false (lead hs ts false ++ (p.text ++ rest)) =
      goOn (.of (hs ++ p.parts) ts) false rest := by
  rw [acceptIpv6Part_eq, acceptNext_of (acceptColons_lead (head?_text p rest)),
    acceptPart_head hp hlt]
  rfl

lemma acceptIpv6Part_tail (hp : p.Follows (TailMapped hs) ts rest) (hhs : hs.length ≤ 8)
    (hlt : ts.length < 6) :
    acceptIpv6Part (.of hs ts) true (lead hs ts true ++ (p.text ++ rest)) =
      goOn (.of hs (ts ++ p.parts)) true rest := by
  rw [acceptIpv6Part_eq, acceptNext_of (acceptColons_lead (head?_text p rest)),
    acceptPart_tail hp hhs (.inl rfl) hlt]
  rfl

lemma goOn_colon (hle : hs.length + ts.length ≤ 8) (hcolon : data.head? = some colon) :
    goOn (.of hs ts) useTail data = acceptIpv6Part (.of hs ts) useTail data := by
  rw [goOn_of, if_neg (Nat.not_lt.mpr hle), if_pos hcolon]

lemma goOn_tail_of (hr : Reads (TailMapped hs) ts ps rest) (hne : ps ≠ [] → hs ≠ [] ∨ ts ≠ [])
    (hsum : hs.length + (ts ++ allParts ps).length ≤ 8) (hlen : (ts ++ allParts ps).length ≤ 6)
    (hrest : rest.head? ≠ some colon) :
    goOn (.of hs ts) true (chain ps ++ rest) = .ok (.of hs (ts ++ allParts ps), rest) := by
  induction ps generalizing ts with
  | nil =>
    rw [allParts, List.flatMap_nil, List.append_nil] at hsum ⊢
    rw [chain, List.flatMap_nil, List.nil_append, goOn_of, if_neg (Nat.not_lt.mpr hsum),
      if_neg hrest, if_neg (by simp)]
  | cons p ps ih =>
    have hparts : allParts (p :: ps) = p.parts ++ allParts ps := rfl
    have hlead : lead hs ts true = [colon] :=
      if_pos ((hne (List.cons_ne_nil _ _)).imp id fun h => ⟨rfl, h⟩)
    have hpos : 0 < p.parts.length := by cases p <;> exact Nat.succ_pos _
    have hcall := acceptIpv6Part_tail hr.1 (by omega) (by simp [hparts] at hlen; omega)
    rw [hlead] at hcall
    rw [chain_cons, goOn_colon (by simp [hparts] at hsum; omega) rfl, hcall, ih hr.2 _ _ _]
    · rw [hparts, List.append_assoc]
    · exact fun _ => .inr (by cases p <;> simp [Piece.parts])
    · rwa [List.append_assoc]
    · rwa [List.append_assoc]

lemma goOn_head_of (hr : Reads HeadMapped hs ps rest) (hne : hs ≠ [])
    (hlen : (hs ++ allParts ps).length ≤ 8) :
    goOn (.of hs []) false (chain ps ++ rest) = goOn (.of (hs ++ allParts ps) []) false rest := by
  induction ps generalizing hs with
  | nil => rw [allParts, List.flatMap_nil, List.append_nil, chain, List.flatMap_nil,
      List.nil_append]
  | cons p ps ih =>
    have hparts : allParts (p :: ps) = p.parts ++ allParts ps := rfl
    have hlead : lead hs [] false = [colon] := if_pos (.inl hne)
    have hpos : 0 < p.parts.length := by cases p <;> exact Nat.succ_pos _
    have hcall := @acceptIpv6Part_head _ hs [] p hr.1 (by simp [hparts] at hlen; omega)
    rw [hlead] at hcall
    rw [chain_cons, goOn_colon (by simp [hparts] at hlen; simp; omega) rfl, hcall, ih hr.2]
    · rw [hparts, List.append_assoc]
    · cases p <;> simp [Piece.parts]
    · rwa [List.append_assoc]

lemma Piece.parts_ne_nil (p : Piece) : p.parts ≠ [] := by
  cases p <;> exact List.cons_ne_nil _ _

/-- The parts of a piece fit in the array that has room for one. -/
lemma length_of_follows (hp : p.Follows (TailMapped hs) ts rest) (hlt : ts.length < 6) :
    (ts ++ p.parts).length ≤ 6 := by
  cases p with
  | group g => simpa [Piece.parts] using hlt
  | mapped g q =>
    have hlen := congrArg List.length hp.1.1
    simp only [List.length_append, List.length_singleton] at hlen
    simp [Piece.parts, Quad.parts]
    omega

lemma length_of_follows_head (hp : p.Follows HeadMapped hs rest) (hlt : hs.length < 8) :
    (hs ++ p.parts).length ≤ 8 := by
  cases p with
  | group g => simpa [Piece.parts] using hlt
  | mapped g q =>
    have hlen := congrArg List.length hp.1
    simp only [List.length_append, List.length_cons] at hlen
    simp [Piece.parts, Quad.parts]
    omega

lemma lead_of_head? (h : (lead hs ts useTail ++ (p.text ++ rest)).head? = some colon) :
    lead hs ts useTail = [colon] ∧ (hs ≠ [] ∨ useTail = true ∧ ts ≠ []) := by
  unfold lead at h ⊢
  split_ifs at h ⊢ with hlead
  · exact ⟨rfl, hlead⟩
  · exact absurd h (head?_text p rest)

lemma goOn_eq_ok (h : goOn (.of hs ts) useTail data = .ok (parts, rest)) :
    hs.length + ts.length ≤ 8 ∧
      (data.head? = some colon ∧ acceptIpv6Part (.of hs ts) useTail data = .ok (parts, rest) ∨
        data.head? ≠ some colon ∧ (hs.length = 8 ∨ useTail = true) ∧ parts = .of hs ts ∧
          rest = data) := by
  rw [goOn_of] at h
  split_ifs at h with hsum hcolon hshort
  · cases h
  · exact ⟨Nat.not_lt.mp hsum, .inl ⟨hcolon, h⟩⟩
  · cases h
  · cases h
    refine ⟨Nat.not_lt.mp hsum, .inr ⟨hcolon, ?_, rfl, rfl⟩⟩
    rw [not_and_or] at hshort
    refine hshort.imp (fun hlt => ?_) fun huse => by simpa using huse
    omega

lemma goOn_tail_eq_ok (hhs : hs.length ≤ 8) (hts : ts.length ≤ 6)
    (h : goOn (.of hs ts) true data = .ok (parts, rest)) :
    ∃ ps, data = chain ps ++ rest ∧ Reads (TailMapped hs) ts ps rest ∧
      (ps ≠ [] → hs ≠ [] ∨ ts ≠ []) ∧ parts = .of hs (ts ++ allParts ps) ∧
      hs.length + (ts ++ allParts ps).length ≤ 8 ∧ (ts ++ allParts ps).length ≤ 6 ∧
      rest.head? ≠ some colon := by
  induction hn : data.length using Nat.strong_induction_on generalizing data ts with
  | _ n ih =>
  obtain ⟨hsum, ⟨hcolon, hcall⟩ | ⟨hcolon, -, rfl, rfl⟩⟩ := goOn_eq_ok h
  · rw [acceptIpv6Part_eq] at hcall
    have hrule := @acceptNext_rule hs ts true hhs hts nofun data
    generalize acceptNext (.of hs ts) true data = x at hcall hrule
    cases hrule with
    | fail => cases hcall
    | opened huse => cases huse
    | openedPart huse => cases huse
    | head huse => cases huse
    | @tail p behind _ hlt hdata hp =>
      subst hdata
      obtain ⟨hlead, hne⟩ := lead_of_head? hcolon
      have hshort : behind.length < n := by
        rw [← hn, hlead, List.length_append, List.length_append, List.length_singleton]
        omega
      obtain ⟨ps, rfl, hr, -, rfl, hsum', hlen', hrest⟩ :=
        ih _ hshort (length_of_follows hp hlt) hcall rfl
      rw [List.append_assoc] at hsum' hlen'
      refine ⟨p :: ps, ?_, ⟨hp, hr⟩, fun _ => hne.imp id And.right, ?_, hsum', hlen', hrest⟩
      · rw [hlead, chain_cons]
      · rw [List.append_assoc]
        rfl
  · refine ⟨[], rfl, trivial, fun hne => absurd rfl hne, ?_, ?_, ?_, hcolon⟩
    · rw [allParts, List.flatMap_nil, List.append_nil]
    · rwa [allParts, List.flatMap_nil, List.append_nil]
    · rwa [allParts, List.flatMap_nil, List.append_nil]

/-- What may come behind a double colon: one part right away, or nothing, or a third colon. -/
lemma opened_eq_ok {behind : List UInt8} {r : Outcome ((Parts × Bool) × List UInt8)}
    (hhs : hs.length < 7) (hrule : NextRule hs [] false (colon :: colon :: behind) r)
    (h : (r >>= fun r => goOn r.1.1 r.1.2 r.2) = .ok (parts, rest)) :
    ∃ ps, (behind = joined ps ++ rest ∨
        hs ≠ [] ∧ ps ≠ [] ∧ behind = colon :: (joined ps ++ rest)) ∧
      Reads (TailMapped hs) [] ps rest ∧ parts = .of hs (allParts ps) ∧
      hs.length + (allParts ps).length ≤ 8 ∧ (allParts ps).length ≤ 6 ∧
      rest.head? ≠ some colon := by
  cases hrule with
  | fail => cases h
  | opened _ _ hdata =>
    cases hdata
    obtain ⟨ps, rfl, hr, hne, rfl, hsum, hlen, hrest⟩ :=
      @goOn_tail_eq_ok _ _ hs [] _ (by omega) (Nat.zero_le 6) h
    refine ⟨ps, ?_, hr, rfl, hsum, hlen, hrest⟩
    cases ps with
    | nil => exact .inl rfl
    | cons p ps =>
      refine .inr ⟨(hne (List.cons_ne_nil _ _)).resolve_right (not_not.mpr rfl),
        List.cons_ne_nil _ _, ?_⟩
      simp [chain, joined]
  | @openedPart p behind' _ _ hdata hp =>
    cases hdata
    obtain ⟨ps, rfl, hr, -, rfl, hsum, hlen, hrest⟩ :=
      goOn_tail_eq_ok (by omega) (length_of_follows hp (Nat.succ_pos 5)) h
    refine ⟨p :: ps, .inl ?_, ⟨hp, hr⟩, rfl, hsum, hlen, hrest⟩
    rw [joined, List.append_assoc]
  | @head p behind' _ _ hdata hp =>
    have hhead := congrArg List.head? hdata
    have htail := congrArg List.tail hdata
    obtain ⟨hlead, -⟩ := lead_of_head? hhead.symm
    rw [hlead] at htail
    exact absurd (congrArg List.head? htail).symm (head?_text p behind')
  | tail huse =>
    obtain ⟨⟨⟩⟩ | hlen := huse
    omega

lemma goOn_head_eq_ok (hne : hs ≠ []) (hhs : hs.length ≤ 8)
    (h : goOn (.of hs []) false data = .ok (parts, rest)) :
    ∃ ps behind, data = chain ps ++ behind ∧ Reads HeadMapped hs ps behind ∧
      (behind = rest ∧ (hs ++ allParts ps).length = 8 ∧ parts = .of (hs ++ allParts ps) [] ∧
          rest.head? ≠ some colon ∨
        (hs ++ allParts ps).length < 7 ∧ ∃ behind', behind = colon :: colon :: behind' ∧
          ∃ tl, (behind' = joined tl ++ rest ∨ tl ≠ [] ∧ behind' = colon :: (joined tl ++ rest)) ∧
            Reads (TailMapped (hs ++ allParts ps)) [] tl rest ∧
            parts = .of (hs ++ allParts ps) (allParts tl) ∧
            (hs ++ allParts ps).length + (allParts tl).length ≤ 8 ∧ (allParts tl).length ≤ 6 ∧
            rest.head? ≠ some colon) := by
  induction hn : data.length using Nat.strong_induction_on generalizing data hs with
  | _ n ih =>
  obtain ⟨-, ⟨hcolon, hcall⟩ | ⟨hcolon, hend, rfl, rfl⟩⟩ := goOn_eq_ok h
  · rw [acceptIpv6Part_eq] at hcall
    have hrule := @acceptNext_rule hs [] false hhs (Nat.zero_le 6) (fun _ => rfl) data
    by_cases hdouble : hs.length < 7 ∧ ∃ behind, data = colon :: colon :: behind
    · obtain ⟨hlt, behind, rfl⟩ := hdouble
      obtain ⟨tl, htext, htl⟩ := opened_eq_ok hlt hrule hcall
      have hnil : hs ++ allParts [] = hs := List.append_nil hs
      refine ⟨[], colon :: colon :: behind, rfl, trivial, .inr ?_⟩
      rw [hnil]
      exact ⟨hlt, behind, rfl, tl, htext.imp id And.right, htl⟩
    · generalize acceptNext (.of hs []) false data = x at hcall hrule
      cases hrule with
      | fail => cases hcall
      | opened _ hlt hdata => exact absurd ⟨hlt, _, hdata⟩ hdouble
      | openedPart _ hlt hdata => exact absurd ⟨hlt, _, hdata⟩ hdouble
      | @head p behind _ hlt hdata hp =>
        subst hdata
        obtain ⟨hlead, -⟩ := lead_of_head? hcolon
        have hshort : behind.length < n := by
          rw [← hn, hlead, List.length_append, List.length_append, List.length_singleton]
          omega
        have hne' : hs ++ p.parts ≠ [] := fun hnil => hne (List.append_eq_nil_iff.mp hnil).1
        obtain ⟨ps, behind', rfl, hr, hend⟩ :=
          ih _ hshort hne' (length_of_follows_head hp hlt) hcall rfl
        rw [List.append_assoc] at hend
        refine ⟨p :: ps, behind', ?_, ⟨hp, hr⟩, hend⟩
        rw [hlead, chain_cons]
      | @tail p behind huse _ _ _ =>
        -- a ninth part
        have hpos := List.length_pos_iff.mpr p.parts_ne_nil
        obtain ⟨hle, -⟩ := goOn_eq_ok hcall
        obtain ⟨⟨⟩⟩ | hlen := huse
        rw [List.nil_append] at hle
        omega
  · have hnil : hs ++ allParts [] = hs := List.append_nil hs
    refine ⟨[], rest, rfl, trivial, .inl ?_⟩
    rw [hnil]
    exact ⟨rfl, hend.resolve_right nofun, rfl, hcolon⟩

/-- The texts that are taken for an address, with the parts in front of a double colon and behind
it. -/
inductive Taken (rest : List UInt8) : List UInt8 → List UInt16 → List UInt16 → Prop where
  | full {ps : List Piece} (hlen : (allParts ps).length = 8) (hr : Reads HeadMapped [] ps rest) :
      Taken rest (joined ps) (allParts ps) []
  | gap {hd tl : List Piece} (hhd : (allParts hd).length < 7) (htl : (allParts tl).length ≤ 6)
      (hsum : (allParts hd).length + (allParts tl).length ≤ 8)
      (hr : Reads HeadMapped [] hd (colon :: colon :: (joined tl ++ rest)))
      (hr' : Reads (TailMapped (allParts hd)) [] tl rest) :
      Taken rest (joined hd ++ colon :: colon :: joined tl) (allParts hd) (allParts tl)
  /-- A third colon is passed over. -/
  | third {hd tl : List Piece} (hne : hd ≠ []) (hne' : tl ≠ []) (hhd : (allParts hd).length < 7)
      (htl : (allParts tl).length ≤ 6) (hsum : (allParts hd).length + (allParts tl).length ≤ 8)
      (hr : Reads HeadMapped [] hd (colon :: colon :: colon :: (joined tl ++ rest)))
      (hr' : Reads (TailMapped (allParts hd)) [] tl rest) :
      Taken rest (joined hd ++ colon :: colon :: colon :: joined tl) (allParts hd) (allParts tl)

lemma exists_taken (h : acceptIpv6Part (.of [] []) false data = .ok (parts, rest)) :
    ∃ text hs ts, data = text ++ rest ∧ Taken rest text hs ts ∧ parts = .of hs ts ∧
      rest.head? ≠ some colon := by
  rw [acceptIpv6Part_eq] at h
  have hrule := @acceptNext_rule [] [] false (Nat.zero_le 8) (Nat.zero_le 6) (fun _ => rfl) data
  by_cases hdouble : ∃ behind, data = colon :: colon :: behind
  · obtain ⟨behind, rfl⟩ := hdouble
    obtain ⟨tl, htext, hr, rfl, hsum, hlen, hrest⟩ :=
      @opened_eq_ok _ [] _ _ _ (Nat.succ_pos 6) hrule h
    obtain rfl := htext.resolve_right fun hthird => hthird.1 rfl
    exact ⟨_, _, _, rfl, @Taken.gap _ [] tl (Nat.succ_pos 6) hlen hsum trivial hr, rfl, hrest⟩
  · generalize acceptNext (.of [] []) false data = x at h hrule
    cases hrule with
    | fail => cases h
    | opened _ _ hdata => exact absurd ⟨_, hdata⟩ hdouble
    | openedPart _ _ hdata => exact absurd ⟨_, hdata⟩ hdouble
    | tail huse =>
      obtain ⟨⟨⟩⟩ | ⟨⟨⟩⟩ := huse
    | @head p behind _ hlt hdata hp =>
      obtain ⟨ps, behind', rfl, hr, hend⟩ :=
        goOn_head_eq_ok p.parts_ne_nil (length_of_follows_head hp hlt) h
      have htext (more : List UInt8) : p.text ++ (chain ps ++ more) = joined (p :: ps) ++ more := by
        rw [joined, List.append_assoc]
      change data = p.text ++ (chain ps ++ behind') at hdata
      rw [htext] at hdata
      have hr : Reads HeadMapped [] (p :: ps) behind' := ⟨hp, hr⟩
      obtain ⟨rfl, hlen, rfl, hrest⟩ |
        ⟨hlt, behind'', rfl, tl, htl, hr', rfl, hsum, hlen, hrest⟩ := hend
      · exact ⟨_, _, _, hdata, .full hlen hr, rfl, hrest⟩
      · obtain rfl | ⟨hne, rfl⟩ := htl
        · refine ⟨_, _, _, ?_, @Taken.gap _ (p :: ps) tl hlt hlen hsum hr hr', rfl, hrest⟩
          rw [hdata, List.append_assoc]
          rfl
        · refine ⟨_, _, _, ?_,
            @Taken.third _ (p :: ps) tl (List.cons_ne_nil _ _) hne hlt hlen hsum hr hr', rfl, hrest⟩
          rw [hdata, List.append_assoc]
          rfl

/-- What is behind a double colon is taken. -/
lemma acceptIpv6Part_double {tl : List Piece} (hhs : hs.length < 7)
    (htl : (allParts tl).length ≤ 6) (hsum : hs.length + (allParts tl).length ≤ 8)
    (hr : Reads (TailMapped hs) [] tl rest) (hrest : rest.head? ≠ some colon)
    (hdigit : NoDigit true rest) :
    acceptIpv6Part (.of hs []) false (colon :: colon :: (joined tl ++ rest)) =
      .ok (.of hs (allParts tl), rest) := by
  have hcolons : acceptColons (.of hs []) false (colon :: colon :: (joined tl ++ rest)) =
      .ok ((true, true), joined tl ++ rest) := by
    rw [acceptColons_double, if_pos ⟨rfl, hhs⟩]
  rw [acceptIpv6Part_eq, acceptNext_of hcolons]
  cases tl with
  | nil =>
    rw [joined, List.nil_append, acceptPart_none (acceptNumber_fail hdigit), if_pos rfl]
    have hgo := @goOn_tail_of rest hs [] [] trivial (fun hne => absurd rfl hne) hsum htl hrest
    exact hgo
  | cons p ps =>
    rw [joined, List.append_assoc, acceptPart_tail hr.1 (by omega) (.inl rfl) (Nat.succ_pos 5)]
    exact goOn_tail_of hr.2 (fun _ => .inr p.parts_ne_nil) hsum htl hrest

lemma acceptIpv6Part_third {tl : List Piece} (hne : hs ≠ []) (hne' : tl ≠ []) (hhs : hs.length < 7)
    (htl : (allParts tl).length ≤ 6) (hsum : hs.length + (allParts tl).length ≤ 8)
    (hr : Reads (TailMapped hs) [] tl rest) (hrest : rest.head? ≠ some colon) :
    acceptIpv6Part (.of hs []) false (colon :: colon :: colon :: (joined tl ++ rest)) =
      .ok (.of hs (allParts tl), rest) := by
  have hcolons : acceptColons (.of hs []) false (colon :: colon :: colon :: (joined tl ++ rest)) =
      .ok ((true, true), colon :: (joined tl ++ rest)) := by
    rw [acceptColons_double, if_pos ⟨rfl, hhs⟩]
  have hdigit : NoDigit true (colon :: (joined tl ++ rest)) := noDigit_cons rfl
  rw [acceptIpv6Part_eq, acceptNext_of hcolons, acceptPart_none (acceptNumber_fail hdigit),
    if_pos rfl]
  have hgo := @goOn_tail_of rest hs [] tl hr (fun _ => .inl hne) hsum htl hrest
  obtain ⟨p, ps, rfl⟩ := List.exists_cons_of_ne_nil hne'
  rw [chain_cons] at hgo
  rw [joined, List.append_assoc]
  exact hgo

/-- The pieces in front of a double colon, or all of them. -/
lemma acceptIpv6Part_joined {hd : List Piece} (hr : Reads HeadMapped [] hd rest)
    (hlen : (allParts hd).length ≤ 8) (hne : hd ≠ []) :
    acceptIpv6Part (.of [] []) false (joined hd ++ rest) =
      goOn (.of (allParts hd) []) false rest := by
  obtain ⟨p, ps, rfl⟩ := List.exists_cons_of_ne_nil hne
  have hcall := @acceptIpv6Part_head _ [] [] p hr.1 (Nat.succ_pos 7)
  rw [joined, List.append_assoc]
  exact hcall.trans (goOn_head_of hr.2 p.parts_ne_nil hlen)

lemma Taken.acceptIpv6Part {text : List UInt8} (h : Taken rest text hs ts)
    (hrest : rest.head? ≠ some colon) (hdigit : NoDigit true rest) :
    acceptIpv6Part (.of [] []) false (text ++ rest) = .ok (.of hs ts, rest) := by
  cases h with
  | full hlen hr =>
    rw [acceptIpv6Part_joined hr hlen.le (by rintro rfl; cases hlen), goOn_of,
      if_neg (by rw [hlen]; decide), if_neg hrest, if_neg fun hlt => hlt.1.ne hlen]
  | @gap hd tl hhd htl hsum hr hr' =>
    rw [List.append_assoc, List.cons_append, List.cons_append]
    have hdouble := acceptIpv6Part_double hhd htl hsum hr' hrest hdigit
    by_cases hne : hd = []
    · subst hne
      exact hdouble
    · rw [acceptIpv6Part_joined hr (by omega) hne, goOn_colon (by simp; omega) rfl, hdouble]
  | @third hd tl hne hne' hhd htl hsum hr hr' =>
    rw [List.append_assoc, List.cons_append, List.cons_append, List.cons_append,
      acceptIpv6Part_joined hr (by omega) hne, goOn_colon (by simp; omega) rfl]
    refine acceptIpv6Part_third ?_ hne' hhd htl hsum hr' hrest
    obtain ⟨p, ps, rfl⟩ := List.exists_cons_of_ne_nil hne
    exact fun hnil => p.parts_ne_nil (List.append_eq_nil_iff.mp hnil).1

lemma Taken.length_le {text : List UInt8} (h : Taken rest text hs ts) :
    hs.length + ts.length ≤ 8 ∧ ts.length ≤ 6 := by
  cases h with
  | full hlen => exact ⟨hlen.le, Nat.zero_le 6⟩
  | gap _ htl hsum => exact ⟨hsum, htl⟩
  | third _ _ _ htl hsum => exact ⟨hsum, htl⟩

/-- No call panics. -/
lemma acceptIpv6Part_ne_panic (hhs : hs.length ≤ 8) (hts : ts.length ≤ 6)
    (hempty : useTail = false → ts = []) (data : List UInt8) :
    acceptIpv6Part (.of hs ts) useTail data = fail ∨
      ∃ hs' ts' rest, acceptIpv6Part (.of hs ts) useTail data = .ok (.of hs' ts', rest) ∧
        hs'.length ≤ 8 ∧ ts'.length ≤ 6 := by
  induction hn : data.length using Nat.strong_induction_on generalizing data hs ts useTail with
  | _ n ih =>
  have hgo {hs ts : List UInt16} {useTail : Bool} {behind : List UInt8} (hhs : hs.length ≤ 8)
      (hts : ts.length ≤ 6) (hempty : useTail = false → ts = [] ∨ 8 < hs.length + ts.length)
      (hlt : behind.length < n) : goOn (.of hs ts) useTail behind = fail ∨
        ∃ hs' ts' rest, goOn (.of hs ts) useTail behind = .ok (.of hs' ts', rest) ∧
          hs'.length ≤ 8 ∧ ts'.length ≤ 6 := by
    rw [goOn_of]
    split_ifs with hsum
    · exact .inl rfl
    · exact ih _ hlt hhs hts (fun huse => (hempty huse).resolve_right hsum) behind rfl
    · exact .inl rfl
    · exact .inr ⟨hs, ts, behind, rfl, hhs, hts⟩
  rw [acceptIpv6Part_eq]
  have hrule := acceptNext_rule hhs hts hempty data
  have hshort : ∀ {r rest}, acceptNext (.of hs ts) useTail data = .ok (r, rest) →
      rest.length < n := by
    intro r rest h
    rw [← hn]
    exact length_lt_of_acceptNext h
  generalize acceptNext (.of hs ts) useTail data = x at hrule hshort
  cases hrule with
  | fail => exact .inl rfl
  | opened => exact hgo hhs hts nofun (hshort rfl)
  | openedPart huse _ _ hp =>
    obtain rfl := hempty huse
    exact hgo hhs (length_of_follows hp (Nat.succ_pos 5)) nofun (hshort rfl)
  | head huse hlt _ hp =>
    exact hgo (length_of_follows_head hp hlt) hts (fun _ => .inl (hempty huse)) (hshort rfl)
  | @tail p _ huse hlt _ hp =>
    refine hgo hhs (length_of_follows hp hlt) (fun huse' => .inr ?_) (hshort rfl)
    have hpos := List.length_pos_iff.mpr p.parts_ne_nil
    rw [List.length_append]
    obtain rfl | hlen := huse
    · cases huse'
    · omega

end Calls

/-! ### Whole addresses -/

/-- The address with nothing but zeros between two lists of parts. -/
def gapped (hs ts : List UInt16) : List UInt16 :=
  hs ++ List.replicate (8 - (hs.length + ts.length)) 0 ++ ts

section Addresses

variable {hs ts : List UInt16} {text : List UInt8} {a : Ipv6.Address}

/-- The tail is copied to the end of the head. -/
lemma overwrite_filled (h : hs.length + ts.length ≤ 8) :
    (filled 8 hs).overwrite (8 - ts.length) ts = gapped hs ts := by
  have hlen : (filled 8 hs).length = 8 := length_filled (by omega)
  have htake : (filled 8 hs).take (8 - ts.length) =
      hs ++ List.replicate (8 - (hs.length + ts.length)) 0 := by
    rw [filled, List.take_append, List.take_of_length_le (by omega), List.take_replicate]
    congr 2
    omega
  rw [List.overwrite, htake, List.drop_of_length_le (by omega), List.append_nil, gapped]

lemma acceptIpv6_of (h : acceptIpv6Part (.of [] []) false data = .ok (.of hs ts, rest))
    (hsum : hs.length + ts.length ≤ 8) (hts : ts.length ≤ 6) :
    acceptIpv6 data = .ok (Ipv6.ofSegments (gapped hs ts), rest) := by
  have haddr : (do
      let start ← sub 8 (Parts.of hs ts).tailIdx
      copyAt (Parts.of hs ts).head start 8
        (← slice (Parts.of hs ts).tail 0 (Parts.of hs ts).tailIdx)) = .ok (gapped hs ts) := by
    have hlen : (filled 6 ts).length = 6 := length_filled hts
    have hslice : slice (filled 6 ts) 0 ts.length = .ok ts := by
      rw [slice_of (Nat.zero_le _) (by omega), List.drop_zero, take_filled]
    have hhead : (filled 8 hs).length = 8 := length_filled (by omega)
    change (do
      let start ← sub 8 ts.length
      copyAt (filled 8 hs) start 8 (← slice (filled 6 ts) 0 ts.length)) = _
    rw [sub_of_le (by omega), ok_bind, hslice, ok_bind, copyAt_of hhead.ge (by omega),
      overwrite_filled hsum]
  rw [acceptIpv6]
  refine (bind_of_eq h).trans ?_
  rw [bind_apply, lift, haddr]
  rfl

lemma exists_taken_of_acceptIpv6 (h : acceptIpv6 data = .ok (a, rest)) :
    ∃ text hs ts, data = text ++ rest ∧ Taken rest text hs ts ∧
      a = Ipv6.ofSegments (gapped hs ts) ∧ rest.head? ≠ some colon := by
  obtain ⟨parts, rest', hpart, hbehind⟩ := bind_eq_ok.mp h
  obtain ⟨text, hs, ts, rfl, htaken, rfl, hrest⟩ := exists_taken hpart
  obtain ⟨hsum, hts⟩ := htaken.length_le
  rw [acceptIpv6_of hpart hsum hts] at h
  cases h
  exact ⟨text, hs, ts, rfl, htaken, rfl, hrest⟩

/-- No text makes the parser of IPv6 addresses panic. -/
lemma quiet_acceptIpv6 : Quiet acceptIpv6 := by
  intro data
  have hcases := @acceptIpv6Part_ne_panic [] [] false (Nat.zero_le 8) (Nat.zero_le 6)
    (fun _ => rfl) data
  obtain hfail | ⟨hs, ts, rest, hok, -, hts⟩ := hcases
  · exact .inr (bind_of_fail hfail)
  · obtain ⟨text, hs', ts', rfl, htaken, hparts, -⟩ := exists_taken hok
    rw [hparts] at hok
    exact .inl ⟨_, _, acceptIpv6_of hok htaken.length_le.1 htaken.length_le.2⟩

end Addresses

end Smoltcp.Parser
