import Smoltcp.Wire.Dns

/-!
# The labels of a name

What a name stands for is a relation between octets and labels: a label is preceded by its length,
and a pointer stands for the name at an earlier place. `parseName` reads exactly this relation.
-/

namespace Smoltcp.Dns

/-- The octets `bytes` within `packet` stand for a name of the labels. The name at `ptr` may only
point to places before `ptr`. -/
inductive Expands : List UInt8 → List UInt8 → List (List UInt8) → Prop where
  | root {packet rest : List UInt8} : Expands packet (0 :: rest) []
  | label {packet rest label : List UInt8} {labels : List (List UInt8)} (hpos : 0 < label.length)
      (hlt : label.length < 64) (h : Expands packet rest labels) :
      Expands packet (.ofNat label.length :: (label ++ rest)) (label :: labels)
  | pointer {packet rest : List UInt8} {labels : List (List UInt8)} {hi : ℕ} {lo : UInt8}
      (hhi : hi < 64) (hin : hi * 256 + lo.toNat < packet.length)
      (h : Expands (packet.take (hi * 256 + lo.toNat)) (packet.drop (hi * 256 + lo.toNat)) labels) :
      Expands packet (.ofNat (0xC0 + hi) :: lo :: rest) labels

variable {packet bytes rest label : List UInt8} {labels : List (List UInt8)}

/-! ### Length octets -/

lemma lengthOctet : ∀ n < 64, 0 < n → UInt8.ofNat n ≠ 0 ∧ UInt8.ofNat n &&& 0xC0 = 0 ∧
    (UInt8.ofNat n &&& 0x3F).toNat = n := by
  decide

lemma pointerOctet : ∀ n < 64, UInt8.ofNat (0xC0 + n) ≠ 0 ∧
    UInt8.ofNat (0xC0 + n) &&& 0xC0 = 0xC0 ∧ (UInt8.ofNat (0xC0 + n) &&& 0x3F).toNat = n := by
  decide

/-- An octet with the upper bits clear is a length, one with both set starts a pointer. -/
lemma octet_cases (x : UInt8) : (x &&& 0x3F).toNat < 64 ∧
    (x &&& 0xC0 = 0 → x = .ofNat (x &&& 0x3F).toNat) ∧
    (x &&& 0xC0 = 0xC0 → x = .ofNat (0xC0 + (x &&& 0x3F).toNat)) := by
  have hall : ∀ n < 256, (UInt8.ofNat n &&& 0x3F).toNat < 64 ∧
      (UInt8.ofNat n &&& 0xC0 = 0 → UInt8.ofNat n = .ofNat (UInt8.ofNat n &&& 0x3F).toNat) ∧
      (UInt8.ofNat n &&& 0xC0 = 0xC0 →
        UInt8.ofNat n = .ofNat (0xC0 + (UInt8.ofNat n &&& 0x3F).toNat)) := by
    decide +kernel
  have hx := hall x.toNat x.toNat_lt
  rwa [UInt8.ofNat_toNat] at hx

lemma pointer_eq (hi : ℕ) (lo : UInt8) : hi <<< 8 ||| lo.toNat = hi * 256 + lo.toNat := by
  rw [← Nat.shiftLeft_add_eq_or_of_lt lo.toNat_lt, Nat.shiftLeft_eq]

/-! ### Reading a name -/

lemma parseName_root : parseName packet (0 :: rest) = [] := by
  unfold parseName
  exact if_pos rfl

lemma parseName_label (hpos : 0 < label.length) (hlt : label.length < 64) :
    parseName packet (.ofNat label.length :: (label ++ rest)) =
      .ok label :: parseName packet rest := by
  obtain ⟨hne, hclear, hlen⟩ := lengthOctet _ hlt hpos
  rw [parseName.eq_def]
  dsimp only
  rw [if_neg hne, if_pos hclear, hlen, if_neg (by simp), List.take_left, List.drop_left]

/-- A label that is cut off. -/
lemma parseName_short (hpos : 0 < label.length) (hlt : label.length < 64) :
    parseName packet [.ofNat label.length] = [.error .mk] := by
  obtain ⟨hne, hclear, hlen⟩ := lengthOctet _ hlt hpos
  rw [parseName.eq_def]
  dsimp only
  rw [if_neg hne, if_pos hclear, hlen, if_pos (by simpa using hpos)]

/-- A label taken off has the length that its first octet says, which is neither 0 nor 64 or
more. -/
lemma length_take_label {x : UInt8} (hne : x ≠ 0) (hclear : x &&& 0xC0 = 0)
    (hlen : ¬ rest.length < (x &&& 0x3F).toNat) :
    (rest.take (x &&& 0x3F).toNat).length = (x &&& 0x3F).toNat ∧ 0 < (x &&& 0x3F).toNat := by
  obtain ⟨-, hx, -⟩ := octet_cases x
  refine ⟨List.length_take_of_le (by omega), Nat.pos_of_ne_zero fun h0 => hne ?_⟩
  rw [hx hclear, h0]
  rfl

/-- Labels are not empty, and their length leaves the upper bits of an octet clear. -/
lemma length_of_mem_parseName (h : .ok label ∈ parseName packet bytes) :
    0 < label.length ∧ label.length < 64 := by
  fun_induction parseName packet bytes with
  | case1 | case3 | case5 | case6 | case8 => simp at h
  | case2 => cases h
  | case4 packet x rest hne hclear len hlen ih =>
    rcases List.mem_cons.mp h with heq | h
    · cases heq
      obtain ⟨htake, hpos⟩ := length_take_label hne hclear hlen
      rw [htake]
      exact ⟨hpos, (octet_cases x).1⟩
    · exact ih h
  | case7 packet x hne hnot hset y rest ptr hin ih => exact ih h

lemma expands_of_parseName :
    ∀ labels, parseName packet bytes = labels.map .ok → Expands packet bytes labels := by
  fun_induction parseName packet bytes with
  | case1 | case3 | case5 | case6 | case8 =>
    intro labels h
    cases labels with
    | nil => cases h
    | cons label labels => cases h
  | case2 packet rest =>
    intro labels h
    obtain rfl := List.map_eq_nil_iff.mp h.symm
    exact .root
  | case4 packet x rest hne hclear len hlen ih =>
    intro labels h
    cases labels with
    | nil => cases h
    | cons label labels =>
      obtain ⟨heq, hrest⟩ := List.cons.inj h
      obtain rfl := Except.ok.inj heq
      obtain ⟨htake, hpos⟩ := length_take_label hne hclear hlen
      have hlabel := Expands.label (by rwa [htake]) (htake ▸ (octet_cases x).1) (ih labels hrest)
      rwa [List.take_append_drop, htake, ← (octet_cases x).2.1 hclear] at hlabel
  | case7 packet x hne hnot hset y rest ptr hin ih =>
    intro labels h
    have hptr : ptr = (x &&& 0x3F).toNat * 256 + y.toNat := pointer_eq _ _
    rw [(octet_cases x).2.2 hset]
    refine .pointer (octet_cases x).1 ?_ ?_
    · rw [← hptr]
      exact Nat.lt_of_not_le hin
    · rw [← hptr]
      exact ih labels h

/-- A name is read without an error exactly if it stands for labels, and these are read. -/
theorem parseName_eq_iff : parseName packet bytes = labels.map .ok ↔
    Expands packet bytes labels := by
  refine ⟨expands_of_parseName labels, fun h => ?_⟩
  induction h with
  | root => exact parseName_root
  | label hpos hlt _ ih => rw [parseName_label hpos hlt, ih, List.map_cons]
  | pointer hhi hin _ ih =>
    obtain ⟨hne, hset, hbits⟩ := pointerOctet _ hhi
    rw [parseName.eq_def]
    dsimp only
    rw [if_neg hne, if_neg (by rw [hset]; decide), if_pos hset, hbits, pointer_eq,
      if_neg (Nat.not_le.mpr hin)]
    exact ih

end Smoltcp.Dns
