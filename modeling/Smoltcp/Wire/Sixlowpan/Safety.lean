import Smoltcp.Wire.Sixlowpan.Packet

/-!
# Compressed headers are parsed without panics

Whatever the octets are, the IPv6 header and the UDP header of a 6LoWPAN frame are read inside of
them, or refused.
-/

namespace Smoltcp

open Outcome

/-! ### Addresses -/

namespace Sixlowpan.UnresolvedAddress

/-- The octets of an address are as many as its mode needs. -/
def Shaped : UnresolvedAddress → Prop
  | .withoutContext (.fullInline l) => l.length = 16
  | .withoutContext (.inLine64bits l) => l.length = 8
  | .withoutContext (.inLine16bits l) => l.length = 2
  | .withoutContext (.multicast48bits l) => l.length = 6
  | .withoutContext (.multicast32bits l) => l.length = 4
  | .withoutContext (.multicast8bits l) => l.length = 1
  | .withContext _ (.inLine64bits l) => l.length = 8
  | .withContext _ (.inLine16bits l) => l.length = 2
  | _ => True

variable {bytes : List UInt8} {llAddress : Option Ieee802154Address}
  {addrContext : List AddressContext}

lemma fromBytes_safe (h : bytes.length = 16) : Safe (Ipv6.fromBytes bytes) fun _ => True :=
  Safe.of_eq (Ipv6.fromBytes_of h) trivial

/-- A copy into sixteen octets leaves sixteen octets. -/
lemma copyAt_safe (h : bytes.length = 16) {a b : ℕ} {data : List UInt8} (hb : b ≤ 16)
    (hlen : a + data.length = b) : Safe (copyAt bytes a b data) fun l => l.length = 16 := by
  apply Safe.of_eq (copyAt_of (by omega) hlen)
  rw [List.length_overwrite (by omega), h]

lemma copyAt_bind {β : Type} {f : List UInt8 → Outcome β} {post : β → Prop} {a b : ℕ}
    {data : List UInt8} (h : bytes.length = 16) (hb : b ≤ 16) (hlen : a + data.length = b)
    (hf : ∀ l : List UInt8, l.length = 16 → Safe (f l) post) :
    Safe (copyAt bytes a b data >>= f) post :=
  (copyAt_safe h hb hlen).bind hf

lemma write_bind {β : Type} {f : List UInt8 → Outcome β} {post : β → Prop} {a : ℕ} {octet : UInt8}
    (h : bytes.length = 16) (ha : a < 16)
    (hf : ∀ l : List UInt8, l.length = 16 → Safe (f l) post) :
    Safe (write bytes a [octet] >>= f) post := by
  have hfits : a + [octet].length ≤ bytes.length := by
    rw [h, List.length_singleton]
    omega
  rw [write_of hfits, ok_bind]
  exact hf _ (by rw [List.length_overwrite hfits, h])

lemma copyLlAddress_safe (h : bytes.length = 16) :
    Safe (copyLlAddress llAddress bytes) fun l => l.length = 16 := by
  match llAddress with
  | none => exact Safe.fail
  | some .absent => exact Safe.fail
  | some (.short ll) =>
    refine copyAt_bind h (by decide) rfl ?_
    intro l hl
    exact copyAt_safe hl hl.le (by simp [hl, Ieee802154Address.asBytes])
  | some (.extended ll) =>
    unfold copyLlAddress
    apply (Safe.okOr _).bind
    intro addr haddr
    have hlen : addr.length = 8 := by
      rw [← Option.some.inj haddr]
      simp
    exact copyAt_safe h h.le (by rw [hlen, h])

lemma copyContext_safe (h : bytes.length = 16) (index : ℕ) :
    Safe (copyContext addrContext index bytes) fun l => l.length = 16 := by
  unfold copyContext
  apply (Safe.reject _).bind
  intro _ hlt
  rw [index_of (List.getElem?_eq_getElem (not_le.mp hlt)), ok_bind]
  exact copyAt_safe h (by decide) (by simp)

lemma copyLast_safe (h : bytes.length = 16) {inline : List UInt8} (hlen : inline.length ≤ 16) :
    Safe (copyLast bytes inline) fun l => l.length = 16 := by
  unfold copyLast
  rw [sub_of_le hlen, ok_bind]
  exact copyAt_safe h h.le (by omega)

/-- An address of the right shape is resolved or refused. -/
lemma resolve_safe {address : UnresolvedAddress} (h : Shaped address) :
    Safe (address.resolve llAddress addrContext) fun _ => True := by
  have hzero : (List.replicate 16 (0 : UInt8)).length = 16 := rfl
  match address with
  | .withoutContext (.fullInline l) => exact fromBytes_safe h
  | .withoutContext (.inLine64bits l) =>
    refine copyAt_bind hzero (by decide) rfl ?_
    intro bytes hbytes
    refine copyAt_bind hbytes hbytes.le (by rw [h, hbytes]) ?_
    exact fun bytes hbytes => fromBytes_safe hbytes
  | .withoutContext (.inLine16bits l) =>
    refine copyAt_bind hzero (by decide) rfl ?_
    intro bytes hbytes
    refine copyAt_bind hbytes (by decide) rfl ?_
    intro bytes hbytes
    refine copyAt_bind hbytes hbytes.le (by rw [h, hbytes]) ?_
    exact fun bytes hbytes => fromBytes_safe hbytes
  | .withoutContext .fullyElided =>
    refine copyAt_bind hzero (by decide) rfl ?_
    intro bytes hbytes
    apply (copyLlAddress_safe hbytes).bind
    exact fun bytes hbytes => fromBytes_safe hbytes
  | .withoutContext (.multicast48bits l) =>
    have hlen : l.length = 6 := h
    refine write_bind hzero (by decide) ?_
    intro bytes hbytes
    rw [index_get (by omega), ok_bind]
    refine write_bind hbytes (by decide) ?_
    intro bytes hbytes
    rw [sliceAt_of (by omega), ok_bind]
    refine copyAt_bind hbytes hbytes.le (by simp [hlen, hbytes]) ?_
    exact fun bytes hbytes => fromBytes_safe hbytes
  | .withoutContext (.multicast32bits l) =>
    have hlen : l.length = 4 := h
    refine write_bind hzero (by decide) ?_
    intro bytes hbytes
    rw [index_get (by omega), ok_bind]
    refine write_bind hbytes (by decide) ?_
    intro bytes hbytes
    rw [sliceAt_of (by omega), ok_bind]
    refine copyAt_bind hbytes hbytes.le (by simp [hlen, hbytes]) ?_
    exact fun bytes hbytes => fromBytes_safe hbytes
  | .withoutContext (.multicast8bits l) =>
    have hlen : l.length = 1 := h
    refine write_bind hzero (by decide) ?_
    intro bytes hbytes
    refine write_bind hbytes (by decide) ?_
    intro bytes hbytes
    rw [index_get (by omega), ok_bind]
    refine write_bind hbytes (by decide) ?_
    exact fun bytes hbytes => fromBytes_safe hbytes
  | .withoutContext .unspecified => exact Safe.fail
  | .withoutContext .notSupported => exact Safe.fail
  | .withContext _ .unspecified => exact Safe.pure trivial
  | .withContext index (.inLine64bits l) =>
    have hlen : l.length = 8 := h
    apply (copyContext_safe hzero index).bind
    intro bytes hbytes
    apply (copyLast_safe hbytes (by omega)).bind
    exact fun bytes hbytes => fromBytes_safe hbytes
  | .withContext index (.inLine16bits l) =>
    have hlen : l.length = 2 := h
    apply (copyContext_safe hzero index).bind
    intro bytes hbytes
    apply (copyLast_safe hbytes (by omega)).bind
    exact fun bytes hbytes => fromBytes_safe hbytes
  | .withContext index .fullyElided =>
    apply (copyLlAddress_safe hzero).bind
    intro bytes hbytes
    apply (copyContext_safe hbytes index).bind
    exact fun bytes hbytes => fromBytes_safe hbytes
  | .withContext _ (.fullInline _) => exact Safe.fail
  | .withContext _ (.multicast48bits _) => exact Safe.fail
  | .withContext _ (.multicast32bits _) => exact Safe.fail
  | .withContext _ (.multicast8bits _) => exact Safe.fail
  | .withContext _ .notSupported => exact Safe.fail
  | .reserved => exact Safe.fail

end Sixlowpan.UnresolvedAddress

/-! ### IPv6 headers -/

namespace IphcPacket

open Sixlowpan

variable {buf : List UInt8}

lemma mem_bit (w : UInt16) : (w &&& 0b1).toUInt8 ∈ bit := by
  have hval : (w &&& 0b1).toUInt8.toNat = w.toNat % 2 := by
    rw [UInt16.toNat_toUInt8, UInt16.toNat_and]
    change (w.toNat &&& 1) % 256 = _
    rw [Nat.and_one_is_mod]
    omega
  rcases Nat.mod_two_eq_zero_or_one w.toNat with h | h
  · exact List.mem_cons.mpr (.inl (UInt8.toNat.inj (hval.trans h)))
  · exact List.mem_cons.mpr (.inr (List.mem_singleton.mpr (UInt8.toNat.inj (hval.trans h))))

lemma mem_bits (w : UInt16) : (w &&& 0b11).toUInt8 ∈ bits := by
  have hval : (w &&& 0b11).toUInt8.toNat = w.toNat % 4 := by
    rw [UInt16.toNat_toUInt8, UInt16.toNat_and]
    change (w.toNat &&& 2 ^ 2 - 1) % 256 = _
    rw [Nat.and_two_pow_sub_one_eq_mod]
    omega
  have hlt : w.toNat % 4 < 4 := Nat.mod_lt _ (by decide)
  have heq : (w &&& 0b11).toUInt8 = .ofNat (w.toNat % 4) := by
    apply UInt8.toNat.inj
    rw [hval, UInt8.toNat_ofNat']
    omega
  rw [heq]
  generalize w.toNat % 4 = n at hlt
  decide +revert

lemma field_of (h : 2 ≤ buf.length) (mask shift : UInt16) :
    field buf mask shift = .ok ((Octets.readU16 buf 0 >>> shift) &&& mask).toUInt8 := by
  rw [field, readU16_of h]
  rfl

lemma field_bit (h : 2 ≤ buf.length) (shift : UInt16) : ∃ v ∈ bit, field buf 0b1 shift = .ok v :=
  ⟨_, mem_bit _, field_of h _ _⟩

lemma field_bits (h : 2 ≤ buf.length) (shift : UInt16) : ∃ v ∈ bits, field buf 0b11 shift = .ok v :=
  ⟨_, mem_bits _, field_of h _ _⟩

/-- The sizes of the fields of a header. -/
structure Sizes (buf : List UInt8) (cid tf nh hlim src dst : ℕ) : Prop where
  cid_eq : cidSize buf = .ok cid
  tf_eq : trafficClassSize buf = .ok tf
  nh_eq : nextHeaderSize buf = .ok nh
  hlim_eq : hopLimitSize buf = .ok hlim
  src_eq : srcAddressSize buf = .ok src
  dst_eq : dstAddressSize buf = .ok dst

lemma exists_sizes (h : 2 ≤ buf.length) : ∃ cid tf nh hlim src dst,
    Sizes buf cid tf nh hlim src dst := by
  obtain ⟨c, hc, hcid⟩ := field_bit h 7
  obtain ⟨t, ht, htf⟩ := field_bits h 11
  obtain ⟨n, hn, hnh⟩ := field_bit h 10
  obtain ⟨l, hl, hhlim⟩ := field_bits h 8
  obtain ⟨sc, hsc, hsac⟩ := field_bit h 6
  obtain ⟨sm, hsm, hsam⟩ := field_bits h 4
  obtain ⟨m, hm, hmf⟩ := field_bit h 3
  obtain ⟨dc, hdc, hdac⟩ := field_bit h 2
  obtain ⟨dm, hdm, hdam⟩ := field_bits h 0
  have htf' : ∃ k, trafficClassSize buf = .ok k := by
    rw [trafficClassSize, tfField, htf, ok_bind]
    simp only [bits, List.mem_cons, List.not_mem_nil, or_false] at ht
    rcases ht with rfl | rfl | rfl | rfl
    all_goals exact ⟨_, rfl⟩
  have hsrc : ∃ k, srcAddressSize buf = .ok k := by
    rw [srcAddressSize, sacField, hsac, ok_bind, samField, hsam, ok_bind]
    simp only [bit, bits, List.mem_cons, List.not_mem_nil, or_false] at hsc hsm
    rcases hsc with rfl | rfl <;> rcases hsm with rfl | rfl | rfl | rfl
    all_goals exact ⟨_, rfl⟩
  have hdst : ∃ k, dstAddressSize buf = .ok k := by
    rw [dstAddressSize, mField, hmf, ok_bind, dacField, hdac, ok_bind, damField, hdam, ok_bind]
    simp only [bit, bits, List.mem_cons, List.not_mem_nil, or_false] at hm hdc hdm
    rcases hm with rfl | rfl <;> rcases hdc with rfl | rfl <;> rcases hdm with rfl | rfl | rfl | rfl
    all_goals exact ⟨_, rfl⟩
  have hcid' : ∃ k, cidSize buf = .ok k := by
    rw [cidSize, cidField, hcid]
    exact ⟨_, rfl⟩
  have hnh' : ∃ k, nextHeaderSize buf = .ok k := by
    rw [nextHeaderSize, nhField, hnh]
    exact ⟨_, rfl⟩
  have hhlim' : ∃ k, hopLimitSize buf = .ok k := by
    rw [hopLimitSize, hlimField, hhlim]
    exact ⟨_, rfl⟩
  obtain ⟨cid, hcid'⟩ := hcid'
  obtain ⟨tf, htf'⟩ := htf'
  obtain ⟨nh, hnh'⟩ := hnh'
  obtain ⟨hlim, hhlim'⟩ := hhlim'
  obtain ⟨src, hsrc⟩ := hsrc
  obtain ⟨dst, hdst⟩ := hdst
  exact ⟨cid, tf, nh, hlim, src, dst, hcid', htf', hnh', hhlim', hsrc, hdst⟩

/-- A header whose fields are all there. -/
structure Whole (buf : List UInt8) (cid tf nh hlim src dst : ℕ) : Prop extends
    Sizes buf cid tf nh hlim src dst where
  two_le : 2 ≤ buf.length
  le_length : 2 + cid + tf + nh + hlim + src + dst ≤ buf.length

lemma Sizes.addressesStart {cid tf nh hlim src dst : ℕ} (h : Sizes buf cid tf nh hlim src dst) :
    addressesStart buf = .ok (2 + cid + tf + nh + hlim) := by
  rw [IphcPacket.addressesStart, ipFieldsStart, h.cid_eq, h.tf_eq, h.nh_eq, h.hlim_eq]
  rfl

lemma Sizes.headerLen {cid tf nh hlim src dst : ℕ} (h : Sizes buf cid tf nh hlim src dst) :
    headerLen buf = .ok (2 + cid + tf + nh + hlim + src + dst) := by
  rw [IphcPacket.headerLen, h.addressesStart, h.src_eq, h.dst_eq]
  rfl

lemma checkLen_safe (buf : List UInt8) :
    Safe (checkLen buf) fun _ => ∃ cid tf nh hlim src dst, Whole buf cid tf nh hlim src dst := by
  unfold checkLen
  apply Safe.ite
  · exact fun _ => Safe.fail
  intro hlen
  obtain ⟨cid, tf, nh, hlim, src, dst, hsizes⟩ := exists_sizes (not_lt.mp hlen)
  rw [hsizes.headerLen, ok_bind]
  exact (Safe.reject _).mono fun _ h =>
    ⟨cid, tf, nh, hlim, src, dst,
      { hsizes with two_le := not_lt.mp hlen, le_length := not_lt.mp h }⟩

namespace Whole

variable {cid tf nh hlim src dst : ℕ}

lemma payload (h : Whole buf cid tf nh hlim src dst) :
    payload buf = .ok (buf.drop (2 + cid + tf + nh + hlim + src + dst)) := by
  rw [IphcPacket.payload, h.headerLen, ok_bind, sliceFrom_of h.le_length]

lemma dispatchField (h : Whole buf cid tf nh hlim src dst) : ∃ v, dispatchField buf = .ok v :=
  ⟨_, field_of h.two_le _ _⟩

/-- There is an octet for the context identifiers, if they are carried. -/
lemma context_lt (h : Whole buf cid tf nh hlim src dst) (hcid : cidField buf = .ok 1) :
    2 < buf.length := by
  have hone : cid = 1 := by
    have hc := h.cid_eq
    rw [cidSize, hcid] at hc
    exact (Except.ok.inj hc).symm
  have := h.le_length
  omega

lemma srcContextId (h : Whole buf cid tf nh hlim src dst) : ∃ v, srcContextId buf = .ok v := by
  obtain ⟨c, -, hc⟩ := field_bit h.two_le 7
  rw [IphcPacket.srcContextId, cidField, hc, ok_bind]
  by_cases hone : c = 1
  · rw [if_pos hone, index_get (h.context_lt (hone ▸ hc))]
    exact ⟨_, rfl⟩
  · rw [if_neg hone]
    exact ⟨_, rfl⟩

lemma dstContextId (h : Whole buf cid tf nh hlim src dst) : ∃ v, dstContextId buf = .ok v := by
  obtain ⟨c, -, hc⟩ := field_bit h.two_le 7
  rw [IphcPacket.dstContextId, cidField, hc, ok_bind]
  by_cases hone : c = 1
  · rw [if_pos hone, index_get (h.context_lt (hone ▸ hc))]
    exact ⟨_, rfl⟩
  · rw [if_neg hone]
    exact ⟨_, rfl⟩

/-- An octet of the fields in front of the addresses. -/
lemma slice_one {i : ℕ} (hi : i < buf.length) :
    slice buf i (i + 1) = .ok [Octets.get buf i] := by
  rw [slice_of (by omega) hi, List.take_succ_eq_append_getElem hi, List.drop_left' (by simp; omega),
    Octets.get, List.getElem?_eq_getElem hi]
  rfl

lemma nextHeader (h : Whole buf cid tf nh hlim src dst) : ∃ v, nextHeader buf = .ok v := by
  obtain ⟨n, hmem, hn⟩ := field_bit h.two_le 10
  rw [IphcPacket.nextHeader, nhField, hn, ok_bind]
  by_cases hone : n = 1
  · rw [if_pos hone]
    exact ⟨_, rfl⟩
  · have hsize : nh = 1 := by
      have hnh := h.nh_eq
      rw [nextHeaderSize, nhField, hn, ok_bind, if_pos hone] at hnh
      exact (Except.ok.inj hnh).symm
    have hlt : 2 + cid + tf < buf.length := by
      have := h.le_length
      omega
    rw [if_neg hone, ipFieldsStart, h.cid_eq, h.tf_eq]
    simp only [ok_bind, pure_eq_ok, slice_one hlt]
    exact ⟨_, rfl⟩

lemma hopLimit (h : Whole buf cid tf nh hlim src dst) : ∃ v, hopLimit buf = .ok v := by
  obtain ⟨l, hmem, hl⟩ := field_bits h.two_le 8
  rw [IphcPacket.hopLimit, hlimField, hl, ok_bind]
  simp only [bits, List.mem_cons, List.not_mem_nil, or_false] at hmem
  rcases hmem with rfl | rfl | rfl | rfl
  · have hsize : hlim = 1 := by
      have hh := h.hlim_eq
      rw [hopLimitSize, hlimField, hl, ok_bind] at hh
      exact (Except.ok.inj hh).symm
    have hlt : 2 + cid + tf + nh < buf.length := by
      have := h.le_length
      omega
    rw [ipFieldsStart, h.cid_eq, h.tf_eq, h.nh_eq]
    simp only [ok_bind, pure_eq_ok, slice_one hlt]
    exact ⟨_, rfl⟩
  all_goals exact ⟨_, rfl⟩

/-- The traffic class, of which `n` octets are there. -/
lemma traffic (h : Whole buf cid tf nh hlim src dst) :
    (∃ v, ecnField buf = .ok v) ∧ (∃ v, dscpField buf = .ok v) ∧
      ∃ v, flowLabelField buf = .ok v := by
  obtain ⟨t, hmem, ht⟩ := field_bits h.two_le 11
  have hle := h.le_length
  have htf := h.tf_eq
  have hstart : sliceFrom buf (2 + cid) = .ok (buf.drop (2 + cid)) := sliceFrom_of (by omega)
  have hlen : (buf.drop (2 + cid)).length = buf.length - (2 + cid) := List.length_drop
  rw [trafficClassSize, tfField, ht, ok_bind] at htf
  rw [ecnField, dscpField, flowLabelField, tfField, ht, ok_bind, ok_bind, ok_bind, ipFieldsStart,
    h.cid_eq]
  simp only [ok_bind, pure_eq_ok, hstart]
  simp only [bits, List.mem_cons, List.not_mem_nil, or_false] at hmem
  rcases hmem with rfl | rfl | rfl | rfl
  · have hsize := Except.ok.inj htf
    rw [index_get (by omega), @readU16_of _ 2 (by omega)]
    exact ⟨⟨_, rfl⟩, ⟨_, rfl⟩, ⟨_, rfl⟩⟩
  · have hsize := Except.ok.inj htf
    rw [index_get (by omega), @readU16_of _ 1 (by omega)]
    exact ⟨⟨_, rfl⟩, ⟨_, rfl⟩, ⟨_, rfl⟩⟩
  · have hsize := Except.ok.inj htf
    rw [index_get (by omega)]
    exact ⟨⟨_, rfl⟩, ⟨_, rfl⟩, ⟨_, rfl⟩⟩
  · exact ⟨⟨_, rfl⟩, ⟨_, rfl⟩, ⟨_, rfl⟩⟩

lemma srcAddr_safe (h : Whole buf cid tf nh hlim src dst) :
    Safe (srcAddr buf) UnresolvedAddress.Shaped := by
  obtain ⟨c, hc, hsac⟩ := field_bit h.two_le 6
  obtain ⟨m, hm, hsam⟩ := field_bits h.two_le 4
  obtain ⟨id, hid⟩ := h.srcContextId
  have hle := h.le_length
  have hsrc := h.src_eq
  rw [srcAddressSize, sacField, hsac, ok_bind, samField, hsam, ok_bind] at hsrc
  rw [srcAddr, h.addressesStart, ok_bind, sacField, hsac, ok_bind, samField, hsam, ok_bind, hid]
  simp only [bit, bits, List.mem_cons, List.not_mem_nil, or_false] at hc hm
  have hslice : ∀ n ≤ src, sliceAt buf (2 + cid + tf + nh + hlim) n =
      .ok ((buf.drop (2 + cid + tf + nh + hlim)).take n) := fun n hn => sliceAt_of (by omega)
  have hlen : ∀ n ≤ src, ((buf.drop (2 + cid + tf + nh + hlim)).take n).length = n := by
    intro n hn
    rw [List.length_take, List.length_drop]
    omega
  rcases hc with rfl | rfl <;> rcases hm with rfl | rfl | rfl | rfl
  all_goals
    have hsize := Except.ok.inj hsrc
  · rw [hslice 16 hsize.le]
    exact hlen 16 hsize.le
  · rw [hslice 8 hsize.le]
    exact hlen 8 hsize.le
  · rw [hslice 2 hsize.le]
    exact hlen 2 hsize.le
  · trivial
  · trivial
  · rw [ok_bind]
    refine (Safe.okOr id).bind ?_
    intro v _
    rw [hslice 8 hsize.le]
    exact hlen 8 hsize.le
  · rw [ok_bind]
    refine (Safe.okOr id).bind ?_
    intro v _
    rw [hslice 2 hsize.le]
    exact hlen 2 hsize.le
  · rw [ok_bind]
    exact (Safe.okOr id).bind fun _ _ => trivial

lemma dstAddr_safe (h : Whole buf cid tf nh hlim src dst) :
    Safe (dstAddr buf) UnresolvedAddress.Shaped := by
  obtain ⟨m, hm, hmf⟩ := field_bit h.two_le 3
  obtain ⟨c, hc, hdac⟩ := field_bit h.two_le 2
  obtain ⟨d, hd, hdam⟩ := field_bits h.two_le 0
  obtain ⟨id, hid⟩ := h.dstContextId
  have hle := h.le_length
  have hdst := h.dst_eq
  rw [dstAddressSize, mField, hmf, ok_bind, dacField, hdac, ok_bind, damField, hdam,
    ok_bind] at hdst
  rw [dstAddr, h.addressesStart, ok_bind, h.src_eq, ok_bind, mField, hmf, ok_bind, dacField, hdac,
    ok_bind, damField, hdam, ok_bind, hid]
  simp only [bit, bits, List.mem_cons, List.not_mem_nil, or_false] at hm hc hd
  have hslice : ∀ n ≤ dst, sliceAt buf (2 + cid + tf + nh + hlim + src) n =
      .ok ((buf.drop (2 + cid + tf + nh + hlim + src)).take n) := fun n hn => sliceAt_of (by omega)
  have hlen : ∀ n ≤ dst, ((buf.drop (2 + cid + tf + nh + hlim + src)).take n).length = n := by
    intro n hn
    rw [List.length_take, List.length_drop]
    omega
  -- a unicast address without and with a context, then a multicast address
  rcases hm with rfl | rfl <;> rcases hc with rfl | rfl <;> rcases hd with rfl | rfl | rfl | rfl
  all_goals
    have hsize := Except.ok.inj hdst
  · rw [hslice 16 hsize.le]
    exact hlen 16 hsize.le
  · rw [hslice 8 hsize.le]
    exact hlen 8 hsize.le
  · rw [hslice 2 hsize.le]
    exact hlen 2 hsize.le
  · trivial
  · trivial
  · rw [ok_bind]
    refine (Safe.okOr id).bind ?_
    intro v _
    rw [hslice 8 hsize.le]
    exact hlen 8 hsize.le
  · rw [ok_bind]
    refine (Safe.okOr id).bind ?_
    intro v _
    rw [hslice 2 hsize.le]
    exact hlen 2 hsize.le
  · rw [ok_bind]
    exact (Safe.okOr id).bind fun _ _ => trivial
  · rw [hslice 16 hsize.le]
    exact hlen 16 hsize.le
  · rw [hslice 6 hsize.le]
    exact hlen 6 hsize.le
  · rw [hslice 4 hsize.le]
    exact hlen 4 hsize.le
  · rw [hslice 1 hsize.le]
    exact hlen 1 hsize.le
  all_goals trivial

/-- A header that is whole is read or refused. -/
lemma parse_safe (h : Whole buf cid tf nh hlim src dst)
    (llSrcAddr llDstAddr : Option Ieee802154Address) (addrContext : List AddressContext) :
    Safe (IphcRepr.parse buf llSrcAddr llDstAddr addrContext) fun _ => True := by
  obtain ⟨d, hd⟩ := h.dispatchField
  obtain ⟨n, hn⟩ := h.nextHeader
  obtain ⟨l, hl⟩ := h.hopLimit
  obtain ⟨⟨e, he⟩, ⟨s, hs⟩, ⟨f, hf⟩⟩ := h.traffic
  unfold IphcRepr.parse
  apply (checkLen_safe buf).bind
  intro _ _
  rw [hd, ok_bind]
  apply (Safe.reject _).bind
  intro _ _
  apply h.srcAddr_safe.bind
  intro srcAddr hsrcAddr
  apply (UnresolvedAddress.resolve_safe hsrcAddr).bind
  intro src _
  apply h.dstAddr_safe.bind
  intro dstAddr hdstAddr
  apply (UnresolvedAddress.resolve_safe hdstAddr).bind
  intro dst _
  rw [hn, ok_bind, hl, ok_bind, he, ok_bind, hs, ok_bind, hf, ok_bind]
  exact Safe.pure trivial

end Whole

end IphcPacket

/-! ### UDP headers -/

namespace UdpNhcPacket

variable {buf : List UInt8}

lemma field_of (h : buf ≠ []) (mask shift : UInt8) :
    field buf mask shift = .ok ((Octets.get buf 0 >>> shift) &&& mask) := by
  rw [field, index_zero h]
  rfl

lemma ports_cases (b : UInt8) : b &&& 0b11 = 0 ∨ b &&& 0b11 = 1 ∨ b &&& 0b11 = 2 ∨
    b &&& 0b11 = 3 := by
  have hall : ∀ b : BitVec 8, UInt8.ofBitVec b &&& 0b11 = 0 ∨ UInt8.ofBitVec b &&& 0b11 = 1 ∨
      UInt8.ofBitVec b &&& 0b11 = 2 ∨ UInt8.ofBitVec b &&& 0b11 = 3 := by
    decide +kernel
  exact hall b.toBitVec

/-- A header whose ports and checksum are all there. -/
structure Whole (buf : List UInt8) (ports sum : ℕ) : Prop where
  ne_nil : buf ≠ []
  ports_eq : portsSize buf = .ok ports
  sum_eq : checksumSize buf = .ok sum
  le_length : 1 + ports + sum ≤ buf.length

lemma checkLen_safe (buf : List UInt8) : Safe (checkLen buf) fun _ => ∃ ports sum,
    Whole buf ports sum := by
  unfold checkLen
  apply Safe.ite
  · exact fun _ => Safe.fail
  intro hlen
  have hne : buf ≠ [] := fun h => hlen (by rw [h]; rfl)
  have hports : ∃ n, portsSize buf = .ok n := by
    rw [portsSize, portsField, field_of hne, ok_bind]
    rcases ports_cases (Octets.get buf 0 >>> 0) with h | h | h | h
    all_goals
      rw [h]
      exact ⟨_, rfl⟩
  have hsum : ∃ n, checksumSize buf = .ok n := by
    rw [checksumSize, checksumField, field_of hne, ok_bind]
    rcases ExtHeaderPacket.bit_cases (Octets.get buf 0 >>> 2) with h | h
    all_goals
      rw [h]
      exact ⟨_, rfl⟩
  obtain ⟨ports, hports⟩ := hports
  obtain ⟨sum, hsum⟩ := hsum
  rw [hports, ok_bind, hsum, ok_bind]
  exact (Safe.reject _).mono fun _ h => ⟨ports, sum, hne, hports, hsum, not_lt.mp h⟩

namespace Whole

variable {ports sum : ℕ}

lemma payload (h : Whole buf ports sum) : payload buf = .ok (buf.drop (1 + ports + sum)) := by
  rw [UdpNhcPacket.payload, h.ports_eq, ok_bind, h.sum_eq, ok_bind, sliceFrom_of h.le_length]

/-- Both ports are read. -/
lemma exists_ports (h : Whole buf ports sum) :
    (∃ v, srcPort buf = .ok v) ∧ ∃ v, dstPort buf = .ok v := by
  have hle := h.le_length
  have hports := h.ports_eq
  rw [portsSize, portsField, field_of h.ne_nil, ok_bind] at hports
  rw [srcPort, dstPort, portsField, field_of h.ne_nil, ok_bind, ok_bind]
  rcases ports_cases (Octets.get buf 0 >>> 0) with hmode | hmode | hmode | hmode
  all_goals
    rw [hmode] at hports ⊢
    have hsize := Except.ok.inj hports
  · rw [@readU16_of _ 1 (by omega), @readU16_of _ 3 (by omega)]
    exact ⟨⟨_, rfl⟩, ⟨_, rfl⟩⟩
  · rw [@readU16_of _ 1 (by omega), @index_get _ 1 (by omega)]
    exact ⟨⟨_, rfl⟩, ⟨_, rfl⟩⟩
  · rw [@readU16_of _ 2 (by omega), @index_get _ 1 (by omega)]
    exact ⟨⟨_, rfl⟩, ⟨_, rfl⟩⟩
  · rw [@index_get _ 1 (by omega)]
    exact ⟨⟨_, rfl⟩, ⟨_, rfl⟩⟩

/-- A header that is whole is read, where no checksum is expected. -/
lemma parse (h : Whole buf ports sum) (hdispatch : Octets.get buf 0 >>> 3 = dispatchUdpHeader)
    (srcAddr dstAddr : BitVec 128) : ∃ repr, UdpNhcRepr.parse false buf srcAddr dstAddr =
    .ok repr := by
  obtain ⟨⟨src, hsrc⟩, ⟨dst, hdst⟩⟩ := h.exists_ports
  have hcheck : checkLen buf = .ok () := by
    have hlen : buf.length ≠ 0 := fun h0 => h.ne_nil (List.length_eq_zero_iff.mp h0)
    rw [checkLen, if_neg hlen, h.ports_eq, ok_bind, h.sum_eq, ok_bind,
      reject_of_not (not_lt.mpr h.le_length)]
  have hfield : (Octets.get buf 0 >>> 3) &&& 0b11111 = (0b11110 : UInt8) := by
    rw [hdispatch]
    decide
  refine ⟨⟨⟨src, dst⟩⟩, ?_⟩
  rw [UdpNhcRepr.parse, hcheck, ok_bind, dispatchField, field_of h.ne_nil, ok_bind,
    reject_of_not (not_not.mpr hfield), ok_bind, UdpNhcRepr.expectChecksum, if_neg (by decide)]
  simp only [pure_eq_ok, ok_bind, hsrc, hdst]

end Whole

end UdpNhcPacket

end Smoltcp
