import Smoltcp.Iface.Sixlowpan.Process

/-!
# The slots of compressed packets

A closure that decompresses into a slot leaves octets behind, and so it is one of the closures that
the reassembly is said of. The slots of an interface are then those of a run of fragments.
-/

namespace Smoltcp

open Outcome Sixlowpan

/-- A closure that leaves `octets` in a slice of their number. -/
def Decompressor.leaving (octets : List UInt8) (result : Except AssemblerError ℕ)
    (hle : ∀ len, result = .ok len → len ≤ octets.length) : Decompressor where
  writes n := (octets.take n).zipIdx.map Prod.swap
  result n := if n = octets.length then result else .error .mk
  inside n w hw := by
    obtain ⟨⟨v, p⟩, hmem, rfl⟩ := List.mem_map.mp hw
    have hp := (List.mem_zipIdx' hmem).1
    rw [List.length_take] at hp
    exact (lt_min_iff.mp hp).1
  reported n len hlen p hp := by
    split_ifs at hlen with hn
    have hlt : p < octets.length := hp.trans_le (hle len hlen)
    refine ⟨(p, octets[p]), List.mem_map.mpr ⟨(octets[p], p), ?_, rfl⟩, rfl⟩
    rw [hn, List.take_length]
    exact List.mem_zipIdx_iff_getElem?.mpr (List.getElem?_eq_getElem hlt)

namespace Decompressor

variable {octets : List UInt8} {result : Except AssemblerError ℕ}
  {hle : ∀ len, result = .ok len → len ≤ octets.length}

@[simp] lemma writes_leaving :
    (leaving octets result hle).writes octets.length = octets.zipIdx.map Prod.swap := by
  simp [leaving]

@[simp] lemma result_leaving : (leaving octets result hle).result octets.length = result :=
  if_pos rfl

end Decompressor

/-- The packet that a fragment completes. -/
def Received.packet : Received → Option (List UInt8)
  | .complete payload => some payload
  | _ => none

namespace PacketAssembler

variable {κ : Type} {cfg : ReassemblyConfig} {pa : PacketAssembler κ} {offset : ℕ}

/-- Octets written one after the other are copied. -/
lemma writeOctets_zipIdx {buffer data : List UInt8} {k : ℕ}
    (h : offset + k + data.length ≤ buffer.length) :
    writeOctets offset buffer ((data.zipIdx k).map Prod.swap) =
      buffer.overwrite (offset + k) data := by
  induction data generalizing buffer k with
  | nil => simp [writeOctets]
  | cons v data ih =>
    rw [List.length_cons] at h
    have hrest := @ih (buffer.set (offset + k) v) (k + 1) (by simp; omega)
    have hcopy := List.overwrite_overwrite (l := buffer) (d := [v]) (i := offset + k) (e := data)
      (by simp; omega)
    rw [List.zipIdx_cons, List.map_cons]
    refine hrest.trans ?_
    rw [List.set_eq_overwrite (by omega), ← Nat.add_assoc]
    exact hcopy

/-- A closure that does not panic in the slice it is given. -/
lemma addWithClosure_eq_addWith {f : List UInt8 → Checked (List UInt8 × Except AssemblerError ℕ)}
    {octets : List UInt8} {result : Except AssemblerError ℕ} (hoffset : offset ≤ pa.buffer.length)
    (hf : f (pa.buffer.drop offset) = .ok (octets, result))
    (hlen : octets.length = pa.buffer.length - offset)
    (hle : ∀ len, result = .ok len → len ≤ octets.length) :
    pa.addWithClosure offset f = pa.addWith offset (.leaving octets result hle) := by
  have hwrite : writeOctets offset pa.buffer (octets.zipIdx.map Prod.swap) =
      pa.buffer.overwrite (offset + 0) octets := writeOctets_zipIdx (by omega)
  rw [Nat.add_zero, List.overwrite, List.drop_eq_nil_of_le (by omega), List.append_nil] at hwrite
  unfold addWithClosure addWith
  rw [if_neg hoffset.not_gt, if_neg hoffset.not_gt, hf, Checked.ok_bind]
  dsimp only
  rw [← hlen, Decompressor.writes_leaving, Decompressor.result_leaving, hwrite]
  cases result with
  | error e => rfl
  | ok len => rfl

variable {pa' slot : PacketAssembler κ} {data : FragmentData}

lemma receiveData_error {e : AssemblerError} (hadd : pa.addData cfg data = .ok (pa', .error e)) :
    pa.receiveData cfg data = .ok (pa', .badData) := by
  rw [receiveData, hadd]
  rfl

lemma exists_receiveData {packet : Option (List UInt8)}
    (hadd : pa.addData cfg data = .ok (pa', .ok ()))
    (hassemble : pa'.assemble = .ok (slot, packet)) :
    ∃ r, pa.receiveData cfg data = .ok (slot, r) ∧ r.packet = packet := by
  have hfinish : pa.receiveData cfg data = pa'.finish := by
    rw [receiveData, hadd]
    rfl
  rw [hfinish, finish, hassemble]
  cases packet with
  | none => exact ⟨.incomplete, rfl, rfl⟩
  | some packet => exact ⟨.complete packet, rfl, rfl⟩

lemma receive_of_setTotalSize {key : κ} {size : ℕ} (hset : pa.setTotalSize cfg size = .ok pa') :
    pa.receive cfg ⟨key, some size, data⟩ = pa'.receiveData cfg data := by
  simp only [receive, hset]

end PacketAssembler

/-! ### Fragments -/

section Slot

variable {cfg : ReassemblyConfig} {addressContext : List AddressContext}
  {ieee802154Repr : Ieee802154Repr} {frag payload : List UInt8} {totalSize : ℕ}
  {fragSlot slot : PacketAssembler FragKey}

/-- The closure of a first fragment, where it does not panic. -/
lemma exists_decompressor {r : PacketAssembler FragKey × Except AssemblerError Unit}
    (htotal : ipv6HeaderLen ≤ totalSize) (hsize : totalSize ≤ fragSlot.buffer.length)
    (h : fragSlot.addWithClosure 0 (decompressFirst addressContext ieee802154Repr payload
      totalSize) = .ok r) :
    ∃ f : Decompressor, fragSlot.addWith 0 f = .ok r := by
  have hrule := @sixlowpanToIpv6_rule (some totalSize) fragSlot.buffer addressContext
    ieee802154Repr payload (htotal.trans hsize) (by
      rintro n ⟨⟩
      exact htotal)
  cases hout : sixlowpanToIpv6 addressContext ieee802154Repr payload (some totalSize)
    fragSlot.buffer with
  | error p =>
    unfold PacketAssembler.addWithClosure decompressFirst at h
    rw [if_neg (Nat.not_lt_zero _), List.drop_zero, hout] at h
    cases h
  | ok out =>
    obtain ⟨octets, result⟩ := out
    rw [hout] at hrule
    cases hrule with
    | done hno hlength hlen =>
      have hle : ∀ len, result.mapError (fun _ => AssemblerError.mk) = .ok len →
          len ≤ octets.length := by
        intro len hok
        cases result with
        | error e => cases hok
        | ok n =>
          cases hok
          exact (hlen len rfl).trans hlength.ge
      refine ⟨.leaving octets _ hle, ?_⟩
      rw [← h]
      refine (PacketAssembler.addWithClosure_eq_addWith (Nat.zero_le _) ?_ hlength hle).symm
      rw [List.drop_zero, decompressFirst, hout]
      rfl

/-- What `check` comes to, where it does not panic. -/
lemma check_eq_ok {σ α β : Type} {s : σ} {x : Outcome α} {k : α → Checked (σ × Option β)}
    {r : σ × Option β} (h : check s x k = .ok r) :
    r = (s, none) ∨ ∃ a, x = .ok a ∧ k a = .ok r := by
  match x, h with
  | .ok a, h => exact .inr ⟨a, rfl, h⟩
  | .error .malformed, h =>
    cases h
    exact .inl rfl

/-- What a first fragment does in its slot. -/
lemma SixlowpanFragPacket.First.exists_fragment {packet : Option (List UInt8)}
    (hfirst : SixlowpanFragPacket.First frag) (key : FragKey) (offset : ℕ)
    (htotal : ipv6HeaderLen ≤ totalSize)
    (h : processInSlot cfg addressContext ieee802154Repr frag totalSize offset fragSlot =
      .ok (slot, packet)) :
    ∃ data r, fragSlot.receive cfg ⟨key, some totalSize, data⟩ = .ok (slot, r) ∧
      r.packet = packet := by
  unfold processInSlot at h
  rw [hfirst.isFirstFragment, hfirst.payload] at h
  simp only [check, if_pos] at h
  cases hset : fragSlot.setTotalSize cfg totalSize with
  | error e =>
    rw [hset] at h
    cases h
    exact ⟨.octets [] 0, .badTotalSize, by simp only [PacketAssembler.receive, hset], rfl⟩
  | ok pa =>
    rw [hset] at h
    obtain ⟨⟨pa', result⟩, hadd, h⟩ := Checked.bind_eq_ok.mp h
    obtain ⟨f, hf⟩ := exists_decompressor htotal (PacketAssembler.fits_setTotalSize hset).2 hadd
    have hdata : pa.addData cfg (.compressed f) = .ok (pa', result) := hf
    refine ⟨.compressed f, ?_⟩
    rw [PacketAssembler.receive_of_setTotalSize hset]
    cases result with
    | error e =>
      cases h
      exact ⟨.badData, PacketAssembler.receiveData_error hdata, rfl⟩
    | ok u => exact PacketAssembler.exists_receiveData hdata h

/-- What any other fragment does. -/
lemma SixlowpanFragPacket.Next.exists_fragment {packet : Option (List UInt8)}
    (hnext : SixlowpanFragPacket.Next frag) (key : FragKey) (offset : ℕ)
    (h : processInSlot cfg addressContext ieee802154Repr frag totalSize offset fragSlot =
      .ok (slot, packet)) :
    ∃ r, fragSlot.receive cfg ⟨key, none, .octets (frag.drop 5) offset⟩ = .ok (slot, r) ∧
      r.packet = packet := by
  unfold processInSlot at h
  rw [hnext.isFirstFragment, hnext.payload] at h
  simp only [check, Bool.false_eq_true, if_false] at h
  change ∃ r, fragSlot.receiveData cfg (.octets (frag.drop 5) offset) = .ok (slot, r) ∧
    r.packet = packet
  cases hadd : fragSlot.add cfg (frag.drop 5) offset with
  | error e =>
    rw [hadd] at h
    cases h
    have hdata : fragSlot.addData cfg (.octets (frag.drop 5) offset) =
        .ok (fragSlot, .error e) := by
      simp only [PacketAssembler.addData, hadd]
    exact ⟨.badData, PacketAssembler.receiveData_error hdata, rfl⟩
  | ok pa =>
    rw [hadd] at h
    have hdata : fragSlot.addData cfg (.octets (frag.drop 5) offset) = .ok (pa, .ok ()) := by
      simp only [PacketAssembler.addData, hadd]
    exact PacketAssembler.exists_receiveData hdata h

/-- What a frame does in its slot, a fragment does. -/
lemma exists_fragment {packet : Option (List UInt8)} (key : FragKey) (offset : ℕ)
    (hfrag : SixlowpanFragPacket.First frag ∨ SixlowpanFragPacket.Next frag)
    (htotal : ipv6HeaderLen ≤ totalSize)
    (h : processInSlot cfg addressContext ieee802154Repr frag totalSize offset fragSlot =
      .ok (slot, packet)) :
    ∃ (f : Fragment FragKey) (r : Received), f.key = key ∧
      fragSlot.receive cfg f = .ok (slot, r) ∧ r.packet = packet := by
  rcases hfrag with hfirst | hnext
  · obtain ⟨data, r, hreceive, hpacket⟩ := hfirst.exists_fragment key offset htotal h
    exact ⟨_, r, rfl, hreceive, hpacket⟩
  · obtain ⟨r, hreceive, hpacket⟩ := hnext.exists_fragment key offset h
    exact ⟨_, r, rfl, hreceive, hpacket⟩

end Slot

/-! ### Runs -/

namespace Tracked

variable {κ : Type} [DecidableEq κ] {cfg : ReassemblyConfig} {set set' : PacketAssemblerSet κ}

/-- Slots that a run of fragments and expiries leads to. -/
def Reaches (cfg : ReassemblyConfig) (set : PacketAssemblerSet κ) : Prop :=
  ∃ (events : List (ReassemblyEvent κ)) (t : Tracked κ) (outcomes : List (Option Received)),
    Machine.run (step cfg) (new cfg) events = .ok (t, outcomes) ∧ t.set = set

lemma Reaches.receive (h : Reaches cfg set) {expiresAt : Instant} {frag : Fragment κ} {r : Received}
    (hreceive : set.receive cfg expiresAt frag = .ok (set', r)) : Reaches cfg set' := by
  obtain ⟨events, t, outcomes, hrun, rfl⟩ := h
  have hstep : t.step cfg (.fragment expiresAt frag) = .ok (⟨set', Function.update t.log frag.key
      (r.extend (t.since frag.key) frag.data)⟩, some r) := by
    rw [step, hreceive]
    rfl
  exact ⟨_, _, _, Machine.run_concat hrun hstep, rfl⟩

lemma Reaches.removeExpired (h : Reaches cfg set) (timestamp : Instant) :
    Reaches cfg (set.removeExpired timestamp) := by
  obtain ⟨events, t, outcomes, hrun, rfl⟩ := h
  exact ⟨events ++ [.removeExpired timestamp], _, _, Machine.run_concat hrun rfl, rfl⟩

end Tracked

/-! ### Frames -/

namespace FragmentsBuffer

variable {cfg : ReassemblyConfig} {f f' : FragmentsBuffer} {addressContext : List AddressContext}
  {now : Instant} {ieee802154Repr : Ieee802154Repr} {payload : List UInt8}

/-- What a frame does to the slots: nothing, or what one fragment with its key does. -/
inductive SlotRule (cfg : ReassemblyConfig) (ieee802154Repr : Ieee802154Repr) (payload : List UInt8)
    (f f' : FragmentsBuffer) (packet : Option (List UInt8)) : Prop where
  | kept (h : f'.assembler = f.assembler) (hpacket : packet = none)
  | received {expiresAt : Instant} {key : SixlowpanFragKey} {frag : Fragment FragKey} {r : Received}
      (hkey : SixlowpanFragPacket.getKey payload ieee802154Repr = .ok key)
      (hfrag : frag.key = .sixlowpan key)
      (h : f.assembler.receive cfg expiresAt frag = .ok (f'.assembler, r))
      (hpacket : r.packet = packet)

lemma processSixlowpanFragment_slots {packet : Option (List UInt8)}
    (hprocess : processSixlowpanFragment cfg addressContext now ieee802154Repr payload f =
      .ok (f', packet)) : SlotRule cfg ieee802154Repr payload f f' packet := by
  unfold processSixlowpanFragment at hprocess
  obtain hr | ⟨_, hcheck, hprocess⟩ := check_eq_ok hprocess
  · cases hr
    exact .kept rfl rfl
  have hfrag := (Safe.iff.mp (SixlowpanFragPacket.newChecked_safe payload)).2 _ hcheck
  obtain hr | ⟨datagramSize, -, hprocess⟩ := check_eq_ok hprocess
  · cases hr
    exact .kept rfl rfl
  split_ifs at hprocess with hlt
  · cases hprocess
    exact .kept rfl rfl
  obtain hr | ⟨key, hgetKey, hprocess⟩ := check_eq_ok hprocess
  · cases hr
    exact .kept rfl rfl
  obtain hr | ⟨datagramOffset, -, hprocess⟩ := check_eq_ok hprocess
  · cases hr
    exact .kept rfl rfl
  cases hget : f.assembler.get (.sixlowpan key) (now.add f.reassemblyTimeout) with
  | error e =>
    rw [hget] at hprocess
    cases hprocess
    exact .kept rfl rfl
  | ok found =>
    obtain ⟨assembler, i⟩ := found
    rw [hget] at hprocess
    obtain ⟨fragSlot, hslot, hprocess⟩ := Checked.bind_eq_ok.mp hprocess
    obtain ⟨⟨slot, packet'⟩, hin, hprocess⟩ := Checked.bind_eq_ok.mp hprocess
    cases hprocess
    have htotal : ipv6HeaderLen ≤ datagramSize.toNat := by
      rw [UInt16.lt_iff_toNat_lt] at hlt
      exact not_lt.mp hlt
    obtain ⟨frag, r, hkey, hreceive, hpacket⟩ :=
      exists_fragment (.sixlowpan key) _ hfrag htotal hin
    have hset : f.assembler.receive cfg (now.add f.reassemblyTimeout) frag =
        .ok (assembler.set i slot, r) := by
      rw [PacketAssemblerSet.receive, hkey, hget]
      dsimp only
      rw [hslot, Checked.ok_bind, hreceive]
      rfl
    exact .received hgetKey hkey hset hpacket

lemma processSixlowpan_slots {packet : Option (List UInt8)}
    (hprocess : processSixlowpan cfg addressContext now ieee802154Repr payload f =
      .ok (f', packet)) : ∃ packet, SlotRule cfg ieee802154Repr payload f f' packet := by
  unfold processSixlowpan at hprocess
  obtain hr | ⟨dispatch, -, hprocess⟩ := check_eq_ok hprocess
  · cases hr
    exact ⟨none, .kept rfl rfl⟩
  cases dispatch with
  | fragmentHeader =>
    obtain ⟨⟨g, packet'⟩, hfragment, hprocess⟩ := Checked.bind_eq_ok.mp hprocess
    have hrule := processSixlowpanFragment_slots hfragment
    cases packet' with
    | none =>
      cases hprocess
      exact ⟨_, hrule⟩
    | some packet' =>
      obtain hr | ⟨_, -, hr⟩ := check_eq_ok hprocess
      · cases hr
        exact ⟨_, hrule⟩
      · cases hr
        exact ⟨_, hrule⟩
  | iphcHeader =>
    obtain ⟨⟨decompressBuf, result⟩, -, hprocess⟩ := Checked.bind_eq_ok.mp hprocess
    cases result with
    | error e =>
      cases hprocess
      exact ⟨none, .kept rfl rfl⟩
    | ok len =>
      obtain ⟨packet', -, hprocess⟩ := Checked.bind_eq_ok.mp hprocess
      obtain hr | ⟨_, -, hr⟩ := check_eq_ok hprocess
      · cases hr
        exact ⟨none, .kept rfl rfl⟩
      · cases hr
        exact ⟨none, .kept rfl rfl⟩

/-- The slots of an interface are those of a run of fragments and expiries, whatever frames came. -/
theorem Reachable.reaches (h : Reachable cfg f) : Tracked.Reaches cfg f.assembler := by
  induction h with
  | refl => exact ⟨[], _, _, rfl, rfl⟩
  | tail event _ _ hstep ih =>
    cases event with
    | sixlowpan addressContext now ieee802154Repr payload =>
      obtain ⟨⟨g, packet⟩, hprocess, hstep⟩ := Checked.bind_eq_ok.mp hstep
      cases hstep
      obtain ⟨_, ⟨hkept, -⟩ | ⟨-, -, hreceived, -⟩⟩ := processSixlowpan_slots hprocess
      · exact hkept ▸ ih
      · exact ih.receive hreceived
    | ipv4 expiresAt key totalSize data offset =>
      obtain ⟨⟨assembler, r⟩, hreceive, hstep⟩ := Checked.bind_eq_ok.mp hstep
      cases hstep
      exact ih.receive hreceive
    | removeExpired timestamp =>
      cases hstep
      exact ih.removeExpired timestamp
    | setReassemblyTimeout timeout =>
      cases hstep
      exact ih

end FragmentsBuffer

end Smoltcp
