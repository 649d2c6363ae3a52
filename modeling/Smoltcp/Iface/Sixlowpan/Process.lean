import Smoltcp.Wire.Ipv4
import Smoltcp.Lib.Transition
import Smoltcp.Iface.Reassembly
import Smoltcp.Iface.Sixlowpan.Decompress

/-!
# Processing 6LoWPAN frames

A frame holds a compressed packet or a fragment of one. Either is decompressed into a buffer of the
interface, and what is decompressed is handed on as an IPv6 packet.
-/

namespace Smoltcp

open Outcome Sixlowpan

/-- The key of a packet that is being reassembled. -/
inductive FragKey where
  | ipv4 (key : Ipv4.Key)
  | sixlowpan (key : SixlowpanFragKey)
  deriving DecidableEq

def maxDecompressedLen : ℕ := 1500

structure FragmentsBuffer where
  decompressBuf : List UInt8
  assembler : PacketAssemblerSet FragKey
  reassemblyTimeout : Duration

def FragmentsBuffer.new (cfg : ReassemblyConfig) : FragmentsBuffer where
  decompressBuf := List.replicate maxDecompressedLen 0
  assembler := .new cfg
  reassemblyTimeout := .fromSecs 60

/-- `check!`, beside a state: an error is logged, and the frame is dropped. -/
def check {σ α β : Type} (s : σ) (x : Outcome α) (k : α → Checked (σ × Option β)) :
    Checked (σ × Option β) :=
  match x with
  | .ok a => k a
  | .error .malformed => .ok (s, none)
  | .error (.panic p) => .error p

/-- `add_with` for a closure that may panic: what it leaves in the slice, and what it returns. -/
def PacketAssembler.addWithClosure {κ : Type} (pa : PacketAssembler κ) (offset : ℕ)
    (f : List UInt8 → Checked (List UInt8 × Except AssemblerError ℕ)) :
    Checked (PacketAssembler κ × Except AssemblerError Unit) :=
  if pa.buffer.length < offset then .ok (pa, .error .mk)
  else do
    let (octets, result) ← f (pa.buffer.drop offset)
    let pa := { pa with buffer := pa.buffer.take offset ++ octets }
    match result with
    | .error e => return (pa, .error e)
    | .ok len =>
      Checked.assert (offset + len ≤ pa.buffer.length)
      return (pa.record offset len, .ok ())

section Process

variable (cfg : ReassemblyConfig) (addressContext : List AddressContext)

/-- The closure that decompresses the first fragment of a packet of `totalSize` octets. -/
def decompressFirst (ieee802154Repr : Ieee802154Repr) (payload : List UInt8) (totalSize : ℕ)
    (buffer : List UInt8) : Checked (List UInt8 × Except AssemblerError ℕ) := do
  let (buffer, result) ←
    sixlowpanToIpv6 addressContext ieee802154Repr payload (some totalSize) buffer
  return (buffer, result.mapError fun _ => .mk)

/-- What a fragment does in its slot. -/
def processInSlot (ieee802154Repr : Ieee802154Repr) (frag : List UInt8) (totalSize offset : ℕ)
    (fragSlot : PacketAssembler FragKey) :
    Checked (PacketAssembler FragKey × Option (List UInt8)) :=
  check fragSlot (SixlowpanFragPacket.isFirstFragment frag) fun isFirstFragment =>
  if isFirstFragment then
    match fragSlot.setTotalSize cfg totalSize with
    | .error _ => .ok (fragSlot, none)
    | .ok fragSlot =>
      check fragSlot (SixlowpanFragPacket.payload frag) fun payload => do
        let (fragSlot, result) ← fragSlot.addWithClosure 0
          (decompressFirst addressContext ieee802154Repr payload totalSize)
        match result with
        | .error _ => return (fragSlot, none)
        | .ok () => fragSlot.assemble
  else
    check fragSlot (SixlowpanFragPacket.payload frag) fun payload =>
    match fragSlot.add cfg payload offset with
    | .error _ => .ok (fragSlot, none)
    | .ok fragSlot => fragSlot.assemble

def processSixlowpanFragment (now : Instant) (ieee802154Repr : Ieee802154Repr)
    (payload : List UInt8) (f : FragmentsBuffer) :
    Checked (FragmentsBuffer × Option (List UInt8)) :=
  check f (SixlowpanFragPacket.newChecked payload) fun _ =>
  check f (SixlowpanFragPacket.datagramSize payload) fun datagramSize =>
  -- The decompressed packet is assumed to be at least 40 octets long.
  if datagramSize < 40 then .ok (f, none)
  else
    check f (SixlowpanFragPacket.getKey payload ieee802154Repr) fun key =>
    check f (SixlowpanFragPacket.datagramOffset payload) fun datagramOffset =>
    match f.assembler.get (.sixlowpan key) (now.add f.reassemblyTimeout) with
    | .error _ => .ok (f, none)
    | .ok (assembler, i) => do
      let fragSlot ← Checked.index assembler i
      let (fragSlot, packet) ← processInSlot cfg addressContext ieee802154Repr payload
        datagramSize.toNat (datagramOffset.toNat * 8) fragSlot
      return ({ f with assembler := assembler.set i fragSlot }, packet)

/-- The part of `process_sixlowpan` before `process_ipv6`: returned is the IPv6 packet that the
latter is given, if any. -/
def processSixlowpan (now : Instant) (ieee802154Repr : Ieee802154Repr) (payload : List UInt8)
    (f : FragmentsBuffer) : Checked (FragmentsBuffer × Option (List UInt8)) :=
  check f (Sixlowpan.Packet.dispatch payload) fun
  | .fragmentHeader => do
    let (f, packet) ← processSixlowpanFragment cfg addressContext now ieee802154Repr payload f
    match packet with
    | none => return (f, none)
    | some payload => check f (Ipv6Packet.checkLen payload) fun _ => .ok (f, some payload)
  | .iphcHeader => do
    let (decompressBuf, result) ←
      sixlowpanToIpv6 addressContext ieee802154Repr payload none f.decompressBuf
    let f := { f with decompressBuf }
    match result with
    | .error _ => return (f, none)
    | .ok len =>
      let payload ← Checked.slice f.decompressBuf 0 len
      check f (Ipv6Packet.checkLen payload) fun _ => .ok (f, some payload)

end Process

/-- What happens to the buffers of an interface. -/
inductive FragmentsEvent where
  | sixlowpan (addressContext : List AddressContext) (now : Instant)
      (ieee802154Repr : Ieee802154Repr) (payload : List UInt8)
  | ipv4 (expiresAt : Instant) (key : Ipv4.Key) (totalSize : Option ℕ) (data : List UInt8)
      (offset : ℕ)
  | removeExpired (timestamp : Instant)
  | setReassemblyTimeout (timeout : Duration)

namespace FragmentsBuffer

def step (cfg : ReassemblyConfig) (f : FragmentsBuffer) :
    FragmentsEvent → Checked FragmentsBuffer
  | .sixlowpan addressContext now ieee802154Repr payload => do
    return (← processSixlowpan cfg addressContext now ieee802154Repr payload f).1
  | .ipv4 expiresAt key totalSize data offset => do
    let frag : Fragment FragKey := ⟨.ipv4 key, totalSize, .octets data offset⟩
    let (assembler, _) ← f.assembler.receive cfg expiresAt frag
    return { f with assembler }
  | .removeExpired timestamp => .ok { f with assembler := f.assembler.removeExpired timestamp }
  | .setReassemblyTimeout timeout => .ok { f with reassemblyTimeout := timeout }

/-- The buffers of an interface, after any frames that did not panic. -/
def Reachable (cfg : ReassemblyConfig) (f : FragmentsBuffer) : Prop :=
  Transition.Run (fun f event f' => step cfg f event = .ok f') (fun _ _ => True) (new cfg) f

end FragmentsBuffer

/-! ### Slots -/

namespace Checked

variable {α β : Type}

/-- A function panics exactly where `harm` holds, and otherwise `post` holds of its value. -/
inductive Exactly (harm : Prop) (post : α → Prop) : Checked α → Prop where
  | panic (p : Panic) (h : harm) : Exactly harm post (.error p)
  | ok {a : α} (h : ¬ harm) (ha : post a) : Exactly harm post (.ok a)

namespace Exactly

variable {harm harm' : Prop} {post : α → Prop} {x : Checked α}

lemma iff (h : Exactly harm post x) : (∃ a, x = .ok a) ↔ ¬ harm := by
  cases h with
  | panic p h => exact ⟨nofun, fun hnot => absurd h hnot⟩
  | ok h ha => exact ⟨fun _ => h, fun _ => ⟨_, rfl⟩⟩

lemma congr (h : Exactly harm post x) (hiff : harm ↔ harm') : Exactly harm' post x := by
  cases h with
  | panic p h => exact .panic p (hiff.mp h)
  | ok h ha => exact .ok (fun h' => h (hiff.mpr h')) ha

lemma of_ok {a : α} (h : Exactly harm post x) (hx : x = .ok a) : post a := by
  cases h with
  | panic p h => cases hx
  | ok h ha =>
    cases hx
    exact ha

lemma bind {f : α → Checked β} {post' : β → Prop} (h : Exactly harm post x)
    (hf : ∀ a, ¬ harm → post a → Exactly harm post' (f a)) : Exactly harm post' (x >>= f) := by
  cases h with
  | panic p h => exact .panic p h
  | ok h ha => exact hf _ h ha

end Exactly

end Checked

open Checked in
/-- An error does no harm, and what follows does harm exactly where the whole does. -/
lemma check_exactly {σ α β : Type} {s : σ} {x : Outcome α} {k : α → Checked (σ × Option β)}
    {harm : Prop} {post : σ × Option β → Prop} {mid : α → Prop} (hx : Safe x mid)
    (hdrop : x = fail → ¬ harm ∧ post (s, none))
    (hk : ∀ a, x = .ok a → mid a → Exactly harm post (k a)) : Exactly harm post (check s x k) := by
  match x, hx, hdrop, hk with
  | .ok a, hx, _, hk => exact hk a rfl hx
  | .error .malformed, _, hdrop, _ => exact .ok (hdrop rfl).1 (hdrop rfl).2

namespace PacketAssembler

variable {κ : Type} {cfg : ReassemblyConfig} {pa pa' : PacketAssembler κ}

/-- The packet fits into the buffer. -/
def Fits (pa : PacketAssembler κ) : Prop := ∀ n, pa.totalSize = some n → n ≤ pa.buffer.length

lemma fits_reset (pa : PacketAssembler κ) : pa.reset.Fits := nofun

lemma Fits.record (h : pa.Fits) (offset len : ℕ) : (pa.record offset len).Fits := by
  intro n hn
  rw [totalSize_record] at hn
  rw [buffer_record]
  exact h n hn

lemma fits_setTotalSize {size : ℕ} (h : pa.setTotalSize cfg size = .ok pa') :
    pa'.Fits ∧ size ≤ pa'.buffer.length := by
  unfold setTotalSize at h
  split_ifs at h
  cases hr : pa.resize cfg size with
  | error e =>
    rw [hr] at h
    cases h
  | ok pa₁ =>
    rw [hr] at h
    cases h
    have hlen := (resize_grows hr).length
    refine ⟨?_, hlen⟩
    rintro n ⟨⟩
    exact hlen

lemma Fits.add {data : List UInt8} {offset : ℕ} (hfits : pa.Fits)
    (h : pa.add cfg data offset = .ok pa') : pa'.Fits := by
  unfold PacketAssembler.add at h
  cases hr : pa.resize cfg (offset + data.length) with
  | error e =>
    rw [hr] at h
    cases h
  | ok pa₁ =>
    rw [hr] at h
    cases h
    have hgrows := resize_grows hr
    refine Fits.record ?_ _ _
    intro n hn
    have hle := hfits n (hgrows.totalSize.symm.trans hn)
    rw [List.length_overwrite hgrows.length]
    exact hle.trans hgrows.buffer.length_le

/-- A slot that fits hands out its packet without panic. -/
lemma Fits.assemble (h : pa.Fits) : ∃ pa' packet, pa.assemble = .ok (pa', packet) ∧ pa'.Fits := by
  unfold PacketAssembler.assemble
  by_cases hc : pa.isComplete
  · have htotal : pa.totalSize = some pa.assembler.peekFront := hc
    have hslice := Checked.slice_of (l := pa.reset.buffer) (Nat.zero_le _) (h _ htotal)
    rw [if_pos hc, htotal, Checked.unwrap, Checked.ok_bind]
    dsimp only
    rw [hslice]
    exact ⟨_, _, rfl, fits_reset pa⟩
  · exact ⟨pa, none, if_neg hc, h⟩

lemma Fits.receiveData {data : List UInt8} {offset : ℕ} {r : Received} (hfits : pa.Fits)
    (h : pa.receiveData cfg (.octets data offset) = .ok (pa', r)) : pa'.Fits := by
  unfold PacketAssembler.receiveData addData at h
  dsimp only at h
  cases hadd : pa.add cfg data offset with
  | error e =>
    rw [hadd] at h
    cases h
    exact hfits
  | ok slot =>
    rw [hadd] at h
    obtain ⟨packet, hassemble, h⟩ := Checked.bind_eq_ok.mp (show slot.finish = .ok (pa', r) from h)
    obtain ⟨slot', packet', hassemble', hfits'⟩ := (hfits.add hadd).assemble
    rw [hassemble'] at hassemble
    cases hassemble
    cases packet' with
    | none =>
      cases h
      exact hfits'
    | some payload =>
      cases h
      exact hfits'

lemma Fits.receive {frag : Fragment κ} {data : List UInt8} {offset : ℕ} {r : Received}
    (hfits : pa.Fits) (hdata : frag.data = .octets data offset)
    (h : pa.receive cfg frag = .ok (pa', r)) : pa'.Fits := by
  unfold PacketAssembler.receive at h
  rw [hdata] at h
  cases htotal : frag.totalSize with
  | none =>
    rw [htotal] at h
    exact hfits.receiveData h
  | some size =>
    rw [htotal] at h
    dsimp only at h
    cases hset : pa.setTotalSize cfg size with
    | error e =>
      rw [hset] at h
      cases h
      exact hfits
    | ok slot =>
      rw [hset] at h
      exact (fits_setTotalSize hset).1.receiveData h

end PacketAssembler

section Slot

variable {cfg : ReassemblyConfig} {addressContext : List AddressContext}
  {ieee802154Repr : Ieee802154Repr} {frag payload : List UInt8} {totalSize : ℕ}
  {fragSlot : PacketAssembler FragKey}

/-- The first fragment of a packet that cannot be decompressed into its slot. -/
def FirstOverruns (cfg : ReassemblyConfig) (addressContext : List AddressContext)
    (ieee802154Repr : Ieee802154Repr) (frag : List UInt8) (totalSize : ℕ)
    (fragSlot : PacketAssembler FragKey) : Prop :=
  ∃ payload slot, SixlowpanFragPacket.isFirstFragment frag = .ok true ∧
    SixlowpanFragPacket.payload frag = .ok payload ∧
    fragSlot.setTotalSize cfg totalSize = .ok slot ∧
    PacketOverruns addressContext ieee802154Repr payload (some totalSize)
      (slot.buffer.length - ipv6HeaderLen)

open Checked in
lemma addWithClosure_exactly (hfits : fragSlot.Fits) (htotal : ipv6HeaderLen ≤ totalSize)
    (hsize : totalSize ≤ fragSlot.buffer.length) :
    Exactly
      (PacketOverruns addressContext ieee802154Repr payload (some totalSize)
        (fragSlot.buffer.length - ipv6HeaderLen))
      (fun r => r.1.Fits)
      (fragSlot.addWithClosure 0
        (decompressFirst addressContext ieee802154Repr payload totalSize)) := by
  have hrule := @sixlowpanToIpv6_rule (some totalSize) fragSlot.buffer addressContext
    ieee802154Repr payload (htotal.trans hsize) (by
      rintro n ⟨⟩
      exact htotal)
  unfold PacketAssembler.addWithClosure decompressFirst
  rw [if_neg (Nat.not_lt_zero _), List.drop_zero]
  generalize sixlowpanToIpv6 addressContext ieee802154Repr payload (some totalSize)
    fragSlot.buffer = x at hrule
  cases hrule with
  | overrun p h => exact .panic p h
  | @done out result h hout hlen =>
    have hfits' : ({ fragSlot with buffer := out } : PacketAssembler FragKey).Fits := by
      intro n hn
      exact (hfits n hn).trans hout.ge
    cases result with
    | error e => exact .ok h hfits'
    | ok len =>
      have hle := hlen len rfl
      change Exactly _ _ (Checked.assert (0 + len ≤ out.length) >>= fun _ =>
        Except.ok ((({ fragSlot with buffer := out } : PacketAssembler FragKey).record 0 len),
          (.ok () : Except AssemblerError Unit)))
      rw [Checked.assert_of (by omega), Checked.ok_bind]
      exact .ok h (hfits'.record _ _)

/-- In its slot, a fragment panics exactly if it is a first one that cannot be decompressed. -/
lemma processInSlot_exactly (offset : ℕ)
    (hfrag : SixlowpanFragPacket.First frag ∨ SixlowpanFragPacket.Next frag)
    (hfits : fragSlot.Fits) (htotal : ipv6HeaderLen ≤ totalSize) :
    Checked.Exactly (FirstOverruns cfg addressContext ieee802154Repr frag totalSize fragSlot)
      (fun r => r.1.Fits)
      (processInSlot cfg addressContext ieee802154Repr frag totalSize offset fragSlot) := by
  unfold processInSlot
  rcases hfrag with hfirst | hnext
  · rw [hfirst.isFirstFragment, hfirst.payload]
    simp only [check, if_pos]
    cases hset : fragSlot.setTotalSize cfg totalSize with
    | error e =>
      refine .ok ?_ hfits
      rintro ⟨_, _, -, -, hset', -⟩
      exact nomatch hset.symm.trans hset'
    | ok slot =>
      obtain ⟨hfits', hsize⟩ := PacketAssembler.fits_setTotalSize hset
      have hiff : PacketOverruns addressContext ieee802154Repr (frag.drop 4) (some totalSize)
          (slot.buffer.length - ipv6HeaderLen) ↔
          FirstOverruns cfg addressContext ieee802154Repr frag totalSize fragSlot := by
        constructor
        · exact fun h => ⟨_, _, hfirst.isFirstFragment, hfirst.payload, hset, h⟩
        · rintro ⟨_, _, -, hpayload, hset', h⟩
          rw [hfirst.payload] at hpayload
          rw [hset] at hset'
          cases hpayload
          cases hset'
          exact h
      refine ((addWithClosure_exactly hfits' htotal hsize).congr hiff).bind ?_
      rintro ⟨slot', result⟩ hharm hfits''
      cases result with
      | error e => exact .ok hharm hfits''
      | ok u =>
        obtain ⟨pa, packet, hassemble, hpa⟩ := PacketAssembler.Fits.assemble hfits''
        exact hassemble ▸ .ok hharm hpa
  · have hharm : ¬ FirstOverruns cfg addressContext ieee802154Repr frag totalSize fragSlot := by
      rintro ⟨_, _, hfirst, -⟩
      exact nomatch hnext.isFirstFragment.symm.trans hfirst
    rw [hnext.isFirstFragment, hnext.payload]
    simp only [check, Bool.false_eq_true, if_false]
    cases hadd : fragSlot.add cfg (frag.drop 5) offset with
    | error e => exact .ok hharm hfits
    | ok slot =>
      obtain ⟨pa, packet, hassemble, hpa⟩ := (hfits.add hadd).assemble
      dsimp only
      rw [hassemble]
      exact .ok hharm hpa

end Slot

/-! ### Frames -/

namespace FragmentsBuffer

variable {cfg : ReassemblyConfig} {f : FragmentsBuffer}

/-- The buffers have their sizes. -/
structure Valid (f : FragmentsBuffer) : Prop where
  decompressBuf : f.decompressBuf.length = maxDecompressedLen
  fits : ∀ slot ∈ f.assembler, slot.Fits

lemma valid_new (cfg : ReassemblyConfig) : Valid (new cfg) := by
  refine ⟨List.length_replicate, ?_⟩
  intro slot hslot
  rw [List.eq_of_mem_replicate hslot]
  exact nofun

/-- A slot that fits in place of another one. -/
lemma Valid.set (h : Valid f) {i : ℕ} {slot : PacketAssembler FragKey} (hfits : slot.Fits) :
    Valid { f with assembler := f.assembler.set i slot } := by
  refine ⟨h.decompressBuf, ?_⟩
  intro slot' hslot'
  rcases List.mem_or_eq_of_mem_set hslot' with hmem | rfl
  · exact h.fits slot' hmem
  · exact hfits

lemma Valid.get (h : Valid f) {key : FragKey} {expiresAt : Instant}
    {assembler : PacketAssemblerSet FragKey} {i : ℕ}
    (hget : f.assembler.get key expiresAt = .ok (assembler, i)) :
    Valid { f with assembler } ∧ ∃ slot, assembler[i]? = some slot := by
  have hrule := PacketAssemblerSet.get_rule f.assembler key expiresAt
  rw [hget] at hrule
  cases hrule with
  | found hslot hkey => exact ⟨h, _, hslot⟩
  | @created _ slot hslot hfree hnone =>
    have hfits : ({ slot with key := some key, expiresAt } : PacketAssembler FragKey).Fits :=
      h.fits slot (List.mem_of_getElem? hslot)
    exact ⟨h.set hfits, _, List.getElem?_set_self (List.getElem?_eq_some_iff.mp hslot).1⟩

section

variable (cfg : ReassemblyConfig) (addressContext : List AddressContext) (now : Instant)
  (ieee802154Repr : Ieee802154Repr)

/-- A frame that panics: a packet whose headers run over, a fragment in a frame without one of the
addresses, or a first fragment whose headers run over in the slot that it is given. -/
inductive Harmful (f : FragmentsBuffer) (payload : List UInt8) : Prop where
  | packet (hdispatch : Sixlowpan.Packet.dispatch payload = .ok .iphcHeader)
      (h : PacketOverruns addressContext ieee802154Repr payload none
        (maxDecompressedLen - ipv6HeaderLen))
  | address {datagramSize : UInt16}
      (hdispatch : Sixlowpan.Packet.dispatch payload = .ok .fragmentHeader)
      (hcheck : SixlowpanFragPacket.newChecked payload = .ok ())
      (hsize : SixlowpanFragPacket.datagramSize payload = .ok datagramSize)
      (hle : ¬ datagramSize < 40)
      (h : ieee802154Repr.srcAddr = none ∨ ieee802154Repr.dstAddr = none)
  | fragment {datagramSize : UInt16} {key : SixlowpanFragKey}
      {assembler : PacketAssemblerSet FragKey} {i : ℕ} {fragSlot : PacketAssembler FragKey}
      (hdispatch : Sixlowpan.Packet.dispatch payload = .ok .fragmentHeader)
      (hcheck : SixlowpanFragPacket.newChecked payload = .ok ())
      (hsize : SixlowpanFragPacket.datagramSize payload = .ok datagramSize)
      (hle : ¬ datagramSize < 40)
      (hkey : SixlowpanFragPacket.getKey payload ieee802154Repr = .ok key)
      (hget : f.assembler.get (.sixlowpan key) (now.add f.reassemblyTimeout) = .ok (assembler, i))
      (hslot : assembler[i]? = some fragSlot)
      (h : FirstOverruns cfg addressContext ieee802154Repr payload datagramSize.toNat fragSlot)

end

variable {addressContext : List AddressContext} {now : Instant} {ieee802154Repr : Ieee802154Repr}
  {payload : List UInt8}

/-- A fragment is harmful for its addresses or in its slot. -/
lemma harmful_fragment_iff (hdispatch : Sixlowpan.Packet.dispatch payload = .ok .fragmentHeader) :
    Harmful cfg addressContext now ieee802154Repr f payload ↔
      ∃ datagramSize, SixlowpanFragPacket.newChecked payload = .ok () ∧
        SixlowpanFragPacket.datagramSize payload = .ok datagramSize ∧ ¬ datagramSize < 40 ∧
        ((ieee802154Repr.srcAddr = none ∨ ieee802154Repr.dstAddr = none) ∨
          ∃ key assembler i fragSlot,
            SixlowpanFragPacket.getKey payload ieee802154Repr = .ok key ∧
            f.assembler.get (.sixlowpan key) (now.add f.reassemblyTimeout) = .ok (assembler, i) ∧
            assembler[i]? = some fragSlot ∧ FirstOverruns cfg addressContext ieee802154Repr payload
              datagramSize.toNat fragSlot) := by
  constructor
  · intro h
    cases h with
    | packet hother => exact nomatch hdispatch.symm.trans hother
    | address _ hcheck hsize hle h => exact ⟨_, hcheck, hsize, hle, .inl h⟩
    | fragment _ hcheck hsize hle hkey hget hslot h =>
      exact ⟨_, hcheck, hsize, hle, .inr ⟨_, _, _, _, hkey, hget, hslot, h⟩⟩
  · rintro ⟨size, hcheck, hsize, hle, haddr | ⟨key, assembler, i, slot, hkey, hget, hslot, h⟩⟩
    · exact .address hdispatch hcheck hsize hle haddr
    · exact .fragment hdispatch hcheck hsize hle hkey hget hslot h

/-- The key of a fragment exists exactly where both addresses do. -/
lemma getKey_cases (hfrag : SixlowpanFragPacket.First payload ∨ SixlowpanFragPacket.Next payload) :
    (∃ key, SixlowpanFragPacket.getKey payload ieee802154Repr = .ok key ∧
      ¬ (ieee802154Repr.srcAddr = none ∨ ieee802154Repr.dstAddr = none)) ∨
    ∃ p, SixlowpanFragPacket.getKey payload ieee802154Repr = .error (.panic p) ∧
      (ieee802154Repr.srcAddr = none ∨ ieee802154Repr.dstAddr = none) := by
  obtain ⟨hsize, htag⟩ := SixlowpanFragPacket.size_tag_of hfrag
  obtain ⟨src, dst⟩ := ieee802154Repr
  unfold SixlowpanFragPacket.getKey
  cases src with
  | none => exact .inr ⟨_, rfl, .inl rfl⟩
  | some src =>
    cases dst with
    | none => exact .inr ⟨_, rfl, .inr rfl⟩
    | some dst =>
      rw [hsize, htag]
      exact .inl ⟨_, rfl, by simp⟩

open Checked in
lemma processSixlowpanFragment_exactly (h : Valid f)
    (hdispatch : Sixlowpan.Packet.dispatch payload = .ok .fragmentHeader) :
    Exactly (Harmful cfg addressContext now ieee802154Repr f payload) (fun r => Valid r.1)
      (processSixlowpanFragment cfg addressContext now ieee802154Repr payload f) := by
  have hiff := @harmful_fragment_iff cfg f addressContext now ieee802154Repr payload hdispatch
  refine check_exactly (SixlowpanFragPacket.newChecked_safe payload) ?_ ?_
  · intro hfail
    refine ⟨fun hharm => ?_, h⟩
    obtain ⟨_, hcheck, -⟩ := hiff.mp hharm
    exact nomatch hfail.symm.trans hcheck
  intro _ hcheck hfrag
  obtain ⟨hsize, -⟩ := SixlowpanFragPacket.size_tag_of hfrag
  obtain ⟨offset, hoffset⟩ : ∃ offset,
      SixlowpanFragPacket.datagramOffset payload = .ok offset := by
    rcases hfrag with hfirst | hnext
    · exact ⟨_, hfirst.datagramOffset⟩
    · exact ⟨_, hnext.datagramOffset⟩
  rw [hsize, hoffset]
  simp only [check]
  generalize hn : Octets.readU16 payload 0 &&& 0b11111111111 = size at hsize
  by_cases hlt : size < 40
  · rw [if_pos hlt]
    refine .ok (fun hharm => ?_) h
    obtain ⟨_, -, hsize', hle, -⟩ := hiff.mp hharm
    rw [hsize] at hsize'
    cases hsize'
    exact hle hlt
  rw [if_neg hlt]
  have htotal : ipv6HeaderLen ≤ size.toNat := by
    rw [UInt16.lt_iff_toNat_lt] at hlt
    exact not_lt.mp hlt
  rcases @getKey_cases ieee802154Repr payload hfrag with ⟨key, hkey, hboth⟩ | ⟨p, hp, hnone⟩
  case inr =>
    rw [hp]
    exact .panic p (hiff.mpr ⟨size, hcheck, hsize, hlt, .inl hnone⟩)
  rw [hkey]
  dsimp only
  cases hget : f.assembler.get (.sixlowpan key) (now.add f.reassemblyTimeout) with
  | error e =>
    refine .ok (fun hharm => ?_) h
    obtain ⟨_, -, -, -, hnone | ⟨_, _, _, _, hkey', hget', -⟩⟩ := hiff.mp hharm
    · exact hboth hnone
    · rw [hkey] at hkey'
      cases hkey'
      exact nomatch hget.symm.trans hget'
  | ok r =>
    obtain ⟨assembler, i⟩ := r
    obtain ⟨hvalid, slot, hslot⟩ := h.get hget
    have hfits := hvalid.fits slot (List.mem_of_getElem? hslot)
    dsimp only
    rw [Checked.index_of hslot, Checked.ok_bind]
    refine ((processInSlot_exactly _ hfrag hfits htotal).congr ?_).bind ?_
    · rw [hiff]
      constructor
      · exact fun hover => ⟨size, hcheck, hsize, hlt, .inr ⟨key, assembler, i, slot, hkey, hget,
          hslot, hover⟩⟩
      · rintro ⟨_, -, hsize', -, hnone | ⟨_, _, _, _, hkey', hget', hslot', hover⟩⟩
        · exact absurd hnone hboth
        · rw [hsize] at hsize'
          rw [hkey] at hkey'
          cases hsize'
          cases hkey'
          rw [hget] at hget'
          cases hget'
          rw [hslot] at hslot'
          cases hslot'
          exact hover
    · rintro ⟨slot', packet⟩ hharm hfits'
      exact .ok hharm (hvalid.set hfits')

/-- The checks of a packet that is handed on do no harm. -/
lemma handOn_exactly {harm : Prop} (hharm : ¬ harm) (h : Valid f) (packet : List UInt8) :
    Checked.Exactly harm (fun r => Valid r.1)
      (check f (Ipv6Packet.checkLen packet) fun _ => .ok (f, some packet)) :=
  check_exactly (Ipv6Packet.checkLen_safe packet) (fun _ => ⟨hharm, h⟩) fun _ _ _ => .ok hharm h

open Checked in
/-- A frame panics exactly if it is harmful, and otherwise keeps the sizes of the buffers. -/
lemma processSixlowpan_exactly (h : Valid f) :
    Exactly (Harmful cfg addressContext now ieee802154Repr f payload) (fun r => Valid r.1)
      (processSixlowpan cfg addressContext now ieee802154Repr payload f) := by
  refine check_exactly (Sixlowpan.Packet.dispatch_safe payload) ?_ ?_
  · intro hfail
    refine ⟨fun hharm => ?_, h⟩
    cases hharm with
    | packet hdispatch => exact nomatch hfail.symm.trans hdispatch
    | address hdispatch => exact nomatch hfail.symm.trans hdispatch
    | fragment hdispatch => exact nomatch hfail.symm.trans hdispatch
  rintro (_ | _) hdispatch -
  · refine (processSixlowpanFragment_exactly h hdispatch).bind ?_
    rintro ⟨f', packet⟩ hharm hvalid
    cases packet with
    | none => exact .ok hharm hvalid
    | some packet => exact handOn_exactly hharm hvalid packet
  · have hroom : f.decompressBuf.length = maxDecompressedLen := h.decompressBuf
    have hrule := @sixlowpanToIpv6_rule none f.decompressBuf addressContext ieee802154Repr payload
      (hroom ▸ by decide) nofun
    have hiff : PacketOverruns addressContext ieee802154Repr payload none
        (f.decompressBuf.length - ipv6HeaderLen) ↔
        Harmful cfg addressContext now ieee802154Repr f payload := by
      rw [hroom]
      constructor
      · exact fun hover => .packet hdispatch hover
      · intro hharm
        cases hharm with
        | packet _ hover => exact hover
        | address hother => exact nomatch hdispatch.symm.trans hother
        | fragment hother => exact nomatch hdispatch.symm.trans hother
    dsimp only
    generalize sixlowpanToIpv6 addressContext ieee802154Repr payload none f.decompressBuf = x
      at hrule
    cases hrule with
    | overrun p hover => exact .panic p (hiff.mp hover)
    | @done out result hover hout hlen =>
      have hharm := mt hiff.mpr hover
      have hvalid : Valid { f with decompressBuf := out } := ⟨hout.trans hroom, h.fits⟩
      rw [Checked.ok_bind]
      cases result with
      | error e => exact .ok hharm hvalid
      | ok len =>
        dsimp only
        rw [Checked.slice_of (Nat.zero_le _) ((hlen len rfl).trans hout.ge), Checked.ok_bind]
        exact handOn_exactly hharm hvalid _

/-- The fragments of other protocols keep the sizes of the buffers. -/
lemma Valid.receive (h : Valid f) {expiresAt : Instant} {frag : Fragment FragKey}
    {data : List UInt8} {offset : ℕ} (hdata : frag.data = .octets data offset)
    {assembler : PacketAssemblerSet FragKey} {r : Received}
    (hreceive : f.assembler.receive cfg expiresAt frag = .ok (assembler, r)) :
    Valid { f with assembler } := by
  unfold PacketAssemblerSet.receive at hreceive
  cases hget : f.assembler.get frag.key expiresAt with
  | error e =>
    rw [hget] at hreceive
    cases hreceive
    exact h
  | ok found =>
    obtain ⟨assembler', i⟩ := found
    obtain ⟨hvalid, slot, hslot⟩ := h.get hget
    rw [hget] at hreceive
    dsimp only at hreceive
    rw [Checked.index_of hslot, Checked.ok_bind] at hreceive
    obtain ⟨⟨slot', r'⟩, hslot', hreceive⟩ := Checked.bind_eq_ok.mp hreceive
    cases hreceive
    exact hvalid.set ((hvalid.fits slot (List.mem_of_getElem? hslot)).receive hdata hslot')

lemma Valid.step (h : Valid f) {event : FragmentsEvent} {f' : FragmentsBuffer}
    (hstep : f.step cfg event = .ok f') : Valid f' := by
  cases event with
  | sixlowpan addressContext now ieee802154Repr payload =>
    obtain ⟨r, hr, hstep⟩ := Checked.bind_eq_ok.mp hstep
    cases hstep
    exact (processSixlowpan_exactly h).of_ok hr
  | ipv4 expiresAt key totalSize data offset =>
    obtain ⟨r, hr, hstep⟩ := Checked.bind_eq_ok.mp hstep
    cases hstep
    exact h.receive rfl hr
  | removeExpired timestamp =>
    cases hstep
    refine ⟨h.decompressBuf, ?_⟩
    intro slot hslot
    obtain ⟨slot', hmem, rfl⟩ := List.mem_map.mp hslot
    split_ifs
    · exact slot'.fits_reset
    · exact h.fits slot' hmem
  | setReassemblyTimeout timeout =>
    cases hstep
    exact ⟨h.decompressBuf, h.fits⟩

lemma Reachable.valid (h : Reachable cfg f) : Valid f :=
  h.invariant (fun _ _ _ hvalid _ hstep => hvalid.step hstep) (valid_new cfg)

/-- Whatever frames came before, a frame is processed without panic exactly if it is not harmful. -/
theorem processSixlowpan_returns_iff (h : Reachable cfg f) :
    (∃ r, processSixlowpan cfg addressContext now ieee802154Repr payload f = .ok r) ↔
      ¬ Harmful cfg addressContext now ieee802154Repr f payload :=
  (processSixlowpan_exactly h.valid).iff

/-- The second fragment of a packet of 64 octets, and the first: compressed headers of IPv6 and UDP,
and eight octets of data. -/
def sampleFragments : List UInt8 × List UInt8 :=
  ([0xe0, 64, 0, 1, 7, 9, 10, 11, 12, 13, 14, 15, 16],
    [0xc0, 64, 0, 1, 0x7e, 0x33, 0xf0, 0x16, 0x33, 0x16, 0x34, 0xaa, 0xbb, 1, 2, 3, 4, 5, 6, 7, 8])

/-- Buffers for four packets. -/
def sampleConfig : ReassemblyConfig := ⟨true, 4, four_ne_zero, 0, 4⟩

/-- A frame between two nodes with extended addresses. -/
def sampleFrame (payload : List UInt8) (f : FragmentsBuffer) :
    Checked (FragmentsBuffer × Option (List UInt8)) :=
  processSixlowpan sampleConfig [] 0 ⟨some (.extended 1), some (.extended 2)⟩ payload f

lemma sampleFrame_sampleFragments : ∃ f g packet,
    sampleFrame sampleFragments.1 (new sampleConfig) = .ok (f, none) ∧
      sampleFrame sampleFragments.2 f = .ok (g, some packet) ∧ packet.length = 64 := by
  have hboth : ((sampleFrame sampleFragments.1 (new sampleConfig)).toOption.bind fun r =>
      (sampleFrame sampleFragments.2 r.1).toOption.bind fun s =>
        s.2.map fun packet => (r.2, packet.length)) = some (none, 64) := by
    decide +kernel
  cases hfirst : sampleFrame sampleFragments.1 (new sampleConfig) with
  | error p => rw [hfirst] at hboth; cases hboth
  | ok r =>
    rw [hfirst] at hboth
    cases hsecond : sampleFrame sampleFragments.2 r.1 with
    | error p => simp [hsecond, Except.toOption] at hboth
    | ok s =>
      simp only [hsecond, Except.toOption, Option.bind_some, Option.map_eq_some_iff,
        Prod.mk.injEq] at hboth
      obtain ⟨packet, hpacket, hnone, hlength⟩ := hboth
      exact ⟨r.1, s.1, packet, by rw [← hnone], by rw [hsecond, ← hpacket], hlength⟩

/-- A first fragment that is decompressed, in buffers that a second fragment reached: the packet
that the two make up is handed on. -/
theorem processSixlowpan_returns_iff_fragment : ∃ f,
    Reachable sampleConfig f ∧
      (∃ g packet, sampleFrame sampleFragments.2 f = .ok (g, some packet) ∧ packet.length = 64) ∧
      ¬ Harmful sampleConfig [] 0 ⟨some (.extended 1), some (.extended 2)⟩ f sampleFragments.2 := by
  obtain ⟨f, g, packet, hfirst, hsecond, hlength⟩ := sampleFrame_sampleFragments
  have hreach : Reachable sampleConfig f := by
    refine .tail (.sixlowpan [] 0 ⟨some (.extended 1), some (.extended 2)⟩ sampleFragments.1) .refl
      trivial ?_
    exact Checked.bind_eq_ok.mpr ⟨_, hfirst, rfl⟩
  exact ⟨f, hreach, ⟨g, packet, hsecond, hlength⟩,
    (processSixlowpan_returns_iff hreach).mp ⟨_, hsecond⟩⟩

/-- A packet of five octets with an extension header that says that it carries ten more. -/
theorem processSixlowpan_extHeader_panics :
    ¬ ∃ r, processSixlowpan ⟨true, 4, by decide, 0, 4⟩ [] 0
      ⟨some (.extended 1), some (.extended 2)⟩
      [0x7e, 0x33, 0xe0, 0x06, 0x0a] (new ⟨true, 4, by decide, 0, 4⟩) = .ok r := by
  intro h
  refine (processSixlowpan_exactly (valid_new _)).iff.mp h (.packet rfl ⟨_, _, rfl, rfl, ?_⟩)
  exact .extLength rfl rfl (by decide)

end FragmentsBuffer

end Smoltcp
