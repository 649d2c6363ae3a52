import Smoltcp.Lib.Machine
import Smoltcp.Iface.Fragmentation

/-!
# Reassembly never mixes datagrams

A log beside the slots keeps, for every key, what the fragments of that key have written since a
slot was last given to it. What a slot claims to be present was written by a fragment in the log of
its key, so a buffer handed out holds nothing that an earlier datagram left in the slot.
-/

namespace Smoltcp

variable {κ : Type} {cfg : ReassemblyConfig} {p n : ℕ} {v : UInt8}

/-- The fragment writes `v` at position `p` of its packet. -/
def FragmentData.Writes : FragmentData → ℕ → UInt8 → Prop
  | .octets data offset, p, v => offset ≤ p ∧ data[p - offset]? = some v
  | .compressed f, p, v => ∃ n, (p, v) ∈ f.writes n

/-- The fragment got as far as writing to the buffer. A closure may fail after that. -/
def Received.wrote : Received → FragmentData → Bool
  | .incomplete, _ => true
  | .complete _, _ => true
  | .badData, .compressed _ => true
  | _, _ => false

/-- The log with what a fragment has written. -/
def Received.extend (r : Received) (log : List FragmentData) (data : FragmentData) :
    List FragmentData :=
  if r.wrote data then log ++ [data] else log

namespace PacketAssembler

variable {pa pa' : PacketAssembler κ} {log log' : List FragmentData}

/-! ### One slot -/

/-- What is present was written by a fragment in the log, and the packet fits into the buffer. -/
structure Sound (pa : PacketAssembler κ) (log : List FragmentData) : Prop where
  written : ∀ p, pa.assembler.Covers p → ∃ v, pa.buffer[p]? = some v ∧ ∃ d ∈ log, d.Writes p v
  total : ∀ n, pa.totalSize = some n → n ≤ pa.buffer.length

lemma Sound.mono (h : Sound pa log) (hsub : log ⊆ log') : Sound pa log' := by
  refine ⟨fun p hp => ?_, h.total⟩
  obtain ⟨v, hv, d, hd, hw⟩ := h.written p hp
  exact ⟨v, hv, d, hsub hd, hw⟩

lemma sound_reset (pa : PacketAssembler κ) (log : List FragmentData) : Sound pa.reset log := by
  refine ⟨fun p hp => absurd hp (Assembler.not_covers_clear _), fun n hn => ?_⟩
  cases hn

lemma sound_new (cfg : ReassemblyConfig) (log : List FragmentData) :
    Sound (new cfg : PacketAssembler κ) log := by
  refine ⟨fun p hp => absurd hp (Assembler.not_covers_new _ cfg.assemblerMaxSegmentCount_ne),
    fun n hn => ?_⟩
  cases hn

/-- What growing a buffer does not change. -/
structure Grows (pa pa' : PacketAssembler κ) (size : ℕ) : Prop where
  key : pa'.key = pa.key
  assembler : pa'.assembler = pa.assembler
  totalSize : pa'.totalSize = pa.totalSize
  buffer : pa.buffer <+: pa'.buffer
  length : size ≤ pa'.buffer.length

lemma resize_grows {size : ℕ} (h : pa.resize cfg size = .ok pa') : Grows pa pa' size := by
  unfold resize at h
  split_ifs at h with hlt halloc
  · cases h
    refine ⟨rfl, rfl, rfl, List.prefix_append _ _, ?_⟩
    simp
    omega
  · cases h
    exact ⟨rfl, rfl, rfl, List.prefix_rfl, by omega⟩

lemma Grows.sound {size : ℕ} (h : Grows pa pa' size) (hs : Sound pa log) : Sound pa' log := by
  refine ⟨fun p hp => ?_, fun n hn => ?_⟩
  · rw [h.assembler] at hp
    obtain ⟨v, hv, hd⟩ := hs.written p hp
    obtain ⟨rest, hrest⟩ := h.buffer
    refine ⟨v, ?_, hd⟩
    rw [← hrest, List.getElem?_append_left (List.getElem?_eq_some_iff.mp hv).1, hv]
  · rw [h.totalSize] at hn
    exact (hs.total n hn).trans h.buffer.length_le

lemma setTotalSize_spec {size : ℕ} (h : pa.setTotalSize cfg size = .ok pa') (hs : Sound pa log) :
    Sound pa' log ∧ pa'.key = pa.key ∧ pa'.totalSize = some size := by
  unfold setTotalSize at h
  split_ifs at h with hne
  cases hr : pa.resize cfg size with
  | error e =>
    rw [hr] at h
    cases h
  | ok pa₁ =>
    rw [hr] at h
    cases h
    have hgrows := resize_grows hr
    have hs₁ := hgrows.sound hs
    refine ⟨⟨hs₁.written, fun n hn => ?_⟩, hgrows.key, rfl⟩
    cases hn
    exact hgrows.length

/-- A record of octets that are in the buffer. -/
lemma Sound.record {offset len : ℕ} (hs : Sound pa log)
    (hnew : ∀ p, offset ≤ p → p < offset + len →
      ∃ v, pa.buffer[p]? = some v ∧ ∃ d ∈ log, d.Writes p v) :
    Sound (pa.record offset len) log := by
  unfold PacketAssembler.record
  cases hadd : pa.assembler.add offset len with
  | error e => exact hs
  | ok assembler =>
    refine ⟨fun p hp => ?_, hs.total⟩
    rcases (Assembler.add_covers hadd).mp hp with hold | ⟨hlo, hhi⟩
    · exact hs.written p hold
    · exact hnew p hlo hhi

@[simp] lemma key_record (pa : PacketAssembler κ) (offset len : ℕ) :
    (pa.record offset len).key = pa.key := by
  unfold record
  split <;> rfl

@[simp] lemma buffer_record (pa : PacketAssembler κ) (offset len : ℕ) :
    (pa.record offset len).buffer = pa.buffer := by
  unfold record
  split <;> rfl

@[simp] lemma totalSize_record (pa : PacketAssembler κ) (offset len : ℕ) :
    (pa.record offset len).totalSize = pa.totalSize := by
  unfold record
  split <;> rfl

lemma add_spec {data : List UInt8} {offset : ℕ} (h : pa.add cfg data offset = .ok pa')
    (hs : Sound pa log) :
    Sound pa' (log ++ [.octets data offset]) ∧ pa'.key = pa.key ∧ pa'.totalSize = pa.totalSize := by
  unfold add at h
  cases hr : pa.resize cfg (offset + data.length) with
  | error e =>
    rw [hr] at h
    cases h
  | ok pa₁ =>
    rw [hr] at h
    cases h
    have hgrows := resize_grows hr
    have hs₁ := hgrows.sound hs
    have hbuf := List.getElem?_overwrite hgrows.length
    refine ⟨?_, by simp [hgrows.key], by simp [hgrows.totalSize]⟩
    -- a position of the fragment holds its octet, the others are as they were
    have hkeep : Sound { pa₁ with buffer := pa₁.buffer.overwrite offset data }
        (log ++ [.octets data offset]) := by
      refine ⟨fun p hp => ?_, fun n hn => ?_⟩
      · obtain ⟨v, hv, d, hd, hw⟩ := hs₁.written p hp
        simp only [hbuf]
        split_ifs with hin
        · obtain ⟨w, hw⟩ : ∃ w, data[p - offset]? = some w :=
            ⟨_, List.getElem?_eq_getElem (by omega)⟩
          exact ⟨w, hw, _, List.mem_append_right _ (List.mem_singleton_self _), hin.1, hw⟩
        · exact ⟨v, hv, d, List.mem_append_left _ hd, hw⟩
      · rw [List.length_overwrite hgrows.length]
        exact hs₁.total n hn
    refine hkeep.record fun p hlo hhi => ?_
    obtain ⟨w, hw⟩ : ∃ w, data[p - offset]? = some w := ⟨_, List.getElem?_eq_getElem (by omega)⟩
    refine ⟨w, ?_, _, List.mem_append_right _ (List.mem_singleton_self _), hlo, hw⟩
    simp only [hbuf]
    rw [if_pos ⟨hlo, hhi⟩, hw]

/-! ### Closures -/

lemma length_writeOctets (offset : ℕ) (buffer : List UInt8) (writes : List (ℕ × UInt8)) :
    (writeOctets offset buffer writes).length = buffer.length := by
  unfold writeOctets
  induction writes generalizing buffer with
  | nil => rfl
  | cons w writes ih => simp [ih]

/-- A position holds an octet that was written there, or what it held before. -/
lemma getElem?_writeOctets (buffer : List UInt8) (writes : List (ℕ × UInt8)) (p : ℕ)
    (hp : p < buffer.length) :
    (∃ v, (p, v) ∈ writes ∧ (writeOctets 0 buffer writes)[p]? = some v) ∨
      (∀ w ∈ writes, w.1 ≠ p) ∧ (writeOctets 0 buffer writes)[p]? = buffer[p]? := by
  unfold writeOctets
  induction writes generalizing buffer with
  | nil => exact .inr ⟨nofun, rfl⟩
  | cons w writes ih =>
    rw [List.foldl_cons]
    rcases ih (buffer.set (0 + w.1) w.2) (by simpa using hp) with ⟨v, hv, hval⟩ | ⟨hne, hval⟩
    · exact .inl ⟨v, List.mem_cons_of_mem _ hv, hval⟩
    · by_cases hw : w.1 = p
      · refine .inl ⟨w.2, ?_, ?_⟩
        · rw [← hw]
          exact List.mem_cons_self ..
        · rw [hval, Nat.zero_add, hw, List.getElem?_set_self (by simpa using hp)]
      · refine .inr ⟨?_, ?_⟩
        · intro x hx
          rcases List.mem_cons.mp hx with rfl | hx
          · exact hw
          · exact hne x hx
        · rw [hval, Nat.zero_add, List.getElem?_set_ne hw]

lemma addWith_spec (f : Decompressor) (hs : Sound pa log) :
    ∃ pa' r, pa.addWith 0 f = .ok (pa', r) ∧ Sound pa' (log ++ [.compressed f]) ∧
      pa'.key = pa.key ∧ pa'.totalSize = pa.totalSize := by
  have hlen := length_writeOctets 0 pa.buffer (f.writes pa.buffer.length)
  have hwrites := getElem?_writeOctets pa.buffer (f.writes pa.buffer.length)
  have hkeep : Sound { pa with buffer := writeOctets 0 pa.buffer (f.writes pa.buffer.length) }
      (log ++ [.compressed f]) := by
    refine ⟨fun p hp => ?_, fun n hn => ?_⟩
    · obtain ⟨v, hv, d, hd, hw⟩ := hs.written p hp
      rcases hwrites p (List.getElem?_eq_some_iff.mp hv).1 with ⟨w, hmem, hw⟩ | ⟨-, hsame⟩
      · exact ⟨w, hw, _, List.mem_append_right _ (List.mem_singleton_self _), _, hmem⟩
      · exact ⟨v, hsame.trans hv, d, List.mem_append_left _ hd, hw⟩
    · change n ≤ (writeOctets 0 pa.buffer _).length
      rw [hlen]
      exact hs.total n hn
  unfold addWith
  rw [if_neg (Nat.not_lt_zero _)]
  simp only [Nat.sub_zero]
  cases hres : f.result pa.buffer.length with
  | error e => exact ⟨_, _, rfl, hkeep, rfl, rfl⟩
  | ok len =>
    have hle : len ≤ pa.buffer.length := by
      by_contra hlt
      obtain ⟨w, hw, hp⟩ := f.reported _ _ hres pa.buffer.length (by omega)
      have := f.inside _ w hw
      omega
    have hassert : 0 + len ≤ (writeOctets 0 pa.buffer (f.writes pa.buffer.length)).length := by
      omega
    simp only [Checked.assert_of hassert, Checked.ok_bind, Checked.pure_eq_ok]
    refine ⟨_, _, rfl, hkeep.record fun p hlo hhi => ?_, by simp, by simp⟩
    obtain ⟨w, hw, hp⟩ := f.reported _ _ hres p (by omega)
    rcases hwrites p (by omega) with ⟨v, hmem, hv⟩ | ⟨hne, -⟩
    · exact ⟨v, hv, _, List.mem_append_right _ (List.mem_singleton_self _), _, hmem⟩
    · exact absurd hp (hne w hw)

/-- A slot that is complete hands out the octets that are present, and is free again. -/
lemma assemble_spec (hs : Sound pa log) :
    ¬ pa.isComplete ∧ pa.assemble = .ok (pa, none) ∨
      ∃ payload, pa.assemble = .ok (pa.reset, some payload) ∧
        pa.totalSize = some payload.length ∧
        ∀ p v, payload[p]? = some v → ∃ d ∈ log, d.Writes p v := by
  unfold assemble
  by_cases hc : pa.isComplete
  · rw [if_pos hc]
    have htotal : pa.totalSize = some pa.assembler.peekFront := hc
    have hle := hs.total _ htotal
    refine .inr ⟨pa.buffer.take pa.assembler.peekFront, ?_, ?_, ?_⟩
    · have hslice : Checked.slice pa.reset.buffer 0 pa.assembler.peekFront = _ :=
        Checked.slice_of (Nat.zero_le _) hle
      rw [htotal, Checked.unwrap, Checked.ok_bind]
      dsimp only
      rw [hslice]
      rfl
    · rw [htotal, List.length_take, Nat.min_eq_left hle]
    · intro p v hv
      have hp : p < pa.assembler.peekFront := by
        have hlt := (List.getElem?_eq_some_iff.mp hv).1
        rw [List.length_take] at hlt
        omega
      rw [List.getElem?_take_of_lt hp] at hv
      obtain ⟨w, hw, hd⟩ := hs.written p (pa.assembler.peekFront_spec.1 p hp)
      rw [hv] at hw
      cases hw
      exact hd
  · exact .inl ⟨hc, if_neg hc⟩

/-- What a fragment makes of its slot. -/
inductive ReceiveRule (pa : PacketAssembler κ) (log : List FragmentData) (frag : Fragment κ) :
    PacketAssembler κ → Received → Prop where
  | kept {pa' : PacketAssembler κ} {r : Received} (hkey : pa'.key = pa.key)
      (hsound : Sound pa' (r.extend log frag.data)) (hr : ∀ payload, r ≠ .complete payload) :
      ReceiveRule pa log frag pa' r
  | completed {pa₁ : PacketAssembler κ} {payload : List UInt8}
      (htotal : pa.totalSize = some payload.length ∨ frag.totalSize = some payload.length)
      (hwritten : ∀ p v, payload[p]? = some v → ∃ d ∈ log ++ [frag.data], d.Writes p v) :
      ReceiveRule pa log frag pa₁.reset (.complete payload)

lemma addData_spec (cfg : ReassemblyConfig) (data : FragmentData) (hs : Sound pa log) :
    ∃ pa' r, pa.addData cfg data = .ok (pa', r) ∧ pa'.key = pa.key ∧
      pa'.totalSize = pa.totalSize ∧
      match r with
      | .ok () => Sound pa' (log ++ [data])
      | .error _ => Sound pa' (Received.badData.extend log data) := by
  cases data with
  | octets data offset =>
    unfold addData
    cases hadd : pa.add cfg data offset with
    | error e => exact ⟨pa, .error e, by simp [hadd], rfl, rfl, hs⟩
    | ok pa' =>
      obtain ⟨hs', hkey, htotal⟩ := add_spec hadd hs
      exact ⟨pa', .ok (), by simp [hadd], hkey, htotal, hs'⟩
  | compressed f =>
    obtain ⟨pa', r, hadd, hs', hkey, htotal⟩ := addWith_spec f hs
    refine ⟨pa', r, hadd, hkey, htotal, ?_⟩
    cases r with
    | error e => exact hs'
    | ok u => exact hs'

/-- The data of a fragment in a slot `pa` that was `pa₀` before its total size was set. -/
lemma receiveData_rule {pa₀ : PacketAssembler κ} (cfg : ReassemblyConfig) (frag : Fragment κ)
    (hs : Sound pa log) (hkey : pa.key = pa₀.key)
    (htotal : ∀ n, pa.totalSize = some n → pa₀.totalSize = some n ∨ frag.totalSize = some n) :
    ∃ pa' r, pa.receiveData cfg frag.data = .ok (pa', r) ∧ ReceiveRule pa₀ log frag pa' r := by
  obtain ⟨pa₁, r, hadd, hkey₁, htotal₁, hs₁⟩ := addData_spec cfg frag.data hs
  unfold receiveData
  rw [hadd]
  cases r with
  | error e => exact ⟨pa₁, .badData, rfl, .kept (hkey₁.trans hkey) hs₁ nofun⟩
  | ok u =>
    change ∃ pa' r, pa₁.finish = .ok (pa', r) ∧ ReceiveRule pa₀ log frag pa' r
    unfold finish
    rcases assemble_spec hs₁ with ⟨-, hnone⟩ | ⟨payload, hsome, hlen, hwritten⟩
    · rw [hnone]
      exact ⟨pa₁, .incomplete, rfl, .kept (hkey₁.trans hkey) hs₁ nofun⟩
    · rw [hsome]
      exact ⟨pa₁.reset, .complete payload, rfl, .completed (htotal _ (htotal₁ ▸ hlen)) hwritten⟩

lemma receive_rule (cfg : ReassemblyConfig) (frag : Fragment κ) (hs : Sound pa log) :
    ∃ pa' r, pa.receive cfg frag = .ok (pa', r) ∧ ReceiveRule pa log frag pa' r := by
  unfold receive
  cases hfrag : frag.totalSize with
  | none =>
    exact receiveData_rule cfg frag hs rfl fun n hn => .inl hn
  | some size =>
    cases hset : pa.setTotalSize cfg size with
    | error e => exact ⟨pa, .badTotalSize, by simp [hset], .kept rfl hs nofun⟩
    | ok pa₁ =>
      obtain ⟨hs₁, hkey₁, htotal₁⟩ := setTotalSize_spec hset hs
      simp only [hset]
      refine receiveData_rule cfg frag hs₁ hkey₁ fun n hn => .inr ?_
      rw [hfrag, ← hn, htotal₁]

end PacketAssembler

/-! ### All slots -/

namespace PacketAssemblerSet

variable [DecidableEq κ] {set set' : PacketAssemblerSet κ} {key : κ} {i j : ℕ}

lemma search_inl {e : Option ℕ} (h : search key e i set = .inl j) :
    i ≤ j ∧ ∃ slot, set[j - i]? = some slot ∧ slot.key = some key := by
  induction set generalizing i e with
  | nil => cases h
  | cons slot rest ih =>
    rw [search] at h
    split_ifs at h with hkey
    · cases h
      exact ⟨le_rfl, slot, by simp, hkey⟩
    all_goals
      obtain ⟨hle, found, hfound, hk⟩ := ih h
      refine ⟨by omega, found, ?_, hk⟩
      rw [show j - i = j - (i + 1) + 1 by omega, List.getElem?_cons_succ]
      exact hfound

lemma search_inr {e r : Option ℕ} (h : search key e i set = .inr r) :
    (∀ slot ∈ set, slot.key ≠ some key) ∧
      (r = e ∨ ∃ j slot, r = some j ∧ i ≤ j ∧ set[j - i]? = some slot ∧ slot.isFree) := by
  induction set generalizing i e with
  | nil =>
    cases h
    exact ⟨nofun, .inl rfl⟩
  | cons slot rest ih =>
    rw [search] at h
    split_ifs at h with hkey hfree
    · obtain ⟨hne, hr⟩ := ih h
      refine ⟨List.forall_mem_cons.mpr ⟨hkey, hne⟩, .inr ?_⟩
      rcases hr with rfl | ⟨j, found, rfl, hle, hfound, hf⟩
      · exact ⟨i, slot, rfl, le_rfl, by simp, hfree⟩
      · refine ⟨j, found, rfl, by omega, ?_, hf⟩
        rw [show j - i = j - (i + 1) + 1 by omega, List.getElem?_cons_succ]
        exact hfound
    · obtain ⟨hne, hr⟩ := ih h
      refine ⟨List.forall_mem_cons.mpr ⟨hkey, hne⟩, ?_⟩
      rcases hr with rfl | ⟨j, found, rfl, hle, hfound, hf⟩
      · exact .inl rfl
      · refine .inr ⟨j, found, rfl, by omega, ?_, hf⟩
        rw [show j - i = j - (i + 1) + 1 by omega, List.getElem?_cons_succ]
        exact hfound

/-- The slot that a key is given. -/
inductive GetRule (set : PacketAssemblerSet κ) (key : κ) (expiresAt : Instant) :
    Except AssemblerFullError (PacketAssemblerSet κ × ℕ) → Prop where
  | found {i : ℕ} {slot : PacketAssembler κ} (hslot : set[i]? = some slot)
      (hkey : slot.key = some key) : GetRule set key expiresAt (.ok (set, i))
  | created {i : ℕ} {slot : PacketAssembler κ} (hslot : set[i]? = some slot) (hfree : slot.isFree)
      (hnone : ∀ slot ∈ set, slot.key ≠ some key) :
      GetRule set key expiresAt (.ok (set.set i { slot with key := some key, expiresAt }, i))
  | full (hnone : ∀ slot ∈ set, slot.key ≠ some key) : GetRule set key expiresAt (.error .mk)

lemma get_rule (set : PacketAssemblerSet κ) (key : κ) (expiresAt : Instant) :
    GetRule set key expiresAt (set.get key expiresAt) := by
  unfold get
  cases hs : search key none 0 set with
  | inl i =>
    obtain ⟨-, slot, hslot, hkey⟩ := search_inl hs
    exact .found hslot hkey
  | inr r =>
    obtain ⟨hnone, hr⟩ := search_inr hs
    cases r with
    | none => exact .full hnone
    | some i =>
      rcases hr with h | ⟨j, slot, h, -, hslot, hfree⟩
      · cases h
      · cases h
        have hmodify : set.modify i (fun slot => { slot with key := some key, expiresAt }) =
            set.set i { slot with key := some key, expiresAt } := by
          rw [List.modify_eq_set_getElem?, show set[i]? = some slot from hslot]
          rfl
        simp only [hmodify]
        exact .created hslot hfree hnone

/-- Some slot holds the key. -/
def Holds (set : PacketAssemblerSet κ) (key : κ) : Prop := ∃ slot ∈ set, slot.key = some key

instance (set : PacketAssemblerSet κ) (key : κ) : Decidable (Holds set key) :=
  inferInstanceAs (Decidable (∃ slot ∈ set, _))

end PacketAssemblerSet

open PacketAssembler PacketAssemblerSet

/-- The slots, and what the fragments of each key have written since a slot was last given to
it. -/
structure Tracked (κ : Type) where
  set : PacketAssemblerSet κ
  log : κ → List FragmentData

inductive ReassemblyEvent (κ : Type) where
  | fragment (expiresAt : Instant) (frag : Fragment κ)
  | removeExpired (timestamp : Instant)

namespace Tracked

variable [DecidableEq κ] {t t' : Tracked κ}

def new (cfg : ReassemblyConfig) : Tracked κ := ⟨.new cfg, fun _ => []⟩

/-- What the fragments of a key have written so far, if it has a slot. -/
def since (t : Tracked κ) (key : κ) : List FragmentData :=
  if t.set.Holds key then t.log key else []

def step (cfg : ReassemblyConfig) (t : Tracked κ) :
    ReassemblyEvent κ → Checked (Tracked κ × Option Received)
  | .fragment expiresAt frag => do
    let (set, r) ← t.set.receive cfg expiresAt frag
    return (⟨set, Function.update t.log frag.key (r.extend (t.since frag.key) frag.data)⟩, some r)
  | .removeExpired timestamp => return (⟨t.set.removeExpired timestamp, t.log⟩, none)

/-- No two slots hold the same key, what a slot claims to be present is in the log of its key, and
a free slot claims nothing. -/
structure Inv (t : Tracked κ) : Prop where
  unique : ∀ (i j : ℕ) (slot slot' : PacketAssembler κ) (key : κ), t.set[i]? = some slot →
    t.set[j]? = some slot' → slot.key = some key → slot'.key = some key → i = j
  sound : ∀ slot ∈ t.set, ∀ key, slot.key = some key → Sound slot (t.log key)
  free : ∀ slot ∈ t.set, slot.key = none → Sound slot [] ∧ slot.totalSize = none

omit [DecidableEq κ] in
lemma inv_new (cfg : ReassemblyConfig) : Inv (new cfg : Tracked κ) := by
  have hslot : ∀ slot ∈ (new cfg : Tracked κ).set, slot = PacketAssembler.new cfg :=
    fun slot h => List.eq_of_mem_replicate h
  refine ⟨?_, ?_, ?_⟩
  · intro i j slot slot' key hi hj hkey
    rw [hslot slot (List.mem_of_getElem? hi)] at hkey
    cases hkey
  · intro slot h key hkey
    rw [hslot slot h] at hkey
    cases hkey
  · intro slot h _
    rw [hslot slot h]
    exact ⟨sound_new cfg [], rfl⟩

/-- What changes in one slot, and in the log of one key, keeps the invariant. -/
lemma Inv.set (h : Inv t) {i : ℕ} {slot : PacketAssembler κ} {key : κ} {log : List FragmentData}
    (hothers : ∀ (j : ℕ) (slot' : PacketAssembler κ), t.set[j]? = some slot' →
      slot'.key = some key → j = i)
    (hkey : slot.key = some key ∧ Sound slot log ∨
      slot.key = none ∧ Sound slot [] ∧ slot.totalSize = none) :
    Inv ⟨t.set.set i slot, Function.update t.log key log⟩ := by
  have hget : ∀ (j : ℕ) (slot' : PacketAssembler κ), (t.set.set i slot)[j]? = some slot' →
      (j = i ∧ slot' = slot) ∨ (j ≠ i ∧ t.set[j]? = some slot') := by
    intro j slot' hj
    by_cases hji : j = i
    · subst hji
      have hlt := (List.getElem?_eq_some_iff.mp hj).1
      rw [List.getElem?_set_self (by simpa using hlt)] at hj
      cases hj
      exact .inl ⟨rfl, rfl⟩
    · rw [List.getElem?_set_ne (Ne.symm hji)] at hj
      exact .inr ⟨hji, hj⟩
  refine ⟨?_, ?_, ?_⟩
  · intro j k slot₁ slot₂ key' hj hk h₁ h₂
    rcases hget j slot₁ hj with ⟨rfl, rfl⟩ | ⟨hne₁, hj'⟩
    · rcases hget k slot₂ hk with ⟨rfl, rfl⟩ | ⟨hne₂, hk'⟩
      · rfl
      · rcases hkey with ⟨hs, -⟩ | ⟨hs, -⟩
        · rw [hs] at h₁
          cases h₁
          exact absurd (hothers k slot₂ hk' h₂) hne₂
        · rw [hs] at h₁
          cases h₁
    · rcases hget k slot₂ hk with ⟨rfl, rfl⟩ | ⟨hne₂, hk'⟩
      · rcases hkey with ⟨hs, -⟩ | ⟨hs, -⟩
        · rw [hs] at h₂
          cases h₂
          exact absurd (hothers j slot₁ hj' h₁) hne₁
        · rw [hs] at h₂
          cases h₂
      · exact h.unique j k slot₁ slot₂ key' hj' hk' h₁ h₂
  · intro slot' hmem key' hkey'
    obtain ⟨j, hj⟩ := List.mem_iff_getElem?.mp hmem
    rcases hget j slot' hj with ⟨rfl, rfl⟩ | ⟨hne, hj'⟩
    · rcases hkey with ⟨hs, hsound⟩ | ⟨hs, -⟩
      · rw [hs] at hkey'
        cases hkey'
        simpa using hsound
      · rw [hs] at hkey'
        cases hkey'
    · have hne' : key' ≠ key := by
        rintro rfl
        exact hne (hothers j slot' hj' hkey')
      simp only [Function.update_of_ne hne']
      exact h.sound slot' (List.mem_of_getElem? hj') key' hkey'
  · intro slot' hmem hnone
    obtain ⟨j, hj⟩ := List.mem_iff_getElem?.mp hmem
    rcases hget j slot' hj with ⟨rfl, rfl⟩ | ⟨-, hj'⟩
    · rcases hkey with ⟨hs, -⟩ | ⟨-, hs⟩
      · rw [hs] at hnone
        cases hnone
      · exact hs
    · exact h.free slot' (List.mem_of_getElem? hj') hnone

omit [DecidableEq κ] in
lemma inv_removeExpired (h : Inv t) (timestamp : Instant) :
    Inv ⟨t.set.removeExpired timestamp, t.log⟩ := by
  have hget : ∀ (i : ℕ) (slot : PacketAssembler κ),
      (t.set.removeExpired timestamp)[i]? = some slot →
      ∃ slot₀ : PacketAssembler κ, t.set[i]? = some slot₀ ∧
        (slot = slot₀ ∨ slot = slot₀.reset) := by
    intro i slot hi
    rw [removeExpired, List.getElem?_map, Option.map_eq_some_iff] at hi
    obtain ⟨slot₀, h₀, rfl⟩ := hi
    refine ⟨slot₀, h₀, ?_⟩
    split_ifs
    · exact .inr rfl
    · exact .inl rfl
  have hkeyed : ∀ (i : ℕ) (slot : PacketAssembler κ) (key : κ),
      (t.set.removeExpired timestamp)[i]? = some slot →
      slot.key = some key → t.set[i]? = some slot := by
    intro i slot key hi hkey
    obtain ⟨slot₀, h₀, rfl | rfl⟩ := hget i slot hi
    · exact h₀
    · cases hkey
  refine ⟨?_, ?_, ?_⟩
  · intro i j slot slot' key hi hj h₁ h₂
    exact h.unique i j slot slot' key (hkeyed i slot key hi h₁) (hkeyed j slot' key hj h₂) h₁ h₂
  · intro slot hmem key hkey
    obtain ⟨i, hi⟩ := List.mem_iff_getElem?.mp hmem
    exact h.sound slot (List.mem_of_getElem? (hkeyed i slot key hi hkey)) key hkey
  · intro slot hmem hnone
    obtain ⟨i, hi⟩ := List.mem_iff_getElem?.mp hmem
    obtain ⟨slot₀, h₀, rfl | rfl⟩ := hget i slot hi
    · exact h.free slot (List.mem_of_getElem? h₀) hnone
    · exact ⟨sound_reset _ _, rfl⟩

/-- What a fragment does to the slots. -/
structure Receives (t t' : Tracked κ) (frag : Fragment κ) (r : Received) : Prop where
  inv : Inv t'
  others : (∀ payload, r ≠ .complete payload) → ∀ (i : ℕ) (slot : PacketAssembler κ),
    t'.set[i]? = some slot → slot.key ≠ some frag.key → t.set[i]? = some slot
  length : ∀ payload, r = .complete payload → frag.totalSize = some payload.length ∨
    ∃ slot ∈ t.set, slot.key = some frag.key ∧ slot.totalSize = some payload.length
  written : ∀ payload, r = .complete payload → ∀ p v, payload[p]? = some v →
    ∃ d ∈ t'.log frag.key, d.Writes p v

/-- A fragment in the slot that its key was given. -/
lemma receives_slot (h : Inv t) {i : ℕ} {slot₀ slot : PacketAssembler κ} (frag : Fragment κ)
    (hslot₀ : t.set[i]? = some slot₀) (hkey : slot.key = some frag.key)
    (hsound : Sound slot (t.since frag.key)) (htotal : slot.totalSize = slot₀.totalSize)
    (hsize : ∀ n, slot₀.totalSize = some n → slot₀.key = some frag.key)
    (hothers : ∀ (j : ℕ) (slot' : PacketAssembler κ), t.set[j]? = some slot' →
      slot'.key = some frag.key → j = i) :
    ∃ slot' r, slot.receive cfg frag = .ok (slot', r) ∧
      Receives t ⟨t.set.set i slot',
        Function.update t.log frag.key (r.extend (t.since frag.key) frag.data)⟩ frag r := by
  obtain ⟨slot', r, hrec, hrule⟩ := receive_rule cfg frag hsound
  refine ⟨slot', r, hrec, ?_⟩
  cases hrule with
  | kept hkey' hsound' hr =>
    refine ⟨h.set hothers (.inl ⟨hkey'.trans hkey, hsound'⟩), ?_, ?_, ?_⟩
    · intro _ j slot'' hj hne
      by_cases hji : j = i
      · subst hji
        have hlt := (List.getElem?_eq_some_iff.mp hj).1
        simp only [List.getElem?_set_self (show j < t.set.length by simpa using hlt)] at hj
        cases hj
        exact absurd (hkey'.trans hkey) hne
      · simpa [List.getElem?_set_ne (Ne.symm hji)] using hj
    · exact fun payload hp => absurd hp (hr payload)
    · exact fun payload hp => absurd hp (hr payload)
  | @completed pa₁ payload hsome hwritten =>
    refine ⟨h.set hothers (.inr ⟨rfl, sound_reset _ _, rfl⟩), ?_, ?_, ?_⟩
    · exact fun hr => absurd rfl (hr payload)
    · intro payload' hp
      cases hp
      rcases hsome with hs | hs
      · rw [htotal] at hs
        exact .inr ⟨slot₀, List.mem_of_getElem? hslot₀, hsize _ hs, hs⟩
      · exact .inl hs
    · intro payload' hp p v hv
      cases hp
      simpa [Received.extend, Received.wrote] using hwritten p v hv

lemma step_fragment (h : Inv t) (cfg : ReassemblyConfig) (expiresAt : Instant)
    (frag : Fragment κ) :
    ∃ t' r, t.step cfg (.fragment expiresAt frag) = .ok (t', some r) ∧ Receives t t' frag r := by
  have hget := get_rule t.set frag.key expiresAt
  simp only [step, PacketAssemblerSet.receive]
  generalize t.set.get frag.key expiresAt = x at hget
  cases hget with
  | full hnone =>
    refine ⟨⟨t.set, Function.update t.log frag.key _⟩, .noSlot, rfl, ⟨h.unique, ?_, h.free⟩,
      fun _ _ _ hi _ => hi, nofun, nofun⟩
    intro slot hmem key hkey
    have hne : key ≠ frag.key := by
      rintro rfl
      exact hnone slot hmem hkey
    simp only [Function.update_of_ne hne]
    exact h.sound slot hmem key hkey
  | @found i slot hslot hkey =>
    have hmem := List.mem_of_getElem? hslot
    have hsince : t.since frag.key = t.log frag.key := if_pos ⟨slot, hmem, hkey⟩
    obtain ⟨slot', r, hrec, hreceives⟩ := @receives_slot _ cfg _ t h i slot slot frag hslot hkey
      (hsince ▸ h.sound slot hmem _ hkey) rfl (fun _ _ => hkey)
      (fun j slot' hj hk => h.unique j i slot' slot _ hj hslot hk hkey)
    refine ⟨_, r, ?_, hreceives⟩
    simp only [Checked.index_of hslot, Checked.ok_bind, hrec]
    rfl
  | @created i slot hslot hfree hnone =>
    have hmem := List.mem_of_getElem? hslot
    obtain ⟨hclean, hsize⟩ := h.free slot hmem hfree
    have hholds : ¬ t.set.Holds frag.key := fun ⟨slot, hmem, hkey⟩ => hnone slot hmem hkey
    have hsince : t.since frag.key = [] := if_neg hholds
    obtain ⟨slot', r, hrec, hreceives⟩ := @receives_slot _ cfg _ t h i slot
      { slot with key := some frag.key, expiresAt } frag hslot rfl
      (hsince ▸ ⟨hclean.written, hclean.total⟩) rfl (fun n hn => by rw [hsize] at hn; cases hn)
      (fun j slot' hj hk => absurd hk (hnone slot' (List.mem_of_getElem? hj)))
    refine ⟨_, r, ?_, hreceives⟩
    have hlt := (List.getElem?_eq_some_iff.mp hslot).1
    simp only [Checked.index_of (List.getElem?_set_self hlt), Checked.ok_bind, hrec,
      List.set_set]
    rfl

lemma step_inv (h : Inv t) (cfg : ReassemblyConfig) (event : ReassemblyEvent κ) :
    ∃ t' o, t.step cfg event = .ok (t', o) ∧ Inv t' := by
  cases event with
  | fragment expiresAt frag =>
    obtain ⟨t', r, hstep, hreceives⟩ := step_fragment h cfg expiresAt frag
    exact ⟨t', _, hstep, hreceives.inv⟩
  | removeExpired timestamp => exact ⟨_, _, rfl, inv_removeExpired h timestamp⟩

/-- However fragments and expiries follow each other, at most one slot holds a key; a fragment
changes no slot but that of its key; and a packet that is complete has the size that was announced
and only octets that fragments of its key wrote since the slot was given to it, so it is the
datagram if these agree with one. -/
theorem reassembly_sound (cfg : ReassemblyConfig) (events : List (ReassemblyEvent κ)) :
    ∃ t outcomes, Machine.run (step cfg) (new cfg) events = .ok (t, outcomes) ∧
      (∀ (i j : ℕ) (slot slot' : PacketAssembler κ) (key : κ), t.set[i]? = some slot →
        t.set[j]? = some slot' → slot.key = some key → slot'.key = some key → i = j) ∧
      ∀ expiresAt frag, ∃ t' r, t.step cfg (.fragment expiresAt frag) = .ok (t', some r) ∧
        ((∀ payload, r ≠ .complete payload) → ∀ (i : ℕ) (slot : PacketAssembler κ),
          t'.set[i]? = some slot → slot.key ≠ some frag.key → t.set[i]? = some slot) ∧
        ∀ payload, r = .complete payload →
          (frag.totalSize = some payload.length ∨
            ∃ slot ∈ t.set, slot.key = some frag.key ∧ slot.totalSize = some payload.length) ∧
          (∀ p v, payload[p]? = some v → ∃ d ∈ t'.log frag.key, d.Writes p v) ∧
          ∀ datagram : List UInt8, datagram.length = payload.length →
            (∀ d ∈ t'.log frag.key, ∀ p v, d.Writes p v → datagram[p]? = some v) →
            payload = datagram := by
  obtain ⟨t, outcomes, hrun, hinv⟩ :=
    Machine.run_invariant (fun t event h => step_inv h cfg event) (inv_new cfg) events
  refine ⟨t, outcomes, hrun, hinv.unique, fun expiresAt frag => ?_⟩
  obtain ⟨t', r, hstep, hreceives⟩ := step_fragment hinv cfg expiresAt frag
  refine ⟨t', r, hstep, hreceives.others, fun payload hp => ?_⟩
  have hwritten := hreceives.written payload hp
  refine ⟨hreceives.length payload hp, hwritten, fun datagram hlen hagree => ?_⟩
  refine List.ext_getElem? fun p => ?_
  cases hv : payload[p]? with
  | none =>
    rw [List.getElem?_eq_none_iff] at hv
    rw [List.getElem?_eq_none (by omega)]
  | some v =>
    obtain ⟨d, hd, hw⟩ := hwritten p v hv
    exact (hagree d hd p v hw).symm

/-- Fragments of two packets in two slots. -/
theorem reassembly_sound_interleaved : ∃ t outcomes,
    Machine.run (step ⟨true, 4, by decide, 0, 2⟩) (new ⟨true, 4, by decide, 0, 2⟩)
      [.fragment 9 ⟨'a', some 3, .octets [3] 2⟩, .fragment 9 ⟨'b', none, .octets [7] 0⟩,
        .fragment 9 ⟨'a', none, .octets [1, 2] 0⟩] = .ok (t, outcomes) ∧
      outcomes = [some .incomplete, some .incomplete, some (.complete [1, 2, 3])] ∧
      ∀ (i j : ℕ) (slot slot' : PacketAssembler Char) (key : Char), t.set[i]? = some slot →
        t.set[j]? = some slot' → slot.key = some key → slot'.key = some key → i = j := by
  obtain ⟨t, outcomes, hrun, hunique, -⟩ := reassembly_sound ⟨true, 4, by decide, 0, 2⟩
    [.fragment 9 ⟨'a', some 3, .octets [3] 2⟩, .fragment 9 ⟨'b', none, .octets [7] 0⟩,
      .fragment 9 ⟨'a', none, .octets [1, 2] 0⟩]
  refine ⟨t, outcomes, hrun, ?_, hunique⟩
  cases hrun
  rfl

end Tracked

end Smoltcp
