import Smoltcp.Storage.Assembler.Refinement
import Smoltcp.Iface.Reassembly
import Smoltcp.Iface.Staging

/-!
# Fragmentation and reassembly

The fragments of a datagram are pieces of its payload that agree on the key and on the total size.
A slot that receives pieces of one payload holds what was received of it; when nothing is missing
the payload is handed out, in whatever order the pieces came and however often.
-/

namespace Smoltcp

open Octets Ipv4 PacketAssembler PacketAssemblerSet

/-! ### What `process_ipv4` does with a fragment -/

/-- The fragment in a packet. -/
def ipv4Fragment (buf : List UInt8) : Checked (Fragment Key) := do
  let offset := (fragOffset buf).toNat
  if moreFrags buf then return ⟨getKey buf, none, .octets (payload buf) offset⟩
  else
    -- This is the last fragment, so we know the total size.
    let len ← Checked.sub (totalLen buf).toNat (headerLen buf)
    return ⟨getKey buf, some (len + offset), .octets (payload buf) offset⟩

/-- The part of `process_ipv4` that finds the payload of a packet that was parsed. -/
def ipv4Payload (cfg : ReassemblyConfig) (set : PacketAssemblerSet Key)
    (packet : Instant × List UInt8) : Checked (PacketAssemblerSet Key × Received) :=
  if moreFrags packet.2 ∨ fragOffset packet.2 ≠ 0 then do
    let frag ← ipv4Fragment packet.2
    set.receive cfg packet.1 frag
  else .ok (set, .complete (payload packet.2))

/-! ### Pieces of a payload -/

/-- The positions that a packet has octets for. -/
def span (buf : List UInt8) : Set ℕ :=
  Set.Ico (fragOffset buf).toNat ((fragOffset buf).toNat + (payload buf).length)

/-- The positions that some packet has octets for. -/
def spans (bufs : List (List UInt8)) : Set ℕ := {p | ∃ buf ∈ bufs, p ∈ span buf}

lemma spans_append_singleton (bufs : List (List UInt8)) (buf : List UInt8) :
    spans (bufs ++ [buf]) = spans bufs ∪ span buf := by
  ext p
  simp [spans, or_and_right, exists_or]

/-- Each packet adds at most one run. -/
lemma count_spans_le (bufs : List (List UInt8)) : Runs.count (spans bufs) ≤ bufs.length := by
  have hunion : spans bufs = Runs.union (bufs.map fun buf =>
      ((fragOffset buf).toNat, (fragOffset buf).toNat + (payload buf).length)) := by
    ext p
    simp [spans, span, Runs.union]
  rw [hunion]
  exact (Runs.count_union_le _).trans (List.length_map ..).le

/-- A packet that is a fragment of the given payload. -/
structure PieceOf (key : Key) (data : List UInt8) (buf : List UInt8) : Prop where
  key : getKey buf = key
  fragment : moreFrags buf ∨ fragOffset buf ≠ 0
  headerLen_le : headerLen buf ≤ (totalLen buf).toNat
  total : ¬ moreFrags buf →
    (totalLen buf).toNat - headerLen buf + (fragOffset buf).toNat = data.length
  octets : ∀ p ∈ span buf, data[p]? = (payload buf)[p - (fragOffset buf).toNat]?
  end_le : (fragOffset buf).toNat + (payload buf).length ≤ data.length

section

variable {cfg : ReassemblyConfig} {key : Key} {data : List UInt8} {buf : List UInt8}
  {bufs : List (List UInt8)} {slot slot' : PacketAssembler Key} {set : PacketAssemblerSet Key}

/-- The slot holds what was received of a payload. -/
structure Filling (cfg : ReassemblyConfig) (key : Key) (data : List UInt8)
    (bufs : List (List UInt8)) (slot : PacketAssembler Key) : Prop where
  key : slot.key = some key
  denotes : slot.assembler.Denotes cfg.assemblerMaxSegmentCount (spans bufs)
  octets : ∀ p ∈ spans bufs, slot.buffer[p]? = data[p]?
  spans_lt : ∀ p ∈ spans bufs, p < data.length
  total : ∀ n, slot.totalSize = some n → n = data.length ∧ n ≤ slot.buffer.length
  known : (∃ buf ∈ bufs, ¬ moreFrags buf) → slot.totalSize = some data.length
  room : cfg.alloc ∨ data.length ≤ slot.buffer.length

lemma Filling.resize (h : Filling cfg key data bufs slot) {size : ℕ} (hsize : size ≤ data.length) :
    ∃ slot', slot.resize cfg size = .ok slot' ∧ Filling cfg key data bufs slot' ∧
      slot'.totalSize = slot.totalSize ∧ size ≤ slot'.buffer.length := by
  have hok : ∃ slot', slot.resize cfg size = .ok slot' := by
    unfold PacketAssembler.resize
    split_ifs with hlt halloc
    · exact ⟨_, rfl⟩
    · rcases h.room with hroom | hroom
      · exact absurd hroom halloc
      · omega
    · exact ⟨_, rfl⟩
  obtain ⟨slot', hresize⟩ := hok
  have hgrows := resize_grows hresize
  obtain ⟨rest, hrest⟩ := hgrows.buffer
  refine ⟨slot', hresize, ⟨hgrows.key.trans h.key, ?_, ?_, h.spans_lt, ?_,
    hgrows.totalSize ▸ h.known, ?_⟩, hgrows.totalSize, hgrows.length⟩
  · rw [hgrows.assembler]
    exact h.denotes
  · intro p hp
    have hoctet := h.octets p hp
    rw [List.getElem?_eq_getElem (h.spans_lt p hp)] at hoctet
    rw [← hrest, List.getElem?_append_left (List.getElem?_eq_some_iff.mp hoctet).1, hoctet,
      List.getElem?_eq_getElem (h.spans_lt p hp)]
  · intro n hn
    rw [hgrows.totalSize] at hn
    exact ⟨(h.total n hn).1, (h.total n hn).2.trans hgrows.buffer.length_le⟩
  · exact h.room.imp_right fun hle => hle.trans hgrows.buffer.length_le

lemma Filling.setTotalSize (h : Filling cfg key data bufs slot) :
    ∃ slot', slot.setTotalSize cfg data.length = .ok slot' ∧ Filling cfg key data bufs slot' ∧
      slot'.totalSize = some data.length := by
  obtain ⟨slot', hresize, h', -, hle⟩ := h.resize le_rfl
  have hsame : ¬ slot.totalSize.any (· ≠ data.length) := by
    cases htotal : slot.totalSize with
    | none => simp
    | some n => simp [(h.total n htotal).1]
  refine ⟨{ slot' with totalSize := some data.length }, ?_,
    ⟨h'.key, h'.denotes, h'.octets, h'.spans_lt, ?_, fun _ => rfl, h'.room⟩, rfl⟩
  · unfold PacketAssembler.setTotalSize
    rw [if_neg hsame, hresize]
    rfl
  · intro n hn
    cases hn
    exact ⟨rfl, hle⟩

/-- A piece is recorded, as long as there is room for the runs that it leaves. -/
lemma Filling.addData (h : Filling cfg key data bufs slot) (hbuf : PieceOf key data buf)
    (hlast : ¬ moreFrags buf → slot.totalSize = some data.length)
    (hcount : Runs.count (spans (bufs ++ [buf])) ≤ cfg.assemblerMaxSegmentCount) :
    ∃ slot', slot.addData cfg (.octets (payload buf) (fragOffset buf).toNat) =
        .ok (slot', .ok ()) ∧
      Filling cfg key data (bufs ++ [buf]) slot' := by
  rw [spans_append_singleton] at hcount
  obtain ⟨slot₁, hresize, h₁, htotal, hle⟩ := h.resize hbuf.end_le
  obtain ⟨assembler, hadd⟩ : ∃ assembler,
      slot₁.assembler.add (fragOffset buf).toNat (payload buf).length = .ok assembler := by
    cases hadd : slot₁.assembler.add (fragOffset buf).toNat (payload buf).length with
    | ok assembler => exact ⟨assembler, rfl⟩
    | error e =>
      have hlt := h₁.denotes.add_error hadd
      rw [span] at hcount
      omega
  have hbytes := List.getElem?_overwrite hle
  refine ⟨{ slot₁ with
    buffer := slot₁.buffer.overwrite (fragOffset buf).toNat (payload buf)
    assembler }, ?_, ?_⟩
  · unfold PacketAssembler.addData PacketAssembler.add
    simp only [hresize, bind, Except.bind, PacketAssembler.record, hadd]
    rfl
  refine ⟨h₁.key, ?_, ?_, ?_, ?_, ?_, ?_⟩
  · rw [spans_append_singleton]
    exact h₁.denotes.add hadd
  · intro p hp
    rw [spans_append_singleton] at hp
    rw [hbytes]
    split_ifs with hin
    · rw [hbuf.octets p hin]
    · rcases hp with hp | hp
      · exact h₁.octets p hp
      · exact absurd hp hin
  · intro p hp
    rw [spans_append_singleton] at hp
    rcases hp with hp | hp
    · exact h₁.spans_lt p hp
    · exact hp.2.trans_le hbuf.end_le
  · rw [List.length_overwrite hle]
    exact h₁.total
  · rintro ⟨b, hb, hmore⟩
    rcases List.mem_append.mp hb with hb | hb
    · exact h₁.known ⟨b, hb, hmore⟩
    · rw [List.mem_singleton.mp hb] at hmore
      exact htotal.trans (hlast hmore)
  · rw [List.length_overwrite hle]
    exact h₁.room

/-- The payload is handed out when its size is known and nothing is missing. -/
lemma Filling.finish_complete (h : Filling cfg key data bufs slot)
    (htotal : slot.totalSize = some data.length) (hall : ∀ p < data.length, p ∈ spans bufs) :
    slot.finish = .ok (slot.reset, .complete data) := by
  have hle := (h.total _ htotal).2
  have hfront : slot.assembler.peekFront = data.length := by
    obtain ⟨hlt, hnot⟩ := slot.assembler.peekFront_spec
    rcases lt_trichotomy slot.assembler.peekFront data.length with hcmp | heq | hcmp
    · exact absurd ((h.denotes.covers _).mpr (hall _ hcmp)) hnot
    · exact heq
    · exact absurd (h.spans_lt _ ((h.denotes.covers _).mp (hlt _ hcmp))) (lt_irrefl _)
  have hcomplete : slot.isComplete := by
    rw [isComplete, hfront, htotal]
  have htake : slot.buffer.take data.length = data := by
    refine List.ext_getElem? fun p => ?_
    by_cases hp : p < data.length
    · rw [List.getElem?_take_of_lt hp, h.octets p (hall p hp)]
    · rw [List.getElem?_eq_none (by rw [List.length_take]; omega), List.getElem?_eq_none (by omega)]
  have hslice : Checked.slice slot.reset.buffer 0 data.length = .ok data := by
    change Checked.slice slot.buffer 0 data.length = .ok data
    rw [Checked.slice_of (Nat.zero_le _) hle]
    exact congrArg Except.ok htake
  unfold finish PacketAssembler.assemble
  rw [if_pos hcomplete, htotal, Checked.unwrap, Checked.ok_bind]
  dsimp only
  rw [hslice]
  rfl

lemma Filling.finish_incomplete (h : Filling cfg key data bufs slot) {p : ℕ}
    (hp : p < data.length) (hmissing : p ∉ spans bufs) : slot.finish = .ok (slot, .incomplete) := by
  have hcomplete : ¬ slot.isComplete := by
    intro hc
    have hlen := (h.total _ hc).1
    exact hmissing ((h.denotes.covers p).mp (slot.assembler.peekFront_spec.1 p (by omega)))
  unfold finish PacketAssembler.assemble
  rw [if_neg hcomplete]
  rfl

/-- A piece in the slot of its payload. -/
lemma Filling.receive (h : Filling cfg key data bufs slot) (hbuf : PieceOf key data buf)
    (hcount : Runs.count (spans (bufs ++ [buf])) ≤ cfg.assemblerMaxSegmentCount) :
    ∃ frag slot', ipv4Fragment buf = .ok frag ∧ frag.key = key ∧
      slot.receive cfg frag = slot'.finish ∧ Filling cfg key data (bufs ++ [buf]) slot' := by
  unfold ipv4Fragment
  by_cases hmore : moreFrags buf
  · obtain ⟨slot', hadd, h'⟩ := h.addData hbuf (fun hlast => absurd hmore hlast) hcount
    refine ⟨_, slot', if_pos hmore, hbuf.key, ?_, h'⟩
    simp only [PacketAssembler.receive, PacketAssembler.receiveData, hadd]
    rfl
  · obtain ⟨slot₁, hset, h₁, htotal⟩ := h.setTotalSize
    obtain ⟨slot', hadd, h'⟩ := h₁.addData hbuf (fun _ => htotal) hcount
    refine ⟨⟨getKey buf, some data.length, .octets (payload buf) (fragOffset buf).toNat⟩, slot', ?_,
      hbuf.key, ?_, h'⟩
    · rw [if_neg hmore, Checked.sub_of_le hbuf.headerLen_le, ← hbuf.total hmore]
      rfl
    · simp only [PacketAssembler.receive, hset, PacketAssembler.receiveData, hadd]
      rfl

/-! ### All slots -/

/-- The slot that the key is given holds what was received of a payload. -/
def Serves (cfg : ReassemblyConfig) (key : Key) (data : List UInt8) (bufs : List (List UInt8))
    (set : PacketAssemblerSet Key) : Prop :=
  ∀ expiresAt, ∃ set' i slot, set.get key expiresAt = .ok (set', i) ∧ set'[i]? = some slot ∧
    Filling cfg key data bufs slot ∧
    ∀ (j : ℕ) (slot' : PacketAssembler Key), set'[j]? = some slot' → slot'.key = some key → j = i

/-- A slot that holds the key is found again. -/
lemma Filling.serves {i : ℕ} (h : Filling cfg key data bufs slot) (hslot : set[i]? = some slot)
    (hunique : ∀ (j : ℕ) (slot' : PacketAssembler Key), set[j]? = some slot' →
      slot'.key = some key → j = i) : Serves cfg key data bufs set := by
  intro expiresAt
  have hget := get_rule set key expiresAt
  generalize set.get key expiresAt = x at hget
  cases hget with
  | full hnone => exact absurd h.key (hnone slot (List.mem_of_getElem? hslot))
  | created _ _ hnone => exact absurd h.key (hnone slot (List.mem_of_getElem? hslot))
  | @found j slot' hslot' hkey =>
    obtain rfl := hunique j slot' hslot' hkey
    exact ⟨set, j, slot, rfl, hslot, h, hunique⟩

/-- What a piece of the payload does. -/
lemma Serves.payload (h : Serves cfg key data bufs set) (hbuf : PieceOf key data buf)
    (expiresAt : Instant)
    (hcount : Runs.count (spans (bufs ++ [buf])) ≤ cfg.assemblerMaxSegmentCount) :
    ((∃ p < data.length, p ∉ spans (bufs ++ [buf])) →
      ∃ set', ipv4Payload cfg set (expiresAt, buf) = .ok (set', .incomplete) ∧
        Serves cfg key data (bufs ++ [buf]) set') ∧
    ((∀ p < data.length, p ∈ spans (bufs ++ [buf])) → (∃ b ∈ bufs ++ [buf], ¬ moreFrags b) →
      ∃ set', ipv4Payload cfg set (expiresAt, buf) = .ok (set', .complete data)) := by
  obtain ⟨set₁, i, slot, hget, hslot, hfill, hunique⟩ := h expiresAt
  obtain ⟨frag, slot', hfrag, hkey, hreceive, hfill'⟩ := hfill.receive hbuf hcount
  have hpayload : ∀ (slot'' : PacketAssembler Key) (r : Received),
      slot'.finish = .ok (slot'', r) →
      ipv4Payload cfg set (expiresAt, buf) = .ok (set₁.set i slot'', r) := by
    intro slot'' r hfinish
    unfold ipv4Payload PacketAssemblerSet.receive
    rw [if_pos hbuf.fragment]
    simp only [hfrag, Checked.ok_bind, hkey, hget, Checked.index_of hslot, hreceive, hfinish]
    rfl
  refine ⟨?_, ?_⟩
  · rintro ⟨p, hp, hmissing⟩
    refine ⟨_, hpayload _ _ (hfill'.finish_incomplete hp hmissing), ?_⟩
    have hlt := (List.getElem?_eq_some_iff.mp hslot).1
    refine hfill'.serves (List.getElem?_set_self hlt) fun j slot'' hj hk => ?_
    by_contra hne
    rw [List.getElem?_set_ne (Ne.symm hne)] at hj
    exact hne (hunique j slot'' hj hk)
  · intro hall hlast
    exact ⟨_, hpayload _ _ (hfill'.finish_complete (hfill'.known hlast) hall)⟩

/-- Pieces that come in any order, until the last one is there. -/
lemma Serves.run {feed : List (Instant × List UInt8)} {last : Instant × List UInt8}
    (h : Serves cfg key data bufs set)
    (hpieces : ∀ x ∈ feed ++ [last], PieceOf key data x.2)
    (hcount : ∀ fed, fed <+: feed ++ [last] →
      Runs.count (spans (bufs ++ fed.map Prod.snd)) ≤ cfg.assemblerMaxSegmentCount)
    (hmissing : ∃ p < data.length, p ∉ spans (bufs ++ feed.map Prod.snd))
    (hall : ∀ p < data.length, p ∈ spans (bufs ++ (feed ++ [last]).map Prod.snd))
    (hlast : ∃ b ∈ bufs ++ (feed ++ [last]).map Prod.snd, ¬ moreFrags b) :
    ∃ set', Machine.run (ipv4Payload cfg) set (feed ++ [last]) =
      .ok (set', List.replicate feed.length .incomplete ++ [.complete data]) := by
  induction feed generalizing set bufs with
  | nil =>
    have hstep := (h.payload (hpieces last (by simp)) last.1
      (hcount [last] List.prefix_rfl)).2 hall hlast
    obtain ⟨set', hset⟩ := hstep
    refine ⟨set', ?_⟩
    simp only [List.nil_append, Machine.run, hset]
    rfl
  | cons x feed ih =>
    rw [List.cons_append] at hpieces hcount hall hlast ⊢
    rw [List.map_cons, List.append_cons] at hmissing hall hlast
    -- what is missing at the end is missing now
    have hnow : ∃ p < data.length, p ∉ spans (bufs ++ [x.2]) := by
      obtain ⟨p, hp, hnot⟩ := hmissing
      refine ⟨p, hp, fun hmem => hnot ?_⟩
      obtain ⟨b, hb, hspan⟩ := hmem
      exact ⟨b, List.mem_append_left _ hb, hspan⟩
    have hfirst : Runs.count (spans (bufs ++ [x.2])) ≤ cfg.assemblerMaxSegmentCount := by
      simpa using hcount [x] (by simp)
    obtain ⟨set₁, hset₁, hserves⟩ :=
      (h.payload (hpieces x (List.mem_cons_self ..)) x.1 hfirst).1 hnow
    obtain ⟨set', hrun⟩ := ih hserves
      (fun y hy => hpieces y (List.mem_cons_of_mem _ hy))
      (fun fed hfed => by
        have := hcount (x :: fed) (by simpa using hfed)
        simpa using this)
      hmissing hall hlast
    refine ⟨set', ?_⟩
    simp only [Machine.run, hset₁, hrun, Checked.ok_bind]
    rfl

end

/-! ### Slots that never shrink -/

/-- The room of a slot. -/
structure Fitted (cfg : ReassemblyConfig) (slot : PacketAssembler Key) : Prop where
  contigs : slot.assembler.contigs.length = cfg.assemblerMaxSegmentCount
  buffer : cfg.alloc ∨ cfg.reassemblyBufferSize ≤ slot.buffer.length

section

variable {cfg : ReassemblyConfig} {slot slot' : PacketAssembler Key} {r : Received}

lemma fitted_new (cfg : ReassemblyConfig) : Fitted cfg (PacketAssembler.new cfg) := by
  refine ⟨List.length_replicate .., ?_⟩
  by_cases halloc : cfg.alloc
  · exact .inl halloc
  · refine .inr ?_
    simp [PacketAssembler.new, halloc]

lemma Fitted.reset (h : Fitted cfg slot) : Fitted cfg slot.reset :=
  ⟨(List.length_replicate ..).trans h.contigs, h.buffer⟩

lemma Fitted.grows {size : ℕ} (h : Fitted cfg slot) (hgrows : Grows slot slot' size) :
    Fitted cfg slot' := by
  refine ⟨?_, h.buffer.imp_right fun hle => hle.trans hgrows.buffer.length_le⟩
  rw [hgrows.assembler]
  exact h.contigs

lemma Fitted.record (h : Fitted cfg slot) (offset len : ℕ) :
    Fitted cfg (slot.record offset len) := by
  unfold PacketAssembler.record
  cases hadd : slot.assembler.add offset len with
  | error e => exact h
  | ok assembler => exact ⟨(Assembler.length_add hadd).trans h.contigs, h.buffer⟩

lemma Fitted.setTotalSize {size : ℕ} (h : Fitted cfg slot)
    (hset : slot.setTotalSize cfg size = .ok slot') : Fitted cfg slot' := by
  unfold PacketAssembler.setTotalSize at hset
  split_ifs at hset
  cases hresize : slot.resize cfg size with
  | error e =>
    rw [hresize] at hset
    cases hset
  | ok slot₁ =>
    rw [hresize] at hset
    cases hset
    have h₁ := h.grows (resize_grows hresize)
    exact ⟨h₁.contigs, h₁.buffer⟩

lemma Fitted.addData {d : FragmentData} {e : Except AssemblerError Unit} (h : Fitted cfg slot)
    (hadd : slot.addData cfg d = .ok (slot', e)) : Fitted cfg slot' := by
  cases d with
  | octets data offset =>
    unfold PacketAssembler.addData PacketAssembler.add at hadd
    cases hresize : slot.resize cfg (offset + data.length) with
    | error e =>
      simp only [hresize, bind, Except.bind] at hadd
      cases hadd
      exact h
    | ok slot₁ =>
      simp only [hresize, bind, Except.bind] at hadd
      cases hadd
      have hgrows := resize_grows hresize
      have h₁ := h.grows hgrows
      have h₂ : Fitted cfg { slot₁ with buffer := slot₁.buffer.overwrite offset data } :=
        ⟨h₁.contigs, by rw [List.length_overwrite hgrows.length]; exact h₁.buffer⟩
      exact h₂.record _ _
  | compressed f =>
    change slot.addWith 0 f = .ok (slot', e) at hadd
    unfold PacketAssembler.addWith at hadd
    rw [if_neg (Nat.not_lt_zero _)] at hadd
    have h₁ : ∀ writes, Fitted cfg { slot with buffer := writeOctets 0 slot.buffer writes } :=
      fun writes => ⟨h.contigs, by rw [length_writeOctets]; exact h.buffer⟩
    dsimp only at hadd
    split at hadd
    · cases hadd
      exact h₁ _
    · obtain ⟨-, -, hadd⟩ := Checked.bind_eq_ok.mp hadd
      cases hadd
      exact (h₁ _).record _ _

lemma Fitted.receiveData {d : FragmentData} (h : Fitted cfg slot)
    (hreceive : slot.receiveData cfg d = .ok (slot', r)) : Fitted cfg slot' := by
  obtain ⟨⟨slot₁, e⟩, hadd, hrest⟩ := Checked.bind_eq_ok.mp hreceive
  have h₁ := h.addData hadd
  cases e with
  | error e =>
    cases hrest
    exact h₁
  | ok u =>
    obtain ⟨⟨slot₂, o⟩, hassemble, hrest⟩ :=
      Checked.bind_eq_ok.mp (show slot₁.finish = _ from hrest)
    have h₂ : Fitted cfg slot₂ := by
      unfold PacketAssembler.assemble at hassemble
      split_ifs at hassemble
      · obtain ⟨n, -, hassemble⟩ := Checked.bind_eq_ok.mp hassemble
        obtain ⟨payload, -, hassemble⟩ := Checked.bind_eq_ok.mp hassemble
        cases hassemble
        exact h₁.reset
      · cases hassemble
        exact h₁
    cases o <;> (cases hrest; exact h₂)

lemma Fitted.receive {frag : Fragment Key} (h : Fitted cfg slot)
    (hreceive : slot.receive cfg frag = .ok (slot', r)) : Fitted cfg slot' := by
  unfold PacketAssembler.receive at hreceive
  split at hreceive
  · exact h.receiveData hreceive
  · split at hreceive
    · cases hreceive
      exact h
    · next hset => exact (h.setTotalSize hset).receiveData hreceive

lemma fitted_step {t t' : Tracked Key} {event : ReassemblyEvent Key} {o : Option Received}
    (hstep : t.step cfg event = .ok (t', o)) (h : ∀ slot ∈ t.set, Fitted cfg slot) :
    ∀ slot ∈ t'.set, Fitted cfg slot := by
  cases event with
  | removeExpired timestamp =>
    cases hstep
    intro slot hmem
    obtain ⟨slot₀, hmem₀, rfl⟩ := List.mem_map.mp hmem
    split_ifs
    · exact (h slot₀ hmem₀).reset
    · exact h slot₀ hmem₀
  | fragment expiresAt frag =>
    obtain ⟨⟨set', r⟩, hreceive, hstep⟩ := Checked.bind_eq_ok.mp hstep
    cases hstep
    -- a slot is as it was, or it is the one that the fragment went to
    have hset : ∀ (set₁ : PacketAssemblerSet Key) (i : ℕ) (slot₀ slot₁ : PacketAssembler Key),
        set₁[i]? = some slot₀ → slot₀.receive cfg frag = .ok (slot₁, r) →
        (∀ slot ∈ set₁, Fitted cfg slot) → ∀ slot ∈ set₁.set i slot₁, Fitted cfg slot := by
      intro set₁ i slot₀ slot₁ hslot₀ hslot₁ h₁ slot hmem
      rcases List.mem_or_eq_of_mem_set hmem with hmem | rfl
      · exact h₁ slot hmem
      · exact (h₁ slot₀ (List.mem_of_getElem? hslot₀)).receive hslot₁
    have hget := get_rule t.set frag.key expiresAt
    unfold PacketAssemblerSet.receive at hreceive
    generalize t.set.get frag.key expiresAt = x at hget hreceive
    cases hget with
    | full hnone =>
      cases hreceive
      exact h
    | @found i slot₀ hslot₀ hkey =>
      obtain ⟨slot, hindex, hrest⟩ := Checked.bind_eq_ok.mp hreceive
      rw [Checked.index_of hslot₀] at hindex
      cases hindex
      obtain ⟨⟨slot₁, r₁⟩, hslot₁, hrest⟩ := Checked.bind_eq_ok.mp hrest
      cases hrest
      exact hset _ _ _ _ hslot₀ hslot₁ h
    | @created i slot₀ hslot₀ hfree hnone =>
      have hlt := (List.getElem?_eq_some_iff.mp hslot₀).1
      have h₀ := h slot₀ (List.mem_of_getElem? hslot₀)
      have hself := List.getElem?_set_self (a := { slot₀ with key := some frag.key, expiresAt }) hlt
      obtain ⟨slot, hindex, hrest⟩ := Checked.bind_eq_ok.mp hreceive
      rw [Checked.index_of hself] at hindex
      cases hindex
      obtain ⟨⟨slot₁, r₁⟩, hslot₁, hrest⟩ := Checked.bind_eq_ok.mp hrest
      cases hrest
      refine hset _ _ _ _ hself hslot₁ fun slot hmem => ?_
      rcases List.mem_or_eq_of_mem_set hmem with hmem | rfl
      · exact h slot hmem
      · exact ⟨h₀.contigs, h₀.buffer⟩

/-- What holds of the slots after any fragments and expiries. -/
lemma run_fitted {events : List (ReassemblyEvent Key)} {t : Tracked Key}
    {outcomes : List (Option Received)}
    (hrun : Machine.run (Tracked.step cfg) (.new cfg) events = .ok (t, outcomes)) :
    t.Inv ∧ ∀ slot ∈ t.set, Fitted cfg slot := by
  have hstep : ∀ (t : Tracked Key) (event : ReassemblyEvent Key),
      (t.Inv ∧ ∀ slot ∈ t.set, Fitted cfg slot) →
      ∃ t' o, t.step cfg event = .ok (t', o) ∧ t'.Inv ∧ ∀ slot ∈ t'.set, Fitted cfg slot := by
    rintro t event ⟨hinv, hfit⟩
    obtain ⟨t', o, hstep, hinv'⟩ := Tracked.step_inv hinv cfg event
    exact ⟨t', o, hstep, hinv', fitted_step hstep hfit⟩
  have hnew : ∀ slot ∈ (Tracked.new cfg : Tracked Key).set, Fitted cfg slot := by
    intro slot hmem
    rw [List.eq_of_mem_replicate hmem]
    exact fitted_new cfg
  obtain ⟨t', rs, hrun', h⟩ := Machine.run_invariant hstep ⟨Tracked.inv_new cfg, hnew⟩ events
  rw [hrun] at hrun'
  cases hrun'
  exact h

/-- The search ends with a free slot, if there is one. -/
lemma search_isSome {set : PacketAssemblerSet Key} {key : Key} {e r : Option ℕ} {i : ℕ}
    (h : search key e i set = .inr r) (hfree : e.isSome ∨ ∃ slot ∈ set, slot.isFree) :
    r.isSome := by
  induction set generalizing i e with
  | nil =>
    cases h
    simpa using hfree
  | cons slot rest ih =>
    rw [search] at h
    split_ifs at h with hkey hslot
    · exact ih h (.inl rfl)
    · refine ih h ?_
      rcases hfree with he | ⟨slot', hmem, hfree⟩
      · exact .inl he
      · rcases List.mem_cons.mp hmem with rfl | hmem
        · exact absurd hfree hslot
        · exact .inr ⟨slot', hmem, hfree⟩

/-- A key that holds no slot is given a free one, which holds nothing. -/
lemma serves_nil {t : Tracked Key} {key : Key} {data : List UInt8} (hinv : t.Inv)
    (hfit : ∀ slot ∈ t.set, Fitted cfg slot) (hnew : ¬ t.set.Holds key)
    (hfree : ∃ slot ∈ t.set, slot.isFree)
    (hroom : cfg.alloc ∨ data.length ≤ cfg.reassemblyBufferSize) :
    Serves cfg key data [] t.set := by
  intro expiresAt
  have hget := get_rule t.set key expiresAt
  have hfull : t.set.get key expiresAt ≠ .error .mk := by
    unfold PacketAssemblerSet.get
    cases hsearch : search key none 0 t.set with
    | inl i => exact nofun
    | inr r =>
      obtain ⟨i, rfl⟩ := Option.isSome_iff_exists.mp (search_isSome hsearch (.inr hfree))
      exact nofun
  generalize t.set.get key expiresAt = x at hget hfull
  cases hget with
  | full hnone => exact absurd rfl hfull
  | @found i slot hslot hkey => exact absurd ⟨slot, List.mem_of_getElem? hslot, hkey⟩ hnew
  | @created i slot hslot hkey hnone =>
    have hmem := List.mem_of_getElem? hslot
    have hlt := (List.getElem?_eq_some_iff.mp hslot).1
    obtain ⟨hsound, htotal⟩ := hinv.free slot hmem hkey
    have hfitted := hfit slot hmem
    refine ⟨_, i, _, rfl, List.getElem?_set_self hlt,
      ⟨rfl, ⟨hfitted.contigs, ?_⟩, ?_, ?_, ?_, ?_, ?_⟩,
      ?_⟩
    · intro p
      refine ⟨fun hp => ?_, fun hp => ?_⟩
      · obtain ⟨v, -, d, hd, -⟩ := hsound.written p hp
        cases hd
      · obtain ⟨b, hb, -⟩ := hp
        cases hb
    · rintro p ⟨b, hb, -⟩
      cases hb
    · rintro p ⟨b, hb, -⟩
      cases hb
    · intro n hn
      rw [show slot.totalSize = some n from hn] at htotal
      cases htotal
    · rintro ⟨b, hb, -⟩
      cases hb
    · rcases hroom with halloc | hle
      · exact .inl halloc
      · exact hfitted.buffer.imp_right hle.trans
    · intro j slot' hj hk
      by_contra hne
      rw [List.getElem?_set_ne (Ne.symm hne)] at hj
      exact hnone slot' (List.mem_of_getElem? hj) hk

end

/-! ### The fragments of a datagram -/

/-- Fragments that tile a payload. -/
structure Tiling (caps : DeviceCapabilities) (dst : EthernetAddress) (data : List UInt8)
    (frames : List Frame) : Prop where
  dst : ∀ f ∈ frames, f.dstHardwareAddr = dst
  payload : (frames.map fun f => payload f.packet).flatten = data
  /-- A fragment starts where the ones before it end. -/
  fragOffset : ∀ i f, frames[i]? = some f → (fragOffset f.packet).toNat =
    ((frames.take i).map fun f => Ipv4.payload f.packet).flatten.length
  moreFrags : ∀ i f, frames[i]? = some f → (moreFrags f.packet ↔ i + 1 < frames.length)
  aligned : ∀ i f, frames[i]? = some f → i + 1 < frames.length →
    8 ∣ (Ipv4.payload f.packet).length
  totalLen : ∀ f ∈ frames, (totalLen f.packet).toNat = f.packet.length ∧
    f.packet.length = 20 + (Ipv4.payload f.packet).length
  fits : ∀ f ∈ frames, f.packet.length ≤ caps.ipMtu
  /-- A receiver that verifies no more than was filled in accepts the fragments. -/
  parses : ∀ f ∈ frames, ∀ rx, (rx = true → caps.checksumIpv4Tx = true) →
    ∃ r, Repr.parse rx f.packet = .ok r

section

variable {caps : DeviceCapabilities} {d : Ipv4Stream}

/-- All fragments. -/
def Ipv4Stream.tiles (caps : DeviceCapabilities) (d : Ipv4Stream) : List Frame :=
  (List.range (d.count caps)).map (d.tile caps)

lemma flatten_chunks {α : Type} (l : List α) (n k : ℕ) :
    ((List.range k).map fun i => (l.drop (i * n)).take n).flatten = l.take (k * n) := by
  induction k with
  | zero => simp
  | succ k ih =>
    rw [List.range_succ, List.map_append, List.flatten_append, ih, Nat.succ_mul, List.take_add]
    simp

lemma Ipv4Stream.getElem?_tiles {i : ℕ} {f : Frame} :
    (d.tiles caps)[i]? = some f ↔ i < d.count caps ∧ d.tile caps i = f := by
  rw [tiles, List.getElem?_map, Option.map_eq_some_iff]
  constructor
  · rintro ⟨j, hj, rfl⟩
    obtain ⟨hlt, rfl⟩ := List.getElem?_eq_some_iff.mp hj
    rw [List.getElem_range]
    exact ⟨by simpa using hlt, rfl⟩
  · rintro ⟨hlt, rfl⟩
    exact ⟨i, by rw [List.getElem?_range hlt], rfl⟩

lemma Ipv4Stream.mem_tiles {f : Frame} :
    f ∈ d.tiles caps ↔ ∃ i < d.count caps, d.tile caps i = f := by
  simp [tiles]

lemma Ipv4Stream.length_tiles : (d.tiles caps).length = d.count caps := by simp [tiles]

lemma Ipv4Stream.payload_take_tiles (hpos : 0 < caps.fragLen) {k : ℕ} (hk : k ≤ d.count caps) :
    (((d.tiles caps).take k).map fun f => Ipv4.payload f.packet).flatten =
      d.payload.take (k * caps.fragLen) := by
  have hmap : ((d.tiles caps).take k).map (fun f => Ipv4.payload f.packet) =
      (List.range k).map fun i => (d.payload.drop (i * caps.fragLen)).take caps.fragLen := by
    rw [tiles, ← List.map_take, List.take_range, Nat.min_eq_left hk, List.map_map]
    refine List.map_congr_left fun i hi => ?_
    exact (reads_tile hpos ((List.mem_range.mp hi).trans_le hk)).payload
  rw [hmap, flatten_chunks]

lemma Ipv4Stream.fragOffset_tile (hpos : 0 < caps.fragLen) (halign : 8 ∣ caps.fragLen) {i : ℕ}
    (hi : i < d.count caps) : (fragOffset (d.tile caps i).packet).toNat = i * caps.fragLen := by
  rw [(reads_tile hpos hi).fragOffset, Nat.mod_eq_zero_of_dvd (halign.mul_left i), Nat.sub_zero]

lemma Ipv4Stream.tiling (hpos : 0 < caps.fragLen) (halign : 8 ∣ caps.fragLen) :
    Tiling caps d.dstHardwareAddr d.payload (d.tiles caps) := by
  have hlen : ∀ i < d.count caps, (d.tile caps i).packet.length = 20 + (d.data caps i).length := by
    intro i hi
    rw [tile, fragment, List.length_append, Header.length_octets, length_data, List.length_take,
      List.length_drop]
    omega
  refine ⟨?_, ?_, ?_, ?_, ?_, ?_, ?_, ?_⟩
  · intro f hf
    obtain ⟨i, hi, rfl⟩ := mem_tiles.mp hf
    rfl
  · have hall := payload_take_tiles (d := d) hpos le_rfl
    rw [← length_tiles, List.take_length, length_tiles] at hall
    rw [hall, List.take_of_length_le]
    by_contra hlt
    exact absurd ((lt_count hpos _).mpr (not_le.mp hlt)) (lt_irrefl _)
  · intro i f hf
    obtain ⟨hi, rfl⟩ := getElem?_tiles.mp hf
    have hlt := (lt_count hpos i).mp hi
    rw [fragOffset_tile hpos halign hi, payload_take_tiles hpos hi.le, List.length_take]
    omega
  · intro i f hf
    obtain ⟨hi, rfl⟩ := getElem?_tiles.mp hf
    rw [(reads_tile hpos hi).moreFrags, length_tiles, decide_eq_true_iff]
  · intro i f hf hnext
    obtain ⟨hi, rfl⟩ := getElem?_tiles.mp hf
    rw [length_tiles] at hnext
    rw [(reads_tile hpos hi).payload, length_data_of_lt hpos hnext]
    exact halign
  · intro f hf
    obtain ⟨i, hi, rfl⟩ := mem_tiles.mp hf
    rw [(reads_tile hpos hi).totalLen, (reads_tile hpos hi).payload, hlen i hi]
    exact ⟨rfl, rfl⟩
  · intro f hf
    obtain ⟨i, hi, rfl⟩ := mem_tiles.mp hf
    have hle := length_data caps d i
    rw [hlen i hi, hle]
    unfold DeviceCapabilities.fragLen ipv4HeaderLen at *
    omega
  · intro f hf rx hck
    obtain ⟨i, hi, rfl⟩ := mem_tiles.mp hf
    have hlt := (lt_count hpos i).mp hi
    exact parse_fragment (by omega) hck

lemma Ipv4Stream.span_tile (hpos : 0 < caps.fragLen) (halign : 8 ∣ caps.fragLen) {i : ℕ}
    (hi : i < d.count caps) {p : ℕ} :
    p ∈ span (d.tile caps i).packet ↔ i * caps.fragLen ≤ p ∧ p < d.payload.length ∧
      p < (i + 1) * caps.fragLen := by
  rw [span, fragOffset_tile hpos halign hi, (reads_tile hpos hi).payload, length_data, Set.mem_Ico,
    Nat.succ_mul]
  omega

lemma Ipv4Stream.pieceOf_tile (hpos : 0 < caps.fragLen) (halign : 8 ∣ caps.fragLen)
    (hlarge : caps.fragLen < d.payload.length) {i : ℕ} (hi : i < d.count caps) :
    PieceOf d.key d.payload (d.tile caps i).packet := by
  have hreads := reads_tile hpos hi
  have hoff := fragOffset_tile hpos halign hi
  have hlt := (lt_count hpos i).mp hi
  have hlen := length_data caps d i
  refine ⟨hreads.key, ?_, ?_, ?_, ?_, ?_⟩
  · cases i with
    | zero =>
      refine .inl (hreads.moreFrags.mpr (decide_eq_true ?_))
      rw [lt_count hpos]
      simpa using hlarge
    | succ i =>
      refine .inr fun hzero => ?_
      rw [hzero, Nat.succ_mul] at hoff
      simp at hoff
      omega
  · rw [hreads.headerLen, hreads.totalLen]
    omega
  · intro hmore
    rw [hreads.moreFrags, decide_eq_true_iff, lt_count hpos, Nat.succ_mul] at hmore
    rw [hreads.headerLen, hreads.totalLen, hoff, hlen]
    omega
  · intro p hp
    obtain ⟨hlo, hhi, hend⟩ := (span_tile hpos halign hi).mp hp
    rw [Nat.succ_mul] at hend
    rw [hreads.payload, hoff, data, List.getElem?_take_of_lt (by omega), List.getElem?_drop]
    congr 1
    omega
  · rw [hoff, hreads.payload, hlen]
    omega

/-- Fragments of a datagram that come in any order, any number of times. -/
lemma Ipv4Stream.reassembles (hpos : 0 < caps.fragLen) (halign : 8 ∣ caps.fragLen)
    (hlarge : caps.fragLen < d.payload.length) {cfg : ReassemblyConfig}
    {set : PacketAssemblerSet Key} (hserves : Serves cfg d.key d.payload [] set)
    {feed : List (Instant × List UInt8)} {last : Instant × List UInt8}
    (hfeed : ∀ x ∈ feed ++ [last], ∃ f ∈ d.tiles caps, x.2 = f.packet)
    (hall : ∀ f ∈ d.tiles caps, ∃ x ∈ feed ++ [last], x.2 = f.packet)
    (hlast : ∀ x ∈ feed, x.2 ≠ last.2)
    (hcount : ∀ fed, fed <+: feed ++ [last] →
      Runs.count (spans (fed.map Prod.snd)) ≤ cfg.assemblerMaxSegmentCount) :
    ∃ set', Machine.run (ipv4Payload cfg) set (feed ++ [last]) =
      .ok (set', List.replicate feed.length .incomplete ++ [.complete d.payload]) := by
  have htile : ∀ x ∈ feed ++ [last], ∃ i < d.count caps, x.2 = (d.tile caps i).packet := by
    intro x hx
    obtain ⟨f, hf, hxf⟩ := hfeed x hx
    obtain ⟨i, hi, rfl⟩ := mem_tiles.mp hf
    exact ⟨i, hi, hxf⟩
  have hfound : ∀ i < d.count caps, (d.tile caps i).packet ∈ (feed ++ [last]).map Prod.snd := by
    intro i hi
    obtain ⟨x, hx, hxf⟩ := hall _ (mem_tiles.mpr ⟨i, hi, rfl⟩)
    exact List.mem_map.mpr ⟨x, hx, hxf⟩
  refine hserves.run ?_ hcount ?_ ?_ ?_
  · intro x hx
    obtain ⟨i, hi, hxi⟩ := htile x hx
    rw [hxi]
    exact pieceOf_tile hpos halign hlarge hi
  · -- the first octet of the last fragment is missing before it comes
    obtain ⟨i, hi, hlasti⟩ := htile last (by simp)
    have hlt := (lt_count hpos i).mp hi
    refine ⟨i * caps.fragLen, hlt, ?_⟩
    rintro ⟨b, hb, hspan⟩
    obtain ⟨x, hx, rfl⟩ := List.mem_map.mp hb
    obtain ⟨j, hj, hxj⟩ := htile x (List.mem_append_left _ hx)
    rw [hxj, span_tile hpos halign hj] at hspan
    have hij : i = j := by
      have hle := Nat.le_of_mul_le_mul_right hspan.1 hpos
      have hge := Nat.lt_of_mul_lt_mul_right hspan.2.2
      omega
    exact hlast x hx (by rw [hxj, hlasti, hij])
  · intro p hp
    have hi : p / caps.fragLen < d.count caps :=
      (lt_count hpos _).mpr ((Nat.div_mul_le_self ..).trans_lt hp)
    refine ⟨_, hfound _ hi, (span_tile hpos halign hi).mpr ⟨Nat.div_mul_le_self .., hp, ?_⟩⟩
    exact (Nat.div_lt_iff_lt_mul hpos).mp (Nat.lt_succ_self _)
  · have hcount : 0 < d.count caps := (lt_count hpos 0).mpr (by omega)
    have hi : d.count caps - 1 < d.count caps := by omega
    refine ⟨_, hfound _ hi, ?_⟩
    rw [(reads_tile hpos hi).moreFrags, decide_eq_true_iff]
    omega

/-- With fragments of a multiple of 8 octets, a packet that is too large for the device is sent in
fragments that tile its payload, and whoever receives them, in any order and with duplicates, gets
the payload back with the last one that was missing. The limits of the receiver apply: a free slot,
a buffer that is large enough, and at no time more runs of received octets than an assembler can
hold. -/
theorem ipv4_fragmentation_round_trip {caps : DeviceCapabilities} {frag : Fragmenter}
    {repr : Ipv4.Repr} {emitPayload : Emitter}
    {out : { out : List UInt8 // out.length = (frag.buffer.drop ipv4HeaderLen).length }}
    (ident : UInt16) (dst : EthernetAddress) (hmtu : 68 ≤ caps.ipMtu)
    (halign : 8 ∣ caps.ipMtu - ipv4HeaderLen) (hdst : repr.dstAddr ≠ 0)
    (hlarge : caps.ipMtu < ipv4HeaderLen + repr.payloadLen)
    (htotal : ipv4HeaderLen + repr.payloadLen < 2 ^ 16)
    (hbuffer : ipv4HeaderLen + repr.payloadLen ≤ frag.buffer.length)
    (hemit : emitPayload (frag.buffer.drop ipv4HeaderLen) = .ok out) :
    ∃ frag' first rest,
      dispatchIpv4 caps ident dst repr emitPayload frag = .ok (frag', some first) ∧
      drainIpv4 caps repr.payloadLen frag' = .ok rest ∧
      Tiling caps dst (out.1.take repr.payloadLen) (first :: rest) ∧
      ∀ (cfg : ReassemblyConfig) (events : List (ReassemblyEvent Key)) (t : Tracked Key)
        (outcomes : List (Option Received)),
        Machine.run (Tracked.step cfg) (.new cfg) events = .ok (t, outcomes) →
        ¬ t.set.Holds ⟨ident, repr.srcAddr, repr.dstAddr, .ofByte repr.nextHeader.toByte⟩ →
        (∃ slot ∈ t.set, slot.isFree) →
        (cfg.alloc ∨ repr.payloadLen ≤ cfg.reassemblyBufferSize) →
        ∀ (feed : List (Instant × List UInt8)) (last : Instant × List UInt8),
          (∀ x ∈ feed ++ [last], ∃ f ∈ first :: rest, x.2 = f.packet) →
          (∀ f ∈ first :: rest, ∃ x ∈ feed ++ [last], x.2 = f.packet) →
          (∀ x ∈ feed, x.2 ≠ last.2) →
          (∀ fed, fed <+: feed ++ [last] →
            Runs.count (spans (fed.map Prod.snd)) ≤ cfg.assemblerMaxSegmentCount) →
          ∃ set', Machine.run (ipv4Payload cfg) t.set (feed ++ [last]) =
            .ok (set', List.replicate feed.length .incomplete ++
              [.complete (out.1.take repr.payloadLen)]) := by
  have hheader : ipv4HeaderLen = 20 := rfl
  have hpos : 0 < caps.fragLen := by
    unfold DeviceCapabilities.fragLen
    omega
  obtain ⟨d, rfl, rfl, rfl, hpayload, frag', hdispatch, hstaging⟩ :=
    dispatchIpv4_spec ident dst hdst (by omega) hlarge htotal hbuffer hemit
  have hlen : d.payload.length = d.repr.payloadLen := by
    rw [hpayload, List.length_take, out.2, List.length_drop]
    omega
  have hlt : caps.fragLen < d.payload.length := by
    unfold DeviceCapabilities.fragLen
    omega
  have hfirst : d.fragment caps 0 caps.fragLen = d.tile caps 0 := by
    rw [Ipv4Stream.tile, Nat.zero_mul, Nat.sub_zero, Nat.min_eq_right hlt.le]
  have hcount : d.count caps ≤ 1 + d.repr.payloadLen := by
    by_contra hgt
    have hlast := (Ipv4Stream.lt_count hpos _).mp (not_le.mp hgt)
    have hle := Nat.le_mul_of_pos_right (1 + d.repr.payloadLen) hpos
    omega
  have hstart : Staging d (min (1 * caps.fragLen) d.payload.length) frag' := by
    rwa [Nat.one_mul, Nat.min_eq_left hlt.le]
  have hdrain := hstart.drain hpos hcount
  have htiles : d.tile caps 0 :: (List.range' 1 (d.count caps - 1)).map (d.tile caps) =
      d.tiles caps := by
    have hone : 0 < d.count caps := (Ipv4Stream.lt_count hpos 0).mpr (by omega)
    rw [Ipv4Stream.tiles, List.range_eq_range',
      show d.count caps = d.count caps - 1 + 1 by omega, List.range'_succ]
    rfl
  refine ⟨frag', _, _, hfirst ▸ hdispatch, hdrain, ?_, ?_⟩
  · rw [htiles, ← hpayload]
    exact Ipv4Stream.tiling hpos halign
  · intro cfg events t outcomes hrun hnew hfree hroom feed last hfeed hall hlast hruns
    rw [htiles] at hfeed hall
    rw [← hpayload]
    obtain ⟨hinv, hfit⟩ := run_fitted hrun
    have hserves : Serves cfg d.key d.payload [] t.set :=
      serves_nil hinv hfit hnew hfree (hroom.imp_right hlen.trans_le)
    exact Ipv4Stream.reassembles hpos halign hlt hserves hfeed hall hlast hruns

/-! ### A sample -/

/-- Octets that count up from 0. -/
def countUp : Emitter := fun buf => .ok ⟨(List.range buf.length).map .ofNat, by simp⟩

/-- The fragments of a packet with a payload that counts up. -/
def sampleFragments (payloadLen : ℕ) : Checked (List Frame) := do
  let caps : DeviceCapabilities := ⟨.ip, 68, true⟩
  let repr : Ipv4.Repr := ⟨0x0a000001, 0x0a000002, .udp, payloadLen, 64⟩
  let (frag, first) ← dispatchIpv4 caps 1 0 repr countUp (.new (20 + payloadLen))
  let rest ← drainIpv4 caps payloadLen frag
  return first.toList ++ rest

theorem ipv4_fragmentation_round_trip_reversed : ∃ frag' first rest,
    dispatchIpv4 ⟨.ip, 68, true⟩ 1 0 ⟨0x0a000001, 0x0a000002, .udp, 100, 64⟩ countUp (.new 120) =
      .ok (frag', some first) ∧
    drainIpv4 ⟨.ip, 68, true⟩ 100 frag' = .ok rest ∧
    ∃ set', Machine.run (ipv4Payload ⟨true, 3, by decide, 0, 1⟩) (.new ⟨true, 3, by decide, 0, 1⟩)
      ((rest.map fun f => (0, f.packet)) ++ [(0, first.packet)]) =
      .ok (set', [.incomplete, .incomplete, .complete ((List.range 100).map .ofNat)]) := by
  obtain ⟨frag', first, rest, hdispatch, hdrain, htiling, hround⟩ :=
    @ipv4_fragmentation_round_trip ⟨.ip, 68, true⟩ (.new 120)
      ⟨0x0a000001, 0x0a000002, .udp, 100, 64⟩ countUp _ 1 0 (by decide) (by decide) (by decide)
      (by decide) (by decide)
      (List.length_replicate ..).ge rfl
  have hdata : ((List.range ((Fragmenter.new 120).buffer.drop ipv4HeaderLen).length).map
      UInt8.ofNat).take 100 = (List.range 100).map .ofNat := by
    decide +kernel
  have hoffsets : (sampleFragments 100).map (List.map fun f => (fragOffset f.packet).toNat) =
      .ok [0, 48, 96] := by decide +kernel
  simp only [sampleFragments, hdispatch, hdrain, Checked.ok_bind, Option.toList_some,
    List.singleton_append, Checked.pure_eq_ok, Except.map, List.map_cons, Except.ok.injEq,
    List.cons.injEq] at hoffsets
  obtain ⟨hfirst, hrest⟩ := hoffsets
  have hlen : rest.length = 2 := by simpa using congrArg List.length hrest
  refine ⟨frag', first, rest, hdispatch, hdrain, ?_⟩
  have hreceive := hround ⟨true, 3, by decide, 0, 1⟩ [] _ _ rfl (by decide)
    ⟨.new ⟨true, 3, by decide, 0, 1⟩, List.mem_singleton_self _, rfl⟩ (.inl rfl)
    (rest.map fun f => (0, f.packet)) (0, first.packet)
    ?_ ?_ ?_ ?_
  · rw [List.length_map, hlen, hdata] at hreceive
    exact hreceive
  · intro x hx
    rcases List.mem_append.mp hx with hx | hx
    · obtain ⟨f, hf, rfl⟩ := List.mem_map.mp hx
      exact ⟨f, List.mem_cons_of_mem _ hf, rfl⟩
    · rw [List.mem_singleton.mp hx]
      exact ⟨first, List.mem_cons_self .., rfl⟩
  · intro f hf
    rcases List.mem_cons.mp hf with rfl | hf
    · exact ⟨_, List.mem_append_right _ (List.mem_singleton_self _), rfl⟩
    · exact ⟨_, List.mem_append_left _ (List.mem_map.mpr ⟨f, hf, rfl⟩), rfl⟩
  · intro x hx heq
    obtain ⟨f, hf, rfl⟩ := List.mem_map.mp hx
    have hmem := List.mem_map_of_mem (f := fun f => (fragOffset f.packet).toNat) hf
    rw [hrest, show f.packet = first.packet from heq, hfirst] at hmem
    simp at hmem
  · intro fed hfed
    have hle := hfed.length_le
    simp only [List.length_append, List.length_map, hlen] at hle
    exact (count_spans_le _).trans (by simpa using hle)

/-- Nine fragments whose even ones come first, the last of them first: an assembler that holds four
runs loses the first fragment, and the packet stays incomplete. -/
theorem ipv4_reassembly_too_many_holes :
    (do
      let frames ← sampleFragments 432
      let feed := [8, 6, 4, 2, 0, 1, 3, 5, 7].filterMap fun i =>
        frames[i]?.map fun f : Frame => ((0 : Instant), f.packet)
      let (_, outcomes) ← Machine.run (ipv4Payload ⟨true, 4, by decide, 0, 1⟩)
        (.new ⟨true, 4, by decide, 0, 1⟩) feed
      return (frames.length, outcomes)) = .ok (9, List.replicate 9 .incomplete) := by
  decide +kernel

end

end Smoltcp
