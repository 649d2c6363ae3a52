import Smoltcp.Storage.PacketBuffer.Basic

/-!
# How packets lie in the payload ring

The entries of the metadata ring cut the payload ring into pieces. `Layout` says that the pieces
fill the ring, that none of them wraps around, and that paddings are never next to each other: a
padding reaches to the end of the ring, so what follows needs none.
-/

namespace Smoltcp.PacketBuffer

open PacketMetadata

variable {η : Type} {cap pos len n : ℕ} {es : List (PacketMetadata η)} {m : PacketMetadata η}

/-- The place of position `x` in a ring of `cap` octets. -/
def wrap (cap x : ℕ) : ℕ := if 0 < cap then x % cap else 0

lemma wrap_add (cap x k : ℕ) : wrap cap (wrap cap x + k) = wrap cap (x + k) := by
  unfold wrap
  split_ifs
  · exact Nat.mod_add_mod _ _ _
  · rfl

/-- Pieces of the given sizes, one after the other from `pos` on, do not wrap around. -/
def Placed (cap : ℕ) : ℕ → List ℕ → Prop
  | _, [] => True
  | pos, n :: ns => wrap cap pos + n ≤ cap ∧ Placed cap (pos + n) ns

lemma placed_append {ns : List ℕ} :
    Placed cap pos (ns ++ [n]) ↔ Placed cap pos ns ∧ wrap cap (pos + ns.sum) + n ≤ cap := by
  induction ns generalizing pos with
  | nil => simp [Placed]
  | cons k ns ih =>
    simp only [List.cons_append, Placed, ih, List.sum_cons, and_assoc, Nat.add_assoc]

lemma placed_wrap {ns : List ℕ} : Placed cap (wrap cap pos) ns ↔ Placed cap pos ns := by
  induction ns generalizing pos with
  | nil => exact Iff.rfl
  | cons k ns ih =>
    have hwrap : wrap cap (wrap cap pos) = wrap cap pos := wrap_add cap pos 0
    have htail : Placed cap (wrap cap pos + k) ns ↔ Placed cap (pos + k) ns := by
      rw [← ih, wrap_add, ih]
    simp only [Placed, hwrap, htail]

lemma placed_of_sum_eq_zero {ns : List ℕ} (h : ns.sum = 0) (hpos : ∀ x, wrap cap x ≤ cap) :
    Placed cap pos ns := by
  induction ns generalizing pos with
  | nil => trivial
  | cons k ns ih =>
    rw [List.sum_cons] at h
    refine ⟨?_, ih (by omega)⟩
    have := hpos pos
    omega

lemma wrap_le (cap x : ℕ) : wrap cap x ≤ cap := by
  unfold wrap
  split_ifs with h
  · exact (Nat.mod_lt _ h).le
  · exact Nat.zero_le _

/-- The entries `es` cut the `len` octets from `pos` on into pieces. -/
structure Pieces (cap pos : ℕ) (es : List (PacketMetadata η)) (len : ℕ) : Prop where
  sum : (es.map size).sum = len
  placed : Placed cap pos (es.map size)
  chain : es.IsChain fun m m' => ¬ (m.isPadding ∧ m'.isPadding)

/-- Pieces such that behind a padding at the end the ring starts again. -/
structure Layout (cap pos : ℕ) (es : List (PacketMetadata η)) (len : ℕ) : Prop
    extends Pieces cap pos es len where
  last : ∀ m, es.getLast? = some m → m.isPadding → wrap cap (pos + len) = 0

lemma Pieces.packet (h : Pieces cap pos es len) (header : η)
    (hn : wrap cap (pos + len) + n ≤ cap) :
    Layout cap pos (es ++ [.packet n header]) (len + n) := by
  refine ⟨⟨?_, ?_, ?_⟩, ?_⟩
  · simp [h.sum, PacketMetadata.packet]
  · rw [List.map_append]
    refine placed_append.mpr ⟨h.placed, ?_⟩
    rw [h.sum]
    exact hn
  · refine List.isChain_append.mpr ⟨h.chain, .singleton _, ?_⟩
    intro x hx y hy hpad
    simp only [List.head?_cons, Option.mem_def, Option.some.injEq] at hy
    subst hy
    simp [PacketMetadata.packet, isPadding] at hpad
  · intro x hx hpad
    simp only [List.getLast?_append, List.getLast?_singleton, Option.some_or,
      Option.some.injEq] at hx
    subst hx
    simp [PacketMetadata.packet, isPadding] at hpad

lemma Pieces.padding (h : Pieces cap pos es len)
    (hlast : ∀ m, es.getLast? = some m → ¬ m.isPadding) (hn : wrap cap (pos + len) + n ≤ cap) :
    Pieces cap pos (es ++ [.padding n]) (len + n) := by
  refine ⟨?_, ?_, ?_⟩
  · simp [h.sum, PacketMetadata.padding]
  · rw [List.map_append]
    refine placed_append.mpr ⟨h.placed, ?_⟩
    rw [h.sum]
    exact hn
  · refine List.isChain_append.mpr ⟨h.chain, .singleton _, ?_⟩
    intro x hx y hy hpad
    exact hlast x hx hpad.1

namespace Layout

lemma nil (cap pos : ℕ) : Layout cap pos ([] : List (PacketMetadata η)) 0 :=
  ⟨⟨rfl, trivial, .nil⟩, nofun⟩

/-- An empty ring may start anywhere. -/
lemma restart (h : Layout cap pos es 0) : Layout cap 0 es 0 := by
  refine ⟨⟨h.sum, placed_of_sum_eq_zero h.sum (wrap_le cap), h.chain⟩, fun _ _ _ => ?_⟩
  unfold wrap
  split_ifs <;> simp

lemma head_le (h : Layout cap pos (m :: es) len) :
    m.size ≤ len ∧ wrap cap pos + m.size ≤ cap := by
  refine ⟨?_, h.placed.1⟩
  have := h.sum
  simp only [List.map_cons, List.sum_cons] at this
  omega

/-- What is left behind the first piece. -/
lemma tail (h : Layout cap pos (m :: es) len) :
    Layout cap (wrap cap (pos + m.size)) es (len - m.size) := by
  have hsum := h.sum
  simp only [List.map_cons, List.sum_cons] at hsum
  refine ⟨⟨by omega, placed_wrap.mpr h.placed.2, h.chain.tail⟩, ?_⟩
  intro x hx hpad
  have hlast : (m :: es).getLast? = some x := by
    cases es with
    | nil => cases hx
    | cons e es => simpa using hx
  rw [wrap_add, Nat.add_assoc, Nat.add_sub_cancel' (by omega)]
  exact h.last x hlast hpad

/-- Behind a padding there is a packet. -/
lemma not_isPadding_of_cons {m' : PacketMetadata η} (h : Layout cap pos (m :: m' :: es) len)
    (hpad : m.isPadding) : ¬ m'.isPadding :=
  fun hpad' => (List.isChain_cons_cons.mp h.chain).1 ⟨hpad, hpad'⟩

end Layout

end Smoltcp.PacketBuffer
