import Smoltcp.Lib.Layout
import Smoltcp.Wire.Outcome

/-!
# Fields of fixed size

A buffer that begins with fields of known sizes: what it holds after a field was written, and what
is read of a field.
-/

namespace Smoltcp

open Octets (ofU16 ofU32)
open Outcome

variable {parts : List (List UInt8)} {rest d : List UInt8} {k n : ℕ}

/-- A field is written. -/
lemma Outcome.write_parts (k : ℕ) (hd : (parts.map List.length)[k]? = some d.length)
    (hn : ((parts.map List.length).take k).sum = n) :
    write (parts.flatten ++ rest) n d = .ok ((parts.set k d).flatten ++ rest) := by
  rw [List.getElem?_map, Option.map_eq_some_iff] at hd
  obtain ⟨p, hp, hlen⟩ := hd
  obtain ⟨before, after, hflatten, hbefore, hset⟩ := List.flatten_of_getElem? hp hn
  rw [hflatten, hset, List.append_assoc _ _ rest, write_append hbefore hlen,
    List.append_assoc _ _ rest]

/-- Fields are written in some order. -/
lemma Outcome.foldlM_write {sizes : List ℕ} {writes : List (ℕ × List UInt8)}
    (hparts : parts.map List.length = sizes)
    (hwrites : ∀ w ∈ writes, sizes[w.1]? = some w.2.length) :
    writes.foldlM (fun buf w => write buf (sizes.take w.1).sum w.2) (parts.flatten ++ rest) =
      .ok ((writes.foldl (fun parts w => parts.set w.1 w.2) parts).flatten ++ rest) := by
  induction writes generalizing parts with
  | nil => rfl
  | cons w writes ih =>
    have hlen := hwrites w List.mem_cons_self
    rw [← hparts] at hlen
    rw [List.foldlM_cons, List.foldl_cons, write_parts w.1 hlen (by rw [hparts]), ok_bind]
    exact ih ((List.map_length_set hlen).trans hparts) fun w hw =>
      hwrites w (List.mem_cons_of_mem _ hw)

lemma Outcome.slice_parts {m : ℕ} (k : ℕ) (hk : parts[k]? = some d)
    (hn : ((parts.map List.length).take k).sum = n) (hm : n + d.length = m) :
    slice (parts.flatten ++ rest) n m = .ok d := by
  obtain ⟨before, after, hflatten, hbefore, -⟩ := List.flatten_of_getElem? hk hn
  rw [hflatten, List.append_assoc, slice_append hbefore hm]

lemma Outcome.index_parts (k : ℕ) {b : UInt8} (hk : parts[k]? = some [b])
    (hn : ((parts.map List.length).take k).sum = n) :
    index (parts.flatten ++ rest) n = .ok b := by
  obtain ⟨before, after, hflatten, rfl, -⟩ := List.flatten_of_getElem? hk hn
  refine index_of ?_
  rw [hflatten, List.append_assoc, List.append_assoc, List.getElem?_append_right le_rfl,
    Nat.sub_self]
  rfl

lemma Outcome.readU16_parts (k : ℕ) {v : UInt16} (hk : parts[k]? = some (ofU16 v))
    (hn : ((parts.map List.length).take k).sum = n) :
    readU16 (parts.flatten ++ rest) n = .ok v := by
  obtain ⟨before, after, hflatten, hbefore, -⟩ := List.flatten_of_getElem? hk hn
  rw [hflatten, List.append_assoc, readU16_append hbefore]

lemma Outcome.readU32_parts (k : ℕ) {v : BitVec 32} (hk : parts[k]? = some (ofU32 v))
    (hn : ((parts.map List.length).take k).sum = n) :
    readU32 (parts.flatten ++ rest) n = .ok v := by
  obtain ⟨before, after, hflatten, hbefore, -⟩ := List.flatten_of_getElem? hk hn
  rw [hflatten, List.append_assoc, readU32_append hbefore]

end Smoltcp
