import Smoltcp.Panic
import Smoltcp.Lib.Octets

/-!
# Outcomes of parsing and emitting

A function on the octets of a packet returns a value, returns an error, or panics. `Safe` says that
it does not panic and what holds of its value. A function is shown to be safe along its steps
(`Safe.bind`).
-/

namespace Smoltcp

/-- An error parsing a packet. -/
inductive WireError where
  | mk
  deriving DecidableEq, Repr

/-- How a function on packets ends without a value. -/
inductive Fault where
  | malformed
  | panic (p : Panic)
  deriving DecidableEq, Repr

abbrev Outcome (α : Type) := Except Fault α

namespace Outcome

variable {α β : Type}

/-- `return Err(Error)`. -/
def fail : Outcome α := .error .malformed

/-- `if p { return Err(Error) }`. -/
def reject (p : Prop) [Decidable p] : Outcome Unit := if p then fail else .ok ()

/-- `Option::ok_or(Error)?`. -/
def okOr : Option α → Outcome α
  | some a => .ok a
  | none => fail

def ofChecked : Checked α → Outcome α
  | .ok a => .ok a
  | .error p => .error (.panic p)

/-- `?` on a result of a function that does not panic. -/
def ofResult : Except WireError α → Outcome α
  | .ok a => .ok a
  | .error _ => fail

/-- The index expression `l[i]`. -/
def index (l : List α) (i : ℕ) : Outcome α := ofChecked (Checked.index l i)

/-- The slice expression `&l[a..b]`. -/
def slice (l : List α) (a b : ℕ) : Outcome (List α) := ofChecked (Checked.slice l a b)

/-- The slice expression `&l[a..]`. -/
def sliceFrom (l : List α) (a : ℕ) : Outcome (List α) := slice l a l.length

/-- The slice expression `&l[a..][..n]`. -/
def sliceAt (l : List α) (a n : ℕ) : Outcome (List α) := do
  slice (← sliceFrom l a) 0 n

/-- `a - b` on unsigned integers. -/
def sub (a b : ℕ) : Outcome ℕ := ofChecked (Checked.sub a b)

/-- `NetworkEndian::read_u16(&l[i..i + 2])`. -/
def readU16 (l : List UInt8) (i : ℕ) : Outcome UInt16 := do
  let data ← slice l i (i + 2)
  return Octets.readU16 data 0

/-- `NetworkEndian::read_u32(&l[i..i + 4])`. -/
def readU32 (l : List UInt8) (i : ℕ) : Outcome (BitVec 32) := do
  let data ← slice l i (i + 4)
  return Octets.readU32 data 0

/-- `l[a..a + data.len()].copy_from_slice(data)`. -/
def write (l : List α) (a : ℕ) (data : List α) : Outcome (List α) :=
  if a + data.length ≤ l.length then .ok (l.overwrite a data)
  else .error (.panic .sliceOutOfRange)

/-- `l.copy_from_slice(data)`: what is then in `l`. -/
def copyFromSlice (data l : List α) : Outcome (List α) :=
  if l.length = data.length then .ok data else .error (.panic .sliceOutOfRange)

/-- `l[a..b].copy_from_slice(data)`. -/
def copyAt (l : List α) (a b : ℕ) (data : List α) : Outcome (List α) := do
  let data ← copyFromSlice data (← slice l a b)
  return l.overwrite a data

/-! ### Steps -/

lemma bind_eq_ok {x : Outcome α} {f : α → Outcome β} {b : β} :
    (x >>= f) = .ok b ↔ ∃ a, x = .ok a ∧ f a = .ok b := by
  cases x with
  | error p => simp [bind, Except.bind]
  | ok a => simp [bind, Except.bind]

@[simp] lemma ok_bind (a : α) (f : α → Outcome β) : (Except.ok a >>= f) = f a := rfl

@[simp] lemma error_bind (p : Fault) (f : α → Outcome β) :
    (Except.error p >>= f) = Except.error p := rfl

@[simp] lemma fail_bind (f : α → Outcome β) : (fail >>= f) = fail := rfl

@[simp] lemma fail_ne_ok {a : α} : fail ≠ Except.ok a := by
  rintro ⟨⟩

@[simp] lemma bind_ok_self (x : Outcome α) : (x >>= fun a => Except.ok a) = x := bind_pure x

@[simp] lemma pure_eq_ok (a : α) : (pure a : Outcome α) = .ok a := rfl

section Evaluation

lemma reject_of {p : Prop} [Decidable p] (h : p) : reject p = fail := if_pos h

lemma reject_of_not {p : Prop} [Decidable p] (h : ¬ p) : reject p = .ok () := if_neg h

lemma slice_of {l : List α} {a b : ℕ} (hab : a ≤ b) (hb : b ≤ l.length) :
    slice l a b = .ok ((l.take b).drop a) := by
  rw [slice, Checked.slice_of hab hb]
  rfl

lemma sliceFrom_of {l : List α} {a : ℕ} (h : a ≤ l.length) : sliceFrom l a = .ok (l.drop a) := by
  rw [sliceFrom, slice_of h le_rfl, List.take_length]

lemma sliceAt_of {l : List α} {a n : ℕ} (h : a + n ≤ l.length) :
    sliceAt l a n = .ok ((l.drop a).take n) := by
  rw [sliceAt, sliceFrom_of (by omega), ok_bind,
    slice_of (by omega) (by rw [List.length_drop]; omega),
    List.drop_zero]

lemma index_of {l : List α} {i : ℕ} {a : α} (h : l[i]? = some a) : index l i = .ok a := by
  rw [index, Checked.index_of h]
  rfl

lemma index_get {l : List UInt8} {i : ℕ} (h : i < l.length) : index l i = .ok (Octets.get l i) := by
  rw [index_of (List.getElem?_eq_getElem h), Octets.get, List.getElem?_eq_getElem h]
  rfl

lemma sub_of_le {a b : ℕ} (h : b ≤ a) : sub a b = .ok (a - b) := by
  rw [sub, Checked.sub_of_le h]
  rfl

lemma get_slice {l : List UInt8} {a b j : ℕ} (h : a + j < b) :
    Octets.get ((l.take b).drop a) j = Octets.get l (a + j) := by
  rw [Octets.get, Octets.get, List.getElem?_drop, List.getElem?_take_of_lt h]

lemma readU16_of {l : List UInt8} {i : ℕ} (h : i + 2 ≤ l.length) :
    readU16 l i = .ok (Octets.readU16 l i) := by
  rw [readU16, slice_of (by omega) h, ok_bind, pure_eq_ok, Octets.readU16, Octets.readU16,
    get_slice (by omega), get_slice (by omega)]
  rfl

lemma readU32_of {l : List UInt8} {i : ℕ} (h : i + 4 ≤ l.length) :
    readU32 l i = .ok (Octets.readU32 l i) := by
  rw [readU32, slice_of (by omega) h, ok_bind, pure_eq_ok, Octets.readU32, Octets.readU32,
    get_slice (by omega), get_slice (by omega), get_slice (by omega), get_slice (by omega)]
  rfl

lemma write_of {l data : List α} {a : ℕ} (h : a + data.length ≤ l.length) :
    write l a data = .ok (l.overwrite a data) := if_pos h

lemma copyFromSlice_of {data l : List α} (h : l.length = data.length) :
    copyFromSlice data l = .ok data := if_pos h

lemma copyAt_of {l data : List α} {a b : ℕ} (hb : b ≤ l.length) (hlen : a + data.length = b) :
    copyAt l a b data = .ok (l.overwrite a data) := by
  rw [copyAt, slice_of (by omega) hb, ok_bind, copyFromSlice_of, ok_bind]
  · rfl
  · rw [List.length_drop, List.length_take]
    omega

lemma reject_eq_ok {p : Prop} [Decidable p] : reject p = .ok () ↔ ¬ p := by
  by_cases h : p
  · rw [reject_of h]
    exact iff_of_false nofun (not_not.mpr h)
  · rw [reject_of_not h]
    exact iff_of_true rfl h

lemma length_of_write {l out data : List α} {a : ℕ}
    (h : write l a data = .ok out) : out.length = l.length := by
  unfold write at h
  split_ifs at h with hle
  · cases h
    exact List.length_overwrite hle

lemma slice_eq_ok {l out : List α} {a b : ℕ} :
    slice l a b = .ok out ↔ a ≤ b ∧ b ≤ l.length ∧ out = (l.take b).drop a := by
  rw [slice, ← Checked.slice_eq_ok]
  cases Checked.slice l a b with
  | ok r => simp [ofChecked]
  | error p => simp [ofChecked]

/-- What is copied into a slice is as long as the slice. -/
lemma length_of_copyAt {l out data : List α} {a b : ℕ}
    (h : copyAt l a b data = .ok out) : a + data.length = b ∧ b ≤ l.length := by
  obtain ⟨part, hslice, h⟩ := bind_eq_ok.mp h
  obtain ⟨data', hcopy, -⟩ := bind_eq_ok.mp h
  obtain ⟨hab, hb, rfl⟩ := slice_eq_ok.mp hslice
  unfold copyFromSlice at hcopy
  split_ifs at hcopy with hlen
  rw [List.length_drop, List.length_take_of_le hb] at hlen
  omega

lemma copyAt_eq_write {l data : List α} {a b : ℕ} (hb : b ≤ l.length)
    (hlen : a + data.length = b) : copyAt l a b data = write l a data := by
  rw [copyAt_of hb hlen, write_of (by omega)]

/-- A write at the end of what was written. -/
lemma write_append {l m d r : List α} {n : ℕ} (hn : l.length = n)
    (hm : m.length = d.length) : write (l ++ m ++ r) n d = .ok (l ++ d ++ r) := by
  subst hn
  have htake : (l ++ m ++ r).take l.length = l := by
    rw [List.append_assoc, List.take_left' rfl]
  have hdrop : (l ++ m ++ r).drop (l.length + d.length) = r := by
    rw [← hm, ← List.length_append, List.drop_left' rfl]
  rw [write_of (by simp [hm]), List.overwrite, htake, hdrop]

/-- A slice of what stands between two parts. -/
lemma slice_append {l m rest : List α} {a b : ℕ} (ha : l.length = a) (hb : a + m.length = b) :
    slice (l ++ m ++ rest) a b = .ok m := by
  subst ha hb
  rw [slice_of (by omega) (by simp), ← List.length_append, List.take_left' rfl, List.drop_left' rfl]

lemma sliceAt_append {l m rest : List α} {a n : ℕ} (ha : l.length = a) (hn : m.length = n) :
    sliceAt (l ++ m ++ rest) a n = .ok m := by
  subst ha hn
  rw [sliceAt_of (by simp), List.append_assoc, List.drop_left' rfl, List.take_left' rfl]

lemma readU16_append {l r : List UInt8} {n : ℕ} (hn : l.length = n) (v : UInt16) :
    readU16 (l ++ Octets.ofU16 v ++ r) n = .ok v := by
  subst hn
  have hget : ∀ j < 2, Octets.get (l ++ Octets.ofU16 v ++ r) (l.length + j) =
      Octets.get (Octets.ofU16 v) j := by
    intro j hj
    rw [Octets.get, Octets.get, List.append_assoc, List.getElem?_append_right (by omega),
      Nat.add_sub_cancel_left, List.getElem?_append_left (by simpa using hj)]
  have h0 := hget 0 (by omega)
  rw [Nat.add_zero] at h0
  rw [readU16_of (by simp), Octets.readU16, h0, hget 1 (by omega)]
  exact congrArg _ (Octets.toU16_ofNat v)

lemma readU32_append {l r : List UInt8} {n : ℕ} (hn : l.length = n) (v : BitVec 32) :
    readU32 (l ++ Octets.ofU32 v ++ r) n = .ok v := by
  subst hn
  have hget : ∀ j < 4, Octets.get (l ++ Octets.ofU32 v ++ r) (l.length + j) =
      Octets.get (Octets.ofU32 v) j := by
    intro j hj
    rw [Octets.get, Octets.get, List.append_assoc, List.getElem?_append_right (by omega),
      Nat.add_sub_cancel_left, List.getElem?_append_left (by simpa using hj)]
  have h0 := hget 0 (by omega)
  rw [Nat.add_zero] at h0
  rw [readU32_of (by simp), Octets.readU32, h0, hget 1 (by omega), hget 2 (by omega),
    hget 3 (by omega)]
  exact congrArg _ (Octets.toU32_ofNat v)

end Evaluation

/-! ### Safety -/

/-- The function does not panic, and what it returns meets `post`. -/
def Safe (x : Outcome α) (post : α → Prop) : Prop :=
  match x with
  | .ok a => post a
  | .error .malformed => True
  | .error (.panic _) => False

namespace Safe

variable {x : Outcome α} {post : α → Prop}

lemma iff : Safe x post ↔ (∀ p, x ≠ .error (.panic p)) ∧ ∀ a, x = .ok a → post a := by
  match x with
  | .ok a => simp [Safe]
  | .error .malformed => simp [Safe]
  | .error (.panic p) => simp [Safe]

lemma ok {a : α} (h : post a) : Safe (.ok a) post := h

lemma pure {a : α} (h : post a) : Safe (pure a : Outcome α) post := h

lemma fail : Safe (fail : Outcome α) post := trivial

lemma bind {f : α → Outcome β} {mid : α → Prop} {post : β → Prop} (hx : Safe x mid)
    (hf : ∀ a, mid a → Safe (f a) post) : Safe (x >>= f) post := by
  match x, hx with
  | .ok a, h => exact hf a h
  | .error .malformed, _ => trivial

lemma mono {post' : α → Prop} (hx : Safe x post) (h : ∀ a, post a → post' a) : Safe x post' := by
  match x, hx with
  | .ok a, ha => exact h a ha
  | .error .malformed, _ => trivial

lemma of_eq {a : α} (hx : x = .ok a) (h : post a) : Safe x post := by
  rw [hx]
  exact h

lemma reject (p : Prop) [Decidable p] : Safe (reject p) fun _ => ¬ p := by
  by_cases h : p
  · rw [reject_of h]
    exact fail
  · rw [reject_of_not h]
    exact h

lemma ite {p : Prop} [Decidable p] {x y : Outcome α} (hx : p → Safe x post)
    (hy : ¬ p → Safe y post) : Safe (if p then x else y) post := by
  by_cases h : p
  · rw [if_pos h]
    exact hx h
  · rw [if_neg h]
    exact hy h

lemma okOr (o : Option α) : Safe (okOr o) fun a => o = some a := by
  cases o with
  | none => exact fail
  | some a => exact ok rfl

lemma ofResult (x : Except WireError α) : Safe (ofResult x) fun a => x = .ok a := by
  cases x with
  | error e => exact fail
  | ok a => exact ok rfl

end Safe

end Outcome

end Smoltcp
