import Mathlib

/-!
# The assembler

The assembler records which octets beyond the front of a buffer are present, as a fixed array of
contigs: a hole followed by data. Loops over the array from an index on are recursions on the rest
of the list; in them a hole or an offset is relative to the end of the contigs before.
-/

namespace Smoltcp

/-- A contiguous chunk of absent data, followed by a contiguous chunk of present data. -/
structure Contig where
  holeSize : ℕ
  dataSize : ℕ
  deriving DecidableEq, Repr

namespace Contig

def empty : Contig := ⟨0, 0⟩

def hasHole (c : Contig) : Prop := c.holeSize ≠ 0

def hasData (c : Contig) : Prop := c.dataSize ≠ 0

instance (c : Contig) : Decidable c.hasHole := inferInstanceAs (Decidable (_ ≠ _))

instance (c : Contig) : Decidable c.hasData := inferInstanceAs (Decidable (_ ≠ _))

def totalSize (c : Contig) : ℕ := c.holeSize + c.dataSize

def shrinkHoleBy (c : Contig) (size : ℕ) : Contig := { c with holeSize := c.holeSize - size }

/-- Turn the end of the hole into data, keeping the end of the contig. -/
def shrinkHoleTo (c : Contig) (size : ℕ) : Contig := ⟨size, c.totalSize - size⟩

end Contig

inductive TooManyHolesError where
  | mk
  deriving DecidableEq, Repr

namespace Contigs

open Contig

/-- `remove_contig_at`, from the contig to remove on: every contig is replaced by the next one, up
to the first that has no data. -/
def removeFirst : List Contig → List Contig
  | [] => []
  | [_] => [Contig.empty]
  | c :: d :: rest => if c.hasData then d :: removeFirst (d :: rest) else c :: d :: rest

/-- `add_contig_at`, from the index on: make room by dropping the last contig, which must be
unused, and put `new` there. -/
def insertFirst (new : Contig) (l : List Contig) : Except TooManyHolesError (List Contig) :=
  if (l.getLast?.getD Contig.empty).hasData then .error .mk else .ok (new :: l.dropLast)

/-- The loop that coalesces contigs to the right of `c` which start at or before `stop`. Returns
the grown contig and how many were swallowed. -/
def coalesce (stop : ℕ) (c : Contig) : List Contig → Contig × ℕ
  | [] => (c, 0)
  | d :: rest =>
    if d.hasData ∧ c.totalSize + d.holeSize ≤ stop then
      let (c', n) := coalesce stop { c with dataSize := c.dataSize + d.totalSize } rest
      (c', n + 1)
    else (c, 0)

/-- The loop that moves the used contigs `shift` places to the front. -/
def shiftDown (shift : ℕ) : List Contig → List Contig
  | [] => []
  | c :: rest =>
    if c.hasData then ((c :: rest)[shift]?.getD Contig.empty) :: shiftDown shift rest
    else c :: rest

/-- Take `left` from the hole of the next contig, if it is used. -/
def shrinkNext (left : ℕ) : List Contig → List Contig
  | [] => []
  | d :: rest => if d.hasData then d.shrinkHoleBy left :: rest else d :: rest

/-- Let the data of `c` reach up to `stop`, at the cost of the next hole. -/
def extend (stop : ℕ) (c : Contig) (rest : List Contig) : List Contig :=
  if c.totalSize < stop then
    let left := stop - c.totalSize
    { c with dataSize := c.dataSize + left } :: shrinkNext left rest
  else c :: rest

/-- Let the data of `c` reach up to `stop`, swallowing the contigs it meets on the way. -/
def grow (stop : ℕ) (c : Contig) (rest : List Contig) : List Contig :=
  let r := coalesce stop c rest
  extend stop r.1 (if r.2 ≠ 0 then shiftDown r.2 rest else rest)

/-- The part of `add` behind the search: the range starts inside or right behind `c`. A range
inside the hole of `c` gets a contig of its own, any other one makes the data of `c` grow. -/
def addAt (offset size : ℕ) (c : Contig) (rest : List Contig) :
    Except TooManyHolesError (List Contig) :=
  if offset < c.holeSize ∧ offset + size < c.holeSize then
    insertFirst ⟨offset, size⟩ (c.shrinkHoleBy (offset + size) :: rest)
  else
    let c := if offset < c.holeSize then c.shrinkHoleTo offset else c
    .ok (grow (offset + size) c rest)

/-- `add` for a non-empty range. -/
def add (offset size : ℕ) : List Contig → Except TooManyHolesError (List Contig)
  | [] => .error .mk
  | c :: rest =>
    if c.hasData then
      if offset ≤ c.totalSize then addAt offset size c rest
      else do
        let rest ← add (offset - c.totalSize) size rest
        return c :: rest
    -- The new range is after all the previous ranges.
    else .ok (⟨offset, size⟩ :: rest)

/-- Position `p` is covered by data. -/
def Covers : List Contig → ℕ → Prop
  | [], _ => False
  | c :: rest, p => (c.holeSize ≤ p ∧ p < c.totalSize) ∨
      (c.totalSize ≤ p ∧ Covers rest (p - c.totalSize))

/-- All contigs are unused. -/
def Unused (l : List Contig) : Prop := ∀ c ∈ l, c = Contig.empty

/-- Used contigs, each with a hole before it, and then unused ones. -/
def Separated : List Contig → Prop
  | [] => True
  | c :: rest => Unused (c :: rest) ∨ (c.hasHole ∧ c.hasData ∧ Separated rest)

/-- The invariant of the array: the used contigs are a prefix, and all of them but the first have a
hole. -/
def Canonical : List Contig → Prop
  | [] => True
  | c :: rest => Unused (c :: rest) ∨ (c.hasData ∧ Separated rest)

end Contigs

end Smoltcp
