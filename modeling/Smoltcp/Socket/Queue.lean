import Smoltcp.Storage.PacketBuffer.Refinement
import Smoltcp.Wire.Address

/-!
# Queues of packets to send and to receive

Sockets other than TCP sockets keep the packets to send in a packet buffer. The packet at the front
is made into something that is offered to the interface; it is taken out of the queue unless the
interface refuses it. What the interface answers is a function of what it is offered.
-/

namespace Smoltcp

/-- Metadata associated to a packet, by its identifier. -/
abbrev PacketMeta := UInt32

/-- A writer that replaces the whole slice. Its length is that of the slice. -/
def Writer.ofLength (data : List UInt8) : Writer UInt8 := fun buf =>
  if h : data.length = buf.length then ⟨data, h⟩ else Writer.keep buf

/-- What becomes of the packet at the front: the octets that it has afterwards, and what is offered
to the interface, if it is not dropped. -/
structure Handed (π : Type) (n : ℕ) where
  payload : List UInt8
  length_payload : payload.length = n
  offer : Option π

/-- The octets of the packet stay as they are. -/
def Handed.unchanged {π : Type} (payload : List UInt8) (offer : Option π) :
    Handed π payload.length :=
  ⟨payload, rfl, offer⟩

namespace PacketBuffer

variable {η π : Type}

/-- The closure that a packet is handed to. A panic ends it, too. -/
def handing (build : η → (payload : List UInt8) → Checked (Handed π payload.length))
    (emit : π → Bool) : PacketCallback η (Panic ⊕ π) (Option π) := fun header payload =>
  match build header payload with
  | .error p => ⟨header, payload, rfl, .error (.inl p)⟩
  | .ok handed =>
    let result := match handed.offer with
      | none => .ok none
      | some offer => if emit offer then .ok (some offer) else .error (.inr offer)
    ⟨header, handed.payload, handed.length_payload, result⟩

/-- `dequeue_with` for such a closure. What was offered is returned. -/
def offerFront (pb : PacketBuffer η)
    (build : η → (payload : List UInt8) → Checked (Handed π payload.length))
    (emit : π → Bool) : Checked (PacketBuffer η × Option π) := do
  match ← pb.dequeueWith (handing build emit) with
  | (pb, .error _) => return (pb, none)
  | (_, .ok (.error (.inl p))) => .error p
  | (pb, .ok (.error (.inr offer))) => return (pb, some offer)
  | (pb, .ok (.ok offer)) => return (pb, offer)

/-- What `offerFront` may do to a queue of packets. -/
inductive Offered (build : η → (payload : List UInt8) → Checked (Handed π payload.length))
    (emit : π → Bool) : Queue η → Checked (Queue η × Option π) → Prop where
  | empty : Offered build emit [] (.ok ([], none))
  | panicked (q : Queue η) {header : η} {payload : List UInt8} {p : Panic}
      (h : build header payload = .error p) :
      Offered build emit ((header, payload) :: q) (.error p)
  | dropped (q : Queue η) {header : η} {payload : List UInt8} {handed : Handed π payload.length}
      (h : build header payload = .ok handed) (hoffer : handed.offer = none) :
      Offered build emit ((header, payload) :: q) (.ok (q, none))
  | passed (q : Queue η) {header : η} {payload : List UInt8} {handed : Handed π payload.length}
      {offer : π} (h : build header payload = .ok handed) (hoffer : handed.offer = some offer)
      (hemit : emit offer = true) :
      Offered build emit ((header, payload) :: q) (.ok (q, some offer))
  | refused (q : Queue η) {header : η} {payload : List UInt8} {handed : Handed π payload.length}
      {offer : π} (h : build header payload = .ok handed) (hoffer : handed.offer = some offer)
      (hemit : emit offer = false) :
      Offered build emit ((header, payload) :: q) (.ok ((header, payload) :: q, some offer))

variable {pb : PacketBuffer η}
  {build : η → (payload : List UInt8) → Checked (Handed π payload.length)} {emit : π → Bool}

/-- A packet that is refused stays as it was, if what is made of it leaves its octets alone. -/
lemma handing_keeps
    (hkeep : ∀ header payload handed, build header payload = .ok handed → handed.payload = payload)
    (pb : PacketBuffer η) : Admissible pb (.dequeueWith (handing build emit)) := by
  intro header payload e he
  unfold handing at he ⊢
  cases hbuild : build header payload with
  | error p => exact ⟨rfl, rfl⟩
  | ok handed => exact ⟨rfl, hkeep header payload handed hbuild⟩

lemma offerFront_refines (h : Wf pb)
    (hkeep : ∀ header payload handed, build header payload = .ok handed →
      handed.payload = payload) :
    (∃ p, pb.offerFront build emit = .error p ∧ Offered build emit pb.queue (.error p)) ∨
      ∃ pb' offer, pb.offerFront build emit = .ok (pb', offer) ∧ Wf pb' ∧
        Offered build emit pb.queue (.ok (pb'.queue, offer)) := by
  have hok : Admissible pb (.dequeueWith (handing build emit)) := handing_keeps hkeep pb
  obtain ⟨pb', r, hstep, hwf, hqueue⟩ := dequeueWith_refines h hok
  obtain ⟨⟨pb₁, r₁⟩, hdequeue, heq⟩ := Checked.bind_eq_ok.mp hstep
  cases heq
  unfold offerFront
  rw [hdequeue, Checked.ok_bind]
  generalize pb.queue = q at hqueue ⊢
  generalize hq' : pb'.queue = q' at hqueue
  cases hqueue with
  | dequeueWithEmpty =>
    refine .inr ⟨pb', none, rfl, hwf, ?_⟩
    rw [hq']
    exact .empty
  | @dequeueWith _ header payload _ offer hr =>
    refine .inr ⟨pb', offer, rfl, hwf, ?_⟩
    rw [hq']
    unfold handing at hr
    cases hbuild : build header payload with
    | error p =>
      rw [hbuild] at hr
      cases hr
    | ok handed =>
      rw [hbuild] at hr
      cases hoffer : handed.offer with
      | none =>
        simp only [hoffer] at hr
        cases hr
        exact .dropped _ hbuild hoffer
      | some x =>
        simp only [hoffer] at hr
        split_ifs at hr with hemit
        cases hr
        exact .passed _ hbuild hoffer hemit
  | @dequeueWithFailed _ header payload _ e he =>
    unfold handing at he
    cases hbuild : build header payload with
    | error p =>
      rw [hbuild] at he
      cases he
      exact .inl ⟨p, rfl, .panicked _ hbuild⟩
    | ok handed =>
      rw [hbuild] at he
      cases hoffer : handed.offer with
      | none =>
        simp only [hoffer] at he
        cases he
      | some x =>
        simp only [hoffer] at he
        split_ifs at he with hemit
        cases he
        refine .inr ⟨pb', some x, rfl, hwf, ?_⟩
        rw [hq']
        exact .refused _ hbuild hoffer (Bool.eq_false_iff.mpr hemit)

end PacketBuffer

end Smoltcp
