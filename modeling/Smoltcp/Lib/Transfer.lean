import Smoltcp.Lib.Machine

/-!
# Transfers in pieces

A machine sends data in pieces, one datagram after the other. Its actions are recorded as jobs, the
latest first: each is a datagram with the pieces that were sent since its transfer started. If the
machine holds the datagram in transfer until all of it is sent, then every earlier job is complete
and the latest one is a beginning of its datagram (`Rules.inv_run`).
-/

namespace Transfer

variable {ι α σ ο ε : Type*}

/-- A datagram, and the pieces that were sent, each with the label that it carried. -/
structure Job (ι α : Type*) where
  label : ι
  data : List α
  pieces : List (ι × List α)

/-- What was sent. -/
def Job.sent (j : Job ι α) : List α := (j.pieces.map Prod.snd).flatten

/-- What a step does. -/
inductive Action (ι α : Type*) where
  | quiet
  | start (label : ι) (data : List α) (piece : ι × List α)
  | next (piece : ι × List α)

/-- A piece more. -/
def Job.add (j : Job ι α) (piece : ι × List α) : Job ι α := { j with pieces := j.pieces ++ [piece] }

/-- The jobs after an action. -/
def record (jobs : List (Job ι α)) : Action ι α → List (Job ι α)
  | .quiet => jobs
  | .start label data piece => ⟨label, data, [piece]⟩ :: jobs
  | .next piece => jobs.modifyHead fun j => j.add piece

@[simp] lemma Job.sent_add (j : Job ι α) (piece : ι × List α) :
    (j.add piece).sent = j.sent ++ piece.2 := by
  simp [Job.sent, Job.add]

/-- Only pieces of the datagram were sent, in order. -/
structure Job.Valid (j : Job ι α) : Prop where
  labels : ∀ piece ∈ j.pieces, piece.1 = j.label
  sent : j.sent <+: j.data

lemma Job.Valid.add {j : Job ι α} {m : ℕ} (h : j.Valid) :
    (j.add (j.label, (j.data.drop j.sent.length).take m)).Valid := by
  refine ⟨?_, ?_⟩
  · intro piece hpiece
    rcases List.mem_append.mp hpiece with hpiece | hpiece
    · exact h.labels piece hpiece
    · rw [List.mem_singleton.mp hpiece]
      rfl
  · rw [sent_add]
    obtain ⟨rest, hrest⟩ := h.sent
    have hdrop : j.data.drop j.sent.length = rest := by
      rw [← hrest, List.drop_left]
    rw [hdrop]
    change j.sent ++ rest.take m <+: j.data
    rw [← hrest]
    exact (List.prefix_append_right_inj _).mpr (List.take_prefix ..)

/-- All of the datagram was sent. -/
def Job.Complete (j : Job ι α) : Prop := j.sent = j.data

lemma Job.Valid.complete_iff {j : Job ι α} (h : j.Valid) :
    j.Complete ↔ j.sent.length = j.data.length :=
  ⟨fun hc => congrArg List.length hc, h.sent.eq_of_length⟩

/-- How a machine holds the datagram in transfer: `busy s l d n` says that `n` elements of it were
sent. Steps that are not admissible are left open. -/
structure Rules (step : σ → ο → Except ε (σ × Action ι α)) (ok : σ → ο → Prop) (idle : σ → Prop)
    (busy : σ → ι → List α → ℕ → Prop) : Prop where
  idle_iff : ∀ {s l d n}, busy s l d n → (idle s ↔ n = d.length)
  idle_step : ∀ {s o s' a}, idle s → ok s o → step s o = .ok (s', a) →
    a = .quiet ∧ idle s' ∨
    ∃ l d m, a = .start l d (l, d.take m) ∧ m ≤ d.length ∧ busy s' l d m
  busy_step : ∀ {s o s' a l d n}, busy s l d n → ¬ idle s → ok s o → step s o = .ok (s', a) →
    a = .quiet ∧ busy s' l d n ∨
    ∃ m, a = .next (l, (d.drop n).take m) ∧ n + m ≤ d.length ∧ busy s' l d (n + m)

/-- The jobs are in order, and the machine holds the latest one until it is complete. -/
structure Inv (idle : σ → Prop) (busy : σ → ι → List α → ℕ → Prop) (s : σ)
    (jobs : List (Job ι α)) : Prop where
  valid : ∀ j ∈ jobs, j.Valid
  earlier : ∀ j ∈ jobs.tail, j.Complete
  latest : (idle s ∧ ∀ j ∈ jobs, j.Complete) ∨
    ∃ j rest, jobs = j :: rest ∧ busy s j.label j.data j.sent.length

section

variable {step : σ → ο → Except ε (σ × Action ι α)} {ok : σ → ο → Prop} {idle : σ → Prop}
  {busy : σ → ι → List α → ℕ → Prop} {s s' : σ} {o : ο} {a : Action ι α} {jobs : List (Job ι α)}

lemma Inv.add {j : Job ι α} {rest : List (Job ι α)} {m : ℕ} (h : Inv idle busy s (j :: rest))
    (hbusy : busy s' j.label j.data (j.sent.length + m))
    (hle : j.sent.length + m ≤ j.data.length) :
    Inv idle busy s' (j.add (j.label, (j.data.drop j.sent.length).take m) :: rest) := by
  have hvalid := h.valid j (List.mem_cons_self ..)
  refine ⟨List.forall_mem_cons.mpr
    ⟨hvalid.add, fun j' hj' => h.valid j' (List.mem_cons_of_mem _ hj')⟩,
    h.earlier, .inr ⟨_, rest, rfl, ?_⟩⟩
  have hlen : (j.add (j.label, (j.data.drop j.sent.length).take m)).sent.length =
      j.sent.length + m := by
    rw [Job.sent_add, List.length_append, List.length_take, List.length_drop]
    omega
  rw [hlen]
  exact hbusy

theorem Rules.inv_step (hr : Rules step ok idle busy) (h : Inv idle busy s jobs) (hok : ok s o)
    (hstep : step s o = .ok (s', a)) : Inv idle busy s' (record jobs a) := by
  -- a machine that is idle has sent all of the latest job
  by_cases hidle : idle s
  · have hall : ∀ j ∈ jobs, j.Complete := by
      rcases h.latest with ⟨-, hall⟩ | ⟨j, rest, rfl, hbusy⟩
      · exact hall
      · refine List.forall_mem_cons.mpr ⟨?_, h.earlier⟩
        rw [(h.valid j (List.mem_cons_self ..)).complete_iff]
        exact (hr.idle_iff hbusy).mp hidle
    rcases hr.idle_step hidle hok hstep with ⟨rfl, hidle'⟩ | ⟨l, d, m, rfl, hm, hbusy⟩
    · exact ⟨h.valid, h.earlier, .inl ⟨hidle', hall⟩⟩
    · have hsent : (⟨l, d, [(l, d.take m)]⟩ : Job ι α).sent = d.take m := by
        simp [Job.sent]
      refine ⟨List.forall_mem_cons.mpr ⟨⟨?_, ?_⟩, h.valid⟩, hall, .inr ⟨_, _, rfl, ?_⟩⟩
      · intro piece hpiece
        rw [List.mem_singleton.mp hpiece]
      · rw [hsent]
        exact List.take_prefix ..
      · rw [hsent, List.length_take, Nat.min_eq_left hm]
        exact hbusy
  · rcases h.latest with ⟨hidle', -⟩ | ⟨j, rest, rfl, hbusy⟩
    · exact absurd hidle' hidle
    · rcases hr.busy_step hbusy hidle hok hstep with ⟨rfl, hbusy'⟩ | ⟨m, rfl, hm, hbusy'⟩
      · exact ⟨h.valid, h.earlier, .inr ⟨j, rest, rfl, hbusy'⟩⟩
      · exact h.add hbusy' hm

/-- Over every run of admissible steps. -/
theorem Rules.inv_run (hr : Rules step ok idle busy) {ops : List ο} {actions : List (Action ι α)}
    (h : Inv idle busy s jobs) (hok : Machine.Guarded step ok s ops)
    (hrun : Machine.run step s ops = .ok (s', actions)) :
    Inv idle busy s' (actions.foldl record jobs) := by
  induction ops generalizing s jobs actions with
  | nil =>
    cases hrun
    exact h
  | cons o ops ih =>
    unfold Machine.run at hrun
    cases hstep : step s o with
    | error e =>
      rw [hstep] at hrun
      cases hrun
    | ok x =>
      obtain ⟨s₁, a⟩ := x
      cases hrest : Machine.run step s₁ ops with
      | error e =>
        simp only [hstep, hrest, bind, Except.bind] at hrun
        cases hrun
      | ok y =>
        obtain ⟨s₂, as⟩ := y
        simp only [hstep, hrest, bind, Except.bind] at hrun
        cases hrun
        rw [List.foldl_cons]
        exact ih (hr.inv_step h hok.1 hstep) (hok.2 s₁ a hstep) hrest

/-- An operation that always sends something completes the latest job, if it is repeated as many
times as there are elements left. -/
theorem Inv.finish
    (hgo : ∀ {s l d n}, busy s l d n → n < d.length → ∃ s' m, 0 < m ∧
      step s o = .ok (s', .next (l, (d.drop n).take m)) ∧ n + m ≤ d.length ∧ busy s' l d (n + m))
    {j : Job ι α} {rest : List (Job ι α)} (h : Inv idle busy s (j :: rest)) :
    ∃ k s' actions j', k ≤ j.data.length - j.sent.length ∧
      Machine.run step s (List.replicate k o) = .ok (s', actions) ∧
      actions.foldl record (j :: rest) = j' :: rest ∧ j'.label = j.label ∧ j'.data = j.data ∧
      j.pieces <+: j'.pieces ∧ j'.Complete := by
  induction hn : j.data.length - j.sent.length using Nat.strong_induction_on generalizing s j with
  | _ n ih =>
    have hvalid := h.valid j (List.mem_cons_self ..)
    by_cases hc : j.Complete
    · exact ⟨0, s, [], j, Nat.zero_le _, rfl, rfl, rfl, rfl, List.prefix_rfl, hc⟩
    · have hlt : j.sent.length < j.data.length :=
        lt_of_le_of_ne hvalid.sent.length_le fun heq => hc (hvalid.complete_iff.mpr heq)
      obtain ⟨j₀, rest₀, heq, hbusy⟩ := h.latest.resolve_left fun hidle =>
        hc (hidle.2 j (List.mem_cons_self ..))
      cases heq
      obtain ⟨s₁, m, hm, hstep, hle, hbusy₁⟩ := hgo hbusy hlt
      have hinv := h.add hbusy₁ hle
      have hlen : (j.add (j.label, (j.data.drop j.sent.length).take m)).sent.length =
          j.sent.length + m := by
        rw [Job.sent_add, List.length_append, List.length_take, List.length_drop]
        omega
      obtain ⟨k, s', actions, j', hk, hrun, hjobs, hlabel, hdata, hpieces, hcomplete⟩ :=
        ih _ (by rw [hlen]; change j.data.length - _ < n; omega) hinv rfl
      refine ⟨k + 1, s', .next (j.label, (j.data.drop j.sent.length).take m) :: actions, j', ?_, ?_,
        hjobs, hlabel, hdata, (List.prefix_append _ _).trans hpieces, hcomplete⟩
      · rw [hlen] at hk
        change k ≤ j.data.length - _ at hk
        omega
      · simp [List.replicate_succ, Machine.run, hstep, hrun, bind, Except.bind, pure, Except.pure]

end

end Transfer
