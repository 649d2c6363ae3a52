import Smoltcp.Socket.Dns
import Smoltcp.Wire.Dns.Names

/-!
# The answers of a DNS response

While it reads the answers the socket follows aliases: the query takes on the name that an alias
stands for. If an answer after that is malformed the query goes on with the wrong name. If all are
well formed, the addresses are those along the chain of aliases.
-/

namespace Smoltcp.Dns

variable {cfg : DnsConfig} {ipRepr : IpRepr} {udpRepr : UdpRepr}
  {packet name name' dest : List UInt8} {pq : PendingQuery}

/-! ### Copied names -/

/-- The octets spell the labels out, without what ends a name. -/
def Spells (dest : List UInt8) (labels : List (List UInt8)) : Prop :=
  ∀ packet rest, parseName packet (dest ++ rest) = labels.map .ok ++ parseName packet rest

lemma Spells.nil : Spells [] [] := fun _ _ => rfl

lemma Spells.append {label : List UInt8} {labels : List (List UInt8)} (h : Spells dest labels)
    (hpos : 0 < label.length) (hlt : label.length < 64) :
    Spells (dest ++ [.ofNat label.length] ++ label) (labels ++ [label]) := by
  intro packet rest
  rw [List.append_assoc, List.append_assoc, h, List.singleton_append,
    parseName_label hpos hlt, List.map_append, List.append_assoc]
  rfl

/-- A name that was copied in part does not end as a name does. -/
lemma parseName_of_copyName_error {capacity : ℕ} {labels : List (List UInt8)}
    {copied : List (Except WireError (List UInt8))} {e : WireError}
    (hvalid : ∀ label, .ok label ∈ copied → 0 < label.length ∧ label.length < 64)
    (hdest : Spells dest labels) (h : copyName capacity dest copied = (name, .error e)) :
    ∃ labels' : List (List UInt8), parseName packet name = labels'.map .ok ++ [.error .mk] := by
  have hend : ∀ labels', Spells name labels' →
      parseName packet name = labels'.map .ok ++ [.error .mk] := by
    intro labels' hspells
    have := hspells packet []
    rwa [List.append_nil, parseName] at this
  induction copied generalizing dest labels with
  | nil =>
    rw [copyName] at h
    by_cases hlength : dest.length < capacity
    · rw [if_pos hlength] at h
      cases h
    · rw [if_neg hlength] at h
      obtain rfl := congrArg Prod.fst h
      exact ⟨labels, hend labels hdest⟩
  | cons x copied ih =>
    cases x with
    | error e' =>
      obtain rfl := congrArg Prod.fst h
      exact ⟨labels, hend labels hdest⟩
    | ok label =>
      obtain ⟨hpos, hlt⟩ := hvalid label (List.mem_cons_self ..)
      rw [copyName] at h
      by_cases hlength : dest.length < capacity
      case neg =>
        rw [if_neg hlength] at h
        obtain rfl := congrArg Prod.fst h
        exact ⟨labels, hend labels hdest⟩
      rw [if_pos hlength] at h
      dsimp only at h
      split_ifs at h with hfits
      · exact ih (fun label hlabel => hvalid label (List.mem_cons_of_mem _ hlabel))
          (hdest.append hpos hlt) h
      · -- only the length of the label is there
        obtain rfl := congrArg Prod.fst h
        exact ⟨labels, by rw [hdest, parseName_short hpos hlt]⟩

/-! ### Damaged queries -/

/-- From `payload` on, one of the next records is malformed, and the query, that has the name `name`
by then, does not have its original name any more. An alias that is malformed or too long leaves
a name cut off. -/
inductive Derails (cfg : DnsConfig) (packet original : List UInt8) :
    ℕ → List UInt8 → List UInt8 → Prop where
  | malformed {count : ℕ} {payload name : List UInt8} {e : WireError}
      (h : Record.parse payload = .error e) (hne : name ≠ original) :
      Derails cfg packet original (count + 1) payload name
  | nameMalformed {count : ℕ} {payload rest name : List UInt8} {r : Record} {e : WireError}
      (h : Record.parse payload = .ok (rest, r))
      (hname : eqNames (parseName packet r.name) (parseName packet name) = .error e)
      (hne : name ≠ original) : Derails cfg packet original (count + 1) payload name
  | cnameMalformed {count : ℕ} {payload rest name cut cname : List UInt8} {r : Record}
      {e : WireError} (h : Record.parse payload = .ok (rest, r))
      (hname : eqNames (parseName packet r.name) (parseName packet name) = .ok true)
      (hdata : r.data = .cname cname)
      (hcopy : copyName cfg.maxNameSize [] (parseName packet cname) = (cut, .error e)) :
      Derails cfg packet original (count + 1) payload name
  | mismatch {count : ℕ} {payload rest name : List UInt8} {r : Record}
      (h : Record.parse payload = .ok (rest, r))
      (hname : eqNames (parseName packet r.name) (parseName packet name) = .ok false)
      (hrest : Derails cfg packet original count rest name) :
      Derails cfg packet original (count + 1) payload name
  | cname {count : ℕ} {payload rest name name₁ cname : List UInt8} {r : Record}
      (h : Record.parse payload = .ok (rest, r))
      (hname : eqNames (parseName packet r.name) (parseName packet name) = .ok true)
      (hdata : r.data = .cname cname)
      (hcopy : copyName cfg.maxNameSize [] (parseName packet cname) = (name₁, .ok ()))
      (hrest : Derails cfg packet original count rest name₁) :
      Derails cfg packet original (count + 1) payload name
  | data {count : ℕ} {payload rest name : List UInt8} {r : Record}
      (h : Record.parse payload = .ok (rest, r))
      (hname : eqNames (parseName packet r.name) (parseName packet name) = .ok true)
      (hdata : ∀ cname, r.data ≠ .cname cname)
      (hrest : Derails cfg packet original count rest name) :
      Derails cfg packet original (count + 1) payload name

/-- The answers of the packet take the query to another name and are malformed then. -/
def Derailed (cfg : DnsConfig) (packet : List UInt8) (pq : PendingQuery) : Prop :=
  ∃ rest question, Question.parse (Packet.payload packet) = .ok (rest, question) ∧
    Derails cfg packet pq.name (Packet.answerRecordCount packet).toNat rest pq.name

/-- A name that is cut off is not the one that was asked for. -/
lemma derails_iff {original payload : List UInt8} {count : ℕ} {labels : List (List UInt8)}
    (horiginal : parseName packet original = labels.map .ok) :
    Derails cfg packet original count payload name ↔
      ∃ name', Spoils cfg packet count payload name name' ∧ name' ≠ original := by
  constructor
  · intro h
    induction h with
    | malformed h hne => exact ⟨_, .malformed h, hne⟩
    | nameMalformed h hname hne => exact ⟨_, .nameMalformed h hname, hne⟩
    | cnameMalformed h hname hdata hcopy =>
      refine ⟨_, .cnameMalformed h hname hdata hcopy, ?_⟩
      rintro rfl
      obtain ⟨labels', hlabels'⟩ := parseName_of_copyName_error
        (fun label => length_of_mem_parseName) .nil hcopy
      have hmem : Except.error WireError.mk ∈ labels.map Except.ok := by
        rw [← horiginal, hlabels']
        exact List.mem_append_right _ (List.mem_singleton_self _)
      obtain ⟨label, -, hlabel⟩ := List.mem_map.mp hmem
      cases hlabel
    | mismatch h hname _ ih =>
      obtain ⟨name', hspoils, hne⟩ := ih
      exact ⟨name', .mismatch h hname hspoils, hne⟩
    | cname h hname hdata hcopy _ ih =>
      obtain ⟨name', hspoils, hne⟩ := ih
      exact ⟨name', .cname h hname hdata hcopy hspoils, hne⟩
    | data h hname hdata _ ih =>
      obtain ⟨name', hspoils, hne⟩ := ih
      exact ⟨name', .data h hname hdata hspoils, hne⟩
  · rintro ⟨name', hspoils, hne⟩
    induction hspoils with
    | malformed h => exact .malformed h hne
    | nameMalformed h hname => exact .nameMalformed h hname hne
    | cnameMalformed h hname hdata hcopy => exact .cnameMalformed h hname hdata hcopy
    | mismatch h hname _ ih => exact .mismatch h hname (ih hne)
    | cname h hname hdata hcopy _ ih => exact .cname h hname hdata hcopy (ih hne)
    | data h hname hdata _ ih => exact .data h hname hdata (ih hne)

/-- A query that is pending was pending before, with the same name, type, transaction ID, port and
timers. -/
def Undamaged (s s' : Socket) : Prop :=
  ∀ (i : ℕ) (pq : PendingQuery), s'.queries[i]? = some (some (.pending pq)) →
    s.queries[i]? = some (some (.pending pq))

/-- What becomes of a query is decided by the answers once the packet asks for it. -/
lemma processQuery_of_asks (h : Asks packet pq) :
    ∃ rest question, Question.parse (Packet.payload packet) = .ok (rest, question) ∧
      processQuery cfg packet pq =
        match readAnswers cfg packet (Packet.answerRecordCount packet).toNat rest pq.name [] with
        | (name, .error _) => .pending { pq with name }
        | (_, .ok addresses) => if addresses = [] then .failure else .completed addresses := by
  obtain ⟨rest, question, labels, hparse, htype, hname, hquery⟩ := h
  refine ⟨rest, question, hparse, ?_⟩
  have hsame := eqNames_iff.mpr ⟨labels, hname, hquery⟩
  cases hread : readAnswers cfg packet (Packet.answerRecordCount packet).toNat rest pq.name [] with
  | mk name answers =>
    cases answers with
    | error e =>
      simp only [processQuery, hparse, htype, hsame, hread, ne_eq, not_true_eq_false, if_false]
    | ok addresses =>
      simp only [processQuery, hparse, htype, hsame, hread, ne_eq, not_true_eq_false, if_false]

/-- A query that stays pending is damaged exactly if the packet asks for it and derails it. -/
lemma processQuery_pending_iff :
    (∀ pq', processQuery cfg packet pq = .pending pq' → pq' = pq) ↔
      (Asks packet pq → ¬ Derailed cfg packet pq) := by
  constructor
  · rintro h hasks ⟨rest, question, hparse, hderails⟩
    obtain ⟨rest', question', hparse', heq⟩ := @processQuery_of_asks cfg _ _ hasks
    rw [hparse] at hparse'
    cases hparse'
    obtain ⟨_, _, labels, -, -, -, hquery⟩ := hasks
    obtain ⟨name', hspoils, hne⟩ := (derails_iff hquery).mp hderails
    obtain ⟨e, hread⟩ := readAnswers_error_iff.mpr hspoils
    rw [hread] at heq
    exact hne (congrArg PendingQuery.name (h _ heq))
  · intro h pq' hpending
    by_contra hne
    obtain ⟨hasks, -⟩ := processQuery_ne_iff.mp fun hsame =>
      hne (State.pending.inj (hpending.symm.trans hsame))
    obtain ⟨rest, question, hparse, heq⟩ := @processQuery_of_asks cfg _ _ hasks
    rw [hpending] at heq
    refine h hasks ⟨rest, question, hparse, ?_⟩
    obtain ⟨_, _, labels, -, -, -, hquery⟩ := hasks
    cases hread : readAnswers cfg packet (Packet.answerRecordCount packet).toNat rest pq.name []
      with
    | mk name answers =>
      rw [hread] at heq
      cases answers with
      | error e =>
        obtain rfl := State.pending.inj heq
        refine (derails_iff hquery).mpr ⟨name, readAnswers_error_iff.mp ⟨e, hread⟩, ?_⟩
        rintro rfl
        exact hne rfl
      | ok addresses =>
        dsimp only at heq
        split_ifs at heq

/-- A packet damages no query exactly if its answers do not derail the query that it asks for. -/
theorem undamaged_iff {s : Socket} (h : s.accepts ipRepr udpRepr) :
    (∃ s', s.process cfg ipRepr udpRepr packet = .ok s' ∧ Undamaged s s') ↔
      (Response packet → Packet.rcode packet ≠ .nxDomain → ∀ i pq,
        FirstAddressed udpRepr packet s.queries i pq → Asks packet pq →
          ¬ Derailed cfg packet pq) := by
  rcases @process_eq cfg ipRepr udpRepr packet s h with ⟨hres, heq⟩ | ⟨hres, heq⟩
  case inr => exact iff_of_true ⟨s, heq, fun _ _ hpending => hpending⟩ fun hr => absurd hr hres
  rw [heq]
  constructor
  · rintro ⟨_, ⟨⟩, hun⟩ - hrcode i pq hfirst
    rw [← processQuery_pending_iff]
    intro pq' hpending
    obtain ⟨hnone, -⟩ | ⟨j, pq₁, hfirst', hset⟩ := @processQueries_cases cfg _ _ s.queries hrcode
    · exact absurd hfirst (hnone i pq)
    obtain rfl := hfirst.unique hfirst'
    have hj := hun j pq' (by
      dsimp only
      rw [hset, List.getElem?_set_self (List.getElem?_eq_some_iff.mp hfirst'.query).1, hpending])
    rw [hfirst'.query] at hj
    cases hj
    rfl
  · intro hnot
    refine ⟨_, rfl, ?_⟩
    intro i pq' hpending
    dsimp only at hpending
    by_cases hrcode : Packet.rcode packet = .nxDomain
    · by_cases haddr : ∃ pq, s.queries[i]? = some (some (.pending pq)) ∧
          Addressed udpRepr packet pq
      · obtain ⟨pq, hq, haddr⟩ := haddr
        rw [(processQueries_nxDomain hrcode i).1 pq hq haddr] at hpending
        cases hpending
      · rwa [(processQueries_nxDomain hrcode i).2 fun pq hq haddr' => haddr ⟨pq, hq, haddr'⟩]
          at hpending
    · obtain ⟨-, hsame⟩ | ⟨j, pq, hfirst, hset⟩ := @processQueries_cases cfg _ _ s.queries hrcode
      · rwa [hsame] at hpending
      rw [hset] at hpending
      by_cases hji : j = i
      · subst hji
        rw [List.getElem?_set_self (List.getElem?_eq_some_iff.mp hfirst.query).1] at hpending
        rw [processQuery_pending_iff.mpr (hnot hres hrcode j pq hfirst) pq'
          (Option.some.inj (Option.some.inj hpending))]
        exact hfirst.query
      · rwa [List.getElem?_set_ne hji] at hpending

/-- The response to a query for `a`: an alias that stands for `b`, and of the two answers that it
announces no other one. -/
def aliasResponse : List UInt8 :=
  [0, 7, 0x80, 0, 0, 1, 0, 2, 0, 0, 0, 0, 1, 97, 0, 0, 1, 0, 1,
    0xC0, 12, 0, 5, 0, 1, 0, 0, 0, 0, 0, 3, 1, 98, 0]

/-- A socket with a pending query for the address of `a`. -/
def askingSocket : Socket :=
  ⟨[.ipv4 8], [some (.pending ⟨[1, 97, 0], .a, 49152, 7, none, 0, 0, 0, .disabled⟩)], none⟩

theorem undamaged_iff_alias :
    (∃ s', askingSocket.process ⟨1, 255⟩ (.ipv4 ⟨8, 1, .udp, 42, 64⟩) ⟨53, 49152⟩ aliasResponse =
        .ok s' ∧ Undamaged askingSocket s') ↔
      (Response aliasResponse → Packet.rcode aliasResponse ≠ .nxDomain → ∀ i pq,
        FirstAddressed ⟨53, 49152⟩ aliasResponse askingSocket.queries i pq →
          Asks aliasResponse pq → ¬ Derailed ⟨1, 255⟩ aliasResponse pq) :=
  undamaged_iff (by decide)

/-- The query is pending as before, but asks for `b`. -/
theorem not_undamaged_alias :
    askingSocket.process ⟨1, 255⟩ (.ipv4 ⟨8, 1, .udp, 42, 64⟩) ⟨53, 49152⟩ aliasResponse =
      .ok ⟨[.ipv4 8], [some (.pending ⟨[1, 98, 0], .a, 49152, 7, none, 0, 0, 0, .disabled⟩)],
        none⟩ ∧
    ¬ Undamaged askingSocket
      ⟨[.ipv4 8], [some (.pending ⟨[1, 98, 0], .a, 49152, 7, none, 0, 0, 0, .disabled⟩)],
      none⟩ := by
  refine ⟨by decide +kernel, fun h => ?_⟩
  have hsame := h 0 _ rfl
  revert hsame
  decide

/-! ### The chain of aliases -/

/-- What a record says, with its names expanded. -/
inductive AnswerData where
  | address (addr : IpAddress)
  | alias (target : List (List UInt8))
  | other
  deriving DecidableEq, Repr

structure Answer where
  owner : List (List UInt8)
  data : AnswerData
  deriving DecidableEq, Repr

inductive Means (packet : List UInt8) : RecordData → AnswerData → Prop where
  | a (addr : BitVec 32) : Means packet (.a addr) (.address (.ipv4 addr))
  | aaaa (addr : BitVec 128) : Means packet (.aaaa addr) (.address (.ipv6 addr))
  | cname {name : List UInt8} {target : List (List UInt8)} (h : Expands packet name target) :
      Means packet (.cname name) (.alias target)
  | other (type : QueryType) (data : List UInt8) : Means packet (.other type data) .other

/-- From `payload` on, `count` well-formed records. -/
inductive Answers (packet : List UInt8) : ℕ → List UInt8 → List Answer → Prop where
  | nil {payload : List UInt8} : Answers packet 0 payload []
  | cons {count : ℕ} {payload rest : List UInt8} {r : Record} {answer : Answer}
      {answers : List Answer} (h : Record.parse payload = .ok (rest, r))
      (howner : Expands packet r.name answer.owner) (hdata : Means packet r.data answer.data)
      (hrest : Answers packet count rest answers) :
      Answers packet (count + 1) payload (answer :: answers)

/-- The addresses of the target, which each alias of the target replaces. -/
def chain (target : List (List UInt8)) : List Answer → List IpAddress
  | [] => []
  | answer :: answers =>
    if answer.owner = target then
      match answer.data with
      | .address addr => addr :: chain target answers
      | .alias target => chain target answers
      | .other => chain target answers
    else chain target answers

/-- The targets that aliases lead to. -/
def targets (target : List (List UInt8)) : List Answer → List (List (List UInt8))
  | [] => []
  | answer :: answers =>
    if answer.owner = target then
      match answer.data with
      | .address _ => targets target answers
      | .alias target => target :: targets target answers
      | .other => targets target answers
    else targets target answers

/-- The octets of a name without pointers. -/
def nameSize (labels : List (List UInt8)) : ℕ := (labels.map fun label => label.length + 1).sum + 1

/-- A response to a query whose names are all well formed. -/
structure Answered (packet : List UInt8) (pq : PendingQuery) (target : List (List UInt8))
    (answers : List Answer) : Prop where
  asks : Asks packet pq
  target : Expands packet pq.name target
  answers : ∃ rest question, Question.parse (Packet.payload packet) = .ok (rest, question) ∧
    Answers packet (Packet.answerRecordCount packet).toNat rest answers

/-- What becomes of a query with the given addresses. -/
def resolved (cfg : DnsConfig) (addresses : List IpAddress) : State :=
  if addresses.take cfg.maxResultCount = [] then .failure
  else .completed (addresses.take cfg.maxResultCount)

/-- A name that fits is copied as it is. -/
lemma copyName_of_fits {capacity : ℕ} {labels copied : List (List UInt8)}
    (hvalid : ∀ label ∈ copied, 0 < label.length ∧ label.length < 64) (hdest : Spells dest labels)
    (hfits : dest.length + nameSize copied ≤ capacity) :
    ∃ name, copyName capacity dest (copied.map .ok) = (name, .ok ()) ∧
      ∀ packet, parseName packet name = (labels ++ copied).map .ok := by
  induction copied generalizing dest labels with
  | nil =>
    have hlength : dest.length < capacity := hfits
    refine ⟨dest ++ [0], by rw [List.map_nil, copyName, if_pos hlength], fun packet => ?_⟩
    rw [hdest, parseName_root, List.append_nil, List.append_nil]
  | cons label copied ih =>
    obtain ⟨hpos, hlt⟩ := hvalid label (List.mem_cons_self ..)
    rw [nameSize, List.map_cons, List.sum_cons] at hfits
    have hsize : dest.length + 1 + label.length + nameSize copied ≤ capacity := by
      rw [nameSize]
      omega
    have hpos' : 0 < nameSize copied := Nat.succ_pos _
    have hlength : (dest ++ [UInt8.ofNat label.length] ++ label).length =
        dest.length + 1 + label.length := by
      rw [List.length_append, List.length_append, List.length_singleton]
    obtain ⟨name, hcopy, hname⟩ := ih (fun label hlabel => hvalid label
      (List.mem_cons_of_mem _ hlabel)) (hdest.append hpos hlt) (by rwa [hlength])
    refine ⟨name, ?_, fun packet => by rw [hname, List.append_assoc, List.singleton_append]⟩
    rw [List.map_cons, copyName, if_pos (by omega)]
    dsimp only
    rw [if_pos (by simp; omega)]
    exact hcopy

/-- The labels of a name can be copied. -/
lemma Expands.valid {bytes : List UInt8} {labels : List (List UInt8)}
    (h : Expands packet bytes labels) :
    ∀ label ∈ labels, 0 < label.length ∧ label.length < 64 := by
  induction h with
  | root => nofun
  | label hpos hlt _ ih =>
    intro label hlabel
    rcases List.mem_cons.mp hlabel with rfl | hlabel
    · exact ⟨hpos, hlt⟩
    · exact ih label hlabel
  | pointer _ _ _ ih => exact ih

lemma eqNames_map_ok (a b : List (List UInt8)) :
    eqNames (a.map .ok) (b.map .ok) = .ok (decide (a = b)) := by
  induction a generalizing b with
  | nil =>
    cases b with
    | nil => rfl
    | cons lb b => rfl
  | cons la a ih =>
    cases b with
    | nil => rfl
    | cons lb b =>
      rw [List.map_cons, List.map_cons, eqNames]
      split_ifs with hne
      · rw [decide_eq_false fun heq => hne (List.cons.inj heq).1]
      · rw [ih, not_not.mp hne]
        simp

lemma take_append_pushAddress {addresses : List IpAddress} (more : List IpAddress)
    (addr : IpAddress) (h : addresses.length ≤ cfg.maxResultCount) :
    (pushAddress cfg addresses addr).length ≤ cfg.maxResultCount ∧
      (pushAddress cfg addresses addr ++ more).take cfg.maxResultCount =
        (addresses ++ addr :: more).take cfg.maxResultCount := by
  unfold pushAddress
  split_ifs with hlt
  · refine ⟨by simpa using hlt, ?_⟩
    rw [List.append_assoc, List.singleton_append]
  · have heq : addresses.length = cfg.maxResultCount := by omega
    exact ⟨h, by rw [List.take_left' heq, List.take_left' heq]⟩

/-- The loop collects the addresses along the chain. -/
lemma readAnswers_of_answers {count : ℕ} {payload : List UInt8} {answers : List Answer}
    {target : List (List UInt8)} {addresses : List IpAddress}
    (h : Answers packet count payload answers)
    (hname : parseName packet name = target.map .ok)
    (hfits : ∀ t ∈ targets target answers, nameSize t ≤ cfg.maxNameSize)
    (haddresses : addresses.length ≤ cfg.maxResultCount) :
    ∃ name', readAnswers cfg packet count payload name addresses =
      (name', .ok ((addresses ++ chain target answers).take cfg.maxResultCount)) := by
  induction h generalizing name target addresses with
  | nil =>
    exact ⟨name, by rw [readAnswers, chain, List.append_nil, List.take_of_length_le haddresses]⟩
  | @cons count payload rest r answer answers h howner hdata _ ih =>
    have howner' := parseName_eq_iff.mpr howner
    obtain ⟨owner, data⟩ := answer
    rw [readAnswers, h]
    dsimp only at howner' hdata ⊢
    rw [howner', hname, eqNames_map_ok]
    by_cases hown : owner = target
    case neg =>
      rw [decide_eq_false hown, chain, if_neg hown]
      rw [targets, if_neg hown] at hfits
      exact ih hname hfits haddresses
    rw [decide_eq_true hown, chain, if_pos hown]
    rw [targets, if_pos hown] at hfits
    generalize r.data = d at hdata
    cases hdata with
    | a addr =>
      obtain ⟨hlength, htake⟩ := take_append_pushAddress (chain target answers)
        (.ipv4 addr) haddresses
      dsimp only
      rw [← htake]
      exact ih hname hfits hlength
    | aaaa addr =>
      obtain ⟨hlength, htake⟩ := take_append_pushAddress (chain target answers)
        (.ipv6 addr) haddresses
      dsimp only
      rw [← htake]
      exact ih hname hfits hlength
    | other type data => exact ih hname hfits haddresses
    | @cname cname target' hcname =>
      obtain ⟨name', hcopy, hname'⟩ := copyName_of_fits hcname.valid .nil
        (Nat.zero_add (nameSize target') ▸ hfits target' (List.mem_cons_self ..))
      dsimp only
      rw [parseName_eq_iff.mpr hcname, hcopy]
      exact ih (hname' packet) (fun t ht => hfits t (List.mem_cons_of_mem _ ht)) haddresses

lemma FirstAddressed.index_eq {queries : List (Option State)} {i j : ℕ} {pq' : PendingQuery}
    (h : FirstAddressed udpRepr packet queries i pq)
    (h' : FirstAddressed udpRepr packet queries j pq') : i = j := by
  rcases lt_trichotomy i j with hlt | heq | hlt
  · exact absurd h.addressed (h'.before i hlt pq h.query)
  · exact heq
  · exact absurd h'.addressed (h.before j hlt pq' h'.query)

lemma processQuery_of_answered {target : List (List UInt8)} {answers : List Answer}
    (h : Answered packet pq target answers)
    (hfits : ∀ t ∈ targets target answers, nameSize t ≤ cfg.maxNameSize) :
    processQuery cfg packet pq = resolved cfg (chain target answers) := by
  obtain ⟨rest, question, hparse, heq⟩ := @processQuery_of_asks cfg _ _ h.asks
  obtain ⟨rest', question', hparse', hanswers⟩ := h.answers
  rw [hparse] at hparse'
  cases hparse'
  have hnone : ([] : List IpAddress).length ≤ cfg.maxResultCount := Nat.zero_le _
  obtain ⟨name, hread⟩ :=
    readAnswers_of_answers hanswers (parseName_eq_iff.mpr h.target) hfits hnone
  rw [heq, hread]
  rfl

/-- The query that a response belongs to gets the addresses along the chain of aliases, in their
order and as many as there is room for. It fails if there are none, and in any case with the code
for a name that does not exist. -/
theorem resolved_of_answered {s : Socket} {i : ℕ} {target : List (List UInt8)}
    {answers : List Answer} (h : s.accepts ipRepr udpRepr) (hres : Response packet)
    (hfirst : FirstAddressed udpRepr packet s.queries i pq)
    (hanswered : Answered packet pq target answers)
    (hfits : ∀ t ∈ targets target answers, nameSize t ≤ cfg.maxNameSize) :
    ∃ s', s.process cfg ipRepr udpRepr packet = .ok s' ∧
      s'.queries[i]? = some (some
        (if Packet.rcode packet = .nxDomain then .failure
        else resolved cfg (chain target answers))) ∧
      (0 < cfg.maxResultCount → Packet.rcode packet ≠ .nxDomain →
        (s'.queries[i]? = some (some .failure) ↔ chain target answers = [])) := by
  rcases @process_eq cfg ipRepr udpRepr packet s h with ⟨-, heq⟩ | ⟨hnot, -⟩
  case inr => exact absurd hres hnot
  have hquery : (processQueries cfg udpRepr packet s.queries)[i]? = some (some
      (if Packet.rcode packet = .nxDomain then .failure
      else resolved cfg (chain target answers))) := by
    split_ifs with hrcode
    · exact (processQueries_nxDomain hrcode i).1 pq hfirst.query hfirst.addressed
    obtain ⟨hnone, -⟩ | ⟨j, pq', hfirst', hset⟩ := @processQueries_cases cfg _ _ s.queries hrcode
    · exact absurd hfirst (hnone i pq)
    obtain rfl := hfirst.index_eq hfirst'
    obtain rfl := hfirst.unique hfirst'
    rw [hset, List.getElem?_set_self (List.getElem?_eq_some_iff.mp hfirst.query).1,
      processQuery_of_answered hanswered hfits]
  refine ⟨_, heq, hquery, fun hcount hrcode => ?_⟩
  dsimp only
  rw [hquery, if_neg hrcode, resolved]
  constructor
  · intro hfail
    split_ifs at hfail with hnone
    · rcases List.take_eq_nil_iff.mp hnone with hzero | hnil
      · omega
      · exact hnil
    · cases hfail
  · intro hnil
    rw [hnil, List.take_nil, if_pos rfl]

/-- A response to a query for `a`: an alias that stands for `b`, an address of `a`, which does not
count any more, and one of `b`. -/
def chainedResponse (rcode : UInt8) : List UInt8 :=
  [0, 7, 0x80, rcode, 0, 1, 0, 3, 0, 0, 0, 0, 1, 97, 0, 0, 1, 0, 1,
    0xC0, 12, 0, 5, 0, 1, 0, 0, 0, 0, 0, 3, 1, 98, 0,
    0xC0, 12, 0, 1, 0, 1, 0, 0, 0, 0, 0, 4, 10, 0, 0, 1,
    0xC0, 31, 0, 1, 0, 1, 0, 0, 0, 0, 0, 4, 10, 0, 0, 2]

def chainedAnswers : List Answer :=
  [⟨[[97]], .alias [[98]]⟩, ⟨[[97]], .address (.ipv4 0x0A000001)⟩,
    ⟨[[98]], .address (.ipv4 0x0A000002)⟩]

def chainedQuery : PendingQuery := ⟨[1, 97, 0], .a, 49152, 7, none, 0, 0, 0, .disabled⟩

lemma answered_chained {rcode : UInt8} (h : rcode = 0 ∨ rcode = 3) :
    Response (chainedResponse rcode) ∧
      Answered (chainedResponse rcode) chainedQuery [[97]] chainedAnswers := by
  have hcount : ∀ rcode, rcode = 0 ∨ rcode = 3 →
      (Packet.answerRecordCount (chainedResponse rcode)).toNat = 3 := by
    rintro _ (rfl | rfl) <;> decide
  rcases h with rfl | rfl
  all_goals
    refine ⟨⟨rfl, by decide, by decide, by decide⟩, ?_,
      parseName_eq_iff.mp (by decide +kernel), ?_⟩
    · exact ⟨(chainedResponse 0).drop 19, ⟨[1, 97, 0], .a⟩, [[97]], by decide +kernel, rfl,
        by decide +kernel, by decide +kernel⟩
    · refine ⟨(chainedResponse 0).drop 19, ⟨[1, 97, 0], .a⟩, by decide +kernel, ?_⟩
      rw [hcount _ (by decide)]
      refine @Answers.cons _ _ _ ((chainedResponse 0).drop 34) ⟨[0xC0, 12], 0, .cname [1, 98, 0]⟩
        _ _ (by decide +kernel) ?_ ?_ ?_
      · exact parseName_eq_iff.mp (by decide +kernel)
      · exact .cname (parseName_eq_iff.mp (by decide +kernel))
      refine @Answers.cons _ _ _ ((chainedResponse 0).drop 50) ⟨[0xC0, 12], 0, .a 0x0A000001⟩
        _ _ (by decide +kernel) ?_ (.a _) ?_
      · exact parseName_eq_iff.mp (by decide +kernel)
      refine @Answers.cons _ _ _ [] ⟨[0xC0, 31], 0, .a 0x0A000002⟩ _ _ (by decide +kernel) ?_
        (.a _) .nil
      exact parseName_eq_iff.mp (by decide +kernel)

/-- Without an error code the query gets the address of `b`. -/
theorem resolved_of_answered_chained :
    ∃ s', askingSocket.process ⟨1, 255⟩ (.ipv4 ⟨8, 1, .udp, 74, 64⟩) ⟨53, 49152⟩
        (chainedResponse 0) = .ok s' ∧
      s'.queries[0]? = some (some (.completed [.ipv4 0x0A000002])) := by
  obtain ⟨hres, hanswered⟩ := answered_chained (.inl rfl)
  have hfirst : FirstAddressed ⟨53, 49152⟩ (chainedResponse 0) askingSocket.queries 0
      chainedQuery := ⟨rfl, by decide, nofun⟩
  have haccepts : askingSocket.accepts (.ipv4 ⟨8, 1, .udp, 74, 64⟩) ⟨53, 49152⟩ := by decide
  have hfits : ∀ t ∈ targets [[97]] chainedAnswers, nameSize t ≤ 255 := by decide
  obtain ⟨s', heq, hquery, -⟩ :=
    @resolved_of_answered ⟨1, 255⟩ _ _ _ _ _ _ _ _ haccepts hres hfirst hanswered hfits
  exact ⟨s', heq, hquery⟩

/-- With the code for a name that does not exist the query fails, though there is an address. -/
theorem failure_of_answered_nxDomain :
    Response (chainedResponse 3) ∧
      FirstAddressed ⟨53, 49152⟩ (chainedResponse 3) askingSocket.queries 0 chainedQuery ∧
      Answered (chainedResponse 3) chainedQuery [[97]] chainedAnswers ∧
      chain [[97]] chainedAnswers = [.ipv4 0x0A000002] ∧
      askingSocket.process ⟨1, 255⟩ (.ipv4 ⟨8, 1, .udp, 74, 64⟩) ⟨53, 49152⟩ (chainedResponse 3) =
        .ok ⟨[.ipv4 8], [some .failure], none⟩ := by
  obtain ⟨hres, hanswered⟩ := answered_chained (.inr rfl)
  exact ⟨hres, ⟨rfl, by decide, nofun⟩, hanswered, by decide, by decide⟩

end Smoltcp.Dns
