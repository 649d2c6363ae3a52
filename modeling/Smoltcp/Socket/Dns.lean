import Smoltcp.Time
import Smoltcp.Wire.Dns
import Smoltcp.Wire.Udp

/-!
# DNS responses

A DNS socket holds queries. A response completes the query that it belongs to, or lets it fail, and
must not change any other one: whoever can guess or see enough of a query could otherwise answer it.
-/

namespace Smoltcp

namespace Dns

def dnsPort : UInt16 := 53

def mdnsDnsPort : UInt16 := 5353

/-- The configuration of the crate that DNS sockets depend on. -/
structure DnsConfig where
  maxResultCount : ℕ
  maxNameSize : ℕ

inductive MulticastDns where
  | disabled
  | enabled
  deriving DecidableEq, Repr

structure PendingQuery where
  name : List UInt8
  type : QueryType
  /-- UDP port (source of the request, destination of the response). -/
  port : UInt16
  /-- Transaction ID. -/
  txid : UInt16
  timeoutAt : Option Instant
  retransmitAt : Instant
  delay : Duration
  serverIdx : ℕ
  mdns : MulticastDns
  deriving DecidableEq, Repr

inductive State where
  | pending (pq : PendingQuery)
  | completed (addresses : List IpAddress)
  | failure
  deriving DecidableEq, Repr

structure Socket where
  servers : List IpAddress
  queries : List (Option State)
  hopLimit : Option UInt8
  deriving DecidableEq, Repr

/-- Compare two names label by label. -/
def eqNames : List (Except WireError (List UInt8)) → List (Except WireError (List UInt8)) →
    Except WireError Bool
  | .error e :: _, _ => .error e
  | _, .error e :: _ => .error e
  | [], [] => .ok true
  -- One finished before the other.
  | [], _ => .ok false
  | _, [] => .ok false
  | .ok la :: a, .ok lb :: b => if la ≠ lb then .ok false else eqNames a b

/-- Append a name to `dest`, in a vector that holds `capacity` octets. What was appended before an
error stays. -/
def copyName (capacity : ℕ) : List UInt8 → List (Except WireError (List UInt8)) →
    List UInt8 × Except WireError Unit
  | dest, [] => if dest.length < capacity then (dest ++ [0], .ok ()) else (dest, .error .mk)
  | dest, .error e :: _ => (dest, .error e)
  | dest, .ok label :: name =>
    if dest.length < capacity then
      let dest := dest ++ [.ofNat label.length]
      if dest.length + label.length ≤ capacity then copyName capacity (dest ++ label) name
      else (dest, .error .mk)
    else (dest, .error .mk)

/-- `addresses.push(addr)`. What is too much is ignored. -/
def pushAddress (cfg : DnsConfig) (addresses : List IpAddress) (addr : IpAddress) :
    List IpAddress :=
  if addresses.length < cfg.maxResultCount then addresses ++ [addr] else addresses

/-- The loop over the answer records: the name that the query then has, and the addresses. -/
def readAnswers (cfg : DnsConfig) (packet : List UInt8) :
    ℕ → List UInt8 → List UInt8 → List IpAddress → List UInt8 × Except WireError (List IpAddress)
  | 0, _, name, addresses => (name, .ok addresses)
  | count + 1, payload, name, addresses =>
    match Record.parse payload with
    | .error e => (name, .error e)
    | .ok (payload, r) =>
      match eqNames (parseName packet r.name) (parseName packet name) with
      | .error e => (name, .error e)
      | .ok false => readAnswers cfg packet count payload name addresses
      | .ok true =>
        match r.data with
        | .a addr => readAnswers cfg packet count payload name
            (pushAddress cfg addresses (.ipv4 addr))
        | .aaaa addr =>
          readAnswers cfg packet count payload name (pushAddress cfg addresses (.ipv6 addr))
        | .cname cname =>
          -- The query gets the new name, so that records for it that follow are picked up.
          match copyName cfg.maxNameSize [] (parseName packet cname) with
          | (name, .error e) => (name, .error e)
          | (name, .ok ()) => readAnswers cfg packet count payload name addresses
        | .other _ _ => readAnswers cfg packet count payload name addresses

/-- What becomes of a pending query with the port and the transaction ID of the packet. -/
def processQuery (cfg : DnsConfig) (packet : List UInt8) (pq : PendingQuery) : State :=
  match Question.parse (Packet.payload packet) with
  | .error _ => .pending pq
  | .ok (payload, question) =>
    if question.type ≠ pq.type then .pending pq
    else
      match eqNames (parseName packet question.name) (parseName packet pq.name) with
      | .error _ => .pending pq
      | .ok false => .pending pq
      | .ok true =>
        match readAnswers cfg packet (Packet.answerRecordCount packet).toNat payload pq.name [] with
        | (name, .error _) => .pending { pq with name }
        | (_, .ok addresses) => if addresses = [] then .failure else .completed addresses

/-- The loop that finds the pending query. -/
def processQueries (cfg : DnsConfig) (udpRepr : UdpRepr) (packet : List UInt8) :
    List (Option State) → List (Option State)
  | some (.pending pq) :: queries =>
    if udpRepr.dstPort ≠ pq.port ∨ Packet.transactionId packet ≠ pq.txid then
      some (.pending pq) :: processQueries cfg udpRepr packet queries
    else if Packet.rcode packet = .nxDomain then
      some .failure :: processQueries cfg udpRepr packet queries
    else some (processQuery cfg packet pq) :: queries
  | q :: queries => q :: processQueries cfg udpRepr packet queries
  | [] => []

namespace Socket

def accepts (s : Socket) (ipRepr : IpRepr) (udpRepr : UdpRepr) : Prop :=
  (udpRepr.srcPort = dnsPort ∧ ∃ server ∈ s.servers, server = ipRepr.srcAddr) ∨
    udpRepr.srcPort = mdnsDnsPort

instance (s : Socket) (ipRepr : IpRepr) (udpRepr : UdpRepr) :
    Decidable (s.accepts ipRepr udpRepr) :=
  inferInstanceAs (Decidable (_ ∨ _))

def process (cfg : DnsConfig) (s : Socket) (ipRepr : IpRepr) (udpRepr : UdpRepr)
    (payload : List UInt8) : Checked Socket := do
  Checked.assert (s.accepts ipRepr udpRepr)
  match Packet.checkLen payload with
  | .error _ => return s
  | .ok () =>
    if Packet.opcode payload ≠ .query then return s
    else if ¬ Packet.response payload then return s
    else if Packet.questionCount payload ≠ 1 then return s
    else return { s with queries := processQueries cfg udpRepr payload s.queries }

end Socket

/-! ### Authentic responses -/

section

variable (ipRepr : IpRepr) (udpRepr : UdpRepr) (packet : List UInt8) (pq : PendingQuery)

/-- A response with one question. -/
structure Response : Prop where
  checkLen : Packet.checkLen packet = .ok ()
  opcode : Packet.opcode packet = .query
  response : Packet.response packet
  questionCount : Packet.questionCount packet = 1

/-- The port and the transaction ID of a query. -/
def Addressed : Prop := udpRepr.dstPort = pq.port ∧ Packet.transactionId packet = pq.txid

instance : Decidable (Addressed udpRepr packet pq) := inferInstanceAs (Decidable (_ ∧ _))

/-- The question is well formed and has the type of the query, and both names expand to the same
labels. -/
def Asks : Prop :=
  ∃ rest question, ∃ labels : List (List UInt8),
    Question.parse (Packet.payload packet) = .ok (rest, question) ∧
    question.type = pq.type ∧ parseName packet question.name = labels.map .ok ∧
    parseName packet pq.name = labels.map .ok

/-- The source of responses to a query: a configured server, or any host for multicast DNS. -/
def FromServer (servers : List IpAddress) : Prop :=
  match pq.mdns with
  | .disabled => udpRepr.srcPort = dnsPort ∧ ipRepr.srcAddr ∈ servers
  | .enabled => udpRepr.srcPort = mdnsDnsPort

/-- A response to a query. -/
structure Authentic (servers : List IpAddress) : Prop where
  response : Response packet
  addressed : Addressed udpRepr packet pq
  asks : Asks packet pq
  fromServer : FromServer ipRepr udpRepr pq servers

end

/-- Every query that is not as it was is a pending one that the packet is a response to. -/
def OnlyAuthentic (ipRepr : IpRepr) (udpRepr : UdpRepr) (packet : List UInt8) (s s' : Socket) :
    Prop :=
  s'.queries.length = s.queries.length ∧ ∀ (i : ℕ) (q : Option State),
    s.queries[i]? = some q → s'.queries[i]? ≠ some q → ∃ pq, q = some (.pending pq) ∧
    Authentic ipRepr udpRepr packet pq s.servers

/-- From `payload` on, one of the next records is malformed, and records before it take the name of
the query from `name` to `name'`. -/
inductive Spoils (cfg : DnsConfig) (packet : List UInt8) :
    ℕ → List UInt8 → List UInt8 → List UInt8 → Prop where
  | malformed {count : ℕ} {payload name : List UInt8} {e : WireError}
      (h : Record.parse payload = .error e) : Spoils cfg packet (count + 1) payload name name
  | nameMalformed {count : ℕ} {payload rest name : List UInt8} {r : Record} {e : WireError}
      (h : Record.parse payload = .ok (rest, r))
      (hname : eqNames (parseName packet r.name) (parseName packet name) = .error e) :
      Spoils cfg packet (count + 1) payload name name
  | cnameMalformed {count : ℕ} {payload rest name name' cname : List UInt8} {r : Record}
      {e : WireError} (h : Record.parse payload = .ok (rest, r))
      (hname : eqNames (parseName packet r.name) (parseName packet name) = .ok true)
      (hdata : r.data = .cname cname)
      (hcopy : copyName cfg.maxNameSize [] (parseName packet cname) = (name', .error e)) :
      Spoils cfg packet (count + 1) payload name name'
  | mismatch {count : ℕ} {payload rest name name' : List UInt8} {r : Record}
      (h : Record.parse payload = .ok (rest, r))
      (hname : eqNames (parseName packet r.name) (parseName packet name) = .ok false)
      (hrest : Spoils cfg packet count rest name name') :
      Spoils cfg packet (count + 1) payload name name'
  | cname {count : ℕ} {payload rest name name₁ name' cname : List UInt8} {r : Record}
      (h : Record.parse payload = .ok (rest, r))
      (hname : eqNames (parseName packet r.name) (parseName packet name) = .ok true)
      (hdata : r.data = .cname cname)
      (hcopy : copyName cfg.maxNameSize [] (parseName packet cname) = (name₁, .ok ()))
      (hrest : Spoils cfg packet count rest name₁ name') :
      Spoils cfg packet (count + 1) payload name name'
  | data {count : ℕ} {payload rest name name' : List UInt8} {r : Record}
      (h : Record.parse payload = .ok (rest, r))
      (hname : eqNames (parseName packet r.name) (parseName packet name) = .ok true)
      (hdata : ∀ cname, r.data ≠ .cname cname)
      (hrest : Spoils cfg packet count rest name name') :
      Spoils cfg packet (count + 1) payload name name'

/-- The answers are malformed, and the query keeps its name. -/
def Spoiled (cfg : DnsConfig) (packet : List UInt8) (pq : PendingQuery) : Prop :=
  ∃ rest question, Question.parse (Packet.payload packet) = .ok (rest, question) ∧
    Spoils cfg packet (Packet.answerRecordCount packet).toNat rest pq.name pq.name

/-- The first query that the packet is addressed to, and where it is. -/
structure FirstAddressed (udpRepr : UdpRepr) (packet : List UInt8) (queries : List (Option State))
    (i : ℕ) (pq : PendingQuery) : Prop where
  query : queries[i]? = some (some (.pending pq))
  addressed : Addressed udpRepr packet pq
  before : ∀ j < i, ∀ pq', queries[j]? = some (some (.pending pq')) → ¬ Addressed udpRepr packet pq'

/-- A packet that does what it should: with the code for a name that does not exist, it is a
response to all queries that it is addressed to; otherwise, if it changes the first of these, it
comes from where responses to that query come from. -/
structure Trustworthy (cfg : DnsConfig) (ipRepr : IpRepr) (udpRepr : UdpRepr)
    (packet : List UInt8) (s : Socket) : Prop where
  nxDomain : Response packet → Packet.rcode packet = .nxDomain → ∀ pq,
    some (.pending pq) ∈ s.queries → Addressed udpRepr packet pq →
      Asks packet pq ∧ FromServer ipRepr udpRepr pq s.servers
  first : Response packet → Packet.rcode packet ≠ .nxDomain → ∀ i pq,
    FirstAddressed udpRepr packet s.queries i pq → Asks packet pq → ¬ Spoiled cfg packet pq →
      FromServer ipRepr udpRepr pq s.servers

/-! ### Names -/

/-- Names are equal exactly if both are well formed and have the same labels. -/
lemma eqNames_iff {a b : List (Except WireError (List UInt8))} :
    eqNames a b = .ok true ↔ ∃ labels : List (List UInt8), a = labels.map .ok ∧
      b = labels.map .ok := by
  constructor
  · intro h
    induction a generalizing b with
    | nil =>
      match b, h with
      | [], _ => exact ⟨[], rfl, rfl⟩
    | cons x a ih =>
      match x, b, h with
      | .ok la, .ok lb :: b, h =>
        rw [eqNames] at h
        by_cases hne : la = lb
        · rw [if_neg (not_not.mpr hne)] at h
          obtain ⟨labels, rfl, rfl⟩ := ih h
          exact ⟨la :: labels, rfl, hne ▸ rfl⟩
        · rw [if_pos hne] at h
          cases h
  · rintro ⟨labels, rfl, rfl⟩
    induction labels with
    | nil => rfl
    | cons label labels ih =>
      rw [List.map_cons, eqNames, if_neg (not_not.mpr rfl)]
      exact ih

/-- The answers are refused exactly if one of them is malformed. -/
lemma readAnswers_error_iff {cfg : DnsConfig} {packet : List UInt8} {count : ℕ}
    {payload name name' : List UInt8} {addresses : List IpAddress} :
    (∃ e, readAnswers cfg packet count payload name addresses = (name', .error e)) ↔
      Spoils cfg packet count payload name name' := by
  constructor
  · rintro ⟨e, h⟩
    induction count generalizing payload name addresses with
    | zero => cases h
    | succ count ih =>
      rw [readAnswers] at h
      cases hr : Record.parse payload with
      | error e' =>
        rw [hr] at h
        cases h
        exact .malformed hr
      | ok r =>
        obtain ⟨rest, r⟩ := r
        rw [hr] at h
        dsimp only at h
        cases hname : eqNames (parseName packet r.name) (parseName packet name) with
        | error e' =>
          rw [hname] at h
          cases h
          exact .nameMalformed hr hname
        | ok same =>
          rw [hname] at h
          cases same with
          | false => exact .mismatch hr hname (ih h)
          | true =>
            dsimp only at h
            cases hdata : r.data with
            | a addr =>
              rw [hdata] at h
              exact .data hr hname (by simp [hdata]) (ih h)
            | aaaa addr =>
              rw [hdata] at h
              exact .data hr hname (by simp [hdata]) (ih h)
            | other type data =>
              rw [hdata] at h
              exact .data hr hname (by simp [hdata]) (ih h)
            | cname cname =>
              rw [hdata] at h
              dsimp only at h
              cases hcopy : copyName cfg.maxNameSize [] (parseName packet cname) with
              | mk name₁ copied =>
                rw [hcopy] at h
                cases copied with
                | error e' =>
                  cases h
                  exact .cnameMalformed hr hname hdata hcopy
                | ok u => exact .cname hr hname hdata hcopy (ih h)
  · intro h
    induction h generalizing addresses with
    | malformed h => exact ⟨_, by rw [readAnswers, h]⟩
    | nameMalformed h hname =>
      rw [readAnswers, h]
      dsimp only
      rw [hname]
      exact ⟨_, rfl⟩
    | cnameMalformed h hname hdata hcopy =>
      rw [readAnswers, h]
      dsimp only
      rw [hname, hdata]
      dsimp only
      rw [hcopy]
      exact ⟨_, rfl⟩
    | mismatch h hname _ ih =>
      rw [readAnswers, h]
      dsimp only
      rw [hname]
      exact ih
    | cname h hname hdata hcopy _ ih =>
      rw [readAnswers, h]
      dsimp only
      rw [hname, hdata]
      dsimp only
      rw [hcopy]
      exact ih
    | @data _ _ _ _ _ r h hname hdata _ ih =>
      rw [readAnswers, h]
      dsimp only
      rw [hname]
      cases hr : r.data with
      | a addr => exact ih
      | aaaa addr => exact ih
      | cname cname => exact absurd hr (hdata cname)
      | other type data => exact ih

/-! ### Queries -/

variable {cfg : DnsConfig} {ipRepr : IpRepr} {udpRepr : UdpRepr} {packet : List UInt8}
  {pq : PendingQuery} {queries : List (Option State)}

/-- A query is changed exactly by a packet that asks for it, unless that spoils it. -/
lemma processQuery_ne_iff :
    processQuery cfg packet pq ≠ .pending pq ↔ Asks packet pq ∧ ¬ Spoiled cfg packet pq := by
  have hasks : ∀ rest question, Question.parse (Packet.payload packet) = .ok (rest, question) →
      (Asks packet pq ↔ question.type = pq.type ∧
        eqNames (parseName packet question.name) (parseName packet pq.name) = .ok true) := by
    intro rest question hparse
    rw [eqNames_iff]
    constructor
    · rintro ⟨rest', question', labels, hparse', htype, hname, hquery⟩
      rw [hparse] at hparse'
      cases hparse'
      exact ⟨htype, labels, hname, hquery⟩
    · rintro ⟨htype, labels, hname, hquery⟩
      exact ⟨rest, question, labels, hparse, htype, hname, hquery⟩
  unfold processQuery
  cases hparse : Question.parse (Packet.payload packet) with
  | error e =>
    refine iff_of_false (fun h => h rfl) ?_
    rintro ⟨⟨_, _, _, hparse', -⟩, -⟩
    exact nomatch hparse.symm.trans hparse'
  | ok parsed =>
    obtain ⟨rest, question⟩ := parsed
    rw [hasks rest question hparse]
    dsimp only
    by_cases htype : question.type = pq.type
    case neg =>
      rw [if_pos htype]
      exact iff_of_false (fun h => h rfl) fun h => htype h.1.1
    rw [if_neg (not_not.mpr htype)]
    cases hname : eqNames (parseName packet question.name) (parseName packet pq.name) with
    | error e => exact iff_of_false (fun h => h rfl) fun h => nomatch h.1.2
    | ok same =>
      cases same with
      | false => exact iff_of_false (fun h => h rfl) fun h => nomatch h.1.2
      | true =>
        have hspoiled : Spoiled cfg packet pq ↔ ∃ e, readAnswers cfg packet
            (Packet.answerRecordCount packet).toNat rest pq.name [] = (pq.name, .error e) := by
          rw [readAnswers_error_iff]
          constructor
          · rintro ⟨rest', question', hparse', h⟩
            rw [hparse] at hparse'
            cases hparse'
            exact h
          · exact fun h => ⟨rest, question, hparse, h⟩
        rw [hspoiled]
        dsimp only
        cases hread : readAnswers cfg packet (Packet.answerRecordCount packet).toNat rest pq.name []
          with
        | mk name answers =>
          cases answers with
          | error e =>
            dsimp only
            constructor
            · intro hne
              refine ⟨⟨htype, rfl⟩, ?_⟩
              rintro ⟨e', he'⟩
              cases he'
              exact hne rfl
            · rintro ⟨-, hnot⟩ heq
              have hname' : name = pq.name := congrArg PendingQuery.name (State.pending.inj heq)
              exact hnot ⟨e, by rw [hname']⟩
          | ok addresses =>
            refine iff_of_true ?_ ⟨⟨htype, rfl⟩, nofun⟩
            dsimp only
            split_ifs
            · nofun
            · nofun

/-- A query that the packet is not addressed to is passed over. -/
lemma processQueries_cons {q : Option State}
    (h : ∀ pq, q = some (.pending pq) → ¬ Addressed udpRepr packet pq) :
    processQueries cfg udpRepr packet (q :: queries) =
      q :: processQueries cfg udpRepr packet queries := by
  match q, h with
  | some (.pending pq), h => rw [processQueries, if_pos (not_and_or.mp (h pq rfl))]
  | some (.completed addresses), _ => rfl
  | some .failure, _ => rfl
  | none, _ => rfl

/-- With the code for a name that does not exist, all queries that the packet is addressed to
fail. -/
lemma processQueries_nxDomain (h : Packet.rcode packet = .nxDomain) (i : ℕ) :
    (∀ pq, queries[i]? = some (some (.pending pq)) → Addressed udpRepr packet pq →
      (processQueries cfg udpRepr packet queries)[i]? = some (some .failure)) ∧
    ((∀ pq, queries[i]? = some (some (.pending pq)) → ¬ Addressed udpRepr packet pq) →
      (processQueries cfg udpRepr packet queries)[i]? = queries[i]?) := by
  induction queries generalizing i with
  | nil => exact ⟨nofun, fun _ => rfl⟩
  | cons q queries ih =>
    by_cases hq : ∃ pq, q = some (.pending pq) ∧ Addressed udpRepr packet pq
    · obtain ⟨pq, rfl, haddr⟩ := hq
      rw [processQueries, if_neg (mt not_and_or.mpr (not_not.mpr haddr)), if_pos h]
      cases i with
      | zero => exact ⟨fun _ _ _ => rfl, fun hnot => absurd haddr (hnot pq rfl)⟩
      | succ i => exact ih i
    · have hnot : ∀ pq, q = some (.pending pq) → ¬ Addressed udpRepr packet pq :=
        fun pq hpq haddr => hq ⟨pq, hpq, haddr⟩
      rw [processQueries_cons hnot]
      cases i with
      | zero =>
        exact ⟨fun pq hpq haddr => absurd haddr (hnot pq (Option.some.inj hpq)), fun _ => rfl⟩
      | succ i => exact ih i

/-- With any other code, the first query that the packet is addressed to is processed. -/
lemma processQueries_cases (h : Packet.rcode packet ≠ .nxDomain) :
    ((∀ i pq, ¬ FirstAddressed udpRepr packet queries i pq) ∧
      processQueries cfg udpRepr packet queries = queries) ∨
    ∃ i pq, FirstAddressed udpRepr packet queries i pq ∧
      processQueries cfg udpRepr packet queries =
        queries.set i (some (processQuery cfg packet pq)) := by
  induction queries with
  | nil => exact .inl ⟨fun _ _ hfirst => (nomatch hfirst.query), rfl⟩
  | cons q queries ih =>
    by_cases hq : ∃ pq, q = some (.pending pq) ∧ Addressed udpRepr packet pq
    · obtain ⟨pq, rfl, haddr⟩ := hq
      refine .inr ⟨0, pq, ⟨rfl, haddr, nofun⟩, ?_⟩
      rw [processQueries, if_neg (mt not_and_or.mpr (not_not.mpr haddr)), if_neg h,
        List.set_cons_zero]
    · have hnot : ∀ pq, q = some (.pending pq) → ¬ Addressed udpRepr packet pq :=
        fun pq hpq haddr => hq ⟨pq, hpq, haddr⟩
      rw [processQueries_cons hnot]
      rcases ih with ⟨hnone, heq⟩ | ⟨i, pq, hfirst, heq⟩
      · refine .inl ⟨?_, by rw [heq]⟩
        intro i pq hfirst
        cases i with
        | zero => exact hnot pq (Option.some.inj hfirst.query) hfirst.addressed
        | succ i =>
          refine hnone i pq ⟨hfirst.query, hfirst.addressed, fun j hj => ?_⟩
          exact hfirst.before (j + 1) (Nat.succ_lt_succ hj)
      · refine .inr ⟨i + 1, pq, ⟨hfirst.query, hfirst.addressed, ?_⟩, ?_⟩
        · intro j hj pq' hpq'
          cases j with
          | zero => exact hnot pq' (Option.some.inj hpq')
          | succ j => exact hfirst.before j (Nat.lt_of_succ_lt_succ hj) pq' hpq'
        · rw [heq, List.set_cons_succ]

lemma FirstAddressed.unique {i j : ℕ} {pq' : PendingQuery}
    (h : FirstAddressed udpRepr packet queries i pq)
    (h' : FirstAddressed udpRepr packet queries j pq') : pq = pq' := by
  rcases lt_trichotomy i j with hlt | rfl | hlt
  · exact absurd h.addressed (h'.before i hlt pq h.query)
  · have heq := h.query.symm.trans h'.query
    cases heq
    rfl
  · exact absurd h'.addressed (h.before j hlt pq' h'.query)

lemma length_processQueries :
    (processQueries cfg udpRepr packet queries).length = queries.length := by
  induction queries with
  | nil => rfl
  | cons q queries ih =>
    by_cases hq : ∃ pq, q = some (.pending pq) ∧ Addressed udpRepr packet pq
    · obtain ⟨pq, rfl, haddr⟩ := hq
      rw [processQueries, if_neg (mt not_and_or.mpr (not_not.mpr haddr))]
      split_ifs
      · rw [List.length_cons, List.length_cons, ih]
      · rfl
    · rw [processQueries_cons fun pq hpq haddr => hq ⟨pq, hpq, haddr⟩, List.length_cons,
        List.length_cons, ih]

lemma process_eq {s : Socket} (h : s.accepts ipRepr udpRepr) :
    (Response packet ∧ s.process cfg ipRepr udpRepr packet =
      .ok { s with queries := processQueries cfg udpRepr packet s.queries }) ∨
    ¬ Response packet ∧ s.process cfg ipRepr udpRepr packet = .ok s := by
  unfold Socket.process
  rw [Checked.assert_of h, Checked.ok_bind]
  cases hlen : Packet.checkLen packet with
  | error e => exact .inr ⟨fun hr => (nomatch hlen.symm.trans hr.checkLen), rfl⟩
  | ok u =>
    dsimp only
    by_cases hop : Packet.opcode packet = .query
    case neg => exact .inr ⟨fun hr => hop hr.opcode, if_pos hop⟩
    by_cases hres : Packet.response packet
    case neg =>
      rw [if_neg (not_not.mpr hop), if_pos hres]
      exact .inr ⟨fun hr => hres hr.response, rfl⟩
    by_cases hcount : Packet.questionCount packet = 1
    case neg =>
      rw [if_neg (not_not.mpr hop), if_neg (not_not.mpr hres), if_pos hcount]
      exact .inr ⟨fun hr => hcount hr.questionCount, rfl⟩
    rw [if_neg (not_not.mpr hop), if_neg (not_not.mpr hres), if_neg (not_not.mpr hcount)]
    exact .inl ⟨⟨hlen, hop, hres, hcount⟩, rfl⟩

/-- A packet changes nothing but queries that it is an authentic response to, exactly if it is
trustworthy. -/
theorem onlyAuthentic_iff {s : Socket} (h : s.accepts ipRepr udpRepr) :
    (∃ s', s.process cfg ipRepr udpRepr packet = .ok s' ∧
      OnlyAuthentic ipRepr udpRepr packet s s') ↔ Trustworthy cfg ipRepr udpRepr packet s := by
  rcases @process_eq cfg ipRepr udpRepr packet s h with ⟨hres, heq⟩ | ⟨hres, heq⟩
  case inr =>
    refine iff_of_true ⟨s, heq, rfl, ?_⟩ ⟨fun hr => absurd hr hres, fun hr => absurd hr hres⟩
    intro i q hq hne
    exact absurd hq hne
  rw [heq]
  constructor
  · rintro ⟨_, ⟨⟩, -, honly⟩
    constructor
    · intro _ hrcode pq hmem haddr
      obtain ⟨i, hi⟩ := List.getElem?_of_mem hmem
      obtain ⟨_, ⟨⟩, hauth⟩ := honly i _ hi (by
        dsimp only
        rw [(processQueries_nxDomain hrcode i).1 pq hi haddr]
        nofun)
      exact ⟨hauth.asks, hauth.fromServer⟩
    · intro _ hrcode i pq hfirst hasks hspoiled
      obtain ⟨hnone, -⟩ | ⟨j, pq', hfirst', hset⟩ := @processQueries_cases cfg _ _ s.queries hrcode
      · exact absurd hfirst (hnone i pq)
      obtain rfl := hfirst.unique hfirst'
      obtain ⟨_, ⟨⟩, hauth⟩ := honly j _ hfirst'.query (by
        dsimp only
        rw [hset, List.getElem?_set_self (List.getElem?_eq_some_iff.mp hfirst'.query).1]
        intro hsame
        exact processQuery_ne_iff.mpr ⟨hasks, hspoiled⟩ (Option.some.inj (Option.some.inj hsame)))
      exact hauth.fromServer
  · intro htrust
    refine ⟨_, rfl, length_processQueries, ?_⟩
    intro i q hq hne
    dsimp only at hne
    by_cases hrcode : Packet.rcode packet = .nxDomain
    · by_cases haddr : ∃ pq, q = some (.pending pq) ∧ Addressed udpRepr packet pq
      · obtain ⟨pq, rfl, haddr⟩ := haddr
        obtain ⟨hasks, hfrom⟩ := htrust.nxDomain hres hrcode pq (List.mem_of_getElem? hq) haddr
        exact ⟨pq, rfl, hres, haddr, hasks, hfrom⟩
      · refine absurd ?_ hne
        rw [(processQueries_nxDomain hrcode i).2 ?_, hq]
        intro pq hpq haddr'
        exact haddr ⟨pq, Option.some.inj (hq.symm.trans hpq), haddr'⟩
    · obtain ⟨-, hsame⟩ | ⟨j, pq, hfirst, hset⟩ := @processQueries_cases cfg _ _ s.queries hrcode
      · rw [hsame] at hne
        exact absurd hq hne
      rw [hset] at hne
      by_cases hji : j = i
      · subst hji
        obtain rfl : q = some (.pending pq) := Option.some.inj (hq.symm.trans hfirst.query)
        rw [List.getElem?_set_self (List.getElem?_eq_some_iff.mp hq).1] at hne
        obtain ⟨hasks, hspoiled⟩ := processQuery_ne_iff.mp fun hsame => hne (by rw [hsame])
        exact ⟨pq, rfl, hres, hfirst.addressed, hasks,
          htrust.first hres hrcode j pq hfirst hasks hspoiled⟩
      · rw [List.getElem?_set_ne hji] at hne
        exact absurd hq hne

/-- A server, a query for an address, and a response of its port and transaction ID with the code
for a name that does not exist, but without the question. -/
theorem onlyAuthentic_iff_nxDomain :
    (∃ s', Socket.process ⟨1, 255⟩
        ⟨[.ipv4 8], [some (.pending ⟨[1, 97, 0], .a, 49152, 7, none, 0, 0, 0, .disabled⟩)], none⟩
        (.ipv4 ⟨8, 1, .udp, 20, 64⟩) ⟨53, 49152⟩ [0, 7, 0x80, 3, 0, 1, 0, 0, 0, 0, 0, 0] = .ok s' ∧
      OnlyAuthentic (.ipv4 ⟨8, 1, .udp, 20, 64⟩) ⟨53, 49152⟩ [0, 7, 0x80, 3, 0, 1, 0, 0, 0, 0, 0, 0]
        ⟨[.ipv4 8], [some (.pending ⟨[1, 97, 0], .a, 49152, 7, none, 0, 0, 0, .disabled⟩)], none⟩
        s') ↔
      Trustworthy ⟨1, 255⟩ (.ipv4 ⟨8, 1, .udp, 20, 64⟩) ⟨53, 49152⟩
        [0, 7, 0x80, 3, 0, 1, 0, 0, 0, 0, 0, 0]
        ⟨[.ipv4 8], [some (.pending ⟨[1, 97, 0], .a, 49152, 7, none, 0, 0, 0, .disabled⟩)], none⟩ :=
  onlyAuthentic_iff (by decide)

/-- The response lets the query fail. -/
theorem not_onlyAuthentic_nxDomain :
    Socket.process ⟨1, 255⟩
        ⟨[.ipv4 8], [some (.pending ⟨[1, 97, 0], .a, 49152, 7, none, 0, 0, 0, .disabled⟩)], none⟩
        (.ipv4 ⟨8, 1, .udp, 20, 64⟩) ⟨53, 49152⟩ [0, 7, 0x80, 3, 0, 1, 0, 0, 0, 0, 0, 0] =
      .ok ⟨[.ipv4 8], [some .failure], none⟩ ∧
    ¬ Asks [0, 7, 0x80, 3, 0, 1, 0, 0, 0, 0, 0, 0]
      ⟨[1, 97, 0], .a, 49152, 7, none, 0, 0, 0, .disabled⟩ := by
  refine ⟨by decide, ?_⟩
  rintro ⟨rest, question, labels, hparse, -⟩
  have hpayload : Packet.payload [0, 7, 0x80, 3, 0, 1, 0, 0, 0, 0, 0, 0] = [] := rfl
  rw [hpayload, Question.parse, parseNamePart] at hparse
  cases hparse

end Dns

end Smoltcp
