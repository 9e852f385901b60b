import ProxySync.Proofs.DataPlane.Address
import ProxySync.Proofs.Session.Stages
import ProxySync.Proofs.Text.Numeral
import ProxySync.Simulation.Plane
/-!
# What a Data Plane makes of the requests of a session

The requests of a session, answered from memory. A request inside a transaction works on the copy
of that transaction alone; only a commit touches what is committed.

## Main definitions

* `Memory.serve`: the reply to a request, and the memory that leaves.

## Main statements

* `Memory.serve_openRequest`, `Memory.serve_commitRequest`, `Memory.serve_discardRequest`: the
  requests about transactions.
* `Memory.serve_scoped`: a request inside a transaction.
-/
namespace ProxySync

namespace DataPlane.Memory
open Client Net
variable {c : Client} {m : Memory} {q : Request} {t : Wire.Transaction}

/-- A memory with a configuration, and room for transactions. -/
def ofConfiguration (version : Int) (cfg : Configuration) : Memory :=
  { version, maxTransactions := 10, versionAsRecord := false, opened := 0, staged := .empty
    committed := cfg }

/-- The reply to a request, and the memory that leaves. What no area has is not there. -/
def serve (c : Client) (m : Memory) (q : Request) : Reply × Memory :=
  match m.respond? (c.wire q) with
  | some (a, m') => (.answered a.status a.bodyText, m')
  | none => (.answered 404 "", m)

/-- The reply that an answer makes, and the memory that comes with it. -/
def sent (p : Answer × Memory) : Reply × Memory := (.answered p.1.status p.1.bodyText, p.2)

/-! ## Where a request arrives -/

/-- Requests about transactions never arrive among those about the configuration. -/
theorem serve_transactions (hc : c.AtRoot) (h : q.endpoint.area = .transactions) :
    m.serve c q = (.answered 404 "", m) ∨
      ∃ path, m.serve c q = sent (m.onTransactions q.method path (c.wire q).query) := by
  have hother : below? .configuration (c.wire q).url.path = none :=
    below?_address_ne hc (by rw [h]; decide)
  rw [serve, respond?, hother]
  cases below? .transactions (c.wire q).url.path with
  | none => exact .inl rfl
  | some path => exact .inr ⟨path, rfl⟩

/-- Requests about the configuration never arrive among those about transactions, and the names by
which they arrive are plain. -/
theorem serve_configuration (hc : c.AtRoot) (h : q.endpoint.area = .configuration) :
    m.serve c q = (.answered 404 "", m) ∨
      ∃ path, (∀ n ∈ path, IsPlain n) ∧
        m.serve c q = sent (m.onArea q.method path (c.wire q).query (q.body.getD .null)) := by
  have hother : below? .transactions (c.wire q).url.path = none :=
    below?_address_ne hc (by rw [h]; decide)
  rw [serve, respond?, hother]
  cases hpath : below? .configuration (c.wire q).url.path with
  | none => exact .inl rfl
  | some path => exact .inr ⟨path, isPlain_of_below? hc hpath, rfl⟩

/-- A request about transactions with plain names arrives with these names. -/
theorem serve_transactions_plain (hc : c.AtRoot) (h : q.endpoint.area = .transactions)
    (hplain : ∀ n ∈ q.endpoint.segments, IsPlain n) :
    m.serve c q = sent (m.onTransactions q.method q.endpoint.segments (c.wire q).query) := by
  have hpath : below? .transactions (c.wire q).url.path = some q.endpoint.segments := by
    rw [← h]
    exact below?_address hc hplain
  rw [serve, respond?, hpath]
  rfl

/-- A request about the configuration with plain names arrives with these names. -/
theorem serve_configuration_plain (hc : c.AtRoot) (h : q.endpoint.area = .configuration)
    (hplain : ∀ n ∈ q.endpoint.segments, IsPlain n) :
    m.serve c q =
      sent (m.onArea q.method q.endpoint.segments (c.wire q).query (q.body.getD .null)) := by
  have hother : below? .transactions (c.wire q).url.path = none :=
    below?_address_ne hc (by rw [h]; decide)
  have hpath : below? .configuration (c.wire q).url.path = some q.endpoint.segments := by
    rw [← h]
    exact below?_address hc hplain
  rw [serve, respond?, hother, hpath]
  rfl

/-! ## The version and transactions -/

theorem serve_versionRequest (hc : c.AtRoot) :
    m.serve c versionRequest = sent (.json 200 m.versionJson, m) := by
  have hplain : ∀ n ∈ versionRequest.endpoint.segments, IsPlain n := by decide
  rw [serve_configuration_plain hc rfl hplain]
  rfl

/-- The name of the transaction that is opened next. -/
def nextId (m : Memory) : String := "tx-" ++ toString (m.opened + 1)

/-- The names that the Data Plane gives to transactions are plain. -/
theorem isPlain_nextId (m : Memory) : IsPlain m.nextId := by
  have hlist : m.nextId.toList = 't' :: 'x' :: '-' :: Nat.toDigits 10 (m.opened + 1) := by
    rw [nextId, String.toList_append]
    exact congrArg (['t', 'x', '-'] ++ ·) Nat.toList_repr
  have hne {s : String} (hs : s.toList.head? ≠ some 't') : m.nextId ≠ s := by
    rintro rfl
    rw [hlist] at hs
    exact hs rfl
  refine ⟨hne (by decide), hne (by decide), hne (by decide), fun c hc => ?_⟩
  rw [hlist] at hc
  simp only [List.mem_cons] at hc
  rcases hc with rfl | rfl | rfl | hc
  · rfl
  · rfl
  · rfl
  · have hdigit := Numeral.isDigit_of_mem_toDigits hc
    simp only [Url.isDropped, Bool.or_eq_false_iff, decide_eq_false_iff_not]
    refine ⟨⟨?_, ?_⟩, ?_⟩ <;> (rintro rfl; cases hdigit)

/-- The memory with one more transaction. -/
def opening (m : Memory) : Memory :=
  { m with opened := m.opened + 1, staged := m.staged.insert m.nextId m.committed }

/-- A transaction is opened on the current version, if there is room for one. -/
theorem serve_openRequest (hc : c.AtRoot) (v : Int64) :
    m.serve c (openRequest v) = sent
      (if m.maxTransactions ≤ m.staged.size then
        (.refusal 409 "too many open transactions", m)
      else if v.toInt ≠ m.version then (mismatch, m)
      else (.json 201 (transactionJson m.nextId m.version "in_progress"), m.opening)) := by
  have hparam : parameter? (c.wire (openRequest v)).query "version" = some (toString v.toInt) :=
    parameter?_wire hc rfl
  have hread : Numeral.int64? (toString v.toInt) = some v := by
    rw [Numeral.int64?_toString (Json.toInt_bounds v), Int64.ofInt_toInt]
  have hnames : m.namesVersion (c.wire (openRequest v)).query = decide (v.toInt = m.version) := by
    rw [namesVersion, hparam, Option.bind_some, hread, Option.map_some]
    by_cases h : v.toInt = m.version <;> simp [h]
  rw [serve_transactions_plain hc rfl (by simp [openRequest])]
  show sent (m.onTransactions .post [] _) = _
  rw [onTransactions, hnames]
  by_cases h : v.toInt = m.version <;> simp [h, opening, nextId]

/-- The memory after a commit of the copy of a transaction. -/
def committing (m : Memory) (id : String) (cfg : Configuration) : Memory :=
  { m with version := m.version + 1, staged := m.staged.erase id, committed := cfg }

/-- A commit makes the copy the committed configuration. -/
theorem serve_commitRequest (hc : c.AtRoot) (ht : IsPlain t.id) :
    m.serve c (c.commitRequest t) = sent (match m.staged.get? t.id with
      | none => (.notFound, m)
      | some cfg => (.json 202 (transactionJson t.id (m.version + 1) "success"),
          m.committing t.id cfg)) := by
  rw [serve_transactions_plain hc rfl (by simpa [commitRequest] using ht)]
  rfl

/-- A discard forgets the copy. -/
theorem serve_discardRequest (hc : c.AtRoot) (ht : IsPlain t.id) :
    m.serve c (discardRequest t) = sent (match m.staged.get? t.id with
      | none => (.notFound, m)
      | some _ => (.bare 204, { m with staged := m.staged.erase t.id })) := by
  rw [serve_transactions_plain hc rfl (by simpa [discardRequest] using ht)]
  rfl

/-- Requests about transactions leave what is committed, but for a commit. -/
theorem committed_serve_transactions (hc : c.AtRoot) (h : q.endpoint.area = .transactions)
    (hm : q.method ≠ .put) : (m.serve c q).2.committed = m.committed := by
  obtain hs | ⟨path, hs⟩ := serve_transactions (m := m) hc h
  · rw [hs]
  · rw [hs, sent, onTransactions.eq_def]
    cases hmethod : q.method with
    | put => exact absurd hmethod hm
    | get => rfl
    | post =>
      cases path with
      | nil =>
        simp only
        split
        · rfl
        · split <;> rfl
      | cons p ps => rfl
    | delete =>
      match path with
      | [] => rfl
      | [id] =>
        simp only
        split <;> rfl
      | _ :: _ :: _ => rfl

/-! ## Inside a transaction -/

/-- The memory with another copy for a transaction. -/
def staging (m : Memory) (id : String) (cfg : Configuration) : Memory :=
  { m with staged := m.staged.insert id cfg }

/-- What is made of a request that names a transaction. -/
theorem onArea_scoped {method : Method} {path : List String} {query id : String} {body : Json}
    (h : parameter? query "transaction_id" = some id) :
    m.onArea method path query body =
      if method = .get ∧ path = ["version"] then (.json 200 m.versionJson, m)
      else match m.staged.get? id with
        | none => (.notFound, m)
        | some cfg => ((onConfiguration cfg method path body).1,
            m.staging id (onConfiguration cfg method path body).2) := by
  rw [onArea, h]
  split
  · rfl
  · cases hcfg : m.staged.get? id <;> simp [hcfg, staging]

/-- A request inside a transaction reaches nothing but the copy of that transaction. -/
theorem serve_scoped (hc : c.AtRoot) (h : ScopedBy t q) :
    (m.serve c q).2 = m ∨
      ∃ cfg cfg', m.staged.get? t.id = some cfg ∧ (m.serve c q).2 = m.staging t.id cfg' := by
  obtain hs | ⟨path, _, hs⟩ := serve_configuration (m := m) hc h.1
  · exact .inl (by rw [hs])
  · rw [hs, sent, onArea_scoped (parameter?_wire hc h.2)]
    split
    · exact .inl rfl
    · cases hcfg : m.staged.get? t.id with
      | none => exact .inl rfl
      | some cfg => exact .inr ⟨cfg, _, rfl, rfl⟩

/-- It reaches the object that is found at its place. -/
theorem serve_scoped_at (hc : c.AtRoot) (h : ScopedBy t q) {path : List String}
    (hpath : below? .configuration (c.wire q).url.path = some path)
    (hversion : path ≠ ["version"]) {cfg : Configuration}
    (hcfg : m.staged.get? t.id = some cfg) :
    m.serve c q = sent ((onConfiguration cfg q.method path (q.body.getD .null)).1,
      m.staging t.id (onConfiguration cfg q.method path (q.body.getD .null)).2) := by
  have hother : below? .transactions (c.wire q).url.path = none :=
    below?_address_ne hc (by rw [h.1]; decide)
  have harea : m.serve c q =
      sent (m.onArea q.method path (c.wire q).query (q.body.getD .null)) := by
    rw [serve, respond?, hother, hpath]
    rfl
  rw [harea, onArea_scoped (parameter?_wire hc h.2), hcfg, if_neg fun hv => hversion hv.2]

/-- With plain names it reaches the object of these names. -/
theorem serve_scoped_plain (hc : c.AtRoot) (h : ScopedBy t q)
    (hplain : ∀ n ∈ q.endpoint.segments, IsPlain n)
    (hversion : q.endpoint.segments ≠ ["version"]) {cfg : Configuration}
    (hcfg : m.staged.get? t.id = some cfg) :
    m.serve c q = sent
      ((onConfiguration cfg q.method q.endpoint.segments (q.body.getD .null)).1,
       m.staging t.id
        (onConfiguration cfg q.method q.endpoint.segments (q.body.getD .null)).2) := by
  have hpath : below? .configuration (c.wire q).url.path = some q.endpoint.segments := by
    rw [← h.1]
    exact below?_address hc hplain
  exact serve_scoped_at hc h hpath hversion hcfg

end DataPlane.Memory

namespace Simulation.Plane

/-- A Data Plane that can be reached and answers from memory alone. -/
def holding (m : DataPlane.Memory) : Plane := { network := .up, routes := [], memory := some m }

theorem answer_request (c : DataPlane.Client) (m : DataPlane.Memory) (log : Log)
    (q : DataPlane.Request) :
    answer c (.request q) (holding m, log) =
      ((m.serve c q).1, (holding (m.serve c q).2, .request (c.wire q) :: log)) := by
  simp only [answer, holding, respond, matchRoute?, Option.bind_some, DataPlane.Memory.serve]
  cases m.respond? (c.wire q) <;> rfl

/-- Whatever is asked of it, it goes on to answer from memory. -/
theorem holding_answer (c : DataPlane.Client) (call : DataPlane.Call) (m : DataPlane.Memory)
    (log : Log) : ∃ m' log', (answer c call (holding m, log)).2 = (holding m', log') := by
  cases call with
  | request q => exact ⟨_, _, by rw [answer_request]⟩
  | measure x => exact ⟨m, _, rfl⟩

end Simulation.Plane
end ProxySync
