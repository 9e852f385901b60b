import ProxySync.Proofs.Session.Faults
import ProxySync.Proofs.Session.Requests
import ProxySync.Proofs.Wire.ReadBack
/-!
# Steps against a Data Plane in memory

Against a Data Plane that answers from memory a step has one result. Inside a transaction it works
on the copy of that transaction, and nothing else is touched.

## Main definitions

* `Runs`: the result of a step, and the session and memory it leaves.
* `Works`: the result of a step inside a transaction, and the copy it leaves.

## Main statements

* `Works.bind`: steps one after the other.
* `Client.works_find?`, `Client.works_list`, `Client.works_write`, `Client.works_delete`: the
  configuration requests.
-/
namespace ProxySync
open DataPlane SessionM
open Simulation (Log Plane)
variable {α β : Type} {c : Client} {t : Wire.Transaction}

/-! ## Whole steps -/

/-- Begun in the session on the memory, the step ends with the result and leaves both so. -/
def Runs (c : Client) (x : SessionM α) (s : Session) (m : Memory) (r : Except ClientError α)
    (s' : Session) (m' : Memory) : Prop :=
  ∀ log : Log, ∃ log', (x.start s).run (Plane.answer c) (.holding m, log) =
    ((r, s'), (.holding m', log'))

namespace Runs
variable {s s₁ s' : Session} {m m₁ m' : Memory} {r : Except ClientError α}

theorem pure (a : α) (s : Session) (m : Memory) : Runs c (Pure.pure a) s m (.ok a) s m :=
  fun log => ⟨log, rfl⟩

theorem bind {x : SessionM α} {f : α → SessionM β} {a : α} {r : Except ClientError β}
    (hx : Runs c x s m (.ok a) s₁ m₁) (hf : Runs c (f a) s₁ m₁ r s' m') :
    Runs c (x >>= f) s m r s' m' := by
  intro log
  obtain ⟨log₁, h₁⟩ := hx log
  obtain ⟨log₂, h₂⟩ := hf log₁
  refine ⟨log₂, ?_⟩
  rw [start_bind, Dialogue.run_bind, h₁]
  exact h₂

/-- A step that goes well is not given up. -/
theorem orAbort {x : SessionM α} {a : α} (hx : Runs c x s m (.ok a) s' m') :
    Runs c (c.orAbort x) s m (.ok a) s' m' := by
  intro log
  obtain ⟨log', h⟩ := hx log
  refine ⟨log', ?_⟩
  rw [Client.orAbort, start_tryCatch, Dialogue.run_bind, h]
  rfl

/-- Whatever a step may do, it does what the answers from memory make it do. -/
theorem of_answered {x : SessionM α}
    (h : ∀ {sent r₀ s₀ m₀}, Conduct x s sent r₀ s₀ → Answered c (fun _ => none) 0 m sent m₀ →
      r₀ = r ∧ s₀ = s' ∧ m₀ = m') : Runs c x s m r s' m' := by
  intro log
  obtain ⟨m₀, log', hrun, hanswered⟩ := answered_clean (c := c) (x.start s) 0 m log
  obtain ⟨hr, hs, rfl⟩ := h (conduct_run (Plane.answer c) x s (.holding m, log)) hanswered
  exact ⟨log', Prod.ext (Prod.ext hr hs) hrun⟩

/-- A step has one result. -/
theorem unique {x : SessionM α} {r₁ r₂ : Except ClientError α} {s₂ : Session} {m₂ : Memory}
    (h₁ : Runs c x s m r₁ s₁ m₁) (h₂ : Runs c x s m r₂ s₂ m₂) : r₁ = r₂ ∧ s₁ = s₂ ∧ m₁ = m₂ := by
  obtain ⟨_, hrun₁⟩ := h₁ []
  obtain ⟨_, hrun₂⟩ := h₂ []
  have heq := hrun₁.symm.trans hrun₂
  simp only [Prod.mk.injEq, Plane.holding, Plane.mk.injEq, Option.some.injEq, true_and] at heq
  exact ⟨heq.1.1, heq.1.2, heq.2.1⟩

/-- A conduct whose replies come from memory is what the step does. -/
theorem of_conduct {x : SessionM α} {n : Nat} {sent : List Sent} (hx : Conduct x s sent r s')
    (h : Answered c (fun _ => none) n m sent m') : Runs c x s m r s' m' := by
  intro log
  obtain ⟨tr, hled, rfl⟩ := hx
  generalize x.start s = d at hled
  generalize hp : (r, s') = p at hled
  induction hled generalizing n m log with
  | done a =>
    subst hp
    cases h
    exact ⟨log, rfl⟩
  | @ask call reply next tr a _ ih =>
    cases call with
    | measure m₀ => exact ih (.measurement m₀ :: log) h hp
    | request q =>
      obtain ⟨hreply, hrest⟩ := Answered.cons_iff.1 h
      obtain ⟨log', hrun⟩ := ih (.request (c.wire q) :: log) hrest hp
      obtain rfl := hreply
      exact ⟨log', (run_request (Plane.answer_request c m log q) next).1.trans hrun⟩

/-- What a step does is one of its conducts, with the replies from memory. -/
theorem conduct {x : SessionM α} (h : Runs c x s m r s' m') :
    ∃ sent, Conduct x s sent r s' ∧ Answered c (fun _ => none) 0 m sent m' := by
  obtain ⟨log', hrun⟩ := h []
  obtain ⟨m₀, _, hlast, hanswered⟩ := answered_clean (c := c) (x.start s) 0 m []
  have hconduct := conduct_run (Plane.answer c) x s (Plane.holding m, [])
  rw [hrun] at hconduct hlast
  obtain rfl : m' = m₀ := by
    simp only [Prod.mk.injEq, Plane.holding, Plane.mk.injEq, Option.some.injEq, true_and] at hlast
    exact hlast.1
  exact ⟨_, hconduct, hanswered⟩

/-- Of two steps that end well each one does. -/
theorem of_bind {x : SessionM α} {f : α → SessionM β} {b : β}
    (h : Runs c (x >>= f) s m (.ok b) s' m') :
    ∃ a s₁ m₁, Runs c x s m (.ok a) s₁ m₁ ∧ Runs c (f a) s₁ m₁ (.ok b) s' m' := by
  obtain ⟨_, hconduct, hanswered⟩ := h.conduct
  obtain ⟨sent₁, sent₂, a, s₁, rfl, hx, hf⟩ | ⟨e, he, _⟩ := conduct_bind.1 hconduct
  · obtain ⟨m₁, hanswered₁, hanswered₂⟩ := Answered.append_iff.1 hanswered
    exact ⟨a, s₁, m₁, of_conduct hx hanswered₁, of_conduct hf hanswered₂⟩
  · cases he

/-- A step that ends well was not given up. -/
theorem of_orAbort {x : SessionM α} {a : α} (h : Runs c (c.orAbort x) s m (.ok a) s' m') :
    Runs c x s m (.ok a) s' m' := by
  obtain ⟨_, hconduct, hanswered⟩ := h.conduct
  rw [Client.orAbort] at hconduct
  obtain ⟨a', ha, hx⟩ | ⟨_, _, e, _, _, _, hgive⟩ := conduct_tryCatch.1 hconduct
  · cases ha
    exact of_conduct hx hanswered
  · obtain ⟨_, _, _, _, _, _, hthrow⟩ | ⟨_, he, _⟩ := conduct_bind.1 hgive
    · cases (conduct_throw.1 hthrow).2.1
    · cases he

end Runs

/-! ## Steps inside a transaction -/

namespace DataPlane.Memory
variable {m : Memory} {id : String} {cfg cfg' : Configuration}

@[simp] theorem get?_staging : (m.staging id cfg).staged.get? id = some cfg := by
  simp [staging]

theorem staging_injective (h : m.staging id cfg = m.staging id cfg') : cfg = cfg' := by
  have hcopy := congrArg (fun m : Memory => m.staged.get? id) h
  simpa using hcopy

@[simp] theorem staging_staging : (m.staging id cfg).staging id cfg' = m.staging id cfg' := by
  have htable : (m.staged.insert id cfg).insert id cfg' = m.staged.insert id cfg' := by
    apply Table.ext
    intro k
    rw [Table.get?_insert, Table.get?_insert, Table.get?_insert]
    split <;> rfl
  rw [staging, staging, staging, htable]

theorem staging_self (h : m.staged.get? id = some cfg) : m.staging id cfg = m := by
  have htable : m.staged.insert id cfg = m.staged := by
    apply Table.ext
    intro k
    rw [Table.get?_insert]
    split
    · rename_i hk
      rw [← hk, h]
    · rfl
  rw [staging, htable]

end DataPlane.Memory

/-- Inside the transaction, on that copy, the step ends with the value and leaves the other copy;
the session is dirty afterwards if something was changed. -/
def Works (c : Client) (t : Wire.Transaction) (x : SessionM α) (cfg : Configuration) (a : α)
    (changed : Bool) (cfg' : Configuration) : Prop :=
  ∀ s m, s.transaction = some t → m.staged.get? t.id = some cfg →
    Runs c x s m (.ok a) (s.marked changed) (m.staging t.id cfg')

namespace Works
variable {cfg cfg₁ cfg' : Configuration} {changed₁ changed₂ : Bool}

theorem pure (a : α) (cfg : Configuration) : Works c t (Pure.pure a) cfg a false cfg := by
  intro s m _ hcfg
  rw [Session.marked_false, Memory.staging_self hcfg]
  exact .pure a s m

theorem bind {x : SessionM α} {f : α → SessionM β} {a : α} {b : β}
    (hx : Works c t x cfg a changed₁ cfg₁) (hf : Works c t (f a) cfg₁ b changed₂ cfg') :
    Works c t (x >>= f) cfg b (changed₁ || changed₂) cfg' := by
  intro s m ht hcfg
  have hlast := hf (s.marked changed₁) (m.staging t.id cfg₁) ht Memory.get?_staging
  rw [Memory.staging_staging, Session.marked_marked] at hlast
  exact (hx s m ht hcfg).bind hlast

end Works

namespace DataPlane.Client
variable {cfg cfg' : Configuration} {segments : List String} {operation what resource : String}
  {read : Json → Option α}

/-- A configuration request inside a transaction is answered from the copy, at the place where it
arrives. -/
theorem Poses.runs {x : SessionM α} {method : Method} {body : Option Json}
    {judge : Response → Except ClientError α} {answer : Answer} {path : List String}
    (hx : Poses c x method segments body judge) (hc : c.AtRoot)
    (hpath : Memory.below? .configuration (c.address
      (scopedRequest method segments body ("transaction_id", t.id)).endpoint).path = some path)
    (hversion : path ≠ ["version"])
    (hserve : Memory.onConfiguration cfg method path (body.getD .null) = (answer, cfg'))
    {s : Session} {m : Memory} (ht : s.transaction = some t)
    (hcfg : m.staged.get? t.id = some cfg) :
    Runs c x s m (judge ⟨answer.status, answer.bodyText⟩)
      (s.marked (Reply.accepts method (.answered answer.status answer.bodyText)))
      (m.staging t.id cfg') := by
  refine Runs.of_answered fun {sent r₀ s₀ m₀} h hanswered => ?_
  obtain ⟨reply, rfl, rfl, rfl⟩ := (hx.conduct_open ht).1 h
  obtain ⟨hreply, hrest⟩ := Answered.cons_iff.1 hanswered
  have hserved : m.serve c (scopedRequest method segments body ("transaction_id", t.id)) =
      (.answered answer.status answer.bodyText, m.staging t.id cfg') := by
    rw [Memory.serve_scoped_at hc ⟨rfl, rfl⟩ hpath hversion hcfg]
    exact congrArg (fun p => Memory.sent (p.1, m.staging t.id p.2)) hserve
  rw [hserved] at hreply hrest
  cases hrest
  rw [hreply]
  exact ⟨rfl, rfl, rfl⟩

/-- With plain names it arrives at these names. -/
theorem Poses.works {x : SessionM α} {method : Method} {body : Option Json}
    {judge : Response → Except ClientError α} {a : α} {answer : Answer}
    (hx : Poses c x method segments body judge) (hc : c.AtRoot)
    (hplain : ∀ n ∈ segments, Net.IsPlain n) (hversion : segments ≠ ["version"])
    (hserve : Memory.onConfiguration cfg method segments (body.getD .null) = (answer, cfg'))
    (hjudge : judge ⟨answer.status, answer.bodyText⟩ = .ok a) :
    Works c t x cfg a (Reply.accepts method (.answered answer.status answer.bodyText)) cfg' := by
  intro s m ht hcfg
  rw [← hjudge]
  exact hx.runs hc (Memory.below?_address hc hplain) hversion hserve ht hcfg

/-- An answer with a value is read as what the value tells. -/
theorem readIn_told {j : Json} {x : α} {status : Nat} (h : told? read j = some x) :
    c.readIn what read ⟨status, (Answer.json status j).bodyText⟩ = .ok x := by
  have hbody : (Json.parse? (Answer.json status j).bodyText).bind read = some x := h
  rw [readIn, hbody]

/-- An answer whose value tells nothing cannot be read. -/
theorem readIn_untold {j : Json} {status : Nat} (h : told? read j = none) :
    c.readIn what read ⟨status, (Answer.json status j).bodyText⟩ =
      .error (.decode what (c.jsonDetail what (Answer.json status j).bodyText)) := by
  have hbody : (Json.parse? (Answer.json status j).bodyText).bind read = none := h
  rw [readIn, hbody]

variable (hc : c.AtRoot) (hplain : ∀ n ∈ segments, Net.IsPlain n)
  (hversion : segments ≠ ["version"])
include hc hplain hversion

/-- What is not there is found to be absent. -/
theorem works_find?_absent
    (hserve : Memory.onConfiguration cfg .get segments .null = (.notFound, cfg)) :
    Works c t (c.find? segments operation what read) cfg none false cfg :=
  poses_find?.works hc hplain hversion hserve rfl

/-- What is there is found as it is told. -/
theorem works_find? {j : Json} {x : α}
    (hserve : Memory.onConfiguration cfg .get segments .null = (.json 200 j, cfg))
    (htold : told? read j = some x) :
    Works c t (c.find? segments operation what read) cfg (some x) false cfg := by
  refine poses_find?.works hc hplain hversion hserve ?_
  show (c.readIn what read ⟨200, (Answer.json 200 j).bodyText⟩).map some = _
  rw [readIn_told htold]
  rfl

theorem works_list {j : Json} {xs : List α}
    (hserve : Memory.onConfiguration cfg .get segments .null = (.json 200 j, cfg))
    (htold : told? (Json.list? read) j = some xs) :
    Works c t (c.list segments operation what read) cfg xs false cfg :=
  poses_list.works hc hplain hversion hserve (readIn_told htold)

/-- A write that is accepted makes the session dirty. -/
theorem works_write {method : Method} {body : Json} {change : String} {answer : Answer}
    (hm : method = .post ∨ method = .put)
    (hserve : Memory.onConfiguration cfg method segments body = (answer, cfg'))
    (haccepted : isSuccess answer.status = true) :
    Works c t (c.write method segments body operation resource change) cfg () true cfg' := by
  have hchanged : Reply.accepts method (.answered answer.status answer.bodyText) = true := by
    rcases hm with rfl | rfl <;> exact haccepted
  rw [← hchanged]
  refine (poses_write hm).works hc hplain hversion hserve ?_
  rw [writtenIn, Response.isSuccess, if_pos haccepted]

theorem works_delete
    (hserve : Memory.onConfiguration cfg .delete segments .null = (.bare 204, cfg')) :
    Works c t (c.delete segments operation resource) cfg .deleted true cfg' :=
  poses_delete.works hc hplain hversion hserve rfl

/-- Deleting what is not there changes nothing. -/
theorem works_delete_absent
    (hserve : Memory.onConfiguration cfg .delete segments .null = (.notFound, cfg)) :
    Works c t (c.delete segments operation resource) cfg .unchanged false cfg :=
  poses_delete.works hc hplain hversion hserve rfl

end DataPlane.Client
end ProxySync
