import ProxySync.Proofs.DataPlane.Service
/-!
# Faults on the way

A fault may hit any request of a run: its answer is lost, whether or not the request was acted on,
or it is refused and not acted on. As long as nothing is faulted a run is the same as without
faults, whatever happens later.

## Main definitions

* `DataPlane.Fault`: what may happen to a request.
* `DataPlane.faulted`: an environment in which requests are faulted by their number.
* `Answered`: replies to requests, some of them faulted, and the memory they leave.

## Main statements

* `answered_run`: the requests of a run are answered so.
* `Answered.agree`: a run goes like the one without faults up to the first fault.
-/
namespace ProxySync

namespace DataPlane

/-- What may happen to a request. -/
inductive Fault where
  /-- The answer does not arrive. -/
  | lost (processed : Bool) (cause : String)
  /-- The request is refused and not acted on. -/
  | refused (status : Nat) (body : String)
    (isRefusal : isSuccess status = false ∧ status ≠ 404)

/-- Whether a request is acted on. -/
def isProcessed : Option Fault → Bool
  | none => true
  | some (.lost processed _) => processed
  | some (.refused ..) => false

/-- The reply that arrives in place of the one given. -/
def Fault.reply : Option Fault → Reply → Reply
  | none, reply => reply
  | some (.lost _ cause), _ => .lost cause
  | some (.refused status body _), _ => .answered status body

/-- The environment with faults on some of the requests, which are counted from a number on. -/
def faulted {σ : Type} (env : Environment interface σ) (faults : Nat → Option Fault) :
    Environment interface (σ × Nat)
  | .measure m, (w, n) => ((), ((env (.measure m) w).2, n))
  | .request q, (w, n) =>
    (Fault.reply (faults n) (env (.request q) w).1,
      (if isProcessed (faults n) then (env (.request q) w).2 else w, n + 1))

/-- A faulted request is neither accepted nor told that there is no such object. -/
theorem Fault.reply_eq_none {fault : Option Fault} {reply : Reply}
    (h : (Fault.reply fault reply).isAccepted = true ∨ (Fault.reply fault reply).isAbsent = true) :
    fault = none := by
  match fault with
  | none => rfl
  | some (.lost processed cause) => rcases h with h | h <;> cases h
  | some (.refused status body hrefusal) =>
    rcases h with h | h
    · rw [Fault.reply, Reply.isAccepted, Reply.status?, Option.any_some, hrefusal.1] at h
      cases h
    · exact absurd (by simpa [Fault.reply, Reply.isAbsent, Reply.status?] using h) hrefusal.2

end DataPlane

open DataPlane
variable {α : Type} {c : Client} {faults : Nat → Option Fault} {n : Nat} {m m' : Memory}
  {sent sent₁ sent₂ : List Sent}

/-- The replies to requests, counted from a number on, and the memory that they leave. -/
inductive Answered (c : Client) (faults : Nat → Option Fault) :
    Nat → Memory → List Sent → Memory → Prop
  | nil (n : Nat) (m : Memory) : Answered c faults n m [] m
  | cons {n : Nat} {m m' : Memory} {rest : List Sent} (q : Request)
      (h : Answered c faults (n + 1) (if isProcessed (faults n) then (m.serve c q).2 else m) rest
        m') :
      Answered c faults n m (⟨q, Fault.reply (faults n) (m.serve c q).1⟩ :: rest) m'

/-- The first request of a program, answered in an environment. -/
theorem run_request {σ : Type} {env : Environment interface σ} {q : Request} {reply : Reply}
    {w w' : σ} (h : env (.request q) w = (reply, w')) (next : Reply → Dialogue interface α) :
    (Dialogue.ask (I := interface) (.request q) next).run env w = (next reply).run env w' ∧
      Sent.ofTrace ((Dialogue.ask (I := interface) (.request q) next).trace env w) =
        ⟨q, reply⟩ :: Sent.ofTrace ((next reply).trace env w') := by
  constructor
  · show (next (env (.request q) w).1).run env (env (.request q) w).2 = _
    rw [h]
  · show Sent.mk q (env (.request q) w).1 ::
      Sent.ofTrace ((next (env (.request q) w).1).trace env (env (.request q) w).2) = _
    rw [h]

variable (faults) in
/-- The requests of a run with faults are answered so. -/
theorem answered_run (d : Dialogue interface α) (n : Nat) (m : Memory) (log : Simulation.Log) :
    ∃ m' log' n',
      (d.run (faulted (Simulation.Plane.answer c) faults)
        ((Simulation.Plane.holding m, log), n)).2 = ((Simulation.Plane.holding m', log'), n') ∧
      Answered c faults n m
        (Sent.ofTrace (d.trace (faulted (Simulation.Plane.answer c) faults)
          ((Simulation.Plane.holding m, log), n))) m' := by
  induction d generalizing n m log with
  | done a => exact ⟨m, log, n, rfl, .nil n m⟩
  | ask call next ih =>
    cases call with
    | measure x => exact ih () n m (.measurement x :: log)
    | request q =>
      have hstep : faulted (Simulation.Plane.answer c) faults (.request q)
          ((Simulation.Plane.holding m, log), n) =
          (Fault.reply (faults n) (m.serve c q).1,
            ((Simulation.Plane.holding (if isProcessed (faults n) then (m.serve c q).2 else m),
              if isProcessed (faults n) then .request (c.wire q) :: log else log), n + 1)) := by
        rw [faulted, Simulation.Plane.answer_request]
        cases isProcessed (faults n) <;> rfl
      obtain ⟨hrun, htrace⟩ := run_request hstep next
      obtain ⟨m', log', n', hlast, hanswered⟩ := ih _ (n + 1) _ _
      exact ⟨m', log', n', (congrArg Prod.snd hrun).trans hlast, htrace ▸ .cons q hanswered⟩

/-- The requests of a run without faults are answered from memory. -/
theorem answered_clean (d : Dialogue interface α) (n : Nat) (m : Memory) (log : Simulation.Log) :
    ∃ m' log',
      (d.run (Simulation.Plane.answer c) (Simulation.Plane.holding m, log)).2 =
        (Simulation.Plane.holding m', log') ∧
      Answered c (fun _ => none) n m
        (Sent.ofTrace (d.trace (Simulation.Plane.answer c)
          (Simulation.Plane.holding m, log))) m' := by
  induction d generalizing n m log with
  | done a => exact ⟨m, log, rfl, .nil n m⟩
  | ask call next ih =>
    cases call with
    | measure x => exact ih () n m (.measurement x :: log)
    | request q =>
      obtain ⟨hrun, htrace⟩ := run_request (Simulation.Plane.answer_request c m log q) next
      obtain ⟨m', log', hlast, hanswered⟩ := ih _ (n + 1) _ _
      exact ⟨m', log', (congrArg Prod.snd hrun).trans hlast,
        htrace ▸ @Answered.cons c (fun _ => none) n m _ _ q hanswered⟩

namespace Answered

theorem cons_iff {q : Request} {reply : Reply} :
    Answered c faults n m (⟨q, reply⟩ :: sent) m' ↔
      reply = Fault.reply (faults n) (m.serve c q).1 ∧
        Answered c faults (n + 1) (if isProcessed (faults n) then (m.serve c q).2 else m) sent
          m' := by
  constructor
  · rintro ⟨⟩
    exact ⟨rfl, by assumption⟩
  · rintro ⟨rfl, h⟩
    exact .cons q h

/-- Replies to two lists of requests, one after the other. -/
theorem append_iff :
    Answered c faults n m (sent₁ ++ sent₂) m' ↔
      ∃ m₁, Answered c faults n m sent₁ m₁ ∧ Answered c faults (n + sent₁.length) m₁ sent₂ m' := by
  induction sent₁ generalizing n m with
  | nil =>
    constructor
    · exact fun h => ⟨m, .nil n m, h⟩
    · rintro ⟨_, ⟨⟩, h⟩
      exact h
  | cons x sent₁ ih =>
    have hlen : n + (x :: sent₁).length = n + 1 + sent₁.length := by
      rw [List.length_cons]
      omega
    rw [hlen]
    constructor
    · intro h
      rw [List.cons_append] at h
      cases h with
      | cons q h =>
        obtain ⟨m₁, h₁, h₂⟩ := ih.1 h
        exact ⟨m₁, .cons q h₁, h₂⟩
    · rintro ⟨m₁, h₁, h₂⟩
      cases h₁ with
      | cons q h₁ => exact .cons q (ih.2 ⟨m₁, h₁, h₂⟩)

/-- What no request of a list touches is left as it was. -/
theorem unchanged {β : Type} {f : Memory → β} (h : Answered c faults n m sent m')
    (hkeep : ∀ x ∈ sent, ∀ m : Memory, f (m.serve c x.request).2 = f m) : f m' = f m := by
  induction h with
  | nil n m => rfl
  | @cons n m _ _ q h ih =>
    rw [ih fun x hx => hkeep x (List.mem_cons_of_mem _ hx)]
    split
    · exact hkeep _ List.mem_cons_self m
    · rfl

/-- Requests that got an acceptable reply were not faulted. -/
theorem not_faulted (h : Answered c faults n m sent m')
    (hsound : ∀ x ∈ sent, x.reply.isAccepted = true ∨ x.reply.isAbsent = true) :
    ∀ i < sent.length, faults (n + i) = none := by
  induction h with
  | nil n m => simp
  | @cons n m _ _ q h ih =>
    intro i hi
    cases i with
    | zero => exact Fault.reply_eq_none (hsound _ List.mem_cons_self)
    | succ i =>
      have hrest := ih (fun x hx => hsound x (List.mem_cons_of_mem _ hx)) i
        (by rw [List.length_cons] at hi; omega)
      rwa [Nat.add_right_comm, Nat.add_assoc] at hrest

/-- Where nothing was faulted the replies are those without faults. -/
theorem clean (h : Answered c faults n m sent m')
    (hnone : ∀ i < sent.length, faults (n + i) = none) (k : Nat) :
    Answered c (fun _ => none) k m sent m' := by
  induction h generalizing k with
  | nil n m => exact .nil k m
  | @cons n m _ rest q h ih =>
    have hn : faults n = none := hnone 0 (by simp)
    rw [hn] at ih ⊢
    refine .cons q (ih (fun i hi => ?_) (k + 1))
    have hi' := hnone (i + 1) (by rw [List.length_cons]; omega)
    rwa [Nat.add_comm i 1, ← Nat.add_assoc] at hi'

/-- Up to the first fault a program goes the same way as without faults, and so does the memory. -/
theorem agree {d : Dialogue interface α} {tr tr₂ : List (Exchange interface)} {a a₂ : α}
    {front rest : List Sent} {m₂ : Memory} (hd : Dialogue.Leads d tr a)
    (h : Answered c faults n m (Sent.ofTrace tr) m') (hd₂ : Dialogue.Leads d tr₂ a₂)
    (h₂ : Answered c (fun _ => none) n m (Sent.ofTrace tr₂) m₂)
    (hsent : Sent.ofTrace tr = front ++ rest) (hnone : ∀ i < front.length, faults (n + i) = none) :
    ∃ rest₂ m₁, Sent.ofTrace tr₂ = front ++ rest₂ ∧
      Answered c faults n m front m₁ ∧
      Answered c faults (n + front.length) m₁ rest m' ∧
      Answered c (fun _ => none) (n + front.length) m₁ rest₂ m₂ ∧
      rest.head?.map (·.request) = rest₂.head?.map (·.request) ∧ (rest = [] → a = a₂) := by
  induction hd generalizing n m tr₂ front with
  | done a =>
    obtain ⟨rfl, rfl⟩ := Dialogue.leads_done.1 hd₂
    obtain ⟨rfl, rfl⟩ := List.append_eq_nil_iff.1 hsent.symm
    exact ⟨[], m, rfl, .nil n m, h, h₂, rfl, fun _ => rfl⟩
  | @ask call reply next tr a hd ih =>
    obtain ⟨reply₂, tr', rfl, hnext⟩ := Dialogue.leads_ask.1 hd₂
    cases call with
    | measure x =>
      obtain rfl : reply₂ = reply := Subsingleton.elim (α := Unit) reply₂ reply
      have hrest := ih h hnext h₂ hsent hnone
      exact hrest
    | request q =>
      cases front with
      | nil =>
        obtain rfl := hsent
        exact ⟨_, m, rfl, .nil n m, h, h₂, rfl, by rintro ⟨⟩⟩
      | cons x front =>
        have hn : faults n = none := hnone 0 (by simp)
        obtain ⟨rfl, htail⟩ := List.cons.inj hsent
        -- Neither reply is faulted, so both are the one that is served.
        obtain ⟨hreply, htr⟩ := cons_iff.1 h
        obtain ⟨hreply₂, htr₂⟩ := cons_iff.1 h₂
        rw [hn] at hreply htr
        obtain rfl : reply₂ = reply := hreply₂.trans hreply.symm
        obtain ⟨rest₂, m₁, htail₂, hfront, hrest, hrest₂, hhead, hdone⟩ :=
          ih htr hnext htr₂ htail fun i hi => by
            have hi' := hnone (i + 1) (by rw [List.length_cons]; omega)
            rwa [Nat.add_comm i 1, ← Nat.add_assoc] at hi'
        have hlen : n + (Sent.mk q reply₂ :: front).length = n + 1 + front.length := by
          rw [List.length_cons]
          omega
        rw [hlen]
        refine ⟨rest₂, m₁, congrArg _ htail₂, cons_iff.2 ⟨?_, ?_⟩, hrest, hrest₂, hhead, hdone⟩
        · rw [hn]
          exact hreply
        · rw [hn]
          exact hfront

end Answered
end ProxySync
