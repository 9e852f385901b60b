/-!
# Dialogues with an environment

A program that depends on others is a tree: it is done, or it makes a call and goes on according to
the answer. What the others are is left open; an environment in a state answers the calls one by
one. So one program can be run against any behaviour of its partners, and what it asked, in which
order, can be read off its trace.

* `Dialogue`: programs over an `Interface`, a lawful monad.
* `Dialogue.run`, `Dialogue.trace`: the result and the exchanges in an environment.
* `Dialogue.embed`: a program as part of one with more partners.
-/
namespace ProxySync

/-- Calls that can be made, and the type of the answer to each. -/
structure Interface where
  Call : Type
  Answer : Call → Type

/-- A program that makes calls. -/
inductive Dialogue (I : Interface) (α : Type) where
  | done (a : α)
  | ask (c : I.Call) (next : I.Answer c → Dialogue I α)

/-- A call with its answer. -/
structure Exchange (I : Interface) where
  call : I.Call
  answer : I.Answer call

/-- How partners in a state answer a call, and the state that leaves them in. -/
abbrev Environment (I : Interface) (σ : Type) := (c : I.Call) → σ → I.Answer c × σ

namespace Dialogue
variable {I J : Interface} {α β γ σ : Type}

/-- Goes on where a program is done. -/
def bind (d : Dialogue I α) (f : α → Dialogue I β) : Dialogue I β :=
  match d with
  | .done a => f a
  | .ask c next => .ask c fun a => bind (next a) f

instance : Monad (Dialogue I) where
  pure := .done
  bind := bind

/-- Makes one call. -/
def call (c : I.Call) : Dialogue I (I.Answer c) := .ask c .done

@[simp] theorem pure_eq (a : α) : (pure a : Dialogue I α) = .done a := rfl

@[simp] theorem done_bind (a : α) (f : α → Dialogue I β) : (done a >>= f) = f a := rfl

@[simp] theorem ask_bind (c : I.Call) (next : I.Answer c → Dialogue I α) (f : α → Dialogue I β) :
    (ask c next >>= f) = .ask c fun a => next a >>= f := rfl

@[simp] theorem call_bind (c : I.Call) (f : I.Answer c → Dialogue I β) :
    (call c >>= f) = .ask c f := rfl

theorem bind_done (d : Dialogue I α) : (d >>= .done) = d := by
  induction d with
  | done a => rfl
  | ask c next ih => exact congrArg (Dialogue.ask c) (funext ih)

theorem bind_assoc (d : Dialogue I α) (f : α → Dialogue I β) (g : β → Dialogue I γ) :
    (d >>= f >>= g) = (d >>= fun a => f a >>= g) := by
  induction d with
  | done a => rfl
  | ask c next ih => exact congrArg (Dialogue.ask c) (funext ih)

instance : LawfulMonad (Dialogue I) :=
  LawfulMonad.mk' _ bind_done (fun _ _ => rfl) bind_assoc

/-- The result in an environment, and the state that leaves the environment in. -/
def run (env : Environment I σ) : Dialogue I α → σ → α × σ
  | .done a, s => (a, s)
  | .ask c next, s => run env (next (env c s).1) (env c s).2

/-- The exchanges in an environment, in order. -/
def trace (env : Environment I σ) : Dialogue I α → σ → List (Exchange I)
  | .done _, _ => []
  | .ask c next, s => ⟨c, (env c s).1⟩ :: trace env (next (env c s).1) (env c s).2

@[simp] theorem run_done (env : Environment I σ) (a : α) (s : σ) :
    (done a : Dialogue I α).run env s = (a, s) := rfl

@[simp] theorem trace_done (env : Environment I σ) (a : α) (s : σ) :
    (done a : Dialogue I α).trace env s = [] := rfl

@[simp] theorem run_ask (env : Environment I σ) (c : I.Call) (next : I.Answer c → Dialogue I α)
    (s : σ) : (ask c next).run env s = (next (env c s).1).run env (env c s).2 := rfl

@[simp] theorem trace_ask (env : Environment I σ) (c : I.Call)
    (next : I.Answer c → Dialogue I α) (s : σ) :
    (ask c next).trace env s =
      ⟨c, (env c s).1⟩ :: (next (env c s).1).trace env (env c s).2 := rfl

@[simp] theorem run_bind (env : Environment I σ) (d : Dialogue I α) (f : α → Dialogue I β) (s : σ) :
    (d >>= f).run env s = (f (d.run env s).1).run env (d.run env s).2 := by
  induction d generalizing s with
  | done a => rfl
  | ask c next ih => exact ih _ _

@[simp] theorem trace_bind (env : Environment I σ) (d : Dialogue I α) (f : α → Dialogue I β)
    (s : σ) : (d >>= f).trace env s =
      d.trace env s ++ (f (d.run env s).1).trace env (d.run env s).2 := by
  induction d generalizing s with
  | done a => rfl
  | ask c next ih => exact congrArg (_ :: ·) (ih _ _)

end Dialogue

/-- One interface as part of another. -/
structure Embedding (I J : Interface) where
  call : I.Call → J.Call
  answer : (c : I.Call) → J.Answer (call c) → I.Answer c

/-- The program with its calls made through the larger interface. -/
def Dialogue.embed {I J : Interface} {α : Type} (e : Embedding I J) : Dialogue I α → Dialogue J α
  | .done a => .done a
  | .ask c next => .ask (e.call c) fun a => embed e (next (e.answer c a))

end ProxySync
