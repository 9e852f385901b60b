import ProxySync.Proofs.Pass.Quiet
/-!
# A pass beside its partners

A step of a pass is run beside a store, look-ups and a Data Plane that know nothing of each other.
What can be seen of it are its calls of the store, each with the state of all three in which it is
made, its exchanges with the Data Plane, its result and the state it leaves.

## Main definitions

* `Dialogue.history`: the exchanges of a run, each with the state in which the call is made.
* `Pass.beside`: partners side by side.
* `Pass.Goes`: what can be seen of a step of a pass.

## Main statements

* `Pass.goes_bind`, `Pass.goes_tryCatch`: what two steps do, one after the other, and what a step
  does whose failure is handled.
* `Pass.goes_ask`, `Pass.goes_resolving`, `Pass.goes_inSession`: the steps that ask a partner.
-/
namespace ProxySync

namespace Dialogue
variable {I : Interface} {α β σ : Type}

/-- The exchanges in an environment, each with the state in which the call is made. -/
def history (env : Environment I σ) : Dialogue I α → σ → List (σ × Exchange I)
  | .done _, _ => []
  | .ask c next, s => (s, ⟨c, (env c s).1⟩) :: history env (next (env c s).1) (env c s).2

@[simp] theorem history_done (env : Environment I σ) (a : α) (s : σ) :
    (done a : Dialogue I α).history env s = [] := rfl

@[simp] theorem history_ask (env : Environment I σ) (c : I.Call)
    (next : I.Answer c → Dialogue I α) (s : σ) :
    (ask c next).history env s =
      (s, ⟨c, (env c s).1⟩) :: (next (env c s).1).history env (env c s).2 := rfl

@[simp] theorem history_bind (env : Environment I σ) (d : Dialogue I α) (f : α → Dialogue I β)
    (s : σ) : (d >>= f).history env s =
      d.history env s ++ (f (d.run env s).1).history env (d.run env s).2 := by
  induction d generalizing s with
  | done a => rfl
  | ask c next ih => exact congrArg (_ :: ·) (ih _ _)

/-- What no call ends is not ended by a run. -/
theorem run_preserves {P : σ → Prop} {env : Environment I σ}
    (henv : ∀ c s, P s → P (env c s).2) (d : Dialogue I α) {s : σ} (hs : P s) :
    P (d.run env s).2 := by
  induction d generalizing s with
  | done a => exact hs
  | ask c next ih => exact ih _ (henv c s hs)

end Dialogue

namespace Pass
variable {α β σ τ υ : Type}

/-! ## Partners side by side -/

/-- Partners that know nothing of each other. -/
def beside (store : Environment Store.interface σ) (members : Environment Membership.interface τ)
    (plane : Environment DataPlane.interface υ) : Environment interface (σ × τ × υ)
  | .store c, (s, t, u) => ((store c s).1, (store c s).2, t, u)
  | .membership c, (s, t, u) => ((members c t).1, s, (members c t).2, u)
  | .plane c, (s, t, u) => ((plane c u).1, s, t, (plane c u).2)

/-- A Data Plane that cannot be reached. -/
def unreachable : Environment DataPlane.interface Unit
  | .request _, u => (.lost "no route", u)
  | .measure _, u => ((), u)

/-- The calls of the store in a history, with their states. -/
def storeCalls {ω : Type} (made : List (ω × Exchange interface)) : List (ω × Store.Call) :=
  made.filterMap fun
    | (w, ⟨.store c, _⟩) => some (w, c)
    | (_, ⟨.membership _, _⟩) => none
    | (_, ⟨.plane _, _⟩) => none

/-- The exchanges with the Data Plane in a history. -/
def planeExchanges {ω : Type} (made : List (ω × Exchange interface)) :
    List (Exchange DataPlane.interface) :=
  made.filterMap fun
    | (_, ⟨.store _, _⟩) => none
    | (_, ⟨.membership _, _⟩) => none
    | (_, ⟨.plane q, a⟩) => some ⟨q, a⟩

@[simp] theorem storeCalls_append {ω : Type} (made₁ made₂ : List (ω × Exchange interface)) :
    storeCalls (made₁ ++ made₂) = storeCalls made₁ ++ storeCalls made₂ :=
  List.filterMap_append

@[simp] theorem planeExchanges_append {ω : Type} (made₁ made₂ : List (ω × Exchange interface)) :
    planeExchanges (made₁ ++ made₂) = planeExchanges made₁ ++ planeExchanges made₂ :=
  List.filterMap_append

section Embedded

variable (store : Environment Store.interface σ) (members : Environment Membership.interface τ)
  (plane : Environment DataPlane.interface υ)

/-- What is asked of the Data Plane alone is asked so beside the others. -/
theorem embed_viaPlane (d : Dialogue DataPlane.interface α) (s : σ) (t : τ) (u : υ) :
    (d.embed viaPlane).run (beside store members plane) (s, t, u) =
        ((d.run plane u).1, s, t, (d.run plane u).2) ∧
      storeCalls ((d.embed viaPlane).history (beside store members plane) (s, t, u)) = [] ∧
      planeExchanges ((d.embed viaPlane).history (beside store members plane) (s, t, u)) =
        d.trace plane u := by
  induction d generalizing u with
  | done a => exact ⟨rfl, rfl, rfl⟩
  | ask c next ih =>
    obtain ⟨hrun, hcalls, hasked⟩ := ih (plane c u).1 (plane c u).2
    exact ⟨hrun, hcalls, congrArg (_ :: ·) hasked⟩

theorem embed_viaMembership (d : Dialogue Membership.interface α) (s : σ) (t : τ) (u : υ) :
    (d.embed viaMembership).run (beside store members plane) (s, t, u) =
        ((d.run members t).1, s, (d.run members t).2, u) ∧
      storeCalls ((d.embed viaMembership).history (beside store members plane) (s, t, u)) = [] ∧
      planeExchanges ((d.embed viaMembership).history (beside store members plane) (s, t, u)) =
        [] := by
  induction d generalizing t with
  | done a => exact ⟨rfl, rfl, rfl⟩
  | ask c next ih => exact ih (members c t).1 (members c t).2

end Embedded

/-! ## Steps -/

variable {store : Environment Store.interface σ} {members : Environment Membership.interface τ}
  {plane : Environment DataPlane.interface υ}

/-- Begun in a state, the step makes these calls of the store and these exchanges with the Data
Plane, ends with the result and leaves the other state. The index of Services is left open. -/
def Goes (store : Environment Store.interface σ) (members : Environment Membership.interface τ)
    (plane : Environment DataPlane.interface υ) (x : PassM α) (w : σ × τ × υ)
    (calls : List ((σ × τ × υ) × Store.Call)) (asked : List (Exchange DataPlane.interface))
    (r : Except PassError α) (w' : σ × τ × υ) : Prop :=
  ∃ index index',
    storeCalls ((start x index).history (beside store members plane) w) = calls ∧
    planeExchanges ((start x index).history (beside store members plane) w) = asked ∧
    (start x index).run (beside store members plane) w = ((r, index'), w')

variable {w w' : σ × τ × υ} {calls : List ((σ × τ × υ) × Store.Call)}
  {asked : List (Exchange DataPlane.interface)} {s : σ} {t : τ} {u : υ}

variable (store members plane) in
/-- Every run goes so. -/
theorem goes_run (x : PassM α) (index : ServiceIndex) (w : σ × τ × υ) :
    Goes store members plane x w
      (storeCalls ((start x index).history (beside store members plane) w))
      (planeExchanges ((start x index).history (beside store members plane) w))
      ((start x index).run (beside store members plane) w).1.1
      ((start x index).run (beside store members plane) w).2 :=
  ⟨index, _, rfl, rfl, rfl⟩

theorem goes_pure {a : α} {r : Except PassError α}
    (h : Goes store members plane (pure a) w calls asked r w') :
    calls = [] ∧ asked = [] ∧ r = .ok a ∧ w' = w := by
  obtain ⟨_, _, rfl, rfl, hrun⟩ := h
  cases hrun
  exact ⟨rfl, rfl, rfl, rfl⟩

theorem goes_throw {e : PassError} {r : Except PassError α}
    (h : Goes store members plane (throw e) w calls asked r w') :
    calls = [] ∧ asked = [] ∧ r = .error e ∧ w' = w := by
  obtain ⟨_, _, rfl, rfl, hrun⟩ := h
  cases hrun
  exact ⟨rfl, rfl, rfl, rfl⟩

theorem goes_modify {f : ServiceIndex → ServiceIndex} {r : Except PassError PUnit}
    (h : Goes store members plane (modify f) w calls asked r w') :
    calls = [] ∧ asked = [] ∧ r = .ok ⟨⟩ ∧ w' = w := by
  obtain ⟨_, _, rfl, rfl, hrun⟩ := h
  cases hrun
  exact ⟨rfl, rfl, rfl, rfl⟩

theorem goes_ask {call : Store.Call} {r : Except PassError (Store.interface.Answer call)}
    (h : Goes store members plane (ask call) (s, t, u) calls asked r w') :
    calls = [((s, t, u), call)] ∧ asked = [] ∧ r = .ok (store call s).1 ∧
      w' = ((store call s).2, t, u) := by
  obtain ⟨_, _, rfl, rfl, hrun⟩ := h
  cases hrun
  exact ⟨rfl, rfl, rfl, rfl⟩

theorem goes_resolving {x : ResolutionM α} {r : Except PassError α}
    (h : Goes store members plane (resolving x) (s, t, u) calls asked r w') :
    calls = [] ∧ asked = [] ∧ r = (x.run.run members t).1 ∧
      w' = (s, (x.run.run members t).2, u) := by
  obtain ⟨index, _, rfl, rfl, hrun⟩ := h
  obtain ⟨hembed, hcalls, hasked⟩ :=
    embed_viaMembership store members plane x.run s t u
  rw [start_resolving, Dialogue.run_bind, hembed] at hrun
  rw [start_resolving, Dialogue.history_bind, storeCalls_append, planeExchanges_append, hcalls,
    hasked]
  cases hrun
  exact ⟨rfl, rfl, rfl, rfl⟩

theorem goes_inSession {x : SessionM α} {r : Except PassError α}
    (h : Goes store members plane (inSession x) (s, t, u) calls asked r w') :
    calls = [] ∧ asked = (x.start .fresh).trace plane u ∧
      r = ((x.start .fresh).run plane u).1.1.mapError .client ∧
      w' = (s, t, ((x.start .fresh).run plane u).2) := by
  obtain ⟨index, _, rfl, rfl, hrun⟩ := h
  obtain ⟨hembed, hcalls, hasked⟩ :=
    embed_viaPlane store members plane (x.start .fresh) s t u
  rw [start_inSession, Dialogue.run_bind, hembed] at hrun
  rw [start_inSession, Dialogue.history_bind, storeCalls_append, planeExchanges_append, hcalls,
    hasked]
  cases hrun
  exact ⟨rfl, List.append_nil _, rfl, rfl⟩

/-- What two steps do, one after the other. -/
theorem goes_bind {x : PassM α} {f : α → PassM β} {r : Except PassError β}
    (h : Goes store members plane (x >>= f) w calls asked r w') :
    (∃ calls₁ calls₂ asked₁ asked₂ a w₁, calls = calls₁ ++ calls₂ ∧ asked = asked₁ ++ asked₂ ∧
      Goes store members plane x w calls₁ asked₁ (.ok a) w₁ ∧
      Goes store members plane (f a) w₁ calls₂ asked₂ r w') ∨
    ∃ e, r = .error e ∧ Goes store members plane x w calls asked (.error e) w' := by
  obtain ⟨index, _, rfl, rfl, hrun⟩ := h
  rw [start_bind, Dialogue.history_bind]
  rw [start_bind, Dialogue.run_bind] at hrun
  rcases hx : (start x index).run (beside store members plane) w with ⟨⟨e | a, index₁⟩, w₁⟩
  · rw [hx] at hrun
    cases hrun
    refine .inr ⟨e, rfl, index, index₁, ?_, ?_, hx⟩ <;> simp
  · rw [hx] at hrun
    exact .inl ⟨_, _, _, _, a, w₁, storeCalls_append .., planeExchanges_append ..,
      ⟨index, index₁, rfl, rfl, hx⟩, index₁, _, rfl, rfl, hrun⟩

/-- Looking after the index is not seen by the partners. -/
theorem goes_modify_bind {f : ServiceIndex → ServiceIndex} {g : PUnit → PassM α}
    {r : Except PassError α}
    (h : Goes store members plane (modify f >>= g) w calls asked r w') :
    Goes store members plane (g ⟨⟩) w calls asked r w' := by
  obtain ⟨_, _, _, _, _, _, rfl, rfl, hmodify, hnext⟩ | ⟨_, rfl, hmodify⟩ := goes_bind h
  · obtain ⟨rfl, rfl, _, rfl⟩ := goes_modify hmodify
    exact hnext
  · cases (goes_modify hmodify).2.2.1

/-- What a step does whose failure is handled. -/
theorem goes_tryCatch {x : PassM α} {f : PassError → PassM α} {r : Except PassError α}
    (h : Goes store members plane (tryCatch x f) w calls asked r w') :
    (∃ a, r = .ok a ∧ Goes store members plane x w calls asked (.ok a) w') ∨
    ∃ calls₁ calls₂ asked₁ asked₂ e w₁, calls = calls₁ ++ calls₂ ∧ asked = asked₁ ++ asked₂ ∧
      Goes store members plane x w calls₁ asked₁ (.error e) w₁ ∧
      Goes store members plane (f e) w₁ calls₂ asked₂ r w' := by
  obtain ⟨index, _, rfl, rfl, hrun⟩ := h
  rw [start_tryCatch, Dialogue.history_bind]
  rw [start_tryCatch, Dialogue.run_bind] at hrun
  rcases hx : (start x index).run (beside store members plane) w with ⟨⟨e | a, index₁⟩, w₁⟩
  · rw [hx] at hrun
    exact .inr ⟨_, _, _, _, e, w₁, storeCalls_append .., planeExchanges_append ..,
      ⟨index, index₁, rfl, rfl, hx⟩, index₁, _, rfl, rfl, hrun⟩
  · rw [hx] at hrun
    cases hrun
    refine .inl ⟨a, rfl, index, index₁, ?_, ?_, hx⟩ <;> simp

/-- A call of the store and what is made of its answer. -/
theorem goes_ask_bind {call : Store.Call} {f : Store.interface.Answer call → PassM α}
    {r : Except PassError α}
    (h : Goes store members plane (ask call >>= f) (s, t, u) calls asked r w') :
    ∃ calls', calls = ((s, t, u), call) :: calls' ∧
      Goes store members plane (f (store call s).1) ((store call s).2, t, u) calls' asked r w' := by
  obtain ⟨_, _, _, _, _, _, rfl, rfl, hask, hnext⟩ | ⟨_, rfl, hask⟩ := goes_bind h
  · obtain ⟨rfl, rfl, ha, rfl⟩ := goes_ask hask
    cases ha
    exact ⟨_, rfl, hnext⟩
  · cases (goes_ask hask).2.2.1

end Pass
end ProxySync
