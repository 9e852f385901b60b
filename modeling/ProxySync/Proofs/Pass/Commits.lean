import ProxySync.Proofs.Pass.Course
import ProxySync.Proofs.Session.Spared
/-!
# What the passes over a resource commit

A pass without faults commits at most an application or a teardown, and both are about the backend
that the resource names.

## Main statements

* `Pass.Synchronizes.commits`, `Pass.commits_of_teardown_run`: the two kinds of changes.
* `Pass.Synchronizes.sameAt`, `Pass.Synchronizes.creates`: a synchronization changes and creates
  nothing but the backend that the resource names.
* `Pass.Synchronizes.noList`: after it that backend is told as no list.
-/
namespace ProxySync.Pass
open DataPlane
open Simulation (Log Plane)
variable {τ α : Type} {members : Environment Membership.interface τ} {c : Client} {key : Key}
  {b : Resource.Backend} {t t' : τ} {m m' : Memory} {log log' : Log}
  {asked : List (Exchange DataPlane.interface)} {r : Except PassError SyncReport}

/-- A validated resource has the name of a backend, which is kept. -/
theorem name_of_validate {spec : Resource.Spec} {ns : String} {desired : Desired}
    (h : spec.validate ns = .ok desired) :
    desired.name = spec.name ∧ Validation.isName spec.name = true := by
  rw [Resource.Spec.validate] at h
  split at h
  · split at h
    · cases h
    · cases h
      exact ⟨rfl, ‹_›⟩
  · cases h

/-- Resolving keeps the name. -/
theorem name_of_resolve {desired : Desired} {d : Resolved}
    (h : desired.resolve.run.run members t = (.ok d, t')) : d.name = desired.name := by
  change ((Resolution.allServers desired.servers).run >>= _).run members t = _ at h
  rw [Dialogue.run_bind] at h
  cases hservers : ((Resolution.allServers desired.servers).run.run members t).1 with
  | error e =>
    rw [hservers] at h
    cases h
  | ok servers =>
    rw [hservers] at h
    cases h
    rfl

/-- The Data Plane holds a memory after a pass if it did before. -/
theorem Course.holds {σ : Type} {store : Environment Store.interface σ} {now : String} {s : σ}
    {calls : List ((σ × τ × Plane × Log) × Store.Call)} {w' : σ × τ × Plane × Log}
    {r : Except PassError PassOutcome}
    (h : Course store members (Plane.answer c) now c key s t (.holding m, log) calls asked r w') :
    ∃ m' log', w'.2.2 = (.holding m', log') := by
  refine h.preserves (P := fun u => ∃ m log, u = (Plane.holding m, log)) ?_ ⟨m, log, rfl⟩
  rintro call _ ⟨m, log, rfl⟩
  exact Plane.holding_answer c call m log

theorem run_holds {σ : Type} (store : Environment Store.interface σ)
    (members : Environment Membership.interface τ) (now : String) (c : Client) (key : Key)
    (index : ServiceIndex) (s : σ) (t : τ) (m : Memory) (log : Log) :
    let run := (start (reconcile now c key) index).run (beside store members (Plane.answer c))
      (s, t, .holding m, log)
    ∃ log', run.2.2.2 = (.holding (run.2.2.2.1.memory.getD m), log') := by
  intro run
  obtain ⟨m', log', hplane⟩ :=
    (course_reconcile store members (Plane.answer c) now c key index s t (.holding m, log)).holds
  have hafter : run.2.2.2 = (.holding m', log') := hplane
  exact ⟨log', by rw [hafter]; rfl⟩

/-! ## The two kinds of changes -/

theorem isOk_mapError {ε ε' : Type} (f : ε → ε') (x : Except ε α) :
    (x.mapError f).isOk = x.isOk := by
  cases x <;> rfl

/-- A session of its own, begun on a memory, is answered from it. -/
theorem answered_session (x : SessionM α) (m : Memory) (log : Log) :
    ∃ sent m' log', ((x.start .fresh).run (Plane.answer c) (.holding m, log)).2 =
        (.holding m', log') ∧
      SessionM.Conduct x .fresh sent
        ((x.start .fresh).run (Plane.answer c) (.holding m, log)).1.1
        ((x.start .fresh).run (Plane.answer c) (.holding m, log)).1.2 ∧
      Answered c (fun _ => none) 0 m sent m' := by
  obtain ⟨m', log', hrun, hanswered⟩ := answered_clean (c := c) (x.start .fresh) 0 m log
  exact ⟨_, m', log', hrun, SessionM.conduct_run _ _ _ _, hanswered⟩

theorem commits_of_teardown_run (hc : c.AtRoot) {name : String} {r : Except ClientError Unit}
    {session : Session} {u' : Plane × Log}
    (h : ((c.teardown name).start .fresh).run (Plane.answer c) (.holding m, log) =
      ((r, session), u')) :
    ∃ m' log', u' = (.holding m', log') ∧
      Commits c (c.deleteBackend name) m r.isOk m'.committed := by
  obtain ⟨sent, m', log', hrun, hconduct, hanswered⟩ :=
    answered_session (c := c) (c.teardown name) m log
  rw [h] at hrun hconduct
  exact ⟨m', log', hrun, Client.commits_teardown hc hconduct hanswered⟩

/-- A synchronization commits nothing, or applies a backend of the name in the resource. -/
theorem Synchronizes.commits (hc : c.AtRoot) {u' : Plane × Log}
    (h : Synchronizes members (Plane.answer c) c key b t (.holding m, log) asked r t' u') :
    ∃ m' log', u' = (.holding m', log') ∧
      (r.isOk = false ∧ m' = m ∨ ∃ d : Resolved, d.name = b.spec.name ∧
        Validation.isName b.spec.name = true ∧
        Commits c (c.ensureBackend d) m r.isOk m'.committed) := by
  cases h with
  | invalid => exact ⟨m, log, rfl, .inl ⟨rfl, rfl⟩⟩
  | unresolved => exact ⟨m, log, rfl, .inl ⟨rfl, rfl⟩⟩
  | @applied desired d _ validate resolve =>
    obtain ⟨hname, hvalid⟩ := name_of_validate validate
    obtain ⟨sent, m', log', hrun, hconduct, hanswered⟩ :=
      answered_session (c := c) (c.apply d) m log
    refine ⟨m', log', hrun, .inr ⟨d, (name_of_resolve resolve).trans hname, hvalid, ?_⟩⟩
    rw [isOk_mapError]
    exact Client.commits_apply hc hconduct hanswered

/-- It leaves all other backends, but for what can be read as a list where it is found in place of
parts. -/
theorem Synchronizes.sameAt (hc : c.AtRoot)
    (h : Synchronizes members (Plane.answer c) c key b t (.holding m, log) asked r t'
      (.holding m', log')) {name : String} (hname : name ≠ b.spec.name)
    (hno : name = "http_checks" ∨ name = "servers" → m.committed.NoList name) :
    m.committed.SameAt name m'.committed := by
  obtain ⟨m₁, _, hplane, ⟨_, rfl⟩ | ⟨d, hd, hvalid, hcommits⟩⟩ := h.commits hc
  · cases hplane
    exact .refl ..
  · cases hplane
    rw [← hd] at hname hvalid
    obtain hplain | hstep := Validation.isPlain_or_isStep hvalid
    · exact Client.sameAt_of_apply hc hplain hcommits hname
    · exact Client.sameAt_of_apply_step hc hstep hcommits hno

/-- What it creates is the backend that the resource names. -/
theorem Synchronizes.creates (hc : c.AtRoot)
    (h : Synchronizes members (Plane.answer c) c key b t (.holding m, log) asked r t'
      (.holding m', log')) {name : String} (habsent : m.committed.backends.get? name = none)
    (hthere : m'.committed.backends.get? name ≠ none) :
    name = b.spec.name ∧ Net.IsPlain name := by
  have hne (hsame : m.committed.SameAt name m'.committed) : False :=
    hthere (hsame.backends.trans habsent)
  obtain ⟨m₁, _, hplane, ⟨_, rfl⟩ | ⟨d, hd, hvalid, hcommits⟩⟩ := h.commits hc
  · cases hplane
    exact (hne (.refl ..)).elim
  · cases hplane
    rw [← hd] at hvalid ⊢
    obtain hplain | hstep := Validation.isPlain_or_isStep hvalid
    · by_cases hname : name = d.name
      · exact ⟨hname, hname ▸ hplain⟩
      · exact (hne (Client.sameAt_of_apply hc hplain hcommits hname)).elim
    · exact (hne (Client.sameAt_of_apply_step hc hstep hcommits fun _ =>
        .of_absent habsent)).elim

/-- The backend that the resource names is told as no list afterwards, if it was told so before or
all went well. -/
theorem Synchronizes.noList (hc : c.AtRoot)
    (h : Synchronizes members (Plane.answer c) c key b t (.holding m, log) asked r t'
      (.holding m', log')) (hname : Net.IsPlain b.spec.name)
    (hno : r.isOk = true ∨ m.committed.NoList b.spec.name) :
    m'.committed.NoList b.spec.name := by
  obtain ⟨m₁, _, hplane, ⟨hfailed, rfl⟩ | ⟨d, hd, _, hcommits⟩⟩ := h.commits hc
  · cases hplane
    exact hno.resolve_left (by simp [hfailed])
  · cases hplane
    rw [← hd] at hname hno ⊢
    exact Client.noList_of_apply hc hname hcommits hno

end ProxySync.Pass
