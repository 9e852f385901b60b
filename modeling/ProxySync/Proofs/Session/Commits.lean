import ProxySync.Proofs.Session.Atomicity
import ProxySync.Proofs.Session.Convergence
/-!
# What a pass commits

Whatever faults hit a pass, what is committed afterwards is what was committed before, or the copy
that its steps left when all of them went well. So a pass is known by what its steps do to a copy.

## Main definitions

* `Commits`: what is committed after steps in a transaction of their own.
* `Configuration.without`: a configuration without one backend.
* `Configuration.SameAt`: two configurations that agree under one name.

## Main statements

* `Client.commits_apply`, `Client.commits_teardown`: what the two kinds of passes commit.
* `Client.removes_of_commits`: a teardown removes a backend of this program, or nothing at all.
-/
namespace ProxySync
open DataPlane SessionM
variable {α β : Type} {c : Client} {t : Wire.Transaction} {faults : Nat → Option Fault} {n : Nat}
  {m m' : Memory} {cfg cfg' : Configuration}

/-! ## The copy of a transaction -/

/-- Whatever copy a request finds in the transaction, it leaves one that is so related to it. -/
def Leaves (c : Client) (t : Wire.Transaction) (R : Configuration → Configuration → Prop)
    (q : Request) : Prop :=
  ∀ (m : Memory) (cfg : Configuration), m.staged.get? t.id = some cfg →
    ∃ cfg', (m.serve c q).2 = m.staging t.id cfg' ∧ R cfg cfg'

theorem Leaves.of_scoped (hc : c.AtRoot) {q : Request} (h : ScopedBy t q) :
    Leaves c t (fun _ _ => True) q := by
  intro m cfg hcfg
  obtain hs | ⟨_, cfg', _, hs⟩ := Memory.serve_scoped (m := m) hc h
  · exact ⟨cfg, by rw [hs, Memory.staging_self hcfg], trivial⟩
  · exact ⟨cfg', hs, trivial⟩

/-- So do any number of requests, faulted or not. -/
theorem Answered.copies {R : Configuration → Configuration → Prop} (hrefl : ∀ cfg, R cfg cfg)
    (htrans : ∀ {cfg₁ cfg₂ cfg₃}, R cfg₁ cfg₂ → R cfg₂ cfg₃ → R cfg₁ cfg₃) {sent : List Sent}
    (hsent : ∀ x ∈ sent, Leaves c t R x.request) (hcfg : m.staged.get? t.id = some cfg)
    (h : Answered c faults n m sent m') : ∃ cfg', m' = m.staging t.id cfg' ∧ R cfg cfg' := by
  induction h generalizing cfg with
  | nil n m => exact ⟨cfg, (Memory.staging_self hcfg).symm, hrefl cfg⟩
  | @cons n m _ rest q _ ih =>
    obtain ⟨hq, hrest⟩ := List.forall_mem_cons.1 hsent
    by_cases hprocessed : isProcessed (faults n) = true
    · rw [if_pos hprocessed] at ih
      obtain ⟨cfg₁, hserve, h₁⟩ := hq m cfg hcfg
      rw [hserve] at ih
      obtain ⟨cfg', rfl, h'⟩ := ih hrest Memory.get?_staging
      exact ⟨cfg', Memory.staging_staging, htrans h₁ h'⟩
    · rw [if_neg hprocessed] at ih
      exact ih hrest hcfg

/-- So does a step inside the transaction. -/
theorem Runs.copies {R : Configuration → Configuration → Prop} (hrefl : ∀ cfg, R cfg cfg)
    (htrans : ∀ {cfg₁ cfg₂ cfg₃}, R cfg₁ cfg₂ → R cfg₂ cfg₃ → R cfg₁ cfg₃) {x : SessionM α}
    {P : Request → Prop} (hstaged : Client.Staged t x) (honly : Client.Only P x)
    (hleaves : ∀ q, P q → ScopedBy t q → Leaves c t R q) {s s' : Session}
    {r : Except ClientError α} (hs : s.transaction = some t) (hcfg : m.staged.get? t.id = some cfg)
    (h : Runs c x s m r s' m') :
    ∃ cfg', m' = m.staging t.id cfg' ∧ s'.transaction = some t ∧ R cfg cfg' := by
  obtain ⟨sent, hconduct, hanswered⟩ := h.conduct
  have hstage := hstaged _ _ _ _ hs hconduct
  obtain ⟨cfg', hm', hR⟩ := hanswered.copies hrefl htrans
    (fun x hx => hleaves _ (honly _ _ _ _ hconduct x hx) (hstage.inScope x hx)) hcfg
  exact ⟨cfg', hm', by rw [hstage.session]; exact hs, hR⟩

/-! ## Around the copy -/

/-- What is committed after steps in a transaction of their own, begun on the memory. -/
inductive Commits (c : Client) (body : SessionM β) (m : Memory) (ok : Bool) :
    Configuration → Prop
  /-- The pass failed and committed nothing. -/
  | nothing (failed : ok = false) : Commits c body m ok m.committed
  /-- The steps went well and changed nothing. -/
  | unchanged {t : Wire.Transaction} {b : β} {cfg : Configuration} (id : t.id = m.nextId)
      (runs : Runs c body { transaction := some t, dirty := false } m.opening (.ok b)
        { transaction := some t, dirty := false } (m.opening.staging t.id cfg)) :
      Commits c body m ok m.committed
  /-- The steps went well, and the copy that they left was committed. -/
  | copy {t : Wire.Transaction} {b : β} {cfg : Configuration} (id : t.id = m.nextId)
      (runs : Runs c body { transaction := some t, dirty := false } m.opening (.ok b)
        { transaction := some t, dirty := true } (m.opening.staging t.id cfg)) :
      Commits c body m ok cfg

theorem Memory.get?_opening (hid : t.id = m.nextId) :
    m.opening.staged.get? t.id = some m.committed := by
  rw [hid]
  exact (Table.get?_insert ..).trans (if_pos rfl)

namespace DataPlane.Client

/-- A commit that is acted on commits the copy, and is accepted. -/
theorem serve_commit_copy (hc : c.AtRoot) (ht : Net.IsPlain t.id) (m : Memory)
    (cfg : Configuration) :
    ((m.staging t.id cfg).serve c (c.commitRequest t)).2.committed = cfg ∧
      ((m.staging t.id cfg).serve c (c.commitRequest t)).1.isAbsent = false := by
  rw [Memory.serve_commitRequest hc ht, Memory.get?_staging]
  exact ⟨rfl, rfl⟩

/-- What is committed after the closing of a transaction with that copy. -/
theorem committed_of_ending (hc : c.AtRoot) (ht : Net.IsPlain t.id) {steps closing : List Sent}
    {ok : Bool} (hend : Lifecycle.Ending c t steps closing ok)
    (h : Answered c faults n (m.staging t.id cfg) closing m') :
    (ok = false ∧ m'.committed = m.committed) ∨
      (∀ x ∈ steps, x.succeeds = true) ∧
        ((steps.any (·.changes) = true ∧ m'.committed = cfg) ∨
          steps.any (·.changes) = false ∧ m'.committed = m.committed) := by
  obtain ⟨hcommitted, hpresent⟩ := serve_commit_copy hc ht m cfg
  have hdiscard {k m₁ reply} (h : Answered c faults k m₁ [⟨discardRequest t, reply⟩] m') :
      m'.committed = m₁.committed :=
    h.unchanged (f := Memory.committed) (by
      intro x hx m₂
      obtain rfl := List.mem_singleton.1 hx
      exact Memory.committed_serve_transactions hc rfl (by simp [discardRequest]))
  cases hend with
  | committed hsucc hchanged haccepted =>
    obtain ⟨hreply, hlast⟩ := Answered.cons_iff.1 h
    have hnone : faults n = none := Fault.reply_eq_none (.inl (hreply ▸ haccepted))
    rw [hnone] at hlast
    cases hlast
    exact .inr ⟨hsucc, .inl ⟨List.any_eq_true.2 hchanged, hcommitted⟩⟩
  | gone hsucc hchanged habsent =>
    obtain ⟨hreply, _⟩ := Answered.cons_iff.1 h
    have hnone : faults n = none := Fault.reply_eq_none (.inr (hreply ▸ habsent))
    rw [hnone] at hreply
    rw [hreply, Fault.reply, hpresent] at habsent
    cases habsent
  | rejected hsucc hchanged =>
    obtain ⟨_, hlast⟩ := Answered.cons_iff.1 h
    rw [hdiscard hlast]
    split
    · exact .inr ⟨hsucc, .inl ⟨List.any_eq_true.2 hchanged, hcommitted⟩⟩
    · exact .inl ⟨rfl, rfl⟩
  | unchanged hsucc hunchanged =>
    have hno : steps.any (·.changes) = false := by simpa using hunchanged
    have hkept := hdiscard h
    exact .inr ⟨hsucc, .inr ⟨hno, hkept⟩⟩
  | failed =>
    have hkept := hdiscard h
    exact .inl ⟨rfl, hkept⟩

/-- Whatever faults hit it, a pass commits the copy that its steps leave, or nothing. -/
theorem commits_of_conduct (hc : c.AtRoot) {body : SessionM β} {f : β → α}
    {r : Except ClientError α} {sent : List Sent} {s' : Session} (hbody : ∀ t, Staged t body)
    (h : Conduct (c.openTransaction >>= fun _ =>
      c.orAbort (body >>= fun b => c.close >>= fun _ => pure (f b))) .fresh sent r s')
    (hanswered : Answered c faults n m sent m') : Commits c body m r.isOk m'.committed := by
  have hnothing (hno : ∀ x ∈ sent, ¬ x.request.IsCommit) : m'.committed = m.committed :=
    hanswered.unchanged (f := Memory.committed) fun x hx =>
      (lifecycle_of_conduct hbody h).committed_serve hc x hx (hno x hx)
  obtain ⟨reply₀, ⟨rfl, _, hr⟩ | ⟨v, reply, _, ⟨rfl, _, hr⟩ |
    ⟨t, steps, closing, r₀, s₁, rfl, hgranted, hconduct, hscope, hend⟩⟩⟩ :=
    opened_of_conduct hbody h
  · rw [hnothing (by simpa using Lifecycle.not_isCommit_versionRequest)]
    exact .nothing hr
  · rw [hnothing (by simpa using
      ⟨Lifecycle.not_isCommit_versionRequest, Lifecycle.not_isCommit_openRequest v⟩)]
    exact .nothing hr
  · obtain ⟨hid, hrest⟩ := hanswered.opened hc hgranted
    obtain ⟨m₁, hsteps, hclosing⟩ := Answered.append_iff.1 hrest
    obtain ⟨cfg, rfl, _⟩ := hsteps.copies (R := fun _ _ => True) (fun _ => trivial)
      (fun _ _ => trivial) (fun x hx => .of_scoped hc (hscope x hx)) (Memory.get?_opening hid)
    -- Where all steps succeeded none of them was faulted.
    have hstage := hbody t _ _ _ _ rfl hconduct
    have hruns (hsucc : ∀ x ∈ steps, x.succeeds = true) :
        ∃ b, Runs c body { transaction := some t, dirty := false } m.opening (.ok b) s₁
          (m.opening.staging t.id cfg) := by
      have hnone := hsteps.not_faulted fun x hx => Sent.sound_of_succeeds (hsucc x hx)
      have hrun := Runs.of_conduct hconduct (hsteps.clean hnone 0)
      cases r₀ with
      | ok b => exact ⟨b, hrun⟩
      | error e =>
        obtain ⟨front, last, rfl, _, hlast⟩ := hstage.failed rfl
        rw [hsucc last (by simp)] at hlast
        cases hlast
    have hplain : Net.IsPlain t.id := hid ▸ m.isPlain_nextId
    have hsession := hstage.session
    obtain ⟨hr, hcommitted⟩ | ⟨hsucc, ⟨hany, hcommitted⟩ | ⟨hany, hcommitted⟩⟩ :=
      committed_of_ending hc hplain hend hclosing
    · rw [hcommitted]
      exact .nothing hr
    · obtain ⟨b, hrun⟩ := hruns hsucc
      rw [hany, Session.marked_true] at hsession
      rw [hcommitted]
      exact .copy hid (hsession ▸ hrun)
    · obtain ⟨b, hrun⟩ := hruns hsucc
      rw [hany, Session.marked_false] at hsession
      rw [hcommitted]
      exact .unchanged hid (hsession ▸ hrun)

theorem commits_apply (hc : c.AtRoot) {d : Resolved} {sent : List Sent}
    {r : Except ClientError SyncReport} {s' : Session} (h : Conduct (c.apply d) .fresh sent r s')
    (hanswered : Answered c faults n m sent m') :
    Commits c (c.ensureBackend d) m r.isOk m'.committed :=
  commits_of_conduct hc (fun _ => staged_ensureBackend d) h hanswered

theorem commits_teardown (hc : c.AtRoot) {name : String} {sent : List Sent}
    {r : Except ClientError Unit} {s' : Session} (h : Conduct (c.teardown name) .fresh sent r s')
    (hanswered : Answered c faults n m sent m') :
    Commits c (c.deleteBackend name) m r.isOk m'.committed :=
  commits_of_conduct hc (fun _ => staged_deleteBackend name) h hanswered

/-! ## Looking at a section and removing it -/

section
variable {name : String} {s s₁ : Session} {m₁ : Memory}

/-- What an answer with a value is taken for. -/
theorem foundIn_told {read : Json → Option α} {operation what : String} {j : Json} :
    c.foundIn operation what read ⟨(Answer.json 200 j).status, (Answer.json 200 j).bodyText⟩ =
      (c.readIn what read ⟨200, (Answer.json 200 j).bodyText⟩).map some := rfl

/-- A look at a section that goes well shows whether it is there. -/
theorem found_of_runs (hc : c.AtRoot) (hname : Net.IsPlain name) (hs : s.transaction = some t)
    (hcfg : m.staged.get? t.id = some cfg) {found : Option Wire.Backend}
    (h : Runs c (c.getBackend name) s m (.ok found) s₁ m₁) :
    s₁ = s ∧ m₁ = m ∧
      ((found = none ∧ cfg.backends.get? name = none) ∨
        ∃ b, found = some b ∧ cfg.Defines name b) := by
  have hplain : ∀ n ∈ ["backends", name], Net.IsPlain n := isPlain_backends hname (by simp)
  have hworks {a : Option Wire.Backend} (hw : Works c t (c.getBackend name) cfg a false cfg) :
      found = a ∧ s₁ = s ∧ m₁ = m := by
    obtain ⟨hfound, rfl, rfl⟩ := h.unique (hw s m hs hcfg)
    rw [Session.marked_false, Memory.staging_self hcfg]
    exact ⟨Except.ok.inj hfound, rfl, rfl⟩
  cases hj : cfg.backends.get? name with
  | none =>
    obtain ⟨rfl, rfl, rfl⟩ := hworks (works_find?_absent hc hplain (by simp)
      (by simp [Memory.onConfiguration, Memory.onBackends, hj]))
    exact ⟨rfl, rfl, .inl ⟨rfl, rfl⟩⟩
  | some j =>
    have hserve : Memory.onConfiguration cfg .get ["backends", name] .null =
        (.json 200 j, cfg) := by
      simp [Memory.onConfiguration, Memory.onBackends, hj]
    cases htold : told? Wire.Backend.ofJson? j with
    | some b =>
      obtain ⟨rfl, rfl, rfl⟩ := hworks (works_find? hc hplain (by simp) hserve htold)
      exact ⟨rfl, rfl, .inr ⟨b, rfl, j, hj, htold⟩⟩
    | none =>
      have hposes : Poses c (c.getBackend name) .get ["backends", name] none
          (c.foundIn "get backend" "backend" Wire.Backend.ofJson?) := poses_find?
      obtain ⟨hfound, _⟩ := h.unique (hposes.runs hc (Memory.below?_address hc hplain)
        (by simp [scopedRequest]) hserve hs hcfg)
      rw [foundIn_told, readIn_untold htold] at hfound
      cases hfound

/-- A failure leaves nothing to go on with. -/
theorem not_runs_fail {e : ClientError} {a : α} :
    ¬ Runs c (SessionM.fail e : SessionM α) s m (.ok a) s₁ m₁ := by
  intro h
  obtain ⟨_, hconduct, _⟩ := h.conduct
  cases (conduct_fail.1 hconduct).2.1

end

end DataPlane.Client

namespace DataPlane.Configuration

/-- The configuration without that backend, its servers and its check list. -/
def without (cfg : Configuration) (name : String) : Configuration :=
  { backends := cfg.backends.erase name, servers := cfg.servers.erase name
    httpChecks := cfg.httpChecks.erase name }

/-- Both have the same under a name: definition, servers and check list. -/
structure SameAt (name : String) (cfg cfg' : Configuration) : Prop where
  backends : cfg'.backends.get? name = cfg.backends.get? name
  servers : cfg'.servers.get? name = cfg.servers.get? name
  httpChecks : cfg'.httpChecks.get? name = cfg.httpChecks.get? name

theorem SameAt.refl (name : String) (cfg : Configuration) : SameAt name cfg cfg := ⟨rfl, rfl, rfl⟩

theorem SameAt.trans {name : String} {cfg₁ cfg₂ cfg₃ : Configuration} (h : SameAt name cfg₁ cfg₂)
    (h' : SameAt name cfg₂ cfg₃) : SameAt name cfg₁ cfg₃ :=
  ⟨h'.backends.trans h.backends, h'.servers.trans h.servers, h'.httpChecks.trans h.httpChecks⟩

theorem sameAt_without {name n : String} (cfg : Configuration) (hn : n ≠ name) :
    SameAt n cfg (cfg.without name) := by
  constructor <;> simp [without, hn.symm]

end DataPlane.Configuration

/-- What a teardown makes of a configuration. -/
inductive Removes (name : String) (cfg : Configuration) (ok : Bool) : Configuration → Prop
  /-- Nothing is removed, which is a success only if there is nothing. -/
  | kept (absent : ok = true → cfg.backends.get? name = none) : Removes name cfg ok cfg
  /-- A backend of this program is removed. -/
  | removed {b : Wire.Backend} (defined : cfg.Defines name b) (managed : b.isManaged = true) :
      Removes name cfg ok (cfg.without name)

namespace Removes
variable {name : String} {ok : Bool}

/-- After a success there is no such backend. -/
theorem absent (h : Removes name cfg ok cfg') (hok : ok = true) :
    cfg'.backends.get? name = none := by
  cases h with
  | kept habsent => exact habsent hok
  | removed => simp [Configuration.without]

/-- Nothing is removed but that backend, and only one of this program. -/
theorem spares (h : Removes name cfg ok cfg') {n : String}
    (hn : n ≠ name ∨ ∀ b, cfg.Defines n b → b.isManaged = false) :
    Configuration.SameAt n cfg cfg' := by
  cases h with
  | kept => exact .refl n cfg
  | removed hdefined hmanaged =>
    refine Configuration.sameAt_without cfg ?_
    rintro rfl
    rcases hn with hn | hn
    · exact hn rfl
    · rw [hn _ hdefined] at hmanaged
      cases hmanaged

end Removes

namespace DataPlane.Client

/-- A deletion that goes well found no section, or one of this program, which is gone then. -/
theorem removes_of_runs (hc : c.AtRoot) {name : String} (hname : Net.IsPlain name)
    {s s₁ : Session} (hs : s.transaction = some t) (hcfg : m.staged.get? t.id = some cfg)
    {change : Change} (h : Runs c (c.deleteBackend name) s m (.ok change) s₁ m') :
    (s₁ = s ∧ cfg.backends.get? name = none) ∨
      ∃ b, cfg.Defines name b ∧ b.isManaged = true ∧ s₁ = s.marked true ∧
        m' = m.staging t.id (cfg.without name) := by
  obtain ⟨found, s₂, m₂, hget, hrest⟩ := Runs.of_bind h
  obtain ⟨rfl, rfl, ⟨rfl, habsent⟩ | ⟨b, rfl, hdefined⟩⟩ := found_of_runs hc hname hs hcfg hget
  · obtain ⟨_, rfl, _⟩ := hrest.unique (.pure _ _ _)
    exact .inl ⟨rfl, habsent⟩
  · cases hb : b.isManaged with
    | false =>
      simp only [hb, Bool.not_false, if_true] at hrest
      exact absurd hrest not_runs_fail
    | true =>
      simp only [hb, Bool.not_true, Bool.false_eq_true, if_false] at hrest
      obtain ⟨j, hj, _⟩ := hdefined
      have hserve : Memory.onConfiguration cfg .delete ["backends", name] .null =
          (.bare 204, cfg.without name) := by
        simp [Memory.onConfiguration, Memory.onBackends, Table.contains, hj,
          Configuration.without]
      obtain ⟨_, rfl, rfl⟩ := hrest.unique
        (works_delete hc (isPlain_backends hname (by simp)) (by simp) hserve s₂ m₂ hs hcfg)
      exact .inr ⟨b, ⟨j, hj, by assumption⟩, hb, rfl, rfl⟩

/-- A teardown removes a backend of this program, or nothing at all. -/
theorem removes_of_commits (hc : c.AtRoot) {name : String} (hname : Net.IsPlain name) {ok : Bool}
    (h : Commits c (c.deleteBackend name) m ok cfg') : Removes name m.committed ok cfg' := by
  cases h with
  | nothing hfailed => exact .kept (by simp [hfailed])
  | unchanged hid hruns =>
    obtain ⟨_, habsent⟩ | ⟨_, _, _, hs, _⟩ :=
      removes_of_runs hc hname rfl (Memory.get?_opening hid) hruns
    · exact .kept fun _ => habsent
    · exact absurd (congrArg Session.dirty hs) (by simp)
  | copy hid hruns =>
    obtain ⟨hs, _⟩ | ⟨b, hdefined, hmanaged, _, hm⟩ :=
      removes_of_runs hc hname rfl (Memory.get?_opening hid) hruns
    · exact absurd (congrArg Session.dirty hs) (by simp)
    · rw [Memory.staging_injective hm]
      exact .removed hdefined hmanaged

end DataPlane.Client
end ProxySync
