import ProxySync.Proofs.Pass.Course
import ProxySync.Proofs.Session.Commits
import ProxySync.Simulation.Cluster
/-!
# The finalizer gates the removal of a resource

The finalizer is attached once a resource has been synchronized and detached only once its backend
is gone, whatever the store says and whatever faults hit the Data Plane.

## Main definitions

* `Pass.Seen`, `Pass.see`, `Pass.watch`: what can be seen of passes one after the other.
* `Pass.Gated`: a pass in which the finalizer does its work.

## Main statements

* `Pass.gated_of_course`: every pass is gated.
* `Pass.finalizer_gates`: so are the passes of every run.
-/
namespace ProxySync

/-- A call that changes the finalizers of a resource. -/
def Store.Call.ChangesFinalizers : Store.Call → Prop
  | .addFinalizer _ => True
  | .removeFinalizer _ => True
  | .get _ => False
  | .patchStatus .. => False
  | .publish .. => False

namespace Pass
open Simulation (Log Plane)
variable {σ τ υ : Type}

/-! ## Passes one after the other -/

/-- What can be seen of a pass: the states of its partners before and after it, what it asked of the
store and of the Data Plane, and its result. -/
structure Seen (σ τ υ : Type) where
  before : σ × τ × υ
  calls : List ((σ × τ × υ) × Store.Call)
  asked : List (Exchange DataPlane.interface)
  result : Except PassError PassOutcome
  after : σ × τ × υ

/-- What can be seen of a pass over a key. -/
def see (store : Environment Store.interface σ) (members : Environment Membership.interface τ)
    (plane : Environment DataPlane.interface υ) (c : DataPlane.Client) (key : Key) (now : String)
    (index : ServiceIndex) (w : σ × τ × υ) : Seen σ τ υ :=
  let d := start (reconcile now c key) index
  let made := d.history (beside store members plane) w
  let run := d.run (beside store members plane) w
  { before := w, calls := storeCalls made, asked := planeExchanges made, result := run.1.1
    after := run.2 }

/-- What can be seen of passes over one key, each at its time. -/
def watch (store : Environment Store.interface σ) (members : Environment Membership.interface τ)
    (plane : Environment DataPlane.interface υ) (c : DataPlane.Client) (key : Key) :
    List String → ServiceIndex → σ × τ × υ → List (Seen σ τ υ)
  | [], _, _ => []
  | now :: nows, index, w =>
    let run := (start (reconcile now c key) index).run (beside store members plane) w
    see store members plane c key now index w ::
      watch store members plane c key nows run.1.2 run.2

/-! ## What the course of a pass tells of the finalizer -/

section Course

variable {store : Environment Store.interface σ} {members : Environment Membership.interface τ}
  {plane : Environment DataPlane.interface υ} {now : String} {c : DataPlane.Client} {key : Key}
  {b : Resource.Backend} {s s' : σ} {t : τ} {u : υ} {w w' : σ × τ × υ}
  {calls notes : List ((σ × τ × υ) × Store.Call)} {asked : List (Exchange DataPlane.interface)}
  {r : Except PassError PassOutcome}

theorem Notes.not_changesFinalizers (h : Notes store b t u s notes s') :
    ∀ x ∈ notes, ¬ x.2.ChangesFinalizers := by
  induction h with
  | nil => simp
  | event _ _ ih => exact List.forall_mem_cons.2 ⟨id, ih⟩
  | status _ _ ih => exact List.forall_mem_cons.2 ⟨id, ih⟩

theorem Course.of_removeFinalizer (h : Course store members plane now c key s t u calls asked r w')
    (hmem : (w, .removeFinalizer b) ∈ calls) :
    ∃ s₁ session u', store (.get key) s = (.ok (some b), s₁) ∧ b.isDeleting = true ∧
      b.hasFinalizer = true ∧
      ((c.teardown b.spec.name).start .fresh).run plane u = ((.ok (), session), u') ∧
      w = (s₁, t, u') := by
  have hnot {b₀ t u s s' notes} (h : Notes store b₀ t u s notes s') :
      (w, Store.Call.removeFinalizer b) ∉ notes :=
    fun hx => h.not_changesFinalizers _ hx trivial
  cases h with
  | unread | absent | released => simp at hmem
  | kept _ _ _ _ noted => simp [hnot noted] at hmem
  | undetached read deleting held teardown _ noted =>
    simp only [List.mem_cons, hnot noted, or_false, Prod.mk.injEq, reduceCtorEq, and_false,
      false_or, Store.Call.removeFinalizer.injEq] at hmem
    obtain ⟨rfl, rfl⟩ := hmem
    exact ⟨_, _, _, read, deleting, held, teardown, rfl⟩
  | finalized read deleting held teardown _ noted =>
    simp only [List.mem_cons, hnot noted, or_false, Prod.mk.injEq, reduceCtorEq, and_false,
      false_or, Store.Call.removeFinalizer.injEq] at hmem
    obtain ⟨rfl, rfl⟩ := hmem
    exact ⟨_, _, _, read, deleting, held, teardown, rfl⟩
  | failed _ _ _ noted => simp [hnot noted] at hmem
  | unattached _ _ _ _ _ noted => simp [hnot noted] at hmem
  | settled _ _ _ attach reports =>
    have hnotes := hnot reports.notes
    obtain ⟨_, rfl, rfl⟩ | ⟨_, _, rfl⟩ := attach.of_ok <;> simp [hnotes] at hmem

theorem Course.of_addFinalizer (h : Course store members plane now c key s t u calls asked r w')
    (hmem : (w, .addFinalizer b) ∈ calls) :
    ∃ s₁ report t' u', store (.get key) s = (.ok (some b), s₁) ∧ b.isDeleting = false ∧
      b.hasFinalizer = false ∧ Synchronizes members plane c key b t u asked (.ok report) t' u' ∧
      w = (s₁, t', u') := by
  have hnot {b₀ t u s s' notes} (h : Notes store b₀ t u s notes s') :
      (w, Store.Call.addFinalizer b) ∉ notes :=
    fun hx => h.not_changesFinalizers _ hx trivial
  cases h with
  | unread | absent | released => simp at hmem
  | kept _ _ _ _ noted => simp [hnot noted] at hmem
  | undetached _ _ _ _ _ noted => simp [hnot noted] at hmem
  | finalized _ _ _ _ _ noted => simp [hnot noted] at hmem
  | failed _ _ _ noted => simp [hnot noted] at hmem
  | unattached read staying synchronize missing _ noted =>
    simp only [List.mem_cons, hnot noted, or_false, Prod.mk.injEq, reduceCtorEq, and_false,
      false_or, Store.Call.addFinalizer.injEq] at hmem
    obtain ⟨rfl, rfl⟩ := hmem
    exact ⟨_, _, _, _, read, staying, missing, synchronize, rfl⟩
  | settled read staying synchronize attach reports =>
    have hnotes := hnot reports.notes
    obtain ⟨_, rfl, rfl⟩ | ⟨missing, _, rfl⟩ := attach.of_ok
    · simp [hnotes] at hmem
    · simp only [List.mem_cons, List.mem_append, hnotes, List.not_mem_nil, or_false,
        Prod.mk.injEq, reduceCtorEq, and_false, false_or, Store.Call.addFinalizer.injEq] at hmem
      obtain ⟨rfl, rfl⟩ := hmem
      exact ⟨_, _, _, _, read, staying, missing, synchronize, rfl⟩

/-- A pass whose teardown failed returns that failure and only takes notes. -/
theorem Course.of_failed_teardown
    (h : Course store members plane now c key s t u calls asked r w') {e : ClientError}
    (hget : (store (.get key) s).1 = .ok (some b)) (hdeleting : b.isDeleting = true)
    (hheld : b.hasFinalizer = true)
    (hfailed : (((c.teardown b.spec.name).start .fresh).run plane u).1.1 = .error e) :
    r = .error (.client e) ∧
      w'.2.2 = (((c.teardown b.spec.name).start .fresh).run plane u).2 ∧
      ∃ notes, calls = ((s, t, u), .get key) :: notes ∧
        Notes store b t w'.2.2 (store (.get key) s).2 notes w'.1 := by
  cases h with
  | unread read | absent read =>
    rw [read] at hget
    cases hget
  | released read _ free =>
    rw [read] at hget
    cases hget
    rw [hheld] at free
    cases free
  | kept read _ _ teardown noted =>
    rw [read] at hget ⊢
    cases hget
    rw [teardown] at hfailed ⊢
    cases hfailed
    exact ⟨rfl, rfl, _, rfl, noted⟩
  | undetached read _ _ teardown | finalized read _ _ teardown =>
    rw [read] at hget
    cases hget
    rw [teardown] at hfailed
    cases hfailed
  | failed read staying | unattached read staying | settled read staying =>
    rw [read] at hget
    cases hget
    rw [hdeleting] at staying
    cases staying

theorem Course.of_synced (h : Course store members plane now c key s t u calls asked r w')
    {report : SyncReport} (hr : r = .ok (.synced report)) :
    ∃ b, (store (.get key) s).1 = .ok (some b) ∧ b.isDeleting = false ∧
      (b.hasFinalizer = true ∨ ∃ w, (w, .addFinalizer b) ∈ calls ∧
        (store (.addFinalizer b) w.1).1 = .ok ()) := by
  cases h with
  | unread | absent | released | kept | undetached | finalized | failed | unattached => cases hr
  | @settled b s₁ s₂ _ _ _ t' u' _ calls₁ _ read staying _ attach =>
    refine ⟨b, by rw [read], staying, ?_⟩
    obtain ⟨attached, _, _⟩ | ⟨_, hadd, rfl⟩ := attach.of_ok
    · exact .inl attached
    · exact .inr ⟨(s₁, t', u'), by simp, by rw [hadd]⟩

end Course

/-! ## Gated passes -/

variable {store : Environment Store.interface σ} {members : Environment Membership.interface τ}
  {faults : Nat → Option DataPlane.Fault} {now : String} {c : DataPlane.Client} {key : Key}
  {s : σ} {t : τ} {m : DataPlane.Memory} {log : Log} {n : Nat}
  {w' : σ × τ × (Plane × Log) × Nat}
  {calls : List ((σ × τ × (Plane × Log) × Nat) × Store.Call)}
  {asked : List (Exchange DataPlane.interface)} {r : Except PassError PassOutcome}

/-- The Data Plane holds a memory after a pass if it did before. -/
theorem Course.holding
    (h : Course store members (DataPlane.faulted (Plane.answer c) faults) now c key s t
      ((.holding m, log), n) calls asked r w') :
    ∃ m' log' n', w'.2.2 = ((.holding m', log'), n') := by
  refine h.preserves (P := fun u => ∃ m log n, u = ((Plane.holding m, log), n)) ?_ ⟨m, log, n, rfl⟩
  rintro call _ ⟨m, log, n, rfl⟩
  obtain ⟨m', log', hanswer⟩ := Plane.holding_answer c call m log
  cases call with
  | measure x => exact ⟨m', log', n, by rw [DataPlane.faulted, hanswer]⟩
  | request q =>
    rw [DataPlane.faulted, hanswer]
    split <;> exact ⟨_, _, _, rfl⟩

variable (faults) in
/-- What a teardown makes of what is committed, whatever faults hit it. -/
theorem removes_teardown (hc : c.AtRoot) {name : String} (hname : Net.IsPlain name) :
    ∃ m' log' n', (((c.teardown name).start .fresh).run
        (DataPlane.faulted (Plane.answer c) faults) ((.holding m, log), n)).2 =
        ((.holding m', log'), n') ∧
      Removes name m.committed (((c.teardown name).start .fresh).run
        (DataPlane.faulted (Plane.answer c) faults) ((.holding m, log), n)).1.1.isOk
        m'.committed := by
  obtain ⟨m', log', n', hrun, hanswered⟩ :=
    answered_run (c := c) faults ((c.teardown name).start .fresh) n m log
  exact ⟨m', log', n', hrun, DataPlane.Client.removes_of_commits hc hname
    (DataPlane.Client.commits_teardown hc (SessionM.conduct_run _ _ _ _) hanswered)⟩

/-- What is stored for backends of that name is not known to belong to this program. -/
def IsForeign (cfg : DataPlane.Configuration) (name : String) : Prop :=
  ∀ b, cfg.Defines name b → b.isManaged = false

/-- A pass beside a Data Plane that answers from memory, some of its requests faulted, in which the
finalizer does its work. -/
structure Gated (store : Environment Store.interface σ)
    (members : Environment Membership.interface τ) (c : DataPlane.Client)
    (faults : Nat → Option DataPlane.Fault) (key : Key) (p : Seen σ τ ((Plane × Log) × Nat)) :
    Prop where
  /-- The finalizer is detached only from a resource that is being deleted and carries it, after a
  teardown that went well, while no backend of its name is committed. -/
  detached : ∀ w b, (w, .removeFinalizer b) ∈ p.calls →
    (store (.get key) p.before.1).1 = .ok (some b) ∧ b.isDeleting = true ∧
    b.hasFinalizer = true ∧
    (((c.teardown b.spec.name).start .fresh).run (DataPlane.faulted (Plane.answer c) faults)
      p.before.2.2).1.1 = .ok () ∧
    (Net.IsPlain b.spec.name → ∃ m, w.2.2.1.1 = .holding m ∧
      m.committed.backends.get? b.spec.name = none)
  /-- A pass whose teardown fails returns that failure, leaves the finalizers as they are and
  touches no backend of others. -/
  kept : ∀ b e, (store (.get key) p.before.1).1 = .ok (some b) → b.isDeleting = true →
    b.hasFinalizer = true →
    (((c.teardown b.spec.name).start .fresh).run (DataPlane.faulted (Plane.answer c) faults)
      p.before.2.2).1.1 = .error e →
    p.result = .error (.client e) ∧ (∀ x ∈ p.calls, ¬ x.2.ChangesFinalizers) ∧
    (∀ {γ : Type} (f : σ → γ),
      (∀ call s, ¬ call.ChangesFinalizers → f (store call s).2 = f s) →
      f p.after.1 = f p.before.1) ∧
    (Net.IsPlain b.spec.name → ∃ m m', p.before.2.2.1.1 = .holding m ∧
      p.after.2.2.1.1 = .holding m' ∧ ∀ name, IsForeign m.committed name →
        m.committed.SameAt name m'.committed)
  /-- The finalizer is attached only to a resource that is to stay and does not carry it, after it
  was synchronized. -/
  attached : ∀ w b, (w, .addFinalizer b) ∈ p.calls →
    (store (.get key) p.before.1).1 = .ok (some b) ∧ b.isDeleting = false ∧
    b.hasFinalizer = false ∧ ∃ report, Synchronizes members
      (DataPlane.faulted (Plane.answer c) faults) c key b p.before.2.1 p.before.2.2 p.asked
      (.ok report) w.2.1 w.2.2
  /-- It is not both attached and detached. -/
  apart : ∀ w w' b b', (w, .addFinalizer b) ∈ p.calls → (w', .removeFinalizer b') ∉ p.calls
  /-- A resource that is synced carries the finalizer, or has it attached. -/
  synced : ∀ report, p.result = .ok (.synced report) →
    ∃ b, (store (.get key) p.before.1).1 = .ok (some b) ∧ (b.hasFinalizer = true ∨
      ∃ w, (w, .addFinalizer b) ∈ p.calls ∧ (store (.addFinalizer b) w.1).1 = .ok ())

/-- Every pass is gated. -/
theorem gated_of_course (hc : c.AtRoot)
    (h : Course store members (DataPlane.faulted (Plane.answer c) faults) now c key s t
      ((.holding m, log), n) calls asked r w') :
    Gated store members c faults key
      ⟨(s, t, ((.holding m, log), n)), calls, asked, r, w'⟩ where
  detached w b hmem := by
    obtain ⟨s₁, session, u', hget, hdeleting, hheld, hteardown, rfl⟩ := h.of_removeFinalizer hmem
    refine ⟨by rw [hget], hdeleting, hheld, by rw [hteardown], fun hname => ?_⟩
    obtain ⟨m', log', n', hrun, hremoves⟩ := removes_teardown faults hc hname
    rw [hteardown] at hrun hremoves
    exact ⟨m', congrArg (·.1.1) hrun, hremoves.absent rfl⟩
  kept b e hget hdeleting hheld hfailed := by
    obtain ⟨rfl, hplane, notes, rfl, hnotes⟩ :=
      h.of_failed_teardown hget hdeleting hheld hfailed
    refine ⟨rfl, List.forall_mem_cons.2 ⟨id, hnotes.not_changesFinalizers⟩, fun f hf => ?_,
      fun hname => ?_⟩
    · have hnote {call} (hcall : ¬ call.ChangesFinalizers) (s' : σ) (hs' : f s' = f s) :
          f (store call s').2 = f s := (hf call s' hcall).trans hs'
      exact hnotes.preserves (P := fun s' => f s' = f s) (fun _ => hnote id) (fun _ => hnote id)
        (hnote id s rfl)
    · obtain ⟨m', log', n', hrun, hremoves⟩ := removes_teardown faults hc hname
      refine ⟨m, m', rfl, ?_, fun name hforeign => hremoves.spares (.inr hforeign)⟩
      exact congrArg (·.1.1) (hplane.trans hrun)
  attached w b hmem := by
    obtain ⟨s₁, report, t', u', hget, hstaying, hmissing, hsync, rfl⟩ := h.of_addFinalizer hmem
    exact ⟨by rw [hget], hstaying, hmissing, report, hsync⟩
  apart w w' b b' hadd hremove := by
    obtain ⟨_, _, _, _, hget, hstaying, _⟩ := h.of_addFinalizer hadd
    obtain ⟨_, _, _, hget', hdeleting, _⟩ := h.of_removeFinalizer hremove
    cases hget.symm.trans hget'
    rw [hdeleting] at hstaying
    cases hstaying
  synced report hr := by
    obtain ⟨b, hget, _, hattached⟩ := h.of_synced hr
    exact ⟨b, hget, hattached⟩

/-- Whatever the store answers and whatever faults hit the Data Plane, in every run of passes the
finalizer gates the removal of the resource. -/
theorem finalizer_gates (hc : c.AtRoot) (store : Environment Store.interface σ)
    (members : Environment Membership.interface τ) (faults : Nat → Option DataPlane.Fault)
    (key : Key) (nows : List String) (index : ServiceIndex) (s : σ) (t : τ) (m : DataPlane.Memory)
    (log : Log) (n : Nat) :
    ∀ p ∈ watch store members (DataPlane.faulted (Plane.answer c) faults) c key nows index
      (s, t, ((.holding m, log), n)), Gated store members c faults key p := by
  induction nows generalizing index s t m log n with
  | nil => simp [watch]
  | cons now nows ih =>
    have hcourse := course_reconcile store members
      (DataPlane.faulted (Plane.answer c) faults) now c key index s t
      ((.holding m, log), n)
    obtain ⟨m', log', n', hplane⟩ := hcourse.holding
    refine List.forall_mem_cons.2 ⟨gated_of_course hc hcourse, ?_⟩
    generalize ((start (reconcile now c key) index).run _ _).1.2 = index'
    generalize ((start (reconcile now c key) index).run _ _).2 = w' at hplane ⊢
    obtain ⟨s', t', u'⟩ := w'
    obtain rfl := hplane
    exact ih index' s' t' m' log' n'

theorem synced_of_passLabel {r : Except PassError PassOutcome} (h : passLabel r = "synced") :
    ∃ report, r = .ok (.synced report) := by
  rcases r with _ | _ | report | _ <;> simp_all [passLabel, PassOutcome.label]

theorem absent_of_passLabel {r : Except PassError PassOutcome} (h : passLabel r = "absent") :
    r = .ok .absent := by
  rcases r with _ | _ | report | _ <;> simp_all [passLabel, PassOutcome.label]

/-- A backend with one server. -/
def shopSpec : Resource.Spec :=
  { name := "shop", mode := none, balance := none, advCheck := none
    servers := [{ name := some "a", address := some "10.0.0.1", port := none, id := none
                  check := none, valueFrom := none }]
    httpChecks := [] }

/-- A resource as it is first stored. -/
def created (key : Key) (spec : Resource.Spec) : Resource.Backend :=
  { metadata := { name := some key.name, ns := some key.ns }, spec, status := none }

/-- The tables of a cluster with that one resource, which is being deleted and also waits for
someone else, and where no status can be written. -/
def leaving : Simulation.Backends :=
  { resources := .ofList [(⟨"default", "web"⟩,
      { metadata := { name := some "web", ns := some "default", deletionTimestamp := some ⟨0⟩
                      finalizers := some [Resource.Backend.finalizer, "example.org/other"] }
        spec := shopSpec, status := none })]
    failures := .ofList [("patch_status", "conflict")] }

/-- A case of it: the answer to the commit of the first pass is lost, and the second one finds
nothing left to delete. -/
theorem finalizer_gates_lost_commit :
    let c := DataPlane.Client.onThisHost 5555 "admin" "secret"
    let store : Environment Store.interface Simulation.Backends := fun call s => s.serve call
    let members : Environment Membership.interface Unit :=
      fun call t => (Simulation.Members.empty.lookUp call, t)
    let faults := fun i => if i = 4 then some (.lost true "reset") else none
    let m := DataPlane.Memory.ofConfiguration 1
      (DataPlane.Client.serving DataPlane.Client.shop.wireBackend [])
    let passes := watch store members (DataPlane.faulted (Plane.answer c) faults) c
      ⟨"default", "web"⟩ ["2024-05-01T00:00:00Z", "2024-05-01T00:05:00Z"] .empty
      (leaving, (), ((.holding m, []), 0))
    c.AtRoot ∧ passes.map (passLabel ·.result) = ["error", "finalized"] ∧
    ∀ p ∈ passes, Gated store members c faults ⟨"default", "web"⟩ p := by
  intro c store members faults m passes
  have hroot : c.AtRoot := DataPlane.Client.atRoot_onThisHost 5555 "admin" "secret"
  exact ⟨hroot, by decide +kernel, finalizer_gates hroot store members faults _ _ _ _ _ m [] 0⟩

end Pass
end ProxySync
