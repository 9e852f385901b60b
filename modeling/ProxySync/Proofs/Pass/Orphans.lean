import ProxySync.Proofs.Pass.Commits
import ProxySync.Proofs.Pass.Gating
/-!
# Backends that outlive their resource

A resource may be edited, passed over and deleted in any order, and every call of the store may
fail. A backend that a pass created is gone once the resource is, unless the deletion of the
resource was requested before the finalizer was attached, or the finalizer was given up while the
resource named another backend.

## Main definitions

* `Pass.Scene`: the resources and the memory of a Data Plane.
* `Pass.Moves`, `Pass.Plays`: what may happen to a scene, once and any number of times.
* `Pass.Detaches`: a pass that got as far as detaching the finalizer.
* `Pass.Forsakes`: an event after which no pass may be left that removes a backend.
* `Pass.Guarded`: while a backend is committed the resource is there and stays until a teardown.

## Main statements

* `Pass.Guarded.moves`: only such an event ends the guard.
* `Pass.no_orphan`: without such an event no backend outlives the resource.
* `Pass.orphans_remain`: with one it may.
-/
namespace ProxySync

/-- A store of which some calls fail, whether or not they took effect. -/
def Store.flaky (failures : Nat → Option (Bool × String)) :
    Environment Store.interface (Simulation.Backends × Nat) :=
  fun call w =>
    match failures w.2 with
    | none => ((w.1.perform call).1, (w.1.perform call).2, w.2 + 1)
    | some (processed, cause) =>
      (Simulation.Backends.refused cause call, if processed then (w.1.perform call).2 else w.1,
        w.2 + 1)

namespace Pass
open DataPlane
open Simulation (Log Plane Backends)

/-- The resources, and the memory of the Data Plane. -/
structure Scene where
  store : Backends
  memory : Memory

/-- What may happen to a resource. -/
inductive Event where
  /-- Its specification is edited. -/
  | edit (spec : Resource.Spec) (generation : Option Int64)
  /-- Its deletion is requested. -/
  | deletion (time : Timestamp)
  /-- It is passed over. -/
  | pass (result : Except PassError PassOutcome)
  /-- It is removed. -/
  | removal

/-- The resource with another specification. -/
def edited (b : Resource.Backend) (spec : Resource.Spec) (generation : Option Int64) :
    Resource.Backend :=
  { b with spec, metadata := { b.metadata with generation } }

/-- The resource once its deletion was requested. -/
def doomed (b : Resource.Backend) (time : Timestamp) : Resource.Backend :=
  { b with metadata := { b.metadata with deletionTimestamp := some time } }

/-- The scene with another resource under the key. -/
def Scene.put (w : Scene) (key : Key) (b : Resource.Backend) : Scene :=
  { w with store := { w.store with resources := w.store.resources.insert key b } }

/-- The scene without the resource under the key. -/
def Scene.erase (w : Scene) (key : Key) : Scene :=
  { w with store := { w.store with resources := w.store.resources.erase key } }

/-- What may happen to a scene. A pass finds any look-ups and a Data Plane without faults; any call
of the store may fail in it. A resource that is being deleted is removed once it has no finalizers
left. -/
inductive Moves (c : Client) (key : Key) : Scene → Event → Scene → Prop
  | edit {w : Scene} {b : Resource.Backend} (spec : Resource.Spec) (generation : Option Int64)
      (stored : w.store.resources.get? key = some b) :
      Moves c key w (.edit spec generation) (w.put key (edited b spec generation))
  | deletion {w : Scene} {b : Resource.Backend} (time : Timestamp)
      (stored : w.store.resources.get? key = some b) :
      Moves c key w (.deletion time) (w.put key (doomed b time))
  | pass {τ : Type} {failures : Nat → Option (Bool × String)}
      {members : Environment Membership.interface τ} {now : String} {index index' : ServiceIndex}
      {s s' : Backends} {m m' : Memory} {n n' : Nat} {t t' : τ} {log log' : Log}
      {r : Except PassError PassOutcome}
      (run : (start (reconcile now c key) index).run
        (beside (Store.flaky failures) members (Plane.answer c))
        ((s, n), t, .holding m, log) = ((r, index'), (s', n'), t', .holding m', log')) :
      Moves c key ⟨s, m⟩ (.pass r) ⟨s', m'⟩
  | removal {w : Scene} {b : Resource.Backend} (stored : w.store.resources.get? key = some b)
      (deleting : b.isDeleting = true) (free : b.metadata.finalizerList = []) :
      Moves c key w .removal (w.erase key)

/-- What happens to a scene, each event with the scene that it befalls. -/
inductive Plays (c : Client) (key : Key) : Scene → List (Scene × Event) → Scene → Prop
  | nil (w : Scene) : Plays c key w [] w
  | cons {w w₁ w' : Scene} {e : Event} {events : List (Scene × Event)} (move : Moves c key w e w₁)
      (rest : Plays c key w₁ events w') : Plays c key w ((w, e) :: events) w'

/-- The result tells that the pass got as far as detaching the finalizer. -/
def Detaches (r : Except PassError PassOutcome) : Prop :=
  r = .ok .finalized ∨ ∃ cause, r = .error (.removeFinalizer cause)

/-- An event after which no pass may be left that removes the backend of that name, which is
committed: the deletion of the resource is requested before the finalizer is attached, or a pass
detaches the finalizer while the resource names another backend. -/
def Forsakes (key : Key) (name : String) : Scene × Event → Prop
  | (_, .edit _ _) => False
  | (w, .deletion _) => w.memory.committed.backends.get? name ≠ none ∧
      ∃ b, w.store.resources.get? key = some b ∧ b.hasFinalizer = false
  | (w, .pass r) => w.memory.committed.backends.get? name ≠ none ∧ Detaches r ∧
      ∃ b, w.store.resources.get? key = some b ∧ b.spec.name ≠ name
  | (_, .removal) => False

/-- What is stored under the key is called so. -/
def Own (key : Key) (s : Backends) : Prop :=
  ∀ b, s.resources.get? key = some b → b.metadata.key = key

/-- What is stored under the key is called so, and while the backend is committed it either stays or
carries the finalizer. -/
structure Guarded (key : Key) (name : String) (w : Scene) : Prop where
  own : Own key w.store
  stored : w.memory.committed.backends.get? name ≠ none → Net.IsPlain name ∧
    ∃ b, w.store.resources.get? key = some b ∧ (b.isDeleting = false ∨ b.hasFinalizer = true)

/-! ## What calls of the store leave -/

/-- What is stored under the key is being deleted just if the resource is, and carries the finalizer
if it does. -/
def Holds (key : Key) (b : Resource.Backend) (s : Backends) : Prop :=
  ∃ b', s.resources.get? key = some b' ∧ b'.metadata.key = key ∧ b'.isDeleting = b.isDeleting ∧
    (b.hasFinalizer = true → b'.hasFinalizer = true)

section
variable {failures : Nat → Option (Bool × String)} {key : Key} {b : Resource.Backend}
  {w : Backends × Nat} {s : Backends}

/-- What a call does not end when it takes effect it does not end at all. -/
theorem flaky_preserves {P : Backends → Prop} {call : Store.Call}
    (h : ∀ s, P s → P (s.perform call).2) (hw : P w.1) : P (Store.flaky failures call w).2.1 := by
  unfold Store.flaky
  split
  · exact h _ hw
  · rename_i processed _ _
    cases processed with
    | true => exact h _ hw
    | false => exact hw

/-- What is read is what is stored. -/
theorem flaky_get {found : Except String (Option Resource.Backend)} {w' : Backends × Nat}
    (h : Store.flaky failures (.get key) w = (found, w')) :
    w'.1 = w.1 ∧ ∀ b, found = .ok b → w.1.resources.get? key = b := by
  refine ⟨?_, fun b hb => ?_⟩
  · have hkept : (Store.flaky failures (.get key) w).2.1 = w.1 :=
      flaky_preserves (P := fun s => s = w.1) (fun _ => id) rfl
    rwa [h] at hkept
  · subst hb
    unfold Store.flaky at h
    split at h
    · exact Except.ok.inj (congrArg Prod.fst h)
    · cases congrArg Prod.fst h

/-- A change of one resource leaves what holds of it under its key. -/
theorem Holds.change {f : Resource.Backend → Option Resource.Backend} (h : Holds key b s)
    (hf : ∀ b', ∃ b'', f b' = some b'' ∧ b''.metadata.key = b'.metadata.key ∧
      b''.isDeleting = b'.isDeleting ∧ (b'.hasFinalizer = true → b''.hasFinalizer = true)) :
    Holds key b (s.change key f) := by
  obtain ⟨b', hget, hkey, hdeleting, hheld⟩ := h
  obtain ⟨b'', hfb, hkey', hdeleting', hheld'⟩ := hf b'
  refine ⟨b'', ?_, hkey'.trans hkey, hdeleting'.trans hdeleting, hheld' ∘ hheld⟩
  simp [Backends.change, hget, hfb]

theorem holds_event (remark : Remark) (h : Holds key b w.1) :
    Holds key b (Store.flaky failures (.publish b remark) w).2.1 :=
  flaky_preserves (fun _ => id) h

theorem holds_status (hkey : b.metadata.key = key) (status : Resource.Status)
    (h : Holds key b w.1) :
    Holds key b (Store.flaky failures (.patchStatus b status) w).2.1 := by
  refine flaky_preserves (fun s h => ?_) h
  rw [Backends.perform, hkey]
  exact h.change fun b' => ⟨_, rfl, rfl, rfl, id⟩

/-- The resource that is read is held. -/
theorem holds_of_get {w' : Backends × Nat}
    (h : Store.flaky failures (.get key) w = (.ok (some b), w')) (hown : Own key w.1) :
    w.1.resources.get? key = some b ∧ b.metadata.key = key ∧ Holds key b w'.1 := by
  obtain ⟨hstore, hfound⟩ := flaky_get h
  have hstored := hfound _ rfl
  have hkey := hown b hstored
  exact ⟨hstored, hkey, b, by rw [hstore]; exact hstored, hkey, rfl, id⟩

variable (failures) in
theorem holds_addFinalizer (hkey : b.metadata.key = key) (h : Holds key b w.1) :
    Holds key b (Store.flaky failures (.addFinalizer b) w).2.1 := by
  refine flaky_preserves (fun s h => ?_) h
  rw [Backends.perform, hkey]
  refine h.change fun b' => ⟨_, rfl, rfl, rfl, fun _ => ?_⟩
  simp [Backends.withFinalizers, Resource.Backend.hasFinalizer, Kube.Meta.finalizerList]

theorem Own.change {f : Resource.Backend → Option Resource.Backend} (h : Own key s)
    (hf : ∀ b₁ b₂, f b₁ = some b₂ → b₂.metadata.key = b₁.metadata.key) :
    Own key (s.change key f) := by
  intro b₂ hb₂
  rw [Backends.change] at hb₂
  split at hb₂
  · exact h b₂ hb₂
  · rename_i b₁ hb₁
    split at hb₂
    · rename_i b₃ hb₃
      obtain rfl : b₃ = b₂ := by simpa using hb₂
      exact (hf b₁ b₃ hb₃).trans (h b₁ hb₁)
    · simp at hb₂

variable (failures) in
theorem own_removeFinalizer (hkey : b.metadata.key = key) (h : Own key w.1) :
    Own key (Store.flaky failures (.removeFinalizer b) w).2.1 := by
  refine flaky_preserves (fun s h => ?_) h
  rw [Backends.perform, hkey]
  refine h.change fun b₁ b₂ h => ?_
  rw [Backends.released] at h
  split at h
  · cases h
  · cases h
    rfl

variable {τ υ : Type} {t : τ} {u : υ} {w' : Backends × Nat}
  {calls : List (((Backends × Nat) × τ × υ) × Store.Call)}

theorem Notes.own (h : Notes (Store.flaky failures) b t u w calls w')
    (hkey : b.metadata.key = key) (hw : Own key w.1) : Own key w'.1 := by
  refine h.preserves (P := fun w => Own key w.1) (fun _ _ => flaky_preserves fun _ => id)
    (fun status _ => flaky_preserves fun s h => ?_) hw
  rw [Backends.perform, hkey]
  refine h.change fun b₁ b₂ h => ?_
  cases h
  rfl

theorem Notes.holds (h : Notes (Store.flaky failures) b t u w calls w')
    (hkey : b.metadata.key = key) (hw : Holds key b w.1) : Holds key b w'.1 :=
  h.preserves (P := fun w => Holds key b w.1) (fun remark _ => holds_event remark)
    (fun status _ => holds_status hkey status) hw

theorem Attaches.holds (h : Attaches (Store.flaky failures) b t u w calls (.ok ()) w')
    (hkey : b.metadata.key = key) (hw : Holds key b w.1) : Holds key b w'.1 := by
  obtain ⟨_, _, rfl⟩ | ⟨_, hadd, _⟩ := h.of_ok
  · exact hw
  · have hattached := holds_addFinalizer failures hkey hw
    rwa [hadd] at hattached

end

/-! ## What events leave of the guard -/

section
variable {c : Client} {key : Key} {name : String} {w w' : Scene} {e : Event}

theorem Scene.get?_put {b : Resource.Backend} :
    (w.put key b).store.resources.get? key = some b := by
  simp [Scene.put]

/-- Where the resource is held the guard is kept, if what is committed was before or the resource
stays. -/
theorem Guarded.of_holds {b : Resource.Backend} (h : Guarded key name w)
    (hread : w.store.resources.get? key = some b) (hheld : Holds key b w'.store)
    (hnew : w'.memory.committed.backends.get? name ≠ none →
      w.memory.committed.backends.get? name ≠ none ∨ b.isDeleting = false ∧ Net.IsPlain name) :
    Guarded key name w' := by
  obtain ⟨b', hstored, hkey, hdeleting, hfinalizer⟩ := hheld
  refine ⟨fun b₁ h₁ => ?_, fun hthere => ?_⟩
  · obtain rfl : b' = b₁ := Option.some.inj (hstored.symm.trans h₁)
    exact hkey
  · obtain hbefore | ⟨hstaying, hplain⟩ := hnew hthere
    · obtain ⟨hplain, b₀, h₀, hguard⟩ := h.stored hbefore
      obtain rfl : b = b₀ := Option.some.inj (hread.symm.trans h₀)
      exact ⟨hplain, b', hstored, hguard.imp hdeleting.trans hfinalizer⟩
    · exact ⟨hplain, b', hstored, .inl (hdeleting.trans hstaying)⟩

section
variable {τ : Type} {members : Environment Membership.interface τ} {b : Resource.Backend}
  {s s' : Backends} {m m' : Memory} {t t' : τ} {log log' : Log} {session : Session}

/-- A synchronization keeps the guard where the resource is held: it is made for one that stays. -/
theorem Guarded.synchronized (hc : c.AtRoot) (h : Guarded key name ⟨s, m⟩)
    (hread : s.resources.get? key = some b) (hstaying : b.isDeleting = false)
    {asked : List (Exchange DataPlane.interface)} {r : Except PassError SyncReport}
    (hsync : Synchronizes members (Plane.answer c) c key b t (.holding m, log) asked r t'
      (.holding m', log')) (hheld : Holds key b s') : Guarded key name ⟨s', m'⟩ := by
  refine h.of_holds hread hheld fun hthere => ?_
  by_cases habsent : m.committed.backends.get? name = none
  · exact .inr ⟨hstaying, (hsync.creates hc habsent hthere).2⟩
  · exact .inl habsent

/-- A teardown keeps the guard where the resource is held: it commits nothing anew. -/
theorem Guarded.tornDown (hc : c.AtRoot) (h : Guarded key name ⟨s, m⟩)
    (hread : s.resources.get? key = some b) {n : String} {r : Except ClientError Unit}
    (hrun : ((c.teardown n).start .fresh).run (Plane.answer c) (.holding m, log) =
      ((r, session), (.holding m', log'))) (hheld : Holds key b s') :
    Guarded key name ⟨s', m'⟩ := by
  obtain ⟨_, _, hplane, hcommits⟩ := commits_of_teardown_run hc hrun
  cases hplane
  exact h.of_holds hread hheld fun hthere =>
    .inl fun habsent => hthere (Client.absent_of_teardown hc hcommits habsent)

/-- After a teardown that went well nothing needs a guard, if the backend is the one that the
resource names. -/
theorem Guarded.removed (hc : c.AtRoot) (h : Guarded key name ⟨s, m⟩)
    (hname : m.committed.backends.get? name ≠ none → b.spec.name = name)
    (hrun : ((c.teardown b.spec.name).start .fresh).run (Plane.answer c) (.holding m, log) =
      ((.ok (), session), (.holding m', log'))) (hown : Own key s') :
    Guarded key name ⟨s', m'⟩ := by
  obtain ⟨_, _, hplane, hcommits⟩ := commits_of_teardown_run hc hrun
  cases hplane
  refine ⟨hown, fun hthere => ?_⟩
  have hbefore : m.committed.backends.get? name ≠ none :=
    fun habsent => hthere (Client.absent_of_teardown hc hcommits habsent)
  rw [hname hbefore] at hcommits
  have hremoves := Client.removes_of_commits hc (h.stored hbefore).1 hcommits
  exact absurd (hremoves.absent rfl) hthere

/-- A pass keeps the guard, unless it detaches the finalizer while the resource names another
backend. -/
theorem Guarded.course {failures : Nat → Option (Bool × String)} {now : String} {n n' : Nat}
    {calls : List (((Backends × Nat) × τ × Plane × Log) × Store.Call)}
    {asked : List (Exchange DataPlane.interface)} {r : Except PassError PassOutcome}
    (hc : c.AtRoot) (h : Guarded key name ⟨s, m⟩)
    (hcourse : Course (Store.flaky failures) members (Plane.answer c) now c key (s, n) t
      (.holding m, log) calls asked r ((s', n'), t', .holding m', log'))
    (hno : ¬ Forsakes key name (⟨s, m⟩, .pass r)) : Guarded key name ⟨s', m'⟩ := by
  have hsame {s₁ : Backends × Nat} {found} (hget : Store.flaky failures (.get key) (s, n) =
      (found, s₁)) (hw : ((s', n'), t', (Plane.holding m', log')) = (s₁, t, .holding m, log)) :
      Guarded key name ⟨s', m'⟩ := by
    obtain ⟨hstore, _⟩ := flaky_get hget
    obtain ⟨rfl, rfl⟩ : s' = s ∧ m' = m := by
      simp only [Prod.mk.injEq, Plane.holding, Plane.mk.injEq, Option.some.injEq, true_and] at hw
      exact ⟨(congrArg Prod.fst hw.1).trans hstore, hw.2.2.1⟩
    exact h
  have hdetached {b found s₁ s₂} (hread : Store.flaky failures (.get key) (s, n) =
      (.ok (some b), s₁)) (hdetach : Store.flaky failures (.removeFinalizer b) s₁ = (found, s₂)) :
      Own key s₂.1 := by
    have hown : Own key s₁.1 := by rw [(flaky_get hread).1]; exact h.own
    have hafter := own_removeFinalizer failures (holds_of_get hread h.own).2.1 hown
    rwa [hdetach] at hafter
  have hnamed {b} (hstored : s.resources.get? key = some b) (hr : Detaches r)
      (hthere : m.committed.backends.get? name ≠ none) : b.spec.name = name := by
    by_contra hne
    exact hno ⟨hthere, hr, b, hstored, hne⟩
  generalize hw : ((s', n'), t', (Plane.holding m', log')) = w' at hcourse
  cases hcourse with
  | unread read | absent read | released read => exact hsame read hw
  | kept read _ _ teardown noted =>
    obtain ⟨hstored, hkey, hheld⟩ := holds_of_get read h.own
    cases hw
    exact h.tornDown hc hstored teardown (noted.holds hkey hheld)
  | undetached read _ _ teardown detach noted =>
    obtain ⟨hstored, hkey, _⟩ := holds_of_get read h.own
    cases hw
    exact h.removed hc (hnamed hstored (.inr ⟨_, rfl⟩)) teardown
      (noted.own hkey (hdetached read detach))
  | finalized read _ _ teardown detach noted =>
    obtain ⟨hstored, hkey, _⟩ := holds_of_get read h.own
    cases hw
    exact h.removed hc (hnamed hstored (.inl rfl)) teardown
      (noted.own hkey (hdetached read detach))
  | failed read staying synchronize noted =>
    obtain ⟨hstored, hkey, hheld⟩ := holds_of_get read h.own
    cases hw
    exact h.synchronized hc hstored staying synchronize (noted.holds hkey hheld)
  | unattached read staying synchronize _ attach noted =>
    obtain ⟨hstored, hkey, hheld⟩ := holds_of_get read h.own
    cases hw
    have hattached := holds_addFinalizer failures hkey hheld
    rw [attach] at hattached
    exact h.synchronized hc hstored staying synchronize (noted.holds hkey hattached)
  | settled read staying synchronize attach reports =>
    obtain ⟨hstored, hkey, hheld⟩ := holds_of_get read h.own
    cases hw
    exact h.synchronized hc hstored staying synchronize
      (reports.notes.holds hkey (attach.holds hkey hheld))

end

/-- Only an event that forsakes the backend ends the guard. -/
theorem Guarded.moves (hc : c.AtRoot) (h : Guarded key name w) (hmove : Moves c key w e w')
    (hno : ¬ Forsakes key name (w, e)) : Guarded key name w' := by
  cases hmove with
  | @edit _ b spec generation stored =>
    refine ⟨fun b₁ h₁ => ?_, fun hthere => ?_⟩
    · obtain rfl := Option.some.inj (Scene.get?_put.symm.trans h₁)
      exact h.own b stored
    · obtain ⟨hplain, b₀, h₀, hguard⟩ := h.stored hthere
      obtain rfl := Option.some.inj (stored.symm.trans h₀)
      exact ⟨hplain, _, Scene.get?_put, hguard⟩
  | @deletion _ b time stored =>
    refine ⟨fun b₁ h₁ => ?_, fun hthere => ⟨(h.stored hthere).1, _, Scene.get?_put, .inr ?_⟩⟩
    · obtain rfl := Option.some.inj (Scene.get?_put.symm.trans h₁)
      exact h.own b stored
    · show b.hasFinalizer = true
      by_contra hfree
      exact hno ⟨hthere, b, stored, by simpa using hfree⟩
  | pass run =>
    obtain ⟨_, _, hcourse⟩ := course_of_run run
    exact h.course hc hcourse hno
  | @removal _ b stored deleting free =>
    refine ⟨fun b₁ h₁ => ?_, fun hthere => ?_⟩
    · simp [Scene.erase] at h₁
    · obtain ⟨_, b₀, h₀, hguard⟩ := h.stored hthere
      obtain rfl := Option.some.inj (stored.symm.trans h₀)
      simp [deleting, Resource.Backend.hasFinalizer, free] at hguard

theorem Guarded.plays (hc : c.AtRoot) {events : List (Scene × Event)} (h : Guarded key name w)
    (hplays : Plays c key w events w') (hno : ∀ x ∈ events, ¬ Forsakes key name x) :
    Guarded key name w' := by
  induction hplays with
  | nil => exact h
  | cons move _ ih =>
    obtain ⟨hfirst, hrest⟩ := List.forall_mem_cons.1 hno
    exact ih (h.moves hc move hfirst) hrest

/-- A pass that finds no resource leaves everything as it is. -/
theorem absent_of_moves (hmove : Moves c key w (.pass (.ok .absent)) w') :
    w.store.resources.get? key = none ∧ w'.memory = w.memory := by
  cases hmove with
  | @pass _ failures members now index index' s s' m m' n n' t t' log log' _ run =>
    obtain ⟨_, _, hcourse⟩ := course_of_run run
    generalize hw : ((s', n'), t', (Plane.holding m', log')) = w' at hcourse
    generalize hr : (Except.ok PassOutcome.absent : Except PassError PassOutcome) = r at hcourse
    cases hcourse with
    | unread | released | kept | undetached | finalized | failed | unattached => cases hr
    | @settled _ _ _ _ _ r => cases r <;> cases hr
    | absent read =>
      simp only [Prod.mk.injEq, Plane.holding, Plane.mk.injEq, Option.some.injEq, true_and] at hw
      exact ⟨(flaky_get read).2 _ rfl, hw.2.2.1⟩

end

/-! ## Resources that are gone -/

/-- Once the resource is gone and a pass has found so, no backend is committed that was created
while it was there, unless an event forsook it. -/
theorem no_orphan {c : Client} (hc : c.AtRoot) {key : Key} {w w₁ w₂ : Scene}
    {events : List (Scene × Event)} (hown : Own key w.store) (hplays : Plays c key w events w₁)
    (hlast : Moves c key w₁ (.pass (.ok .absent)) w₂) {name : String}
    (hstart : w.memory.committed.backends.get? name = none)
    (hno : ∀ x ∈ events, ¬ Forsakes key name x) :
    w₂.memory.committed.backends.get? name = none := by
  have hguarded : Guarded key name w := ⟨hown, fun hthere => absurd hstart hthere⟩
  obtain ⟨hgone, hmemory⟩ := absent_of_moves hlast
  rw [hmemory]
  by_contra hthere
  obtain ⟨_, b, hstored, _⟩ := (hguarded.plays hc hplays hno).stored hthere
  rw [hgone] at hstored
  cases hstored

/-! ## Scenes played out -/

/-- The scene with a change of the resource under the key. -/
def Scene.map (w : Scene) (key : Key) (f : Resource.Backend → Resource.Backend) : Scene :=
  match w.store.resources.get? key with
  | some b => w.put key (f b)
  | none => w

/-- A pass in the scene: its result, and the scene that it leaves. -/
@[irreducible] def Scene.passed (w : Scene) (c : Client) (key : Key)
    (failures : Nat → Option (Bool × String)) : Except PassError PassOutcome × Scene :=
  let members : Environment Membership.interface Unit :=
    fun call t => (Simulation.Members.empty.lookUp call, t)
  let run := (start (reconcile "2024-05-01T00:00:00Z" c key) .empty).run
    (beside (Store.flaky failures) members (Plane.answer c))
    ((w.store, 0), (), .holding w.memory, [])
  (run.1.1, ⟨run.2.1.1, run.2.2.2.1.memory.getD w.memory⟩)

section
variable (c : Client) (key : Key) (w : Scene)

theorem moves_passed (failures : Nat → Option (Bool × String)) :
    Moves c key w (.pass (w.passed c key failures).1) (w.passed c key failures).2 := by
  obtain ⟨log', hafter⟩ := run_holds (Store.flaky failures)
    (fun call (t : Unit) => (Simulation.Members.empty.lookUp call, t)) "2024-05-01T00:00:00Z" c key
    .empty (w.store, 0) () w.memory []
  rw [Scene.passed]
  exact .pass (Prod.ext rfl (Prod.ext rfl (Prod.ext rfl hafter)))

variable {c key w}

theorem Scene.map_eq {f : Resource.Backend → Resource.Backend} {b : Resource.Backend}
    (h : w.store.resources.get? key = some b) : w.map key f = w.put key (f b) := by
  rw [Scene.map, h]

theorem moves_edit (spec : Resource.Spec) (generation : Option Int64)
    (h : (w.store.resources.get? key).isSome = true) :
    Moves c key w (.edit spec generation) (w.map key (edited · spec generation)) := by
  obtain ⟨b, hb⟩ := Option.isSome_iff_exists.1 h
  rw [Scene.map_eq hb]
  exact .edit spec generation hb

theorem moves_deletion (time : Timestamp) (h : (w.store.resources.get? key).isSome = true) :
    Moves c key w (.deletion time) (w.map key (doomed · time)) := by
  obtain ⟨b, hb⟩ := Option.isSome_iff_exists.1 h
  rw [Scene.map_eq hb]
  exact .deletion time hb

theorem moves_removal {time : Timestamp}
    (h : (w.store.resources.get? key).map (·.metadata.finalizerList) = some []) :
    Moves c key (w.map key (doomed · time)) .removal ((w.map key (doomed · time)).erase key) := by
  obtain ⟨b, hb, hfree⟩ := Option.map_eq_some_iff.1 h
  rw [Scene.map_eq hb]
  exact .removal Scene.get?_put rfl hfree

end

/-- A cluster with one resource, whose backend is not there yet. -/
def opening : Scene where
  store :=
    { resources := Table.empty.insert ⟨"default", "web"⟩ (created ⟨"default", "web"⟩ shopSpec)
      failures := .empty }
  memory := .ofConfiguration 1 .empty

theorem own_opening : Own ⟨"default", "web"⟩ opening.store := by
  intro b hb
  obtain rfl : created ⟨"default", "web"⟩ shopSpec = b := by simpa [opening] using hb
  rfl

theorem not_forsakes_deletion {key : Key} {w : Scene} {time : Timestamp} {name : String}
    (h : (w.store.resources.get? key).map (·.hasFinalizer) = some true) :
    ¬ Forsakes key name (w, .deletion time) := by
  rintro ⟨_, b, hstored, hfree⟩
  rw [hstored, Option.map_some, hfree] at h
  cases h

theorem not_forsakes_pass {key : Key} {w : Scene} {r : Except PassError PassOutcome}
    {name : String} (h : (w.store.resources.get? key).map (·.spec.name) = some name) :
    ¬ Forsakes key name (w, .pass r) := by
  rintro ⟨_, _, b, hstored, hne⟩
  rw [hstored] at h
  exact hne (Option.some.inj h)

/-- A case of the theorem: the finalizer is attached by the second pass only, and the answer to its
removal is lost. -/
theorem no_orphan_lost_answers :
    let c := Client.onThisHost 5555 "admin" "secret"
    let key : Key := ⟨"default", "web"⟩
    let tried := opening.passed c key fun n => if n = 1 then some (false, "conflict") else none
    let synced := tried.2.passed c key fun _ => none
    let leaving := synced.2.map key (doomed · ⟨0⟩)
    let left := leaving.passed c key fun n => if n = 1 then some (true, "timeout") else none
    let last := left.2.passed c key fun _ => none
    c.AtRoot ∧ Own key opening.store ∧ opening.memory.committed.backends.get? "shop" = none ∧
    [tried, synced, left, last].map (passLabel ·.1) = ["error", "synced", "error", "absent"] ∧
    (synced.2.memory.committed.backends.get? "shop").isSome = true ∧
    (∃ events, Plays c key opening events left.2 ∧ ∀ x ∈ events, ¬ Forsakes key "shop" x) ∧
    Moves c key left.2 (.pass (.ok .absent)) last.2 ∧
    last.2.memory.committed.backends.get? "shop" = none := by
  intro c key tried synced leaving left last
  have heval : ([tried, synced, left, last].map (passLabel ·.1),
      (synced.2.memory.committed.backends.get? "shop").isSome,
      (synced.2.store.resources.get? key).isSome,
      (synced.2.store.resources.get? key).map (·.hasFinalizer),
      (tried.2.store.resources.get? key).map (·.spec.name),
      (leaving.store.resources.get? key).map (·.spec.name)) =
      (["error", "synced", "error", "absent"], true, true, some true, some "shop",
        some "shop") := by
    decide +kernel
  simp only [Prod.mk.injEq] at heval
  obtain ⟨hlabels, hthere, hstored, hheld, hnamed, hnamed'⟩ := heval
  have hroot : c.AtRoot := Client.atRoot_onThisHost _ _ _
  have htried : Moves c key opening (.pass tried.1) tried.2 := moves_passed ..
  have hsynced : Moves c key tried.2 (.pass synced.1) synced.2 := moves_passed ..
  have hleaving : Moves c key synced.2 (.deletion ⟨0⟩) leaving := moves_deletion ⟨0⟩ hstored
  have hleft : Moves c key leaving (.pass left.1) left.2 := moves_passed ..
  have hplays : Plays c key opening [(opening, .pass tried.1), (tried.2, .pass synced.1),
      (synced.2, .deletion ⟨0⟩), (leaving, .pass left.1)] left.2 :=
    .cons htried (.cons hsynced (.cons hleaving (.cons hleft (.nil _))))
  have hno : ∀ x ∈ [(opening, Event.pass tried.1), (tried.2, .pass synced.1),
      (synced.2, .deletion ⟨0⟩), (leaving, .pass left.1)], ¬ Forsakes key "shop" x := by
    simp only [List.forall_mem_cons, List.not_mem_nil, false_implies, implies_true, and_true]
    exact ⟨not_forsakes_pass rfl, not_forsakes_pass hnamed, not_forsakes_deletion hheld,
      not_forsakes_pass hnamed'⟩
  have hlast : Moves c key left.2 (.pass last.1) last.2 := moves_passed ..
  have habsent : passLabel last.1 = "absent" :=
    (List.cons.inj (List.cons.inj (List.cons.inj (List.cons.inj hlabels).2).2).2).1
  rw [absent_of_passLabel habsent] at hlast
  exact ⟨hroot, own_opening, rfl, hlabels, hthere, ⟨_, hplays, hno⟩, hlast,
    no_orphan hroot own_opening hplays hlast rfl hno⟩

/-- A backend outlives its resource where the finalizer could not be attached before the deletion
was requested, and where the finalizer was given up under another name. -/
theorem orphans_remain :
    let c := Client.onThisHost 5555 "admin" "secret"
    let key : Key := ⟨"default", "web"⟩
    -- The finalizer cannot be attached.
    let unattached := opening.passed c key fun n => if n = 1 then some (false, "conflict") else none
    let gone := (unattached.2.map key (doomed · ⟨0⟩)).erase key
    let first := gone.passed c key fun _ => none
    -- The resource is renamed before it is deleted.
    let synced := opening.passed c key fun _ => none
    let renamed := synced.2.map key (edited · { shopSpec with name := "cart" } (some 2))
    let finalized := (renamed.map key (doomed · ⟨0⟩)).passed c key fun _ => none
    let second := finalized.2.passed c key fun _ => none
    c.AtRoot ∧ Own key opening.store ∧ opening.memory.committed = .empty ∧
    ((∃ events, Plays c key opening events gone) ∧
      Moves c key gone (.pass (.ok .absent)) first.2 ∧
      (first.2.memory.committed.backends.get? "shop").isSome = true) ∧
    (∃ events, Plays c key opening events finalized.2) ∧
      Moves c key finalized.2 (.pass (.ok .absent)) second.2 ∧
      (second.2.memory.committed.backends.get? "shop").isSome = true := by
  intro c key unattached gone first synced renamed finalized second
  have hfirst : ((unattached.2.store.resources.get? key).isSome,
      (unattached.2.store.resources.get? key).map (·.metadata.finalizerList), passLabel first.1,
      (first.2.memory.committed.backends.get? "shop").isSome) =
      (true, some [], "absent", true) := by decide +kernel
  have hsecond : ((synced.2.store.resources.get? key).isSome,
      (renamed.store.resources.get? key).isSome, passLabel second.1,
      (second.2.memory.committed.backends.get? "shop").isSome) =
      (true, true, "absent", true) := by decide +kernel
  simp only [Prod.mk.injEq] at hfirst hsecond
  obtain ⟨hstored, hfree, habsent, hthere⟩ := hfirst
  obtain ⟨hstored₁, hstored₂, habsent₂, hthere₂⟩ := hsecond
  have hlast : Moves c key gone (.pass first.1) first.2 := moves_passed ..
  have hlast₂ : Moves c key finalized.2 (.pass second.1) second.2 := moves_passed ..
  rw [absent_of_passLabel habsent] at hlast
  rw [absent_of_passLabel habsent₂] at hlast₂
  have hunattached : Moves c key opening (.pass unattached.1) unattached.2 := moves_passed ..
  have hdoomed : Moves c key unattached.2 (.deletion ⟨0⟩) (unattached.2.map key (doomed · ⟨0⟩)) :=
    moves_deletion ⟨0⟩ hstored
  have hgone : Moves c key (unattached.2.map key (doomed · ⟨0⟩)) .removal gone :=
    moves_removal hfree
  have hsynced : Moves c key opening (.pass synced.1) synced.2 := moves_passed ..
  have hrenamed : Moves c key synced.2 (.edit { shopSpec with name := "cart" } (some 2)) renamed :=
    moves_edit _ (some 2) hstored₁
  have hdoomed₂ : Moves c key renamed (.deletion ⟨0⟩) (renamed.map key (doomed · ⟨0⟩)) :=
    moves_deletion ⟨0⟩ hstored₂
  have hfinalized : Moves c key (renamed.map key (doomed · ⟨0⟩)) (.pass finalized.1) finalized.2 :=
    moves_passed ..
  exact ⟨Client.atRoot_onThisHost _ _ _, own_opening, rfl,
    ⟨⟨_, .cons hunattached (.cons hdoomed (.cons hgone (.nil _)))⟩, hlast, hthere⟩,
    ⟨_, .cons hsynced (.cons hrenamed (.cons hdoomed₂ (.cons hfinalized (.nil _))))⟩, hlast₂,
    hthere₂⟩

end Pass
end ProxySync
