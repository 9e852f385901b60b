import Mathlib.Data.List.Induction
import ProxySync.Proofs.Finalizers
import ProxySync.Proofs.Kube.MergePatch
import ProxySync.Proofs.Kube.Requests
import ProxySync.Proofs.Pass.Quiescence
/-!
# Finalizers of a shared resource

Others attach and detach finalizers of their own while a pass is on its way. The list that a pass
writes is made of the one that it read, and it is put in the place of whatever is kept by then. So
the own finalizer is as the pass wants it, and every other one is as it was when the resource was
read: what its party has done since is undone.

## Main definitions

* `Finalizers.Turn`: what another party does with its finalizer; `Finalizers.Turn.LeaveThere` tells
  what the latest turns leave behind.
* `Simulation.ApiServer.taking`: a turn is a change of the list as it is at that moment.
* `Shared`: a server with the turns that are taken before each request to it, and `Shared.store` the
  store that it makes.
* `Pass.AsRead`: the list after a patch, told by what was there when the resource was read.

## Main statements

* `ApiServer.Keeps.turns`: what is there after turns is what the latest of them leave.
* `Shared.of_get`, `Shared.of_patch`: reading and patching through such a store.
* `Pass.finalizers_as_read`: the finalizers after a pass attached or detached its own.
* `Pass.finalizer_lost`: what is attached between the reading and the patch is lost.
-/
namespace ProxySync

namespace Finalizers

/-- What another party does with a finalizer of its own. -/
inductive Turn where
  | attach (finalizer : String)
  | detach (finalizer : String)

namespace Turn

/-- The finalizer in question. -/
def finalizer : Turn → String
  | attach f => f
  | detach f => f

/-- Whether the finalizer is there after the turn. -/
def Attaches : Turn → Prop
  | attach _ => True
  | detach _ => False

/-- The finalizers after the turn; none if nothing is to be changed. -/
def list? (current : List String) : Turn → Option (List String)
  | attach f => Finalizers.adding? current f
  | detach f => Finalizers.removing? current f

/-- Whether a finalizer is there after turns: the latest turn about it decides, if there is one. -/
def LeaveThere (f : String) (turns : List Turn) (before : Prop) : Prop :=
  ((turns.reverse.find? (·.finalizer == f)).map Attaches).getD before

variable {turns : List Turn} {f : String} {before : Prop}

theorem leaveThere_concat (turns : List Turn) (turn : Turn) :
    LeaveThere f (turns ++ [turn]) before ↔
      if turn.finalizer = f then turn.Attaches else LeaveThere f turns before := by
  rw [LeaveThere, LeaveThere, List.reverse_append, List.reverse_singleton, List.singleton_append,
    List.find?_cons]
  by_cases hf : turn.finalizer = f
  · simp [hf]
  · simp [hf, beq_false_of_ne hf]

/-- Turns about other finalizers decide nothing. -/
theorem leaveThere_append_of_ne (early : List Turn) (h : ∀ turn ∈ turns, turn.finalizer ≠ f) :
    LeaveThere f (early ++ turns) before ↔ LeaveThere f early before := by
  have hnone : turns.reverse.find? (·.finalizer == f) = none :=
    List.find?_eq_none.2 fun turn hturn => by simpa using h turn (List.mem_reverse.1 hturn)
  rw [LeaveThere, List.reverse_append, List.find?_append, hnone, Option.none_or, LeaveThere]

/-- A turn changes nothing but its own finalizer. -/
theorem mem_list? (turn : Turn) (current : List String) (f : String) :
    f ∈ (turn.list? current).getD current ↔
      if turn.finalizer = f then turn.Attaches else f ∈ current := by
  cases turn with
  | attach g =>
    rw [list?, Finalizers.mem_adding?]
    by_cases hf : g = f
    · simp [finalizer, Attaches, hf]
    · simp [finalizer, hf, Ne.symm hf]
  | detach g =>
    rw [list?, Finalizers.mem_removing?]
    by_cases hf : g = f
    · simp [finalizer, Attaches, hf]
    · simp [finalizer, hf, Ne.symm hf]

end Turn
end Finalizers

namespace Simulation.ApiServer

/-- The server after a turn of another party, which replaces the list as it finds it. -/
def taking (key : Key) (s : ApiServer) (turn : Finalizers.Turn) : ApiServer :=
  (turn.list? (s.finalizersAt key)).elim s fun fs =>
    (s.patch (address key) (Kube.finalizersPatch fs)).2.2

variable {key : Key} {s : ApiServer}

/-- A turn changes its own finalizer of a resource that is there, and nothing else. -/
theorem Keeps.taking (h : s.Keeps key) (turn : Finalizers.Turn) : (s.taking key turn).Keeps key ∧
    (((s.taking key turn).objects.get? (address key)).isSome = true →
      (s.objects.get? (address key)).isSome = true ∧
      ∀ f, f ∈ (s.taking key turn).finalizersAt key ↔
        if turn.finalizer = f then turn.Attaches else f ∈ s.finalizersAt key) := by
  have hmem (f : String) := turn.mem_list? (s.finalizersAt key) f
  rw [ApiServer.taking]
  cases hlist : turn.list? (s.finalizersAt key) with
  | none =>
    rw [hlist, Option.getD_none] at hmem
    exact ⟨h, fun hthere => ⟨hthere, hmem⟩⟩
  | some fs =>
    rw [hlist, Option.getD_some] at hmem
    rw [Option.elim_some]
    cases hthere : s.objects.get? (address key) with
    | none =>
      rw [patch_of_absent hthere, hthere]
      exact ⟨h, nofun⟩
    | some j =>
      obtain ⟨hkeeps, hfs⟩ := h.patch hthere fs
      rw [hfs]
      exact ⟨hkeeps, fun _ => ⟨rfl, hmem⟩⟩

/-- The latest turns decide what is there after turns. -/
theorem Keeps.turns (h : s.Keeps key) (turns : List Finalizers.Turn) :
    (turns.foldl (ApiServer.taking key) s).Keeps key ∧
    (((turns.foldl (ApiServer.taking key) s).objects.get? (address key)).isSome = true →
      (s.objects.get? (address key)).isSome = true ∧
      ∀ f, f ∈ (turns.foldl (ApiServer.taking key) s).finalizersAt key ↔
        Finalizers.Turn.LeaveThere f turns (f ∈ s.finalizersAt key)) := by
  induction turns using List.reverseRecOn with
  | nil => exact ⟨h, fun hthere => ⟨hthere, fun _ => Iff.rfl⟩⟩
  | append_singleton turns turn ih =>
    obtain ⟨hkeeps, hbefore⟩ := ih
    obtain ⟨hafter, hstep⟩ := hkeeps.taking turn
    rw [List.foldl_append, List.foldl_cons, List.foldl_nil]
    refine ⟨hafter, fun hthere => ?_⟩
    obtain ⟨hmiddle, hturn⟩ := hstep hthere
    obtain ⟨hfirst, hturns⟩ := hbefore hmiddle
    refine ⟨hfirst, fun f => ?_⟩
    rw [hturn, Finalizers.Turn.leaveThere_concat, hturns]

end Simulation.ApiServer

open Simulation (ApiServer)

/-! ## A server that others use as well -/

/-- An API server, and the turns that others take before each request that arrives. -/
structure Shared where
  server : ApiServer
  turns : List (List Finalizers.Turn)

namespace Shared

/-- The server as the next request meets it. -/
def met (key : Key) (s : Shared) : ApiServer :=
  (s.turns.headD []).foldl (ApiServer.taking key) s.server

/-- Answers a request after the turns that are taken before it. -/
def answer (key : Key) : Environment Kube.interface Shared := fun r s =>
  (((s.met key).respond r).1, ⟨((s.met key).respond r).2, s.turns.tail⟩)

/-- The store that such a server makes. -/
def store (key : Key) (now : String) : Environment Store.interface Shared := fun call s =>
  (Kube.store now call).run (answer key) s

variable {key : Key} {now : String} {s s' : Shared} {b : Resource.Backend} {fs : List String}

/-- The answer to a request that is not refused. -/
theorem of_answer (h : s.server.Keeps key) {r : Kube.ApiRequest} {status : Nat} {body : String}
    (hreply : answer key r s = (.answered status body, s'))
    (hstatus : Kube.isRefused status = false) : (s.met key).Keeps key ∧
      status = ((s.met key).perform r).1 ∧ body = ((s.met key).perform r).2.1.print ∧
      s' = ⟨((s.met key).perform r).2.2, s.turns.tail⟩ := by
  have hmet : (s.met key).Keeps key := (h.turns (s.turns.headD [])).1
  obtain ⟨hrespond, rfl⟩ := Prod.mk.inj hreply
  obtain ⟨hcode, htext, hserver⟩ := hmet.of_respond (Prod.ext hrespond rfl) hstatus
  exact ⟨hmet, hcode, htext, congrArg (Shared.mk · s.turns.tail) hserver⟩

/-- Where a resource is read it is there, and it is read as it is kept. -/
theorem of_get (h : s.server.Keeps key)
    (hread : store key now (.get key) s = (.ok (some b), s')) :
    s' = ⟨s.met key, s.turns.tail⟩ ∧ (s.met key).Keeps key ∧
      ((s.met key).objects.get? (ApiServer.address key)).isSome = true ∧
      ApiServer.address b.metadata.key = ApiServer.address key ∧
      b.metadata.finalizerList = (s.met key).finalizersAt key := by
  obtain ⟨-, -, status, body, hreply, hstatus, hbody⟩ := Kube.run_getObject_iff.1
    (show (Kube.getObject .backend Resource.Backend.ofJson? key).run (answer key) s =
      (.ok (some b), s') from hread)
  rw [← ApiServer.address] at hreply
  obtain ⟨hmet, rfl, rfl, rfl⟩ := of_answer h hreply hstatus
  obtain ⟨j, hthere, hperform⟩ := hmet.perform_get hstatus
  obtain ⟨given, rfl, hvalue, hname, hown⟩ := hmet.kept j hthere
  rw [hperform, Json.parse?_print hvalue.sorted, Option.bind_some] at hbody
  obtain ⟨hkey, hlist⟩ := ApiServer.of_read hname hbody
  refine ⟨?_, hmet, by rw [hthere]; rfl, by rw [hkey, hown], ?_⟩
  · rw [hperform]
  · rw [hlist, ApiServer.finalizersAt, hthere, Option.elim_some, ApiServer.finalizersOf_sorted]

/-- Where a patch of the finalizers succeeds, they are those of the patch. -/
theorem of_patch (h : s.server.Keeps key)
    (hown : ApiServer.address b.metadata.key = ApiServer.address key)
    (hpatch : (Kube.patchBackend b "" (Kube.finalizersPatch fs)).run (answer key) s =
      (.ok (), s')) :
    s'.server.finalizersAt key = fs := by
  obtain ⟨-, -, status, body, hreply, hstatus, -⟩ := Kube.run_patchBackend_iff.1 hpatch
  rw [String.append_empty, show Kube.cutPath _ = _ from hown] at hreply
  obtain ⟨hmet, rfl, -, rfl⟩ := of_answer h hreply hstatus
  exact hmet.perform_patch hstatus

section Unscripted
variable {given : Json} (hroutes : (s.met key).routes = [])
  (hthere : (s.met key).objects.get? (ApiServer.address key) = some given.sorted)
  (hvalue : Json.IsValue given) (hname : key.name ≠ "")
  (hpath : (ApiServer.address key).toList.any Kube.isInvalidInPath = false)

include hroutes in
/-- An unscripted server performs what it is asked. -/
theorem answer_of_nil (r : Kube.ApiRequest) :
    answer key r s = (.answered ((s.met key).perform r).1 ((s.met key).perform r).2.1.print,
      ⟨((s.met key).perform r).2.2, s.turns.tail⟩) := by
  have hrespond : (s.met key).respond r =
      (.answered ((s.met key).perform r).1 ((s.met key).perform r).2.1.print,
        ((s.met key).perform r).2.2) := by
    rw [ApiServer.respond, hroutes]
    rfl
  exact congrArg (fun p => (p.1, Shared.mk p.2 s.turns.tail)) hrespond

include hroutes hthere hvalue hname hpath

/-- It answers with a resource that is there. -/
theorem get_of_nil
    (hread : Resource.Backend.ofJson? (Json.answered Json.maxNesting given) = some b) :
    store key now (.get key) s = (.ok (some b), ⟨s.met key, s.turns.tail⟩) := by
  have hreply := answer_of_nil hroutes { verb := .get, path := ApiServer.address key }
  simp only [ApiServer.perform, hthere] at hreply
  refine Kube.run_getObject_iff.2 ⟨hname, hpath, 200, _, hreply, by decide, ?_⟩
  rw [Json.parse?_print hvalue.sorted, Option.bind_some]
  exact hread

/-- It patches a resource that is there, if the result can be read. -/
theorem exists_patch_of_nil (hkey : b.metadata.key = key)
    (hnamed : ApiServer.metaText given "name" ≠ "")
    (hread : (Resource.Backend.ofJson? (Json.within Json.maxNesting
      (ApiServer.merge given.sorted (Kube.finalizersPatch fs)))).isSome = true) :
    ∃ after, (Kube.patchBackend b "" (Kube.finalizersPatch fs)).run (answer key) s =
      (.ok (), after) := by
  have hreply := answer_of_nil hroutes
    { verb := .patch, path := ApiServer.address key, body := some (Kube.finalizersPatch fs) }
  simp only [ApiServer.perform, hthere, Option.isSome_some, if_true, Option.getD_some,
    ApiServer.patch] at hreply
  have hown : b.metadata.nameOrStem = key.name := congrArg Key.name hkey
  have haddress : Kube.cutPath (Kube.ObjectKind.backend.path b.metadata.key ++ "") =
      ApiServer.address key := by
    rw [hkey, String.append_empty, ApiServer.address]
  refine ⟨_, Kube.run_patchBackend_iff.2 ⟨by rw [hown]; exact hname, by rw [haddress]; exact hpath,
    200, _, by rw [haddress]; exact hreply, by decide, ?_⟩⟩
  rw [Json.parse?_print (ApiServer.isValue_merge hnamed hvalue), Option.bind_some]
  exact hread

end Unscripted

end Shared

namespace Pass
open Simulation (Log Plane)
variable {key : Key} {now : String} {s s₁ : Shared} {b : Resource.Backend}

/-- What is kept after a patch of the finalizers: this program's own one as it was to be, and each
other one as its party left it before the resource was read. So it is as its party left it last if
that did nothing between the reading and the patch. -/
structure AsRead (key : Key) (s : Shared) (attached : Prop) (after : ApiServer) : Prop where
  own : Resource.Backend.finalizer ∈ after.finalizersAt key ↔ attached
  others : ∀ f, f ≠ Resource.Backend.finalizer → (f ∈ after.finalizersAt key ↔
    Finalizers.Turn.LeaveThere f (s.turns.headD []) (f ∈ s.server.finalizersAt key))
  spared : ∀ f, f ≠ Resource.Backend.finalizer →
    (∀ turn ∈ s.turns.tail.headD [], turn.finalizer ≠ f) →
    (f ∈ after.finalizersAt key ↔
      Finalizers.Turn.LeaveThere f (s.turns.headD [] ++ s.turns.tail.headD [])
        (f ∈ s.server.finalizersAt key))

/-- A list made of the one that was read is put in the place of whatever is kept. -/
theorem asRead_of_patch (h : s.server.Keeps key)
    (hread : Shared.store key now (.get key) s = (.ok (some b), s₁)) {fs : List String}
    {attached : Prop} (hown : Resource.Backend.finalizer ∈ fs ↔ attached)
    (hothers : ∀ f, f ≠ Resource.Backend.finalizer → (f ∈ fs ↔ f ∈ b.metadata.finalizerList))
    {after : Shared} (hpatch : (Kube.patchBackend b "" (Kube.finalizersPatch fs)).run
      (Shared.answer key) s₁ = (.ok (), after)) : AsRead key s attached after.server := by
  obtain ⟨rfl, hmet, hthere, hkey, hlist⟩ := Shared.of_get h hread
  have hafter : after.server.finalizersAt key = fs := Shared.of_patch hmet hkey hpatch
  have hturns := ((h.turns (s.turns.headD [])).2 hthere).2
  have hothers' (f : String) (hf : f ≠ Resource.Backend.finalizer) :
      f ∈ after.server.finalizersAt key ↔
        Finalizers.Turn.LeaveThere f (s.turns.headD []) (f ∈ s.server.finalizersAt key) := by
    rw [hafter, hothers f hf, hlist]
    exact hturns f
  exact {
    own := by rw [hafter, hown]
    others := hothers'
    spared := fun f hf hnone => by
      rw [hothers' f hf, Finalizers.Turn.leaveThere_append_of_ne _ hnone] }

/-- However others take turns before the reading and between it and the patch: where a pass attaches
its finalizer and succeeds, that one is kept, where it detaches it, it is not, and every other
finalizer is as its party left it before the resource was read. -/
theorem finalizers_as_read {σ τ : Type} (h : s.server.Keeps key)
    (members : Environment Membership.interface σ) (plane : Environment DataPlane.interface τ)
    (c : DataPlane.Client) (now : String) (index : ServiceIndex) (t : σ) (u : τ) :
    let store := Shared.store key now
    let p := see store members plane c key now index (s, t, u)
    (∀ w b after, (w, .addFinalizer b) ∈ p.calls →
      store (.addFinalizer b) w.1 = (.ok (), after) → AsRead key s True after.server) ∧
    ∀ w b after, (w, .removeFinalizer b) ∈ p.calls →
      store (.removeFinalizer b) w.1 = (.ok (), after) → AsRead key s False after.server := by
  intro store p
  have hcourse := course_reconcile store members plane now c key index s t u
  refine ⟨fun w b after hmem hadd => ?_, fun w b after hmem hremove => ?_⟩
  · obtain ⟨s₁, _, t', u', hread, _, hmissing, _, rfl⟩ := hcourse.of_addFinalizer hmem
    have habsent : Resource.Backend.finalizer ∉ b.metadata.finalizerList := fun hthere => by
      rw [Resource.Backend.hasFinalizer.eq_1, List.any_eq_false] at hmissing
      exact hmissing _ hthere (beq_self_eq_true _)
    have hpatch : (Kube.ensureFinalizer b Resource.Backend.finalizer).run (Shared.answer key) s₁ =
        (.ok (), after) := hadd
    rw [Kube.ensureFinalizer, Finalizers.adding?, if_neg habsent] at hpatch
    refine asRead_of_patch h hread (by simp) (fun f hf => ?_) hpatch
    simp [hf]
  · obtain ⟨s₁, _, u', hread, _, hheld, _, rfl⟩ := hcourse.of_removeFinalizer hmem
    have hthere : Resource.Backend.finalizer ∈ b.metadata.finalizerList := by
      obtain ⟨f, hf, heq⟩ := List.any_eq_true.1 hheld
      exact eq_of_beq heq ▸ hf
    have hpatch : (Kube.removeFinalizer b Resource.Backend.finalizer).run (Shared.answer key) s₁ =
        (.ok (), after) := hremove
    rw [Kube.removeFinalizer, Finalizers.removing?, if_pos hthere] at hpatch
    refine asRead_of_patch h hread (by simp) (fun f hf => ?_) hpatch
    simp [hf]

/-- Where the resource is synchronized, the finalizer is asked for unless it is there. -/
theorem Course.asks_addFinalizer {σ τ υ : Type} {store : Environment Store.interface σ}
    {members : Environment Membership.interface τ} {plane : Environment DataPlane.interface υ}
    {c : DataPlane.Client} {s s₁ : σ} {t : τ} {u : υ} {w' : σ × τ × υ}
    {calls : List ((σ × τ × υ) × Store.Call)} {asked : List (Exchange DataPlane.interface)}
    {r : Except PassError PassOutcome} {desired : Desired} {d : Resolved}
    (h : Course store members plane now c key s t u calls asked r w')
    (hread : store (.get key) s = (.ok (some b), s₁)) (hstaying : b.isDeleting = false)
    (hmissing : b.hasFinalizer = false) (hvalid : b.spec.validate key.ns = .ok desired)
    (hresolve : (desired.resolve.run.run members t).1 = .ok d)
    (happly : (((c.apply d).start .fresh).run plane u).1.1.isOk = true) :
    ∃ w, w.1 = s₁ ∧ (w, .addFinalizer b) ∈ calls := by
  cases h with
  | unread read | absent read =>
    rw [read] at hread
    cases hread
  | released read deleting | kept read deleting | undetached read deleting
  | finalized read deleting =>
    rw [read] at hread
    cases hread
    rw [deleting] at hstaying
    cases hstaying
  | failed read _ synchronize =>
    rw [read] at hread
    cases hread
    obtain ⟨-, hfailed, -⟩ := synchronize.applied_of hvalid hresolve
    cases hrun : (((c.apply d).start .fresh).run plane u).1.1 with
    | error e =>
      rw [hrun] at happly
      cases happly
    | ok report =>
      rw [hrun] at hfailed
      cases hfailed
  | unattached read =>
    rw [read] at hread
    cases hread
    exact ⟨_, rfl, List.mem_cons_of_mem _ List.mem_cons_self⟩
  | settled read _ _ attach =>
    rw [read] at hread
    cases hread
    obtain ⟨hthere, -⟩ | ⟨-, -, rfl⟩ := attach.of_ok
    · rw [hmissing] at hthere
      cases hthere
    · exact ⟨_, rfl, List.mem_cons_of_mem _ List.mem_cons_self⟩

/-- The key of a resource. -/
def webKey : Key := ⟨"default", "web"⟩

/-- A resource as it is first stored, without finalizers. -/
def freshWeb : Json :=
  .obj [("metadata", .obj [("name", .str "web"), ("namespace", .str "default")]),
    ("spec", .obj [("name", .str "shop"),
      ("servers", .arr [.obj [("name", .str "a"), ("address", .str "10.0.0.1")]])])]

theorem isValue_freshWeb : Json.IsValue freshWeb := by
  simp [freshWeb, Json.IsValue, Json.HaveValues, Json.AreValues]

/-- A server that keeps it. Another party attaches a finalizer of its own after the first request
of a pass. -/
def contested : Shared where
  server :=
    { objects := Table.empty.insert (ApiServer.address webKey) freshWeb.sorted
      routes := [] }
  turns := [[], [.attach "example.org/other"]]

/-- The server in question keeps what it is given. -/
theorem get?_contested : contested.server.objects.get? (ApiServer.address webKey) =
    some freshWeb.sorted := by
  rw [contested, Table.get?_insert, if_pos rfl]

theorem keeps_contested : contested.server.Keeps webKey where
  refuses := nofun
  kept j hj := by
    rw [get?_contested] at hj
    cases hj
    exact ⟨freshWeb, rfl, isValue_freshWeb, by decide +kernel, by decide +kernel⟩
  single := by decide +kernel
  apart := .inl (by decide +kernel)

theorem read_contested (now : String) : ∃ b,
    Shared.store webKey now (.get webKey) contested =
      (.ok (some b), ⟨contested.server, contested.turns.tail⟩) ∧
    b.isDeleting = false ∧ b.spec = shopSpec ∧ b.metadata.key = webKey ∧
    b.metadata.finalizerList = [] := by
  have hfound : (Resource.Backend.ofJson? (Json.answered Json.maxNesting freshWeb)).any (fun b =>
      !b.isDeleting && decide (b.spec = shopSpec) && decide (b.metadata.key = webKey) &&
        decide (b.metadata.finalizerList = [])) = true := by
    decide +kernel
  obtain ⟨b, hread, hb⟩ := (Option.any_eq_true _ _).1 hfound
  simp only [Bool.and_eq_true, Bool.not_eq_true', decide_eq_true_eq, and_assoc] at hb
  exact ⟨b, Shared.get_of_nil rfl get?_contested isValue_freshWeb (by decide) (by decide +kernel)
    hread, hb⟩

/-- The finalizer is attached to it after the other party attached its own. -/
theorem attached_contested (now : String) {b : Resource.Backend}
    (hkey : b.metadata.key = webKey) (hlist : b.metadata.finalizerList = []) :
    ∃ after, Shared.store webKey now (.addFinalizer b)
        ⟨contested.server, contested.turns.tail⟩ = (.ok (), after) ∧
      after.server.finalizersAt webKey = [Resource.Backend.finalizer] := by
  let s : Shared := ⟨contested.server, contested.turns.tail⟩
  let patch : Json := Kube.finalizersPatch [Resource.Backend.finalizer]
  have hmet := (keeps_contested.turns (s.turns.headD [])).1
  have hpatched : ((s.met webKey).objects.get?
      (ApiServer.address webKey)).any (fun j => (Resource.Backend.ofJson?
        (Json.within Json.maxNesting (ApiServer.merge j patch))).isSome) = true := by
    decide +kernel
  obtain ⟨j, hthere, hread⟩ := (Option.any_eq_true _ _).1 hpatched
  obtain ⟨given, rfl, hvalue, hnamed, _⟩ := hmet.kept j hthere
  have hroutes : (s.met webKey).routes = [] := List.isEmpty_iff.1 (by decide +kernel)
  obtain ⟨after, hpatch⟩ := Shared.exists_patch_of_nil hroutes hthere hvalue (by decide)
    (by decide +kernel) hkey hnamed hread
  have hadded : Finalizers.adding? b.metadata.finalizerList Resource.Backend.finalizer =
      some [Resource.Backend.finalizer] := by
    rw [hlist]
    decide
  refine ⟨after, ?_, Shared.of_patch (s := s) keeps_contested (by rw [hkey]) hpatch⟩
  change (Kube.ensureFinalizer b Resource.Backend.finalizer).run (Shared.answer _) s = _
  rw [Kube.ensureFinalizer, hadded]
  exact hpatch

/-- What can be seen of a pass over it. -/
def contestedPass : Seen Shared Unit (Plane × Log) :=
  let c := DataPlane.Client.onThisHost 5555 "admin" "secret"
  see (Shared.store webKey "2024-05-01T00:05:00Z") nowhere (Plane.answer c) c webKey
    "2024-05-01T00:05:00Z" .empty
    (contested, (), (.holding (DataPlane.Memory.ofConfiguration 1 .empty), []))

theorem attaches_contestedPass : ∃ w b after, (w, .addFinalizer b) ∈ contestedPass.calls ∧
    Shared.store webKey "2024-05-01T00:05:00Z" (.addFinalizer b) w.1 = (.ok (), after) ∧
    after.server.finalizersAt webKey = [Resource.Backend.finalizer] := by
  obtain ⟨b, hread, hstaying, hspec, hkey, hlist⟩ := read_contested "2024-05-01T00:05:00Z"
  obtain ⟨after, hattached⟩ := attached_contested "2024-05-01T00:05:00Z" hkey hlist
  have hmissing : b.hasFinalizer = false := by
    rw [Resource.Backend.hasFinalizer.eq_1, hlist]
    rfl
  have happly : ((((DataPlane.Client.onThisHost 5555 "admin" "secret").apply
      DataPlane.Client.shop).start .fresh).run
        (Plane.answer (DataPlane.Client.onThisHost 5555 "admin" "secret"))
        (.holding (DataPlane.Memory.ofConfiguration 1 .empty), [])).1.1.isOk = true := by
    decide +kernel
  have hcourse := course_reconcile (Shared.store webKey "2024-05-01T00:05:00Z") nowhere
    (Plane.answer (DataPlane.Client.onThisHost 5555 "admin" "secret")) "2024-05-01T00:05:00Z"
    (DataPlane.Client.onThisHost 5555 "admin" "secret") webKey .empty contested ()
    (.holding (DataPlane.Memory.ofConfiguration 1 .empty), [])
  obtain ⟨⟨s₁, rest⟩, rfl, hmem⟩ := hcourse.asks_addFinalizer hread hstaying hmissing
    (by rw [hspec]; rfl) rfl happly
  exact ⟨_, b, after, hmem, hattached⟩

/-- A case of it: the finalizer is attached while another party attaches its own. -/
theorem finalizers_as_read_contested : contested.server.Keeps webKey ∧
    ∃ w b after, (w, .addFinalizer b) ∈ contestedPass.calls ∧
      Shared.store webKey "2024-05-01T00:05:00Z" (.addFinalizer b) w.1 = (.ok (), after) ∧
      AsRead webKey contested True after.server := by
  obtain ⟨w, b, after, hmem, hattached, _⟩ := attaches_contestedPass
  exact ⟨keeps_contested, w, b, after, hmem, hattached,
    (finalizers_as_read keeps_contested _ _ _ _ _ _ _).1 w b after hmem hattached⟩

/-- What another party attaches between the reading and the patch is lost. -/
theorem finalizer_lost : contested.server.Keeps webKey ∧
    Finalizers.Turn.LeaveThere "example.org/other"
      (contested.turns.headD [] ++ contested.turns.tail.headD [])
      ("example.org/other" ∈ contested.server.finalizersAt webKey) ∧
    ∃ w b after, (w, .addFinalizer b) ∈ contestedPass.calls ∧
      Shared.store webKey "2024-05-01T00:05:00Z" (.addFinalizer b) w.1 = (.ok (), after) ∧
      "example.org/other" ∉ after.server.finalizersAt webKey := by
  obtain ⟨w, b, after, hmem, hattached, honly⟩ := attaches_contestedPass
  exact ⟨keeps_contested, trivial, w, b, after, hmem, hattached, by rw [honly]; decide⟩

end Pass
end ProxySync
