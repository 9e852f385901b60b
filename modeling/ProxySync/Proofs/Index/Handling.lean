import Mathlib.Data.Nat.Notation
import ProxySync.Config.Basic
import ProxySync.Proofs.Index.Refinement
import ProxySync.Simulation.Controllers
/-!
# Which controller handles a backend

A change of a Service or of a slice concerns the backends that the index names for it, and every
controller handles those that it owns. How often a backend is handled is how many controllers own
its namespace, and that is how often the namespace is listed, since a list is not rid of repeats.

## Main definitions

* `Text.IsCommaList`: the parts of a comma-separated list.
* `ServiceIndex.Event`, `ServiceIndex.Event.Concerns`: changes, and the backends that they concern.
* `WatchScope.handled`: what all controllers of a scope handle after a change.
* `Config.HandlesOnce`: each backend that is watched is handled by one controller.

## Main statements

* `Text.IsCommaList.namespacesOf`: the namespaces of a list are its trimmed parts.
* `WatchScope.count_handled`: how often a backend is handled.
* `Config.sharesOut`: what the controllers of a configuration handle.
-/
namespace ProxySync

namespace Text
variable {isCut : Char → Bool} {s : String} {parts : List String}

theorem pieces_eq_splitOnP (cs : List Char) : pieces isCut cs = cs.splitOnP isCut := by
  induction cs with
  | nil => rfl
  | cons c cs ih =>
    rw [List.splitOnP_cons_eq_if_modifyHead, pieces, ih]
    cases hpieces : List.splitOnP isCut cs with
    | nil => exact absurd (ih.trans hpieces) pieces_ne_nil
    | cons piece rest => split <;> rfl

/-- No piece holds a cut. -/
theorem isCut_of_mem_pieces {cs piece : List Char} (h : piece ∈ pieces isCut cs) :
    ∀ c ∈ piece, isCut c = false := by
  intro c hc
  have hkept : c ∈ (pieces isCut cs).flatten := List.mem_flatten.2 ⟨piece, h, hc⟩
  rw [flatten_pieces] at hkept
  simpa using (List.mem_filter.1 hkept).2

/-- A text is a comma-separated list of parts. -/
structure IsCommaList (s : String) (parts : List String) : Prop where
  joined : String.intercalate "," parts = s
  ne_nil : parts ≠ []
  no_comma : ∀ part ∈ parts, ',' ∉ part.toList

/-- Every text is such a list. -/
theorem isCommaList_pieces (s : String) :
    IsCommaList s ((pieces (· == ',') s.toList).map String.ofList) := by
  constructor
  · apply String.toList_injective
    rw [String.toList_intercalate, List.map_map, pieces_eq_splitOnP]
    simp only [Function.comp_def, String.toList_ofList, List.map_id']
    exact List.intercalate_splitOn ','
  · simpa using pieces_ne_nil
  · simp only [List.forall_mem_map, String.toList_ofList]
    intro piece hpiece hcomma
    exact absurd (isCut_of_mem_pieces hpiece ',' hcomma) (by decide)

/-- The parts are where the text is cut. -/
theorem IsCommaList.pieces_eq (h : IsCommaList s parts) :
    pieces (· == ',') s.toList = parts.map String.toList := by
  have huncut : ∀ cs ∈ parts.map String.toList, ',' ∉ cs := by simpa using h.no_comma
  rw [← h.joined, String.toList_intercalate, pieces_eq_splitOnP]
  exact List.splitOn_intercalate ',' huncut (by simpa using h.ne_nil)

/-- The namespaces of a list are its parts without the white space around them and without those
of which nothing is left. -/
theorem IsCommaList.namespacesOf (h : IsCommaList s parts) :
    WatchScope.namespacesOf s = (parts.map trim).filter (· ≠ "") := by
  rw [WatchScope.namespacesOf, h.pieces_eq, List.map_map, List.filter_map, List.filter_map,
    List.map_map]
  simp [Function.comp_def, trim]

end Text

namespace ServiceIndex

/-- A change that the controllers are told of. -/
inductive Event where
  | service (s : Kube.Service)
  | slice (s : Kube.EndpointSlice)

namespace Event
variable {x : ServiceIndex} {e : Event} {k : Key}

/-- The Service that has changed, itself or by one of its slices. -/
def service? : Event → Option Key
  | .service s => some s.metadata.key
  | .slice s => sliceService? s

/-- The backends that the index names for a change. -/
def named (x : ServiceIndex) : Event → List Key
  | .service s => x.backendsForService s
  | .slice s => x.backendsForSlice s

/-- The index has the backend under the Service that has changed. -/
def Concerns (x : ServiceIndex) (e : Event) (backend : Key) : Prop :=
  ∃ service, e.service? = some service ∧ Relates x.byService service backend

theorem named_eq (x : ServiceIndex) (e : Event) :
    e.named x = (e.service?.map x.backendsFor).getD [] := by
  cases e with
  | service s => rfl
  | slice s =>
    rw [named, backendsForSlice, service?]
    cases sliceService? s <;> rfl

theorem mem_named : k ∈ e.named x ↔ e.Concerns x k := by
  rw [named_eq, Concerns]
  cases e.service? <;> simp [mem_backendsFor]

theorem nodup_named (x : ServiceIndex) (e : Event) : (e.named x).Nodup := by
  rw [named_eq]
  cases e.service? with
  | none => exact List.nodup_nil
  | some service => exact Table.nodup_keys _

/-- After calls a change concerns the backends that were last said to refer to its Service. -/
theorem concerns_after {calls : List Call} :
    e.Concerns (after calls) k ↔ ∃ service, e.service? = some service ∧ Refers calls k service := by
  simp only [Concerns, (wellFormed_after calls).inverse, relates_after]

end Event
end ServiceIndex

namespace WatchScope
variable {w : WatchScope} {keys : List Key} {k : Key} {ns : String}

/-- What all controllers of a scope handle after a change that concerns some backends. -/
def handled (w : WatchScope) (keys : List Key) : List Key :=
  w.controllers.flatMap (retriggered keys)

/-- The number of controllers that own a namespace. -/
def owners (w : WatchScope) (ns : String) : ℕ :=
  if w.namespaces = [] then 1 else w.namespaces.count ns

/-- The namespaces that a scope watches. -/
def Covers (w : WatchScope) (ns : String) : Prop :=
  w.namespaces = [] ∨ ns ∈ w.namespaces

theorem countP_controllers (w : WatchScope) (ns : String) :
    w.controllers.countP (·.all (ns == ·)) = w.owners ns := by
  by_cases h : w.namespaces = []
  · simp [controllers, owners, h]
  · simp [controllers, owners, h, List.countP_map, Function.comp_def, List.count,
      Bool.beq_comm (a := ns)]

theorem owners_eq_zero : w.owners ns = 0 ↔ ¬ w.Covers ns := by
  by_cases h : w.namespaces = [] <;> simp [owners, Covers, h, List.count_eq_zero]

/-- No namespace has two owners just if none is listed twice. -/
theorem owners_le_one_iff : (∀ ns, w.owners ns ≤ 1) ↔ w.namespaces.Nodup := by
  rw [List.nodup_iff_count_le_one]
  by_cases h : w.namespaces = [] <;> simp [owners, h]

theorem count_retriggered (keys : List Key) (owned : Option String) (k : Key) :
    (retriggered keys owned).count k = if owned.all (k.ns == ·) then keys.count k else 0 := by
  rw [retriggered]
  split
  case isTrue h => exact List.count_filter h
  case isFalse h => exact List.count_eq_zero.2 fun hk => h (List.mem_filter.1 hk).2

/-- A backend is handled once by every owner of its namespace. -/
theorem count_handled (w : WatchScope) (keys : List Key) (k : Key) :
    (w.handled keys).count k = w.owners k.ns * keys.count k := by
  rw [handled, List.count_flatMap, ← countP_controllers]
  induction w.controllers with
  | nil => simp
  | cons owned rest ih =>
    rw [List.map_cons, List.sum_cons, ih, List.countP_cons, Function.comp_apply, count_retriggered]
    split <;> simp [Nat.add_mul, Nat.add_comm]

/-- The controllers that are started are those of the scope. -/
theorem map_ns_start (s : Simulation.World.Setting) (w : WatchScope) (world : Simulation.World) :
    (Simulation.Fleet.start s w world).2.controllers.map (·.ns) = w.controllers := by
  -- Those that have been launched stay in front.
  have hlaunch (owned : List (Option String)) (launched : List Simulation.Controller)
      (world : Simulation.World) :
      ((owned.foldl (fun (p : List Simulation.Controller × Simulation.World) ns =>
        (p.1 ++ [(Simulation.Fleet.launch w.label ns p.2).1],
          (Simulation.Fleet.launch w.label ns p.2).2)) (launched, world)).1).map (·.ns) =
        launched.map (·.ns) ++ owned := by
    induction owned generalizing launched world with
    | nil => simp
    | cons ns owned ih =>
      rw [List.foldl_cons, ih, List.map_append, List.append_assoc]
      rfl
  exact hlaunch w.controllers [] world

end WatchScope

namespace Config
open ServiceIndex (Event Call Refers after)
variable {c : Config} {x : ServiceIndex} {e : Event} {k : Key}

/-- How often the controllers of a configuration handle a backend after a change. -/
def timesHandled (c : Config) (x : ServiceIndex) (e : Event) (k : Key) : ℕ :=
  (c.watchScope.handled (e.named x)).count k

theorem timesHandled_of_concerns (h : e.Concerns x k) :
    c.timesHandled x e k = c.watchScope.owners k.ns := by
  rw [timesHandled, WatchScope.count_handled,
    List.count_eq_one_of_mem (e.nodup_named x) (Event.mem_named.2 h), Nat.mul_one]

theorem timesHandled_of_not_concerns (h : ¬ e.Concerns x k) : c.timesHandled x e k = 0 := by
  rw [timesHandled, WatchScope.count_handled, List.count_eq_zero.2 (mt Event.mem_named.1 h),
    Nat.mul_zero]

/-- After any calls of the index and any change, every backend that the change concerns is handled
once if its namespace is watched, and no backend of another namespace is handled. -/
structure HandlesOnce (c : Config) : Prop where
  once : ∀ calls e k, e.Concerns (after calls) k → c.watchScope.Covers k.ns →
    c.timesHandled (after calls) e k = 1
  inside : ∀ calls e k, ¬ c.watchScope.Covers k.ns → c.timesHandled (after calls) e k = 0

/-- The change of a Service concerns a backend that was said to refer to it. -/
theorem concerns_single (k : Key) :
    Event.Concerns (after [.update k (.ofList [(⟨"", "svc"⟩, ())])])
      (.service { metadata := { name := some "svc" } }) k := by
  rw [Event.concerns_after]
  refine ⟨⟨"", "svc"⟩, rfl, .ofList [(⟨"", "svc"⟩, ())], ?_, by decide⟩
  simp [ServiceIndex.mostRecent?, Call.backend]

/-- Each backend is handled once just if no namespace is listed twice. -/
theorem handlesOnce_iff : c.HandlesOnce ↔ c.watchScope.namespaces.Nodup := by
  rw [← WatchScope.owners_le_one_iff]
  constructor
  · intro h ns
    by_cases hns : c.watchScope.Covers ns
    · have hconcerns := concerns_single ⟨ns, "web"⟩
      rw [← timesHandled_of_concerns hconcerns, h.once _ _ _ hconcerns hns]
    · rw [WatchScope.owners_eq_zero.2 hns]
      exact Nat.zero_le 1
  · intro h
    refine ⟨fun calls e k hconcerns hcovers => ?_, fun calls e k hcovers => ?_⟩
    · have hpos : c.watchScope.owners k.ns ≠ 0 := fun h0 => WatchScope.owners_eq_zero.1 h0 hcovers
      have hle := h k.ns
      rw [timesHandled_of_concerns hconcerns]
      omega
    · rw [timesHandled, WatchScope.count_handled, WatchScope.owners_eq_zero.2 hcovers, Nat.zero_mul]

/-- How the controllers of a configuration share out what they handle. -/
structure SharesOut (c : Config) : Prop where
  /-- Namespaces are what is left of the parts of a comma-separated list, repeats included. -/
  listed : ∃ parts, Text.IsCommaList c.watchNamespace parts ∧
    c.watchScope.namespaces = (parts.map Text.trim).filter (· ≠ "")
  /-- One controller is started for each, or one without a namespace if there is none. -/
  started : ∀ s world, (Simulation.Fleet.start s c.watchScope world).2.controllers.map (·.ns) =
    if c.watchScope.namespaces = [] then [none] else c.watchScope.namespaces.map some
  /-- With that one alone, all that a change concerns are handled once. -/
  whole : c.watchScope.namespaces = [] → ∀ x e k, e.Concerns x k → c.timesHandled x e k = 1
  /-- Otherwise they are handled as often as their namespace is listed. -/
  shared : c.watchScope.namespaces ≠ [] → ∀ x e k, e.Concerns x k →
    c.timesHandled x e k = c.watchScope.namespaces.count k.ns
  /-- Nothing is handled that the change does not concern. -/
  spared : ∀ x e k, ¬ e.Concerns x k → c.timesHandled x e k = 0
  /-- What is watched is handled, and nothing else is. -/
  reached : ∀ x e k, 0 < c.timesHandled x e k ↔ e.Concerns x k ∧ c.watchScope.Covers k.ns
  /-- It is handled once just if no namespace is listed twice. -/
  once : c.HandlesOnce ↔ c.watchScope.namespaces.Nodup

/-- Backends that are watched are handled, as often as their namespace is listed, and others are
not. -/
theorem sharesOut (c : Config) : c.SharesOut where
  listed := ⟨_, Text.isCommaList_pieces _, (Text.isCommaList_pieces _).namespacesOf⟩
  started s world := by
    rw [WatchScope.map_ns_start, WatchScope.controllers]
    simp
  whole hnone x e k hconcerns := by
    rw [timesHandled_of_concerns hconcerns, WatchScope.owners, if_pos hnone]
  shared hsome x e k hconcerns := by
    rw [timesHandled_of_concerns hconcerns, WatchScope.owners, if_neg hsome]
  spared x e k h := timesHandled_of_not_concerns h
  reached x e k := by
    by_cases hconcerns : e.Concerns x k
    · rw [timesHandled_of_concerns hconcerns, Nat.pos_iff_ne_zero, Ne, WatchScope.owners_eq_zero]
      simp [hconcerns]
    · simp [timesHandled_of_not_concerns hconcerns, hconcerns]
  once := handlesOnce_iff

/-- A namespace that is listed twice has two controllers, and both handle its backends. -/
theorem handled_twice :
    let c : Config :=
      { apiUrl := "http://127.0.0.1:5555", apiUser := "admin", apiPassword := "secret"
        apiTimeoutSecs := 30, forceReload := false, watchNamespace := "a, a", watchLabel := none
        metricsAddress := .v4 0 8080 }
    let web : Key := ⟨"a", "web"⟩
    let x := after [.update web (.ofList [(⟨"a", "svc"⟩, ())])]
    let e : Event := .service { metadata := { ns := some "a", name := some "svc" } }
    c.validate = .ok () ∧ c.watchScope.controllers = [some "a", some "a"] ∧ e.named x = [web] ∧
      c.watchScope.handled (e.named x) = [web, web] ∧ ¬ c.HandlesOnce := by
  intro c web x e
  have hnamespaces : c.watchScope.namespaces = ["a", "a"] := by decide +kernel
  refine ⟨by decide +kernel, by decide +kernel, by decide +kernel, by decide +kernel, ?_⟩
  rw [handlesOnce_iff, hnamespaces]
  decide

end Config
end ProxySync
