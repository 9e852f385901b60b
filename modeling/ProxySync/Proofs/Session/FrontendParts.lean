import ProxySync.Proofs.DataPlane.Address
import ProxySync.Proofs.Session.Operations
import ProxySync.Proofs.Session.Ownership
/-!
# Who owns the parts of a frontend

Binds and switching rules have no description of their own: they belong to whoever the frontend
belongs to. The operations on them never look at the frontend, and write whatever its description
is. So they leave the frontends of others alone just where an earlier operation of the session has
made sure of the frontend, as `ensureFrontend` does when it ends well.

## Main definitions

* `Configuring.partOf?`: the frontend that an operation on its parts is about.
* `Performed.Sees`: an operation has seen that a section is absent or its own.
* `PartsOwnership`: what a history does about the owner of such a frontend.

## Main statements

* `Client.parts_ownership`: every history does that.
* `Client.foreign_bound`: a bind is added to a frontend of others.
-/
namespace ProxySync
open DataPlane (Client Request)

/-- The frontend whose parts an operation is about. -/
def Configuring.partOf? : Configuring → Option String
  | ensureBind frontend _ => some frontend
  | ensureRule frontend _ => some frontend
  | deleteRule frontend _ => some frontend
  | _ => none

/-- A request about the binds or the rules of a frontend, or for the version that scopes one. -/
def DataPlane.Request.ConcernsPartsOf (frontend : String) (q : Request) : Prop :=
  q = DataPlane.Client.versionRequest ∨ ∃ kind rest,
    q.endpoint.segments = "frontends" :: frontend :: kind :: rest ∧
      (kind = "binds" ∨ kind = "backend_switching_rules")

namespace Performed

/-- The operation has seen that the section is absent or belongs to this program. -/
def Sees (o : Section) (p : Performed) : Prop := ∃ x ∈ p.sent, x.FindsNone o ∨ x.FindsOwn o

/-- The operation has sent a write. -/
def Writes (p : Performed) : Prop := ∃ x ∈ p.sent, x.request.Writes

end Performed

/-- An operation writes to a section only if it, or one before it, has seen that this is allowed. -/
def Respects (o : Section) (before : List Performed) (p : Performed) : Prop :=
  p.Writes → ∃ p' ∈ before ++ [p], p'.Sees o

/-- What a history does about the owner of a frontend when it is asked for binds and rules. -/
structure PartsOwnership (ps : List Performed) : Prop where
  /-- Nothing but binds and rules of the frontend is asked for or written. -/
  parts : ∀ p ∈ ps, ∀ q, p.operation = .configure q → ∀ frontend, q.partOf? = some frontend →
    ∀ x ∈ p.sent, x.request.ConcernsPartsOf frontend
  /-- The operation itself never sees whose the frontend is. -/
  blind : ∀ p ∈ ps, ∀ q, p.operation = .configure q → ∀ frontend, q.partOf? = some frontend →
    ∀ x ∈ p.sent, ¬ x.request.LooksAt (.frontend frontend)
  /-- Nor does it refuse a frontend of others. -/
  unrefused : ∀ p ∈ ps, ∀ q, p.operation = .configure q → ∀ frontend, q.partOf? = some frontend →
    ∀ kind name, p.result ≠ .error (.notManaged kind name)
  /-- So the frontends of others are respected just where nothing is written, or an earlier
  operation has seen that the frontend is absent or own. -/
  respects_iff : ∀ before p rest, ps = before ++ p :: rest → ∀ q, p.operation = .configure q →
    ∀ frontend, q.partOf? = some frontend →
      (Respects (.frontend frontend) before p ↔
        ¬ p.Writes ∨ ∃ p' ∈ before, p'.Sees (.frontend frontend))
  /-- Making the frontend the wanted one, if that goes well, is such an operation. -/
  ensured : ∀ p ∈ ps, ∀ wanted, p.operation = .configure (.ensureFrontend wanted) →
    p.result.isOk = true → p.Sees (.frontend wanted.name)

namespace DataPlane.Client
open SessionM
variable {σ : Type} {c : Client} {s : Session} {frontend : String}

/-- One request about binds or rules. -/
theorem Poses.concernsPartsOf {α : Type} {x : SessionM α} {method : Method} {kind : String}
    {rest : List String} {body : Option Json} {judge : Response → Except ClientError α}
    (hx : Poses c x method ("frontends" :: frontend :: kind :: rest) body judge)
    (hkind : kind = "binds" ∨ kind = "backend_switching_rules") :
    Only (·.ConcernsPartsOf frontend) x :=
  hx.only (.inl rfl) fun _ => .inr ⟨kind, rest, rfl, hkind⟩

theorem parts_ensureBind (frontend : String) (wanted : Wire.Bind) :
    Only (·.ConcernsPartsOf frontend) (c.ensureBind frontend wanted) := by
  refine (poses_list.concernsPartsOf (.inl rfl)).bind fun binds => ?_
  split
  · exact only_pure _
  · exact ((poses_write (.inl rfl)).concernsPartsOf (.inl rfl)).bind fun _ => only_pure _

theorem parts_ensureRule (frontend : String) (wanted : Wire.SwitchingRule) :
    Only (·.ConcernsPartsOf frontend) (c.ensureRule frontend wanted) := by
  refine (poses_list.concernsPartsOf (.inr rfl)).bind fun rules => ?_
  split
  · exact only_pure _
  · exact ((poses_write (.inr rfl)).concernsPartsOf (.inr rfl)).bind fun _ => only_pure _

theorem parts_deleteRule (frontend : String) (index : Nat) :
    Only (·.ConcernsPartsOf frontend) (c.deleteRule frontend index) :=
  poses_delete.concernsPartsOf (.inr rfl)

/-- The operations on parts ask for nothing else. -/
theorem only_parts {q : Configuring} (hq : q.partOf? = some frontend) :
    Only (·.ConcernsPartsOf frontend) (q.step c) := by
  cases q <;> cases hq
  case ensureBind wanted => exact parts_ensureBind frontend wanted
  case ensureRule wanted => exact parts_ensureRule frontend wanted
  case deleteRule index => exact parts_deleteRule frontend index

/-! ### Refusals -/

/-- The step does not fail because something belongs to others. -/
def Unrefused {α : Type} (x : SessionM α) : Prop :=
  ∀ s sent e s', Conduct x s sent (.error e) s' → ∀ kind name, e ≠ .notManaged kind name

theorem unrefused_pure {α : Type} (a : α) : Unrefused (pure a) := by
  intro s sent e s' h
  cases (conduct_pure.1 h).2.1

theorem Unrefused.bind {α β : Type} {x : SessionM α} {f : α → SessionM β} (hx : Unrefused x)
    (hf : ∀ a, Unrefused (f a)) : Unrefused (x >>= f) := by
  intro s sent e s' h
  obtain ⟨_, _, a, _, _, _, h₂⟩ | ⟨_, he, h₁⟩ := conduct_bind.1 h
  · exact hf a _ _ _ _ h₂
  · cases he
    exact hx _ _ _ _ h₁

/-- What is made of a reply is a refusal only if what is made of an answer is. -/
theorem ne_notManaged_of_received {α : Type} {e : Endpoint}
    {judge : Response → Except ClientError α}
    (hjudge : ∀ a err, judge a = .error err → ∀ kind name, err ≠ .notManaged kind name)
    {reply : Reply} {err : ClientError} (h : (c.received e reply).bind judge = .error err)
    (kind name : String) : err ≠ .notManaged kind name := by
  cases reply with
  | lost cause =>
    cases h
    exact ClientError.noConfusion
  | answered status body => exact hjudge _ _ h kind name

theorem ne_notManaged_of_versionIn (a : Response) (err : ClientError)
    (h : versionIn a = .error err) (kind name : String) : err ≠ .notManaged kind name := by
  rw [versionIn] at h
  split at h
  · split at h
    · cases h
    · cases h
      exact ClientError.noConfusion
  · cases h
    exact ClientError.noConfusion

theorem unrefused_scope : Unrefused c.scope := by
  intro s sent e s' h kind name
  cases ht : s.transaction with
  | some t => cases ((conduct_scope_open ht).1 h).2.1
  | none =>
    obtain ⟨reply, _, _, hr⟩ := (conduct_scope_closed ht).1 h
    cases hv : (c.received versionEndpoint reply).bind versionIn with
    | ok v => rw [hv] at hr; cases hr
    | error err =>
      rw [hv] at hr
      cases hr
      exact ne_notManaged_of_received ne_notManaged_of_versionIn hv kind name

/-- Neither does a request whose answers are never taken for a refusal. -/
theorem Poses.unrefused {α : Type} {x : SessionM α} {method : Method} {segments : List String}
    {body : Option Json} {judge : Response → Except ClientError α}
    (hx : Poses c x method segments body judge)
    (hjudge : ∀ a err, judge a = .error err → ∀ kind name, err ≠ .notManaged kind name) :
    Unrefused x := by
  intro s sent e s' h
  obtain ⟨_, he, hscope⟩ | ⟨_, _, _, _, _, hr, _⟩ := (hx _ _ _ _).1 h
  · cases he
    exact unrefused_scope _ _ _ _ hscope
  · exact ne_notManaged_of_received hjudge hr.symm

theorem unrefused_list {α : Type} {segments : List String} {operation what : String}
    {read : Json → Option α} : Unrefused (c.list segments operation what read) := by
  refine poses_list.unrefused fun a err h kind name => ?_
  rw [listedIn, readIn] at h
  split at h
  · split at h
    · cases h
    · cases h
      exact ClientError.noConfusion
  · cases h
    exact ClientError.noConfusion

theorem unrefused_write {method : Method} {segments : List String} {body : Json}
    {operation resource change : String} (hm : method = .post ∨ method = .put) :
    Unrefused (c.write method segments body operation resource change) := by
  refine (poses_write hm).unrefused fun a err h kind name => ?_
  rw [writtenIn] at h
  split at h
  · cases h
  · cases h
    exact ClientError.noConfusion

theorem unrefused_delete {segments : List String} {operation resource : String} :
    Unrefused (c.delete segments operation resource) := by
  refine poses_delete.unrefused fun a err h kind name => ?_
  rw [deletedIn] at h
  split at h
  · cases h
  · split at h
    · cases h
    · split at h
      · cases h
      · cases h
        exact ClientError.noConfusion

/-- No operation on parts refuses a frontend. -/
theorem unrefused_parts {q : Configuring} (hq : q.partOf? = some frontend) :
    Unrefused (q.step c) := by
  cases q <;> cases hq
  case ensureBind wanted =>
    refine unrefused_list.bind fun binds => ?_
    split
    · exact unrefused_pure _
    · exact (unrefused_write (.inl rfl)).bind fun _ => unrefused_pure _
  case ensureRule wanted =>
    refine unrefused_list.bind fun rules => ?_
    split
    · exact unrefused_pure _
    · exact (unrefused_write (.inr rfl)).bind fun _ => unrefused_pure _
  case deleteRule index => exact unrefused_delete

/-! ### Histories -/

/-- The parts of a frontend are below it. -/
theorem not_looksAt_of_parts {q : Request} (h : q.ConcernsPartsOf frontend) :
    ¬ q.LooksAt (.frontend frontend) := by
  obtain rfl | ⟨kind, rest, hsegments, _⟩ := h
  · exact (isQuiet_versionRequest _).2
  · intro hlooks
    have hsection : q.endpoint.segments = ["frontends", frontend] := hlooks.2.2
    simp [hsegments] at hsection

theorem History.partsOwnership {ps : List Performed} (h : History c s ps) : PartsOwnership ps := by
  have hparts : ∀ p ∈ ps, ∀ q, p.operation = .configure q → ∀ frontend,
      q.partOf? = some frontend → ∀ x ∈ p.sent, x.request.ConcernsPartsOf frontend := by
    rintro ⟨op, s, sent, r, s'⟩ hp q hop frontend hq
    obtain rfl : op = .configure q := hop
    exact only_parts hq _ _ _ _ (h.conduct hp)
  have hblind : ∀ p ∈ ps, ∀ q, p.operation = .configure q → ∀ frontend,
      q.partOf? = some frontend → ∀ x ∈ p.sent, ¬ x.request.LooksAt (.frontend frontend) :=
    fun p hp q hop frontend hq x hx => not_looksAt_of_parts (hparts p hp q hop frontend hq x hx)
  refine ⟨hparts, hblind, ?_, ?_, ?_⟩
  · rintro ⟨op, s, sent, r, s'⟩ hp q hop frontend hq kind name hr
    obtain rfl : op = .configure q := hop
    obtain rfl : r = .error (.notManaged kind name) := hr
    exact unrefused_parts hq _ _ _ _ (h.conduct hp) kind name rfl
  · rintro before p rest rfl q hop frontend hq
    have hself : ¬ p.Sees (.frontend frontend) := by
      rintro ⟨x, hx, hfinds⟩
      have hno := hblind p (by simp) q hop frontend hq x hx
      exact hfinds.elim (fun hnone => hno hnone.1) fun hown => hno hown.1
    constructor
    · intro hrespects
      by_cases hwrites : p.Writes
      · obtain ⟨p', hp', hsees⟩ := hrespects hwrites
        rcases List.mem_append.1 hp' with hp' | hp'
        · exact .inr ⟨p', hp', hsees⟩
        · rw [List.mem_singleton.1 hp'] at hsees
          exact absurd hsees hself
      · exact .inl hwrites
    · rintro (hnone | ⟨p', hp', hsees⟩) hwrites
      · exact absurd hwrites hnone
      · exact ⟨p', List.mem_append_left _ hp', hsees⟩
  · rintro ⟨op, s, sent, r, s'⟩ hp wanted hop hok
    obtain rfl : op = .configure (.ensureFrontend wanted) := hop
    exact (guards_ensureFrontend wanted _ _ _ _ (h.conduct hp)).passed hok

/-- Whatever a session is asked for, in whatever state it is and whatever the Data Plane replies,
the operations on binds and rules leave it to the operations before them whose the frontend is. -/
theorem parts_ownership (c : Client) (env : Environment DataPlane.interface σ)
    (ops : List Operation) (s : Session) (w : σ) : PartsOwnership (c.performed env ops s w) :=
  (history_performed c env ops s w).partsOwnership

/-- A Data Plane with a frontend that somebody has made by hand. It has no binds, and takes every
write. -/
def madeByHand : Environment DataPlane.interface Unit
  | .request q, w =>
    (match q.method, q.endpoint.segments with
      | .get, ["version"] => .answered 200 "1"
      | .get, ["frontends", name] =>
        .answered 200 (Json.obj [("name", .str name), ("description", .str "by hand")]).print
      | .get, _ => .answered 200 "[]"
      | _, _ => .answered 201 "", w)
  | .measure _, w => ((), w)

/-- Looking at the frontend and adding a bind to it. -/
def binding : List Performed :=
  (onThisHost 5555 "admin" "secret").performed madeByHand
    [.configure (.getFrontend "web"),
      .configure (.ensureBind "web" { name := none, address := some "0.0.0.0", port := some 80 })]
    .fresh ()

/-- A bind is added to a frontend that the session itself has seen to be that of others. -/
theorem foreign_bound :
    ∃ p₁ p₂, binding = [p₁, p₂] ∧ (∃ x ∈ p₁.sent, x.FindsForeign (.frontend "web")) ∧
      (∃ x ∈ p₂.sent, x.request.Writes ∧ x.changes = true) ∧
      ¬ Respects (.frontend "web") [p₁] p₂ := by
  have hseen : binding[0]?.any (fun p => p.sent[1]?.any fun x =>
      x.request.method = .get && x.request.endpoint.area = .configuration &&
        x.request.endpoint.segments = ["frontends", "web"] &&
        x.reply.tells (Section.frontend "web").description? = some (some "by hand")) = true := by
    decide +kernel
  have hwritten : binding[1]?.any (fun p => p.sent[3]?.any fun x =>
      x.request.method = .post && x.request.endpoint.area = .configuration &&
        x.changes) = true := by
    decide +kernel
  have hunseen : binding.all (fun p => p.sent.all fun x =>
      x.request.endpoint.segments ≠ ["frontends", "web"] || !x.reply.isAbsent &&
        x.reply.tells (Section.frontend "web").description? ≠ some (some Wire.managed)) = true := by
    decide +kernel
  obtain ⟨p₁, p₂, hbinding⟩ : ∃ p₁ p₂, binding = [p₁, p₂] := ⟨_, _, rfl⟩
  rw [hbinding] at hseen hwritten hunseen
  simp only [List.getElem?_cons_zero, List.getElem?_cons_succ, Option.any_some] at hseen hwritten
  obtain ⟨x, hx, hforeign⟩ := (Option.any_eq_true _ _).1 hseen
  obtain ⟨y, hy, hposted⟩ := (Option.any_eq_true _ _).1 hwritten
  simp only [Bool.and_eq_true, decide_eq_true_eq] at hforeign hposted
  obtain ⟨⟨⟨hget, harea⟩, hsegments⟩, htells⟩ := hforeign
  obtain ⟨⟨hpost, harea'⟩, hchanges⟩ := hposted
  have hwrites : y.request.Writes := ⟨harea', by rw [hpost]; decide⟩
  refine ⟨p₁, p₂, hbinding,
    ⟨x, List.mem_of_getElem? hx, ⟨hget, harea, hsegments⟩, some "by hand", htells, by decide⟩,
    ⟨y, List.mem_of_getElem? hy, hwrites, hchanges⟩, fun hrespects => ?_⟩
  obtain ⟨p, hp, z, hz, hfinds⟩ := hrespects ⟨y, List.mem_of_getElem? hy, hwrites⟩
  have hno := List.all_eq_true.1 (List.all_eq_true.1 hunseen p hp) z hz
  obtain ⟨⟨_, _, hplace⟩, habsent⟩ | ⟨⟨_, _, hplace⟩, howned⟩ := hfinds
  · simp [show z.request.endpoint.segments = ["frontends", "web"] from hplace, habsent] at hno
  · simp [show z.request.endpoint.segments = ["frontends", "web"] from hplace, howned] at hno
end DataPlane.Client
end ProxySync
