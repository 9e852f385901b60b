import ProxySync.Proofs.DataPlane.Naming
import ProxySync.Proofs.Session.Questions
import ProxySync.Session.Frontends
/-!
# Nothing of others is touched

A section of the configuration belongs to this program if its description says so. Whatever the
Data Plane replies, a run looks at the section before it writes anything, goes on only if the
section is absent or its own, and stamps every section it writes as its own.

## Main definitions

* `Section`: a section of the configuration that may belong to somebody else.
* `Guarded`: a list of requests in which every write is allowed by a look at the section.
* `Client.SentByName`: a request that is sent to the URL of a section just if it is about it.

## Main statements

* `Guarded.of_look`: a single look guards what comes after it.
* `Client.sentByName_apply`: no request of a pass about checks or servers is sent to the URL of the
  section.
* `Client.ownership`: the requests of every operation on a section are guarded, in every session and
  every environment.
-/
namespace ProxySync

/-- A section of the configuration. -/
structure Section where
  /-- What failures call it. -/
  kind : String
  collection : String
  name : String
  /-- The description in a body that shows the section. -/
  description? : Json → Option (Option String)

namespace Section

/-- The backend section of a name. -/
def backend (name : String) : Section :=
  { kind := "backend", collection := "backends", name
    description? := fun j => (Wire.Backend.ofJson? j).map (·.description) }

/-- The frontend section of a name. -/
def frontend (name : String) : Section :=
  { kind := "frontend", collection := "frontends", name
    description? := fun j => (Wire.Frontend.ofJson? j).map (·.description) }

/-- The names on the way to the section. -/
def segments (o : Section) : List String := [o.collection, o.name]

end Section

namespace DataPlane.Request

/-- A write of the configuration. -/
def Writes (q : Request) : Prop := q.endpoint.area = .configuration ∧ q.method ≠ .get

/-- A look at a section. -/
def LooksAt (o : Section) (q : Request) : Prop :=
  q.method = .get ∧ q.endpoint.area = .configuration ∧ q.endpoint.segments = o.segments

/-- The deletion of a section. -/
def Deletes (o : Section) (q : Request) : Prop :=
  q.method = .delete ∧ q.endpoint.area = .configuration ∧ q.endpoint.segments = o.segments

/-- A write of the definition of any section: into its collection or in its place. -/
def Defines (q : Request) : Prop :=
  q.endpoint.area = .configuration ∧
    ((q.method = .post ∧ ∃ k, q.endpoint.segments = [k]) ∨
      (q.method = .put ∧ ∃ k n, q.endpoint.segments = [k, n]))

/-- The body has the description of what this program owns. -/
def IsStamped (q : Request) : Prop :=
  q.body.bind (Json.field? "description") = some (.str Wire.managed)

/-- A request that has nothing to do with writing, nor with the section. -/
def IsQuiet (o : Section) (q : Request) : Prop := ¬ q.Writes ∧ ¬ q.LooksAt o

/-- A request that may follow a look: not another look, and stamped if it defines a section. -/
def MayFollow (o : Section) (q : Request) : Prop :=
  ¬ q.LooksAt o ∧ (q.Defines → q.IsStamped)

/-- A request beside the sections themselves, as those for checks and servers are. -/
def IsBeside (o : Section) (q : Request) : Prop := q.MayFollow o ∧ ¬ q.Deletes o

theorem Defines.writes {q : Request} (h : q.Defines) : q.Writes := by
  obtain ⟨harea, ⟨hm, _⟩ | ⟨hm, _⟩⟩ := h <;> exact ⟨harea, by simp [hm]⟩

theorem Deletes.writes {o : Section} {q : Request} (h : q.Deletes o) : q.Writes :=
  ⟨h.2.1, by simp [h.1]⟩

theorem IsQuiet.isBeside {o : Section} {q : Request} (h : q.IsQuiet o) : q.IsBeside o :=
  ⟨⟨h.2, fun hd => absurd hd.writes h.1⟩, fun hd => h.1 hd.writes⟩

end DataPlane.Request

namespace Sent

/-- The section was found to be absent. -/
def FindsNone (o : Section) (x : Sent) : Prop :=
  x.request.LooksAt o ∧ x.reply.isAbsent = true

/-- The section was found to belong to this program. -/
def FindsOwn (o : Section) (x : Sent) : Prop :=
  x.request.LooksAt o ∧ x.reply.tells o.description? = some (some Wire.managed)

/-- The section was found to belong to somebody else, or to nobody. -/
def FindsForeign (o : Section) (x : Sent) : Prop :=
  x.request.LooksAt o ∧ ∃ d, x.reply.tells o.description? = some d ∧ d ≠ some Wire.managed

end Sent

/-- Requests in which every write is allowed by the one look at the section. -/
structure Guarded {α : Type} (o : Section) (sent : List Sent) (r : Except ClientError α) :
    Prop where
  /-- The section is looked at once at most. -/
  once : sent.Pairwise fun x y => x.request.LooksAt o → ¬ y.request.LooksAt o
  /-- Nothing is written before the section was found absent or own. -/
  write : (∃ x ∈ sent, x.request.Writes) → ∃ front look rest, sent = front ++ look :: rest ∧
    (∀ x ∈ front, ¬ x.request.Writes) ∧ (look.FindsNone o ∨ look.FindsOwn o)
  /-- The section is not deleted before it was found own. -/
  deletion : (∃ x ∈ sent, x.request.Deletes o) → ∃ front look rest, sent = front ++ look :: rest ∧
    (∀ x ∈ front, ¬ x.request.Writes) ∧ look.FindsOwn o
  /-- A section of others is reported by its kind and name, and nothing at all is written. -/
  foreign : (∃ x ∈ sent, x.FindsForeign o) →
    r = .error (.notManaged o.kind o.name) ∧ ∀ x ∈ sent, ¬ x.request.Writes
  /-- Every definition that is written is stamped. -/
  stamped : ∀ x ∈ sent, x.request.Defines → x.request.IsStamped
  /-- No success without such a look. -/
  passed : r.isOk = true → ∃ x ∈ sent, x.FindsNone o ∨ x.FindsOwn o

namespace Guarded
variable {α β : Type} {o : Section} {sent₁ sent₂ sent : List Sent}

/-- Requests that do not look at the section do not look at it twice. -/
theorem once_of_not_looksAt (h : ∀ x ∈ sent, ¬ x.request.LooksAt o) :
    sent.Pairwise fun x y => x.request.LooksAt o → ¬ y.request.LooksAt o :=
  List.pairwise_of_forall_mem_list fun x hx _ _ hl => absurd hl (h x hx)

/-- A failure without a look and without writes. -/
theorem of_quiet {e : ClientError} (h : ∀ x ∈ sent, x.request.IsQuiet o) :
    Guarded o sent (.error e : Except ClientError α) where
  once := once_of_not_looksAt fun x hx => (h x hx).2
  write := fun ⟨x, hx, hw⟩ => absurd hw (h x hx).1
  deletion := fun ⟨x, hx, hd⟩ => absurd hd.writes (h x hx).1
  foreign := fun ⟨x, hx, hf⟩ => absurd hf.1 (h x hx).2
  stamped x hx hd := absurd hd.writes (h x hx).1
  passed := by simp [Except.isOk, Except.toBool]

/-- A single look guards what comes after it. -/
theorem of_look {look : Sent} {rest : List Sent} {r : Except ClientError α}
    (hlook : look.request.LooksAt o) (hrest : ∀ x ∈ rest, x.request.MayFollow o)
    (hwrite : (∃ x ∈ rest, x.request.Writes) → look.FindsNone o ∨ look.FindsOwn o)
    (hdelete : (∃ x ∈ rest, x.request.Deletes o) → look.FindsOwn o)
    (hforeign : look.FindsForeign o →
      r = .error (.notManaged o.kind o.name) ∧ ∀ x ∈ rest, ¬ x.request.Writes)
    (hok : r.isOk = true → look.FindsNone o ∨ look.FindsOwn o) : Guarded o (look :: rest) r := by
  have hget : ¬ look.request.Writes := fun hw => hw.2 hlook.1
  constructor
  case once =>
    exact List.pairwise_cons.2
      ⟨fun y hy _ => (hrest y hy).1, once_of_not_looksAt fun x hx => (hrest x hx).1⟩
  case write =>
    rintro ⟨x, hx, hw⟩
    refine ⟨[], look, rest, rfl, by simp, hwrite ⟨x, ?_, hw⟩⟩
    exact (List.mem_cons.1 hx).resolve_left fun h => hget (h ▸ hw)
  case deletion =>
    rintro ⟨x, hx, hd⟩
    refine ⟨[], look, rest, rfl, by simp, hdelete ⟨x, ?_, hd⟩⟩
    exact (List.mem_cons.1 hx).resolve_left fun h => hget (h ▸ hd.writes)
  case foreign =>
    rintro ⟨x, hx, hf⟩
    obtain rfl : x = look :=
      (List.mem_cons.1 hx).resolve_right fun hx => (hrest x hx).1 hf.1
    obtain ⟨hr, hno⟩ := hforeign hf
    refine ⟨hr, fun y hy hw => ?_⟩
    rcases List.mem_cons.1 hy with rfl | hy
    · exact hget hw
    · exact hno y hy hw
  case stamped =>
    intro x hx hd
    rcases List.mem_cons.1 hx with rfl | hx
    · exact absurd hd.writes hget
    · exact (hrest x hx).2 hd
  case passed => exact fun h => ⟨look, by simp, hok h⟩

section
variable {look : Sent} {rest : List Sent}

/-- Where the section is absent, requests beside it may follow. -/
theorem of_absent {r : Except ClientError α} (hfree : look.FindsNone o)
    (hrest : ∀ x ∈ rest, x.request.IsBeside o) : Guarded o (look :: rest) r := by
  refine .of_look hfree.1 (fun x hx => (hrest x hx).1) (fun _ => .inl hfree) ?_ ?_
    fun _ => .inl hfree
  · rintro ⟨x, hx, hd⟩
    exact absurd hd (hrest x hx).2
  · rintro ⟨_, d, hd, _⟩
    have habsent := hfree.2
    rw [DataPlane.Client.not_isAbsent_of_tells hd] at habsent
    cases habsent

/-- Where the section belongs to this program, it may also be deleted. -/
theorem of_own {r : Except ClientError α} (hmine : look.FindsOwn o)
    (hrest : ∀ x ∈ rest, x.request.MayFollow o) : Guarded o (look :: rest) r := by
  refine .of_look hmine.1 hrest (fun _ => .inr hmine) (fun _ => hmine) ?_ fun _ => .inr hmine
  rintro ⟨_, d, hd, hne⟩
  rw [hmine.2] at hd
  exact absurd (Option.some.inj hd).symm hne

/-- A failure right after the look. -/
theorem of_failed {e : ClientError} (hlook : look.request.LooksAt o)
    (hforeign : look.FindsForeign o → e = .notManaged o.kind o.name) :
    Guarded o [look] (.error e : Except ClientError α) := by
  refine .of_look hlook (by simp) (by simp) (by simp) (fun hf => ⟨?_, by simp⟩)
    (by simp [Except.isOk, Except.toBool])
  rw [hforeign hf]

end

/-- Quiet requests may come first. -/
theorem after {r : Except ClientError α} (h₁ : ∀ x ∈ sent₁, x.request.IsQuiet o)
    (h₂ : Guarded o sent₂ r) : Guarded o (sent₁ ++ sent₂) r := by
  have hmem {P : Sent → Prop} (hq : ∀ x ∈ sent₁, ¬ P x) :
      (∃ x ∈ sent₁ ++ sent₂, P x) → ∃ x ∈ sent₂, P x := by
    rintro ⟨x, hx, hP⟩
    rcases List.mem_append.1 hx with hx | hx
    · exact absurd hP (hq x hx)
    · exact ⟨x, hx, hP⟩
  have hfront {front : List Sent} (hf : ∀ x ∈ front, ¬ x.request.Writes) :
      ∀ x ∈ sent₁ ++ front, ¬ x.request.Writes := fun x hx =>
    (List.mem_append.1 hx).elim (fun hx => (h₁ x hx).1) (hf x)
  constructor
  case once =>
    exact List.pairwise_append.2 ⟨once_of_not_looksAt fun x hx => (h₁ x hx).2, h₂.once,
      fun x hx _ _ hl => absurd hl (h₁ x hx).2⟩
  case write =>
    intro h
    obtain ⟨front, look, rest, rfl, hf, hlook⟩ := h₂.write (hmem (fun x hx => (h₁ x hx).1) h)
    exact ⟨sent₁ ++ front, look, rest, (List.append_assoc ..).symm, hfront hf, hlook⟩
  case deletion =>
    intro h
    obtain ⟨front, look, rest, rfl, hf, hlook⟩ :=
      h₂.deletion (hmem (fun x hx hd => (h₁ x hx).1 hd.writes) h)
    exact ⟨sent₁ ++ front, look, rest, (List.append_assoc ..).symm, hfront hf, hlook⟩
  case foreign =>
    intro h
    obtain ⟨hr, hno⟩ := h₂.foreign (hmem (fun x hx hf => (h₁ x hx).2 hf.1) h)
    exact ⟨hr, hfront hno⟩
  case stamped =>
    intro x hx hd
    rcases List.mem_append.1 hx with hx | hx
    · exact absurd hd.writes (h₁ x hx).1
    · exact h₂.stamped x hx hd
  case passed =>
    intro h
    obtain ⟨x, hx, hlook⟩ := h₂.passed h
    exact ⟨x, List.mem_append_right _ hx, hlook⟩

/-- After a success requests beside the section may follow; after a failure only quiet ones. -/
theorem append {r₁ : Except ClientError β} {r : Except ClientError α} (h₁ : Guarded o sent₁ r₁)
    (h₂ : ∀ x ∈ sent₂, x.request.IsBeside o)
    (hr : ∀ e, r₁ = .error e → r = .error e ∧ ∀ x ∈ sent₂, ¬ x.request.Writes) :
    Guarded o (sent₁ ++ sent₂) r := by
  have hextend {P : Sent → Prop} :
      (∃ front look rest, sent₁ = front ++ look :: rest ∧ (∀ x ∈ front, ¬ x.request.Writes) ∧
        P look) → ∃ front look rest, sent₁ ++ sent₂ = front ++ look :: rest ∧
        (∀ x ∈ front, ¬ x.request.Writes) ∧ P look := by
    rintro ⟨front, look, rest, rfl, hf, hlook⟩
    exact ⟨front, look, rest ++ sent₂, by simp, hf, hlook⟩
  constructor
  case once =>
    exact List.pairwise_append.2 ⟨h₁.once, once_of_not_looksAt fun x hx => (h₂ x hx).1.1,
      fun _ _ y hy _ => (h₂ y hy).1.1⟩
  case write =>
    rintro ⟨x, hx, hw⟩
    rcases List.mem_append.1 hx with hx | hx
    · exact hextend (h₁.write ⟨x, hx, hw⟩)
    · -- A write after the first part: that part succeeded, so it has looked.
      cases hr₁ : r₁ with
      | error e => exact absurd hw ((hr e hr₁).2 x hx)
      | ok b =>
        obtain ⟨look, hmem, hlook⟩ := h₁.passed (by rw [hr₁]; rfl)
        by_cases hsome : ∃ x ∈ sent₁, x.request.Writes
        · exact hextend (h₁.write hsome)
        · obtain ⟨front, rest, rfl⟩ := List.append_of_mem hmem
          refine hextend ⟨front, look, rest, rfl, fun y hy hw => hsome ⟨y, ?_, hw⟩, hlook⟩
          exact List.mem_append_left _ hy
  case deletion =>
    rintro ⟨x, hx, hd⟩
    rcases List.mem_append.1 hx with hx | hx
    · exact hextend (h₁.deletion ⟨x, hx, hd⟩)
    · exact absurd hd (h₂ x hx).2
  case foreign =>
    rintro ⟨x, hx, hf⟩
    rcases List.mem_append.1 hx with hx | hx
    · obtain ⟨hr₁, hno⟩ := h₁.foreign ⟨x, hx, hf⟩
      obtain ⟨hr', hno'⟩ := hr _ hr₁
      exact ⟨hr', fun y hy => (List.mem_append.1 hy).elim (hno y) (hno' y)⟩
    · exact absurd hf.1 (h₂ x hx).1.1
  case stamped =>
    intro x hx
    exact (List.mem_append.1 hx).elim (h₁.stamped x) fun hx => (h₂ x hx).1.2
  case passed =>
    intro h
    cases hr₁ : r₁ with
    | error e => rw [(hr e hr₁).1] at h; cases h
    | ok b =>
      obtain ⟨x, hx, hlook⟩ := h₁.passed (by rw [hr₁]; rfl)
      exact ⟨x, List.mem_append_left _ hx, hlook⟩

end Guarded

namespace DataPlane.Client
open SessionM
variable {α β γ : Type} {c : Client} {o : Section} {P : Request → Prop}

/-! ## Guarded operations -/

/-- Every run of the step is guarded. -/
def Guards (o : Section) (x : SessionM α) : Prop :=
  ∀ s sent r s', Conduct x s sent r s' → Guarded o sent r

theorem isQuiet_versionRequest (o : Section) : versionRequest.IsQuiet o := by
  simp [Request.IsQuiet, Request.Writes, Request.LooksAt, versionRequest, versionEndpoint,
    Section.segments]

theorem isQuiet_openRequest (o : Section) (v : Int64) : (openRequest v).IsQuiet o := by
  simp [Request.IsQuiet, Request.Writes, Request.LooksAt, openRequest]

theorem isQuiet_commitRequest (o : Section) (t : Wire.Transaction) :
    (c.commitRequest t).IsQuiet o := by
  simp [Request.IsQuiet, Request.Writes, Request.LooksAt, commitRequest]

theorem isQuiet_discardRequest (o : Section) (t : Wire.Transaction) :
    (discardRequest t).IsQuiet o := by
  simp [Request.IsQuiet, Request.Writes, Request.LooksAt, discardRequest]

/-- What a reply tells of a section is part of what it tells of the object. -/
theorem tells_map {read : Json → Option α} {read' : Json → Option β} {f : α → β}
    (h : ∀ j, read' j = (read j).map f) (reply : Reply) :
    reply.tells read' = (reply.tells read).map f := by
  cases reply with
  | lost cause => rfl
  | answered status body =>
    simp only [Reply.tells]
    split
    · cases Json.parse? body with
      | none => rfl
      | some j => exact h j
    · rfl

/-- A look at a section, after which it is left alone unless it is absent or own. -/
theorem guards_look {read : Json → Option γ} {description : γ → Option String} {owned : γ → Bool}
    {operation what : String} {k : Option γ → SessionM α} {present : γ → SessionM α}
    (hread : ∀ j, o.description? j = (read j).map description)
    (howned : ∀ b, owned b = true ↔ description b = some Wire.managed)
    (hsome : ∀ b, k (some b) =
      if !owned b then SessionM.fail (.notManaged o.kind o.name) else present b)
    (habsent : Only (·.IsBeside o) (k none)) (hpresent : ∀ b, Only (·.MayFollow o) (present b)) :
    Guards o (c.find? o.segments operation what read >>= k) := by
  intro s sent r s' h
  have hquiet {sent r s'} (h : Conduct c.scope s sent r s') :
      ∀ x ∈ sent, x.request.IsQuiet o :=
    only_scope (P := (·.IsQuiet o)) (isQuiet_versionRequest o) _ _ _ _ h
  have hlooks (q : String × String) (reply : Reply) :
      (Sent.mk (scopedRequest .get o.segments none q) reply).request.LooksAt o := ⟨rfl, rfl, rfl⟩
  obtain ⟨sent₁, sent₂, found, s₁, rfl, hfind, h⟩ | ⟨e, rfl, hfind⟩ := conduct_bind.1 h
  · obtain ⟨_, hr, _⟩ | ⟨sent₀, q, reply, rfl, hscope, hr, rfl⟩ := (poses_find? _ _ _ _).1 hfind
    · cases hr
    rw [List.append_assoc]
    refine .after (hquiet hscope) ?_
    obtain ⟨rfl, habs⟩ | ⟨hfound, hthere⟩ := of_found hr
    · exact .of_absent ⟨hlooks q reply, habs⟩ (habsent _ _ _ _ h)
    · obtain ⟨b, rfl⟩ := Option.isSome_iff_exists.1 hthere
      have htells : reply.tells o.description? = some (description b) := by
        rw [tells_map hread, ← hfound]
        rfl
      rw [hsome] at h
      cases hb : owned b with
      | true =>
        simp only [hb, Bool.not_true, Bool.false_eq_true, if_false] at h
        exact .of_own ⟨hlooks q reply, by rw [htells, (howned b).1 hb]⟩ (hpresent b _ _ _ _ h)
      | false =>
        simp only [hb, Bool.not_false, if_true] at h
        obtain ⟨rfl, rfl, _⟩ := conduct_fail.1 h
        exact .of_failed (hlooks q reply) fun _ => rfl
  · obtain ⟨_, _, hscope⟩ | ⟨sent₀, q, reply, rfl, hscope, hr, _⟩ := (poses_find? _ _ _ _).1 hfind
    · exact .of_quiet (hquiet hscope)
    -- The look failed, so it has shown no section.
    have hfail := congrArg Except.isOk hr
    rw [isOk_found, eq_comm, show (Except.error e).isOk = false from rfl,
      Bool.or_eq_false_iff] at hfail
    refine .after (hquiet hscope) (.of_failed (hlooks q reply) ?_)
    rintro ⟨_, d, hd, _⟩
    have hnone : reply.tells read = none := by simpa using hfail.2
    rw [tells_map hread, hnone] at hd
    cases hd

/-- Steps beside the section may follow what is guarded. -/
theorem Guards.bind {x : SessionM α} {f : α → SessionM β} (hx : Guards o x)
    (hf : ∀ a, Only (·.IsBeside o) (f a)) : Guards o (x >>= f) := by
  intro s sent r s' h
  obtain ⟨_, _, a, _, rfl, h₁, h₂⟩ | ⟨e, rfl, h₁⟩ := conduct_bind.1 h
  · exact (hx _ _ _ _ h₁).append (hf a _ _ _ _ h₂) (by rintro e ⟨⟩)
  · have hnone : ∀ x ∈ ([] : List Sent), x.request.IsBeside o := by simp
    have hguarded := (hx _ _ _ _ h₁).append hnone (r := (.error e : Except ClientError β))
      fun e' he => ⟨by cases he; rfl, by simp⟩
    rwa [List.append_nil] at hguarded

/-- Quiet steps may come before what is guarded. -/
theorem Only.bind_guards {x : SessionM α} {f : α → SessionM β} (hx : Only (·.IsQuiet o) x)
    (hf : ∀ a, Guards o (f a)) : Guards o (x >>= f) := by
  intro s sent r s' h
  obtain ⟨_, _, a, _, rfl, h₁, h₂⟩ | ⟨e, rfl, h₁⟩ := conduct_bind.1 h
  · exact (hf a _ _ _ _ h₂).after (hx _ _ _ _ h₁)
  · exact .of_quiet (hx _ _ _ _ h₁)

/-- Giving up keeps what is guarded so. -/
theorem Guards.orAbort {x : SessionM α} (hx : Guards o x) : Guards o (c.orAbort x) := by
  intro s sent r s' h
  obtain ⟨a, rfl, h₁⟩ | ⟨e, sent₁, sent₂, _, rfl, rfl, h₁, h₂⟩ := conduct_orAbort h
  · exact hx _ _ _ _ h₁
  · have hquiet : ∀ y ∈ sent₂, y.request.IsQuiet o :=
      only_abort (P := (·.IsQuiet o)) (isQuiet_discardRequest o) _ _ _ _ h₂
    exact (hx _ _ _ _ h₁).append (fun y hy => (hquiet y hy).isBeside)
      (by rintro _ ⟨⟩; exact ⟨rfl, fun y hy => (hquiet y hy).1⟩)

/-! ## Backends and frontends -/

theorem isManaged_backend (b : Wire.Backend) :
    b.isManaged = true ↔ b.description = some Wire.managed := by
  cases hd : b.description <;> simp [Wire.Backend.isManaged, hd, Wire.managed]

theorem isManaged_frontend (f : Wire.Frontend) :
    f.isManaged = true ↔ f.description = some Wire.managed := by
  cases hd : f.description <;> simp [Wire.Frontend.isManaged, hd, Wire.managed]

/-- What is written last into an object is what its field holds. -/
theorem field?_ofFields_concat (fields : List (String × Option Json)) (name : String) (j : Json) :
    (Json.ofFields (fields ++ [(name, some j)])).field? name = some j := by
  simp [Json.ofFields, Json.field?]

/-- Whatever description it had, a stamped backend section is written as this program's own. -/
theorem description_stamped_backend (b : Wire.Backend) :
    b.stamped.toJson.field? "description" = some (.str Wire.managed) :=
  field?_ofFields_concat
    [("name", some (.str b.name)), ("mode", b.mode.map .str), ("balance", b.balance.map (·.toJson)),
      ("adv_check", b.advCheck.map .str)] _ _

theorem description_stamped_frontend (f : Wire.Frontend) :
    f.stamped.toJson.field? "description" = some (.str Wire.managed) :=
  field?_ofFields_concat
    [("name", some (.str f.name)), ("mode", f.mode.map .str),
      ("default_backend", f.defaultBackend.map .str)] _ _

/-- A stamped write is beside every section. -/
theorem only_write {method : Method} {segments : List String} {body : Json}
    {operation resource change : String} (hm : method = .post ∨ method = .put)
    (hstamped : body.field? "description" = some (.str Wire.managed)) (a : α) :
    Only (·.IsBeside o)
      (c.write method segments body operation resource change >>= fun _ => pure a) := by
  refine ((poses_write hm).only (isQuiet_versionRequest o).isBeside fun q => ?_).bind
    fun _ => only_pure a
  refine ⟨⟨?_, fun _ => hstamped⟩, ?_⟩
  · rintro ⟨h, _⟩
    rcases hm with rfl | rfl <;> cases h
  · rintro ⟨h, _⟩
    rcases hm with rfl | rfl <;> cases h

/-- A section is created, replaced where it disagrees, or left, always with a stamped body. -/
theorem guards_ensure {read : Json → Option γ} {description : γ → Option String} {owned : γ → Bool}
    {agrees : γ → Bool} {body : Json} {operation₀ operation₁ operation₂ what resource : String}
    {k : Option γ → SessionM Change} (hread : ∀ j, o.description? j = (read j).map description)
    (howned : ∀ b, owned b = true ↔ description b = some Wire.managed)
    (hstamped : body.field? "description" = some (.str Wire.managed))
    (hnone : k none = c.write .post [o.collection] body operation₁ resource "create" >>=
      fun _ => pure .created)
    (hsome : ∀ b, k (some b) =
      if !owned b then SessionM.fail (.notManaged o.kind o.name)
      else if !agrees b then
        c.write .put o.segments body operation₂ resource "update" >>= fun _ => pure .updated
      else pure .unchanged) :
    Guards o (c.find? o.segments operation₀ what read >>= k) := by
  refine guards_look hread howned hsome ?_ fun b => ?_
  · rw [hnone]
    exact only_write (.inl rfl) hstamped _
  · refine Only.mono (P := (·.IsBeside _)) (fun _ hq => hq.1) ?_
    split
    · exact only_write (.inr rfl) hstamped _
    · exact only_pure _

theorem guards_ensureDefinition (wanted : Wire.Backend) :
    Guards (.backend wanted.name) (c.ensureDefinition wanted) :=
  guards_ensure (o := .backend wanted.name) (fun _ => rfl) isManaged_backend
    (description_stamped_backend wanted) rfl fun _ => rfl

theorem guards_ensureFrontend (wanted : Wire.Frontend) :
    Guards (.frontend wanted.name) (c.ensureFrontend wanted) :=
  guards_ensure (o := .frontend wanted.name) (fun _ => rfl) isManaged_frontend
    (description_stamped_frontend wanted) rfl fun _ => rfl

theorem guards_deleteBackend (name : String) :
    Guards (.backend name) (c.deleteBackend name) := by
  refine guards_look (o := .backend name) (fun _ => rfl) isManaged_backend (fun _ => rfl)
    (only_pure _) fun b => ?_
  refine poses_delete.only (isQuiet_versionRequest _).isBeside.1 fun q => ⟨?_, ?_⟩
  · rintro ⟨h, _⟩
    cases h
  · rintro ⟨_, ⟨h, _⟩ | ⟨h, _⟩⟩ <;> cases h

/-! ## Whole operations -/

/-- Whatever is asked about the parts of a backend is beside the sections. -/
theorem isBeside_of_parts {backend : String} {q : Request} (h : q.ConcernsParts backend) :
    q.IsBeside o := by
  obtain rfl | ⟨_, kind, rest, hsegments, _⟩ := h
  · exact (isQuiet_versionRequest o).isBeside
  · have hne {k n : String} : q.endpoint.segments ≠ [k, n] := by simp [hsegments]
    refine ⟨⟨fun hl => hne hl.2.2, ?_⟩, fun hd => hne hd.2.2⟩
    rintro ⟨_, ⟨_, k, hk⟩ | ⟨_, k, n, hk⟩⟩
    · rw [hsegments] at hk
      cases hk
    · exact absurd hk hne

theorem guards_ensureBackend (d : Resolved) : Guards (.backend d.name) (c.ensureBackend d) :=
  (guards_ensureDefinition d.wireBackend).bind fun _ =>
    ((only_ensureHttpChecks _ _).mono fun _ => isBeside_of_parts).bind fun _ =>
      ((only_syncServers _ _).mono fun _ => isBeside_of_parts).bind fun _ => only_pure _

/-- Opening and closing a transaction around guarded steps keeps them guarded. -/
theorem guards_transaction {body : SessionM β} {f : β → α} (hbody : Guards o body) :
    Guards o (c.openTransaction >>= fun _ =>
      c.orAbort (body >>= fun b => c.close >>= fun _ => pure (f b))) := by
  have hopen : Only (·.IsQuiet o) c.openTransaction :=
    only_openTransaction (isQuiet_versionRequest o) (isQuiet_openRequest o)
  have hclose : Only (·.IsBeside o) c.close :=
    only_close (fun t => (isQuiet_commitRequest o t).isBeside)
      fun t => (isQuiet_discardRequest o t).isBeside
  exact hopen.bind_guards fun _ =>
    (hbody.bind fun _ => hclose.bind fun _ => only_pure _).orAbort

/-! ## Where the requests are sent -/

/-- Among the requests that are sent to the URL of the section are just those about it; what is
written into its collection is left out. -/
def SentByName (c : Client) (o : Section) (q : Request) : Prop :=
  q.endpoint.area = .configuration → q.endpoint.segments ≠ [o.collection] →
    ((c.wire q).path = c.pathTo o.segments ↔ q.endpoint.segments = o.segments)

section
variable (hc : c.HasPath)
include hc

theorem sentByName_of_segments {q : Request} (h : q.endpoint.segments = o.segments) :
    SentByName c o q :=
  fun harea _ => ⟨fun _ => h, fun _ => by rw [hc.path_configuration harea, h]⟩

theorem sentByName_versionRequest (name : String) :
    SentByName c (.backend name) versionRequest := by
  intro harea _
  have hversion : Net.IsPlain "version" := by decide
  have hbackends : Net.IsPlain "backends" := by decide
  have hne := hc.pathTo_ne_of_first hversion hbackends (by decide) [name]
  rw [hc.path_configuration harea]
  refine ⟨fun h => absurd h hne, fun h => ?_⟩
  simp [versionRequest, versionEndpoint, Section.segments] at h

/-- What is below the section by a plain name is never sent to its URL, whatever names follow. -/
theorem sentByName_of_below {q : Request} {kind : String} {rest : List String}
    (hkind : Net.IsPlain kind) (h : q.endpoint.segments = o.segments ++ kind :: rest) :
    SentByName c o q := by
  intro harea _
  rw [hc.path_configuration harea, h]
  refine ⟨fun heq => absurd heq (hc.pathTo_append_ne o.segments hkind rest), fun heq => ?_⟩
  simp at heq

/-- No request for the check list of a backend or for a server is sent to the URL of its section. -/
theorem sentByName_of_asks {d : Resolved} {q : Request} (h : q.AsksBackend d) :
    SentByName c (.backend d.name) q := by
  have hversion := sentByName_versionRequest hc d.name
  have hchecks : Net.IsPlain "http_checks" := by decide
  have hservers : Net.IsPlain "servers" := by decide
  cases h with
  | definition h =>
    cases h with
    | version => exact hversion
    | existing => exact sentByName_of_segments hc rfl
    | create => exact fun _ hne => absurd rfl hne
  | checks h =>
    cases h with
    | version => exact hversion
    | checks => exact sentByName_of_below hc hchecks rfl
  | servers h =>
    cases h with
    | version => exact hversion
    | servers => exact sentByName_of_below hc hservers rfl
    | server => exact sentByName_of_below hc hservers rfl

/-- So it is in every run, with the transaction around it or without. -/
theorem sentByName_ensureBackend (d : Resolved) :
    Only (SentByName c (.backend d.name)) (c.ensureBackend d) :=
  (asks_ensureBackend d).mono fun _ => sentByName_of_asks hc

theorem sentByName_apply (d : Resolved) : Only (SentByName c (.backend d.name)) (c.apply d) :=
  (only_openTransaction (sentByName_versionRequest hc d.name) fun _ => nofun).bind fun _ =>
    Only.orAbort ((sentByName_ensureBackend hc d).bind fun _ =>
      (only_close (fun _ => nofun) fun _ => nofun).bind fun _ => only_pure _) fun _ => nofun

end

/-- Against every Data Plane, whatever it replies, and in every session: each operation on a backend
or a frontend section writes only what it has found absent or its own. -/
theorem ownership {σ : Type} (c : Client) (env : Environment DataPlane.interface σ) (w : σ)
    (s : Session) :
    (∀ d : Resolved, Guarded (.backend d.name)
      (Sent.ofTrace (((c.apply d).start s).trace env w)) (((c.apply d).start s).run env w).1.1) ∧
    (∀ name, Guarded (.backend name) (Sent.ofTrace (((c.teardown name).start s).trace env w))
      (((c.teardown name).start s).run env w).1.1) ∧
    (∀ d : Resolved, Guarded (.backend d.name)
      (Sent.ofTrace (((c.ensureBackend d).start s).trace env w))
      (((c.ensureBackend d).start s).run env w).1.1) ∧
    (∀ b : Wire.Backend, Guarded (.backend b.name)
      (Sent.ofTrace (((c.ensureDefinition b).start s).trace env w))
      (((c.ensureDefinition b).start s).run env w).1.1) ∧
    (∀ name, Guarded (.backend name)
      (Sent.ofTrace (((c.deleteBackend name).start s).trace env w))
      (((c.deleteBackend name).start s).run env w).1.1) ∧
    ∀ f : Wire.Frontend, Guarded (.frontend f.name)
      (Sent.ofTrace (((c.ensureFrontend f).start s).trace env w))
      (((c.ensureFrontend f).start s).run env w).1.1 :=
  have guarded {α : Type} {o : Section} {x : SessionM α} (h : Guards o x) :
      Guarded o (Sent.ofTrace ((x.start s).trace env w)) ((x.start s).run env w).1.1 :=
    h _ _ _ _ (conduct_run env x s w)
  ⟨fun d => guarded (guards_transaction (guards_ensureBackend d)),
    fun name => guarded (guards_transaction (guards_deleteBackend name)),
    fun d => guarded (guards_ensureBackend d),
    fun b => guarded (guards_ensureDefinition b),
    fun name => guarded (guards_deleteBackend name),
    fun f => guarded (guards_ensureFrontend f)⟩

end DataPlane.Client
end ProxySync
