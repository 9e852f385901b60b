import ProxySync.Proofs.DataPlane.Address
import ProxySync.Proofs.DataPlane.Keeper
import ProxySync.Proofs.Session.Ownership
/-!
# What the lock on the version covers

Outside of a transaction an operation that looks before it writes reads the version twice: once for
the look and once for the write. The write is stamped with the second, so the lock covers what
happens after it was read, and leaves open what happens between the look and that. An accepted write
was decided on what it found just if nobody else made a change in that gap.

## Main definitions

* `Configuring.place?`: where an operation looks before it writes.
* `Client.LooksThenWrites`: the requests of such an operation outside of a transaction.
* `Keeper.Decided`: what an accepted write was decided on.

## Main statements

* `Client.looksThenWrites`: the operations that look first make these requests.
* `Keeper.lock_covers`: what the lock covers, whatever others do and whenever they do it.
* `Keeper.foreign_deleted`: a section that others have taken over in the gap is deleted.
-/
namespace ProxySync
open DataPlane (Client Reply Request)

namespace Configuring

/-- The place at which an operation looks before it decides whether to write. -/
def place? : Configuring → Option (List String)
  | ensureDefinition wanted => some ["backends", wanted.name]
  | deleteBackend name => some ["backends", name]
  | ensureHttpChecks backend _ => some ["backends", backend, "http_checks"]
  | ensureServer backend wanted => some ["backends", backend, "servers", wanted.name]
  | ensureFrontend wanted => some ["frontends", wanted.name]
  | ensureBind frontend _ => some ["frontends", frontend, "binds"]
  | ensureRule frontend _ => some ["frontends", frontend, "backend_switching_rules"]
  | _ => none

/-- The section that an operation is about. -/
def section? : Configuring → Option Section
  | ensureDefinition wanted => some (.backend wanted.name)
  | deleteBackend name => some (.backend name)
  | ensureFrontend wanted => some (.frontend wanted.name)
  | _ => none

/-- What the look of an operation decides about its write: rules are written behind those shown. -/
def Decides : Configuring → Reply → Request → Prop
  | ensureRule _ wanted, reply, w => ∃ rules,
    reply.tells (Json.list? Wire.SwitchingRule.ofJson?) = some rules ∧
      w.body = some (.arr ((rules ++ [wanted]).map (·.toJson)))
  | _, _, _ => True

end Configuring

namespace DataPlane.Client
open SessionM
variable {α β γ : Type} {c : Client} {s s' : Session} {sent : List Sent} {place : List String}
  {P : Request → Prop}

/-! ## Steps that make one request at most -/

/-- Nothing is sent, or a version is read, or one request is made with it. -/
inductive OneAtMost (P : Request → Prop) : List Sent → Prop
  | nothing : OneAtMost P []
  | version {reply : Reply} : OneAtMost P [⟨versionRequest, reply⟩]
  | request {reply : Reply} {v : Int64} {x : Sent} (version : reply.version? = some v)
      (query : x.request.endpoint.query = [("version", toString v.toInt)]) (h : P x.request) :
      OneAtMost P [⟨versionRequest, reply⟩, x]

/-- Outside of a transaction the step makes one configuration request at most, of that sort. -/
def MakesOne (P : Request → Prop) (x : SessionM α) : Prop :=
  ∀ s sent r s', s.transaction = none → Conduct x s sent r s' → OneAtMost P sent

theorem makesOne_pure (a : α) : MakesOne P (pure a) := by
  intro s sent r s' _ h
  obtain ⟨rfl, _⟩ := conduct_pure.1 h
  exact .nothing

theorem makesOne_fail (e : ClientError) : MakesOne P (SessionM.fail e : SessionM α) := by
  intro s sent r s' _ h
  obtain ⟨rfl, _⟩ := conduct_fail.1 h
  exact .nothing

/-- What the version was that scopes a request. -/
theorem version_of_scope {q : String × String} (ht : s.transaction = none)
    (h : Conduct c.scope s sent (.ok q) s') :
    ∃ reply v, sent = [⟨versionRequest, reply⟩] ∧ reply.version? = some v ∧
      q = ("version", toString v.toInt) := by
  obtain ⟨reply, rfl, _, hr⟩ := (conduct_scope_closed ht).1 h
  cases hv : (c.received versionEndpoint reply).bind versionIn with
  | ok v =>
    rw [hv] at hr
    exact ⟨reply, v, rfl, version?_of_versionIn hv, Except.ok.inj hr⟩
  | error e => rw [hv] at hr; cases hr

theorem Poses.makesOne {x : SessionM α} {method : Method} {segments : List String}
    {body : Option Json} {judge : Response → Except ClientError α}
    (hx : Poses c x method segments body judge)
    (hP : ∀ q, P (scopedRequest method segments body q)) : MakesOne P x := by
  intro s sent r s' ht h
  obtain ⟨e, _, hscope⟩ | ⟨_, q, reply, rfl, hscope, _⟩ := (hx _ _ _ _).1 h
  · obtain ⟨reply, rfl, _⟩ := (conduct_scope_closed ht).1 hscope
    exact .version
  · obtain ⟨reply₀, v, rfl, hv, rfl⟩ := version_of_scope ht hscope
    exact .request hv rfl (hP _)

theorem MakesOne.map {x : SessionM α} (hx : MakesOne P x) (f : α → β) :
    MakesOne P (x >>= fun a => pure (f a)) := by
  intro s sent r s' ht h
  obtain ⟨r₀, _, h₀⟩ := conduct_bind_pure.1 h
  exact hx _ _ _ _ ht h₀

/-- A request whose answer is put into another form. -/
theorem Poses.map {x : SessionM α} {method : Method} {segments : List String}
    {body : Option Json} {judge : Response → Except ClientError α}
    (hx : Poses c x method segments body judge) (f : α → β) :
    Poses c (x >>= fun a => pure (f a)) method segments body fun a => (judge a).map f := by
  intro s sent r s'
  have hjudge (r : Except ClientError Response) :
      (r.bind fun a => (judge a).map f) = (r.bind judge).map f := by
    cases r <;> rfl
  simp only [conduct_bind_pure, hx s sent _ s', hjudge]
  constructor
  · rintro ⟨_, rfl, ⟨e, rfl, h⟩ | ⟨sent₀, q, reply, hsent, h, rfl, hs⟩⟩
    · exact .inl ⟨e, rfl, h⟩
    · exact .inr ⟨sent₀, q, reply, hsent, h, rfl, hs⟩
  · rintro (⟨e, rfl, h⟩ | ⟨sent₀, q, reply, hsent, h, rfl, hs⟩)
    · exact ⟨.error e, rfl, .inl ⟨e, rfl, h⟩⟩
    · exact ⟨_, rfl, .inr ⟨sent₀, q, reply, hsent, h, rfl, hs⟩⟩

/-! ## Operations that look before they write -/

/-- A look and a write, each with a version that was read for it. -/
inductive LooksThenWrites (place : List String) (P : Reply → Request → Prop) :
    List Sent → Sent → Prop
  | intro {reply₁ reply reply₂ : Reply} {parameter : String × String} {v : Int64} {w : Sent}
      (version : reply₂.version? = some v)
      (query : w.request.endpoint.query = [("version", toString v.toInt)])
      (decided : P reply w.request) :
      LooksThenWrites place P
        [⟨versionRequest, reply₁⟩, ⟨scopedRequest .get place none parameter, reply⟩,
          ⟨versionRequest, reply₂⟩, w] w

/-- A step that looks and then makes one request at most, of which the look tells the sort. -/
theorem looksThenWrites_of_look {look : SessionM β} {f : β → SessionM α}
    {judge : Response → Except ClientError β} {Q : β → Request → Prop}
    {P : Reply → Request → Prop} {r : Except ClientError α} {w : Sent}
    (hlook : Poses c look .get place none judge) (hf : ∀ b, MakesOne (Q b) (f b))
    (hP : ∀ e reply b q, .ok b = (c.received e reply).bind judge → Q b q → P reply q)
    (ht : s.transaction = none) (h : Conduct (look >>= f) s sent r s') (hw : w ∈ sent)
    (hchanges : w.changes = true) : LooksThenWrites place P sent w := by
  have hget (q : String × String) (reply : Reply) :
      Sent.changes ⟨scopedRequest .get place none q, reply⟩ = false := Sent.changes_of_get rfl
  have hversion (reply : Reply) : Sent.changes ⟨versionRequest, reply⟩ = false :=
    Sent.changes_of_get rfl
  have hquiet {x : Sent} (hx : x.changes = false) : w ≠ x := by
    rintro rfl
    rw [hchanges] at hx
    cases hx
  -- What is sent by the look alone cannot be the write.
  obtain ⟨_, sent₂, b, s₁, rfl, hfirst, hrest⟩ | ⟨_, _, hfirst⟩ := conduct_bind.1 h
  · obtain ⟨_, hr, _⟩ | ⟨_, q, reply, rfl, hscope, hr, rfl⟩ := (hlook _ _ _ _).1 hfirst
    · cases hr
    obtain ⟨reply₁, _, rfl, _⟩ := version_of_scope ht hscope
    rw [hget, s.marked_false] at hrest
    cases hf b _ _ _ _ ht hrest with
    | nothing => simp [hquiet, hget, hversion] at hw
    | version => simp [hquiet, hget, hversion] at hw
    | @request reply₂ v x version query hq =>
      obtain rfl : w = x := by simpa [hquiet, hget, hversion] using hw
      exact .intro version query (hP _ _ _ _ hr hq)
  · obtain ⟨_, _, hscope⟩ | ⟨_, q, reply, rfl, hscope, _⟩ := (hlook _ _ _ _).1 hfirst
    · obtain ⟨_, rfl, _⟩ := (conduct_scope_closed ht).1 hscope
      simp [hquiet, hversion] at hw
    · obtain ⟨_, _, rfl, _⟩ := version_of_scope ht hscope
      simp [hquiet, hget, hversion] at hw

/-- A write whose acceptance gives a value is one request. -/
theorem makesOne_write {method : Method} {segments : List String} {body : Json}
    {operation resource change : String} (hm : method = .post ∨ method = .put)
    (hP : ∀ q, P (scopedRequest method segments (some body) q)) (a : α) :
    MakesOne P (c.write method segments body operation resource change >>= fun _ => pure a) :=
  ((poses_write hm).makesOne hP).map _

/-- A rule is written behind those that the look has shown. -/
theorem looksThenWrites_ensureRule {frontend : String} {wanted : Wire.SwitchingRule}
    {r : Except ClientError Change} {w : Sent} (ht : s.transaction = none)
    (h : Conduct (c.ensureRule frontend wanted) s sent r s') (hw : w ∈ sent)
    (hchanges : w.changes = true) :
    LooksThenWrites ["frontends", frontend, "backend_switching_rules"]
      (Configuring.ensureRule frontend wanted).Decides sent w := by
  have hlist : Poses c (c.listRules frontend) .get
      ["frontends", frontend, "backend_switching_rules"] none (c.listedIn
        "list backend switching rules" "backend switching rule list" Wire.SwitchingRule.ofJson?) :=
    poses_list
  refine looksThenWrites_of_look hlist
    (Q := fun rules q => q.body = some (.arr ((rules ++ [wanted]).map (·.toJson))))
    (fun rules => ?_) (fun _ _ rules _ hr hbody => ⟨rules, of_listed hr, hbody⟩) ht h hw hchanges
  split
  · exact makesOne_pure _
  · exact makesOne_write (.inr rfl) (fun _ => rfl) _

/-- The operations that look first make a look and a write. -/
theorem looksThenWrites {q : Configuring} (hplace : q.place? = some place)
    {r : Except ClientError q.Value} {w : Sent} (ht : s.transaction = none)
    (h : Conduct (q.step c) s sent r s') (hw : w ∈ sent) (hchanges : w.changes = true) :
    LooksThenWrites place q.Decides sent w := by
  have hlook {β γ : Type} {look : SessionM β} {f : β → SessionM γ}
      {judge : Response → Except ClientError β} {r : Except ClientError γ}
      (hlook : Poses c look .get place none judge)
      (hf : ∀ b, MakesOne (fun _ => True) (f b)) (h : Conduct (look >>= f) s sent r s') :
      LooksThenWrites place (fun _ _ => True) sent w :=
    looksThenWrites_of_look hlook hf (fun _ _ _ _ _ _ => trivial) ht h hw hchanges
  have hwrite {γ : Type} {method : Method} {segments : List String} {body : Json}
      {operation resource change : String} (hm : method = .post ∨ method = .put) (a : γ) :
      MakesOne (fun _ => True)
        (c.write method segments body operation resource change >>= fun _ => pure a) :=
    makesOne_write hm (fun _ => trivial) a
  cases q <;> cases hplace
  case ensureDefinition wanted =>
    refine hlook poses_find? (fun found => ?_) h
    cases found with
    | none => exact hwrite (.inl rfl) _
    | some current =>
      simp only
      split
      · exact makesOne_fail _
      · split
        · exact hwrite (.inr rfl) _
        · exact makesOne_pure _
  case deleteBackend name =>
    refine hlook poses_find? (fun found => ?_) h
    cases found with
    | none => exact makesOne_pure _
    | some current =>
      simp only
      split
      · exact makesOne_fail _
      · exact poses_delete.makesOne fun _ => trivial
  case ensureHttpChecks backend wanted =>
    refine hlook (poses_find?.map _) (fun current => ?_) h
    split
    · exact makesOne_pure _
    · exact hwrite (.inr rfl) _
  case ensureServer backend wanted =>
    refine hlook poses_find? (fun found => ?_) h
    cases found with
    | none => exact hwrite (.inl rfl) _
    | some current =>
      simp only
      split
      · exact hwrite (.inr rfl) _
      · exact makesOne_pure _
  case ensureFrontend wanted =>
    refine hlook poses_find? (fun found => ?_) h
    cases found with
    | none => exact hwrite (.inl rfl) _
    | some current =>
      simp only
      split
      · exact makesOne_fail _
      · split
        · exact hwrite (.inr rfl) _
        · exact makesOne_pure _
  case ensureBind frontend wanted =>
    refine hlook poses_list (fun binds => ?_) h
    split
    · exact makesOne_pure _
    · exact hwrite (.inl rfl) _
  case ensureRule frontend wanted => exact looksThenWrites_ensureRule ht h hw hchanges

end DataPlane.Client

/-! ## The lock -/

namespace DataPlane.Keeper
open Client
variable {K : Type} {k : Keeper K} {c : Client} {q : Configuring} {s : Session} {r : Revision K}
  {others : List (List K)} {place : List String} {P : Reply → Request → Prop}

/-- A section that belongs to somebody else, or to nobody. -/
def Foreign (k : Keeper K) (held : K) (o : Section) : Prop :=
  ∃ d, (k.shown held o.segments).tells o.description? = some d ∧ d ≠ some Wire.managed

theorem sent_of_mem_moments {sent : List Sent} {m : Moment K}
    (h : m ∈ k.moments r others sent) : m.sent ∈ sent := by
  induction sent generalizing r others with
  | nil => cases h
  | cons x sent ih =>
    rcases List.mem_cons.1 h with rfl | h
    · exact List.mem_cons_self
    · exact List.mem_cons_of_mem _ (ih h)

/-- The text of a version tells the version. -/
theorem eq_of_toString_eq {v v' : Int} (h : toString v = toString v') : v = v' := by
  have hread := Numeral.int?_toString v
  rw [h, Numeral.int?_toString] at hread
  exact (Option.some.inj hread).symm

/-- Of a look and an accepted write: the write finds what was there when its version was read, and
that is what the look has found with the changes made in between. -/
theorem moments_looksThenWrites {sent : List Sent} {y : Sent}
    (h : LooksThenWrites place P sent y)
    (hserved : ∀ m ∈ k.moments r others sent, m.sent.reply = (k.serve m.found m.sent.request).1)
    (hchanges : y.changes = true) :
    ∃ v₁ look v₂ w, k.moments r others sent = [v₁, look, v₂, w] ∧ w.sent = y ∧
      v₁.sent.request = versionRequest ∧ v₂.sent.request = versionRequest ∧ w.found = v₂.found ∧
      v₂.found = look.found.commitAll (others[2]?.getD []) ∧
      (∃ parameter, look.sent.request = scopedRequest .get place none parameter) ∧
      look.sent.reply = k.shown look.found.held place ∧ P look.sent.reply y.request := by
  have hgap : others[2]?.getD [] = others.tail.tail.headD [] := by
    rcases others with _ | ⟨_, _ | ⟨_, _ | ⟨_, _⟩⟩⟩ <;> rfl
  cases h with
  | @intro reply₁ reply reply₂ parameter v _ version query decided =>
    obtain ⟨f₁, hf₁⟩ : ∃ f, f = r.commitAll (others.headD []) := ⟨_, rfl⟩
    obtain ⟨f₂, hf₂⟩ : ∃ f, f = f₁.commitAll (others.tail.headD []) := ⟨_, rfl⟩
    obtain ⟨f₃, hf₃⟩ : ∃ f, f = f₂.commitAll (others.tail.tail.headD []) := ⟨_, rfl⟩
    obtain ⟨f₄, hf₄⟩ : ∃ f, f = f₃.commitAll (others.tail.tail.tail.headD []) := ⟨_, rfl⟩
    have hmoments : k.moments r others
        [⟨versionRequest, reply₁⟩, ⟨scopedRequest .get place none parameter, reply⟩,
          ⟨versionRequest, reply₂⟩, y] =
        [⟨⟨versionRequest, reply₁⟩, f₁⟩, ⟨⟨scopedRequest .get place none parameter, reply⟩, f₂⟩,
          ⟨⟨versionRequest, reply₂⟩, f₃⟩, ⟨y, f₄⟩] := by
      simp only [moments, serve_version, serve_look, ← hf₁, ← hf₂, ← hf₃, ← hf₄]
    rw [hmoments] at hserved
    simp only [List.forall_mem_cons] at hserved
    obtain ⟨_, hreply, hreply₂, hreply₄, _⟩ := hserved
    have hlook : reply = k.shown f₂.held place := by rw [hreply, serve_look]
    have hversion : v.toInt = f₃.version := k.version_of_serve (by rw [← hreply₂]; exact version)
    have hcurrent : v.toInt = f₄.version := by
      have hquery : y.request.endpoint.query = [("version", toString f₄.version)] :=
        k.query_of_accepted (by rw [← hreply₄]; exact hchanges)
      rw [query] at hquery
      exact eq_of_toString_eq (by simpa using hquery)
    have hnone : f₄ = f₃ := by
      rw [hversion, hf₄] at hcurrent
      rw [hf₄, Revision.commitAll_eq_nil_of_version hcurrent.symm]
      rfl
    rw [← hgap] at hf₃
    exact ⟨_, _, _, _, hmoments, rfl, rfl, rfl, hnone, hf₃, ⟨_, rfl⟩, hlook, decided⟩

/-- What an accepted write was decided on. Between the look and the reading of the version that
stamps the write, others have made these changes. -/
structure Decided (k : Keeper K) (q : Configuring) (place : List String) (between : List K)
    (look w : Moment K) : Prop where
  /-- The operation has looked at its place, and has seen what is there. -/
  looked : (∃ parameter, look.sent.request = scopedRequest .get place none parameter) ∧
    look.sent.reply = k.shown look.found.held place
  /-- The write finds what the look has found, with the changes made in between. -/
  found : w.found = look.found.commitAll between
  /-- So it acts on exactly what was read just if there are none. -/
  covered : w.found = look.found ↔ between = []
  /-- Then the section is not one of others when it is written or deleted, -/
  own : between = [] → ∀ o, q.section? = some o → ¬ k.Foreign w.found.held o
  /-- and a list of rules is written with all the rules that it holds, and the new one. -/
  rules : between = [] → ∀ frontend wanted, q = .ensureRule frontend wanted → ∃ rules,
    (k.shown w.found.held place).tells (Json.list? Wire.SwitchingRule.ofJson?) = some rules ∧
      w.sent.request.body = some (.arr ((rules ++ [wanted]).map (·.toJson)))

/-- The operations on a section look at it, and write nothing where it belongs to others. -/
theorem guards_section {o : Section} (ho : q.section? = some o) : Guards o (q.step c) := by
  cases q <;> cases ho
  case ensureDefinition wanted => exact guards_ensureDefinition wanted
  case deleteBackend name => exact guards_deleteBackend name
  case ensureFrontend wanted => exact guards_ensureFrontend wanted

theorem place_of_section {o : Section} (ho : q.section? = some o) :
    q.place? = some o.segments := by
  cases q <;> cases ho <;> rfl

/-- An accepted write is a write of the configuration. -/
theorem writes_of_changes {sent : List Sent} {s' : Session} {res : Except ClientError q.Value}
    {y : Sent} (h : SessionM.Conduct (q.step c) s sent res s') (hy : y ∈ sent)
    (hchanges : y.changes = true) : y.request.Writes := by
  refine ⟨(q.configures c).area _ _ _ _ h y hy, fun hget => ?_⟩
  rw [Sent.changes_of_get hget] at hchanges
  cases hchanges

/-- Outside of a transaction, and whatever others do between the requests, the lock covers an
accepted write from the moment on at which its version was read. What was decided before that rests
on the same state just if nobody else has changed anything since the look. -/
theorem lock_covers (k : Keeper K) (c : Client) (q : Configuring) (place : List String)
    (hplace : q.place? = some place) (s : Session) (ht : s.transaction = none) (r : Revision K)
    (others : List (List K)) (w : Moment K) (hw : w ∈ k.during c q s r others)
    (haccepted : w.sent.changes = true) :
    ∃ v₁ look v₂, k.during c q s r others = [v₁, look, v₂, w] ∧
      v₂.sent.request = versionRequest ∧ w.found = v₂.found ∧
      k.Decided q place (others[2]?.getD []) look w := by
  have hconduct := SessionM.conduct_run k.answer (q.step c) s (r, others)
  have hsent := sent_of_mem_moments hw
  have hshape := looksThenWrites hplace ht hconduct hsent haccepted
  obtain ⟨v₁, look, v₂, w', hmoments, _, hfirst, hsecond, hcurrent, hfound, ⟨parameter, hlook⟩,
      hshown, hdecides⟩ :=
    moments_looksThenWrites hshape (k.served ((q.step c).start s) r others) haccepted
  -- The other three moments are looks, so the write is the last.
  have hget {m : Moment K} (hm : m.sent.request.method = .get) : w ≠ m := by
    rintro rfl
    rw [Sent.changes_of_get hm] at haccepted
    cases haccepted
  obtain rfl : w = w' := by
    rw [during, hmoments] at hw
    simpa [hget, hfirst, hsecond, hlook, versionRequest, scopedRequest] using hw
  have hgap : w.found = look.found.commitAll (others[2]?.getD []) := hcurrent.trans hfound
  have hsame_of_nil (hnil : others[2]?.getD [] = []) : w.found = look.found := by
    rw [hgap, hnil]
    rfl
  refine ⟨v₁, look, v₂, hmoments, hsecond, hcurrent, ⟨⟨parameter, hlook⟩, hshown⟩, hgap, ?_, ?_, ?_⟩
  · rw [hgap]
    exact Revision.commitAll_eq_self_iff
  · rintro hnil o ho ⟨d, hd, hne⟩
    have hguarded := guards_section ho _ _ _ _ hconduct
    obtain rfl : place = o.segments := Option.some.inj (hplace.symm.trans (place_of_section ho))
    have hforeign : look.sent.FindsForeign o := by
      rw [hsame_of_nil hnil, ← hshown] at hd
      exact ⟨by rw [hlook]; exact ⟨rfl, rfl, rfl⟩, d, hd, hne⟩
    have hmem : look.sent ∈ Sent.ofTrace (((q.step c).start s).trace k.answer (r, others)) :=
      sent_of_mem_moments (by rw [hmoments]; simp)
    have hno := (hguarded.foreign ⟨_, hmem, hforeign⟩).2 _ hsent
    exact hno (writes_of_changes hconduct hsent haccepted)
  · rintro hnil frontend wanted rfl
    rw [hsame_of_nil hnil, ← hshown]
    exact hdecides

/-- A configuration with a backend section of that description. -/
def described (description : String) : Configuration :=
  { Configuration.empty with
    backends := Table.empty.insert "shop"
      (.obj [("name", .str "shop"), ("description", .str description)]) }

/-- The deletion of that section, while others make these changes. -/
def deletion (others : List (List Configuration)) : List (Moment Configuration) :=
  Memory.keeper.during (onThisHost 5555 "admin" "secret") (.deleteBackend "shop") .fresh
    ⟨1, described Wire.managed⟩ others

/-- A case of it: others have made a change before the look, and none since. -/
theorem lock_covers_deletion :
    ∃ w ∈ deletion [[described Wire.managed]], w.sent.changes = true ∧
      ∃ v₁ look v₂, deletion [[described Wire.managed]] = [v₁, look, v₂, w] ∧
        v₂.sent.request = versionRequest ∧ w.found = v₂.found ∧
        Memory.keeper.Decided (.deleteBackend "shop") ["backends", "shop"] [] look w := by
  have hrun : (deletion [[described Wire.managed]])[3]?.any (·.sent.changes) = true := by
    decide +kernel
  obtain ⟨w, hlast, haccepted⟩ := (Option.any_eq_true _ _).1 hrun
  have hw := List.mem_of_getElem? hlast
  exact ⟨w, hw, haccepted, lock_covers Memory.keeper _ _ _ rfl _ rfl _ _ _ hw haccepted⟩

/-- A section that others have taken over in the gap is deleted, with a version that is current. -/
theorem foreign_deleted :
    ∃ w ∈ deletion [[], [], [described "by hand"]], w.sent.changes = true ∧
      w.sent.request.Deletes (.backend "shop") ∧
      Memory.keeper.Foreign w.found.held (.backend "shop") := by
  have hrun : (deletion [[], [], [described "by hand"]])[3]?.any (fun w => w.sent.changes &&
      w.sent.request.method = .delete && w.sent.request.endpoint.area = .configuration &&
      w.sent.request.endpoint.segments = ["backends", "shop"] &&
      (Memory.keeper.shown w.found.held ["backends", "shop"]).tells
        (Section.backend "shop").description? = some (some "by hand")) = true := by
    decide +kernel
  obtain ⟨w, hlast, hrun⟩ := (Option.any_eq_true _ _).1 hrun
  simp only [Bool.and_eq_true, decide_eq_true_eq] at hrun
  obtain ⟨⟨⟨⟨hchanges, hmethod⟩, harea⟩, hsegments⟩, hshown⟩ := hrun
  exact ⟨w, List.mem_of_getElem? hlast, hchanges, ⟨hmethod, harea, hsegments⟩, some "by hand",
    hshown, by decide⟩

end DataPlane.Keeper
end ProxySync
