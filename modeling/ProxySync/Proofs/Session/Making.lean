import ProxySync.Proofs.Session.Reach
/-!
# What a step asks of a Data Plane in memory

A step is followed with all that it asks, up to what it leaves. A whole pass is known by its steps
inside the transaction: around them there is one request that opens the transaction and one that
commits or discards it.

## Main definitions

* `Makes`: the requests of a step against a Data Plane in memory, its result, and what it leaves.
* `Reads`: a step inside a transaction that only reads.
* `Client.writes`: the requests that do more than read.

## Main statements

* `Client.exists_makes`: steps inside a transaction end, and leave a copy of it.
* `Client.makes_pass`: a pass, from what its steps do inside the transaction.
-/
namespace ProxySync
open DataPlane SessionM
open Simulation (Log Plane)
variable {α β : Type} {c : Client} {t : Wire.Transaction}

theorem Table.size_erase_le {κ : Type} [KeyOrder κ] [DecidableEq κ] {α : Type} (k : κ)
    (t : Table κ α) : (t.erase k).size ≤ t.size :=
  List.length_filter_le _ _

/-! ## Steps with their requests -/

/-- Begun in the session on the memory, the step makes these requests, ends with the result and
leaves both so. -/
structure Makes (c : Client) (x : SessionM α) (s : Session) (m : Memory) (sent : List Sent)
    (r : Except ClientError α) (s' : Session) (m' : Memory) : Prop where
  conduct : Conduct x s sent r s'
  answered : Answered c (fun _ => none) 0 m sent m'

/-- What a step runs through are such requests. -/
theorem Runs.makes {x : SessionM α} {s s' : Session} {m m' : Memory} {r : Except ClientError α}
    (h : Runs c x s m r s' m') : ∃ sent, Makes c x s m sent r s' m' := by
  obtain ⟨sent, hconduct, hanswered⟩ := h.conduct
  exact ⟨sent, hconduct, hanswered⟩

namespace Makes
variable {s s₁ s' : Session} {m m₁ m' : Memory} {sent sent₁ sent₂ : List Sent}
  {r : Except ClientError α} {e : ClientError}

theorem runs {x : SessionM α} (h : Makes c x s m sent r s' m') : Runs c x s m r s' m' :=
  .of_conduct h.conduct h.answered

theorem pure (a : α) (s : Session) (m : Memory) :
    Makes c (Pure.pure a) s m [] (.ok a) s m :=
  ⟨conduct_pure.2 ⟨rfl, rfl, rfl⟩, .nil 0 m⟩

theorem bind {x : SessionM α} {f : α → SessionM β} {a : α} {r : Except ClientError β}
    (hx : Makes c x s m sent₁ (.ok a) s₁ m₁) (hf : Makes c (f a) s₁ m₁ sent₂ r s' m') :
    Makes c (x >>= f) s m (sent₁ ++ sent₂) r s' m' where
  conduct := conduct_bind.2 (.inl ⟨_, _, a, s₁, rfl, hx.conduct, hf.conduct⟩)
  answered := Answered.append_iff.2 ⟨m₁, hx.answered, hf.answered.clean (fun _ _ => rfl) _⟩

theorem orAbort {x : SessionM α} {a : α} (hx : Makes c x s m sent (.ok a) s' m') :
    Makes c (c.orAbort x) s m sent (.ok a) s' m' where
  conduct := by
    rw [Client.orAbort]
    exact conduct_tryCatch.2 (.inl ⟨a, rfl, hx.conduct⟩)
  answered := hx.answered

theorem fail (e : ClientError) (s : Session) (m : Memory) :
    Makes c (SessionM.fail e : SessionM α) s m [] (.error e) s m :=
  ⟨conduct_fail.2 ⟨rfl, rfl, rfl⟩, .nil 0 m⟩

/-- After a failure nothing more is done. -/
theorem bind_failed {x : SessionM α} {f : α → SessionM β}
    (hx : Makes c x s m sent (.error e) s' m') : Makes c (x >>= f) s m sent (.error e) s' m' where
  conduct := conduct_bind.2 (.inr ⟨e, rfl, hx.conduct⟩)
  answered := hx.answered

/-- A step that fails is given up, and its failure stays. -/
theorem orAbort_failed {x : SessionM α} (hx : Makes c x s m sent₁ (.error e) s₁ m₁)
    (habort : Makes c c.abort s₁ m₁ sent₂ (.ok ()) s' m') :
    Makes c (c.orAbort x) s m (sent₁ ++ sent₂) (.error e) s' m' where
  conduct := by
    have hthrow : Conduct (c.abort >>= fun _ => (throw e : SessionM α)) s₁ sent₂ (.error e) s' :=
      conduct_bind.2 (.inl ⟨sent₂, [], (), s', by simp, habort.conduct,
        conduct_throw.2 ⟨rfl, rfl, rfl⟩⟩)
    rw [Client.orAbort]
    exact conduct_tryCatch.2 (.inr ⟨sent₁, sent₂, e, s₁, rfl, hx.conduct, hthrow⟩)
  answered := Answered.append_iff.2 ⟨m₁, hx.answered, habort.answered.clean (fun _ _ => rfl) _⟩

/-- Of two steps that end well each one does. -/
theorem of_bind {x : SessionM α} {f : α → SessionM β} {b : β}
    (h : Makes c (x >>= f) s m sent (.ok b) s' m') :
    ∃ sent₁ sent₂ a s₁ m₁, sent = sent₁ ++ sent₂ ∧ Makes c x s m sent₁ (.ok a) s₁ m₁ ∧
      Makes c (f a) s₁ m₁ sent₂ (.ok b) s' m' := by
  obtain ⟨sent₁, sent₂, a, s₁, rfl, hx, hf⟩ | ⟨e, he, _⟩ := conduct_bind.1 h.conduct
  · obtain ⟨m₁, hanswered₁, hanswered₂⟩ := Answered.append_iff.1 h.answered
    exact ⟨sent₁, sent₂, a, s₁, m₁, rfl, ⟨hx, hanswered₁⟩, hf,
      hanswered₂.clean (fun _ _ => rfl) 0⟩
  · cases he

/-- What a step makes against a Data Plane in memory is what can be seen of its run. -/
theorem trace_run {x : SessionM α} (h : Makes c x s m sent r s' m') (log : Log) :
    ∃ log', (x.start s).run (Plane.answer c) (.holding m, log) = ((r, s'), (.holding m', log')) ∧
      Sent.ofTrace ((x.start s).trace (Plane.answer c) (.holding m, log)) = sent := by
  obtain ⟨⟨tr, hled, rfl⟩, hanswered⟩ := h
  generalize x.start s = d at hled
  generalize hp : (r, s') = p at hled
  generalize 0 = n at hanswered
  induction hled generalizing n m log with
  | done a =>
    subst hp
    cases hanswered
    exact ⟨log, rfl, rfl⟩
  | @ask call reply next tr a _ ih =>
    cases call with
    | measure m₀ =>
      obtain ⟨log', hrun, htrace⟩ := ih (.measurement m₀ :: log) hp n hanswered
      exact ⟨log', hrun, htrace⟩
    | request q =>
      obtain ⟨hreply, hrest⟩ := Answered.cons_iff.1 hanswered
      obtain ⟨log', hrun, htrace⟩ := ih (.request (c.wire q) :: log) hp _ hrest
      obtain ⟨hrun₀, htrace₀⟩ := run_request (Plane.answer_request c m log q) next
      obtain rfl := hreply
      exact ⟨log', hrun₀.trans hrun, htrace₀.trans (congrArg (_ :: ·) htrace)⟩

/-- What can be seen of a run is what the step makes. -/
theorem of_run (c : Client) (x : SessionM α) (s : Session) (m : Memory) (log : Log) :
    ∃ m' log', ((x.start s).run (Plane.answer c) (.holding m, log)).2 = (.holding m', log') ∧
      Makes c x s m (Sent.ofTrace ((x.start s).trace (Plane.answer c) (.holding m, log)))
        ((x.start s).run (Plane.answer c) (.holding m, log)).1.1
        ((x.start s).run (Plane.answer c) (.holding m, log)).1.2 m' := by
  obtain ⟨m', log', hrun, hanswered⟩ := answered_clean (c := c) (x.start s) 0 m log
  exact ⟨m', log', hrun, conduct_run _ x s _, hanswered⟩

/-- A step that ends well was not given up. -/
theorem of_orAbort {x : SessionM α} {a : α} (h : Makes c (c.orAbort x) s m sent (.ok a) s' m') :
    Makes c x s m sent (.ok a) s' m' := by
  have hconduct := h.conduct
  rw [Client.orAbort] at hconduct
  obtain ⟨a', ha, hx⟩ | ⟨_, _, e, _, _, _, hgive⟩ := conduct_tryCatch.1 hconduct
  · cases ha
    exact ⟨hx, h.answered⟩
  · obtain ⟨_, _, _, _, _, _, hthrow⟩ | ⟨_, he, _⟩ := conduct_bind.1 hgive
    · cases (conduct_throw.1 hthrow).2.1
    · cases he

end Makes

/-! ## Steps that only read -/

/-- Inside the transaction, on that copy, the step ends with the value after requests that only
read. -/
def Reads (c : Client) (t : Wire.Transaction) (x : SessionM α) (cfg : Configuration) (a : α) :
    Prop :=
  ∀ s m, s.transaction = some t → m.staged.get? t.id = some cfg →
    ∃ sent, Makes c x s m sent (.ok a) s m ∧ ∀ y ∈ sent, y.request.method = .get

namespace Reads
variable {cfg : Configuration}

theorem pure (a : α) (cfg : Configuration) : Reads c t (Pure.pure a) cfg a :=
  fun s m _ _ => ⟨[], .pure a s m, by simp⟩

theorem bind {x : SessionM α} {f : α → SessionM β} {a : α} {b : β} (hx : Reads c t x cfg a)
    (hf : Reads c t (f a) cfg b) : Reads c t (x >>= f) cfg b := by
  intro s m hs hcfg
  obtain ⟨sent₁, hmakes₁, hget₁⟩ := hx s m hs hcfg
  obtain ⟨sent₂, hmakes₂, hget₂⟩ := hf s m hs hcfg
  exact ⟨_, hmakes₁.bind hmakes₂, List.forall_mem_append.2 ⟨hget₁, hget₂⟩⟩

end Reads

/-- A step that changes nothing only reads if it asks for nothing else. -/
theorem Works.reads {x : SessionM α} {cfg : Configuration} {a : α}
    (hx : Works c t x cfg a false cfg) (hget : Client.Only (·.method = .get) x) :
    Reads c t x cfg a := by
  intro s m hs hcfg
  have hruns := hx s m hs hcfg
  rw [Session.marked_false, Memory.staging_self hcfg] at hruns
  obtain ⟨sent, hmakes⟩ := hruns.makes
  exact ⟨sent, hmakes, hget _ _ _ _ hmakes.conduct⟩

/-- Reading leaves the copy as it is. -/
theorem Memory.snd_onServers_get (cfg : Configuration) (b : String) (n : Option String)
    (body : Json) : (Memory.onServers cfg .get b n body).2 = cfg := by
  cases hjs : cfg.servers.get? b with
  | none => cases n <;> simp [Memory.onServers, hjs]
  | some js =>
    cases n with
    | none => simp [Memory.onServers, hjs]
    | some s => cases hj : js.find? (Memory.isNamed s) <;> simp [Memory.onServers, hjs, hj]

theorem Memory.snd_onConfiguration_get (cfg : Configuration) (path : List String) (body : Json) :
    (Memory.onConfiguration cfg .get path body).2 = cfg := by
  unfold Memory.onConfiguration
  split
  · rfl
  · rw [Memory.onBackends]
    split <;> rfl
  · rw [Memory.onChecks]
    split <;> rfl
  · exact Memory.snd_onServers_get ..
  · exact Memory.snd_onServers_get ..
  · rfl

/-- So do the requests of a stage that only reads. -/
theorem Makes.kept (hc : c.AtRoot) {x : SessionM α} {s s' : Session} {m m' : Memory}
    {cfg : Configuration} {sent : List Sent} {r : Except ClientError α} (hx : Client.Staged t x)
    (hs : s.transaction = some t) (hcfg : m.staged.get? t.id = some cfg)
    (h : Makes c x s m sent r s' m') (hget : ∀ y ∈ sent, y.request.method = .get) :
    m' = m ∧ s'.transaction = some t := by
  obtain ⟨hscope, rfl, _⟩ := hx _ _ _ _ hs h.conduct
  have hleaves : ∀ y ∈ sent, Leaves c t (fun cfg cfg' => cfg' = cfg) y.request := by
    intro y hy
    refine .of_anywhere hc (hscope y hy) (fun _ => rfl) fun cfg path _ => ?_
    rw [hget y hy]
    exact Memory.snd_onConfiguration_get cfg path _
  obtain ⟨cfg', rfl, rfl⟩ := h.answered.copies (R := fun cfg cfg' => cfg' = cfg) (fun _ => rfl)
    (fun h h' => h'.trans h) hleaves hcfg
  exact ⟨Memory.staging_self hcfg, hs⟩

namespace DataPlane.Client
variable {cfg : Configuration} {m m' : Memory}

/-! ## Passes -/

/-- The requests that do more than read. -/
def writes (sent : List Sent) : List Request :=
  (sent.map (·.request)).filter (·.method ≠ .get)

@[simp] theorem writes_append (sent₁ sent₂ : List Sent) :
    writes (sent₁ ++ sent₂) = writes sent₁ ++ writes sent₂ := by
  simp [writes]

theorem writes_eq_nil {sent : List Sent} :
    writes sent = [] ↔ ∀ y ∈ sent, y.request.method = .get := by
  simp [writes, List.filter_eq_nil_iff]

section
variable {s s' : Session} {sent : List Sent}

/-- A transaction is opened by one request besides reading the version. -/
theorem writes_of_open (hc : c.AtRoot) (hm : m.HasRoom)
    (h : Makes c c.openTransaction .fresh m sent (.ok t) s' m') :
    writes sent = [openRequest (Int64.ofInt m.version)] := by
  obtain ⟨reply₀, ⟨_, _, _, he, _⟩ | ⟨v, reply, hv, rfl, _⟩⟩ :=
    conduct_openTransaction rfl h.conduct
  · cases he
  · obtain ⟨rfl, _⟩ := Answered.cons_iff.1 h.answered
    obtain rfl : Int64.ofInt m.version = v :=
      Except.ok.inj ((received_version hc hm).symm.trans hv)
    rfl

/-- A transaction is closed by one request, which commits what was written. -/
theorem writes_of_close {r : Except ClientError Closing} (hs : s.transaction = some t)
    (h : Makes c c.close s m sent r s' m') :
    writes sent = [if s.dirty then c.commitRequest t else discardRequest t] := by
  cases hdirty : s.dirty with
  | true =>
    obtain ⟨reply, rfl, _⟩ := conduct_close_dirty hs hdirty h.conduct
    rfl
  | false =>
    obtain ⟨reply, rfl, _⟩ := conduct_close_clean hs hdirty h.conduct
    rfl

/-- Giving up forgets the copy of the transaction. -/
theorem makes_abort (hc : c.AtRoot) (ht : Net.IsPlain t.id)
    (hs : s.transaction = some t) (hcfg : m.staged.get? t.id = some cfg) :
    ∃ sent, Makes c c.abort s m sent (.ok ()) .fresh { m with staged := m.staged.erase t.id } ∧
      writes sent = [discardRequest t] := by
  have hserve := Memory.serve_discardRequest (m := m) hc ht
  rw [hcfg] at hserve
  have hdiscard : Makes c c.discard s m [⟨discardRequest t, (m.serve c (discardRequest t)).1⟩]
      (.ok ()) .fresh { m with staged := m.staged.erase t.id } := by
    refine ⟨(conduct_discard hs).2 ⟨_, rfl, ?_, rfl⟩, Answered.cons_iff.2 ⟨rfl, ?_⟩⟩
    · rw [hserve]
      rfl
    · rw [hserve]
      exact .nil _ _
  refine ⟨_, ⟨?_, hdiscard.answered⟩, rfl⟩
  rw [abort, conduct_get_bind, hs]
  exact conduct_tryCatch.2 (.inl ⟨(), rfl, hdiscard.conduct⟩)

/-- Whatever the steps of a pass do inside the transaction, they leave a copy of it. -/
theorem exists_makes (hc : c.AtRoot) (m : Memory) {body : SessionM β}
    (hbody : Staged (nextTransaction m) body) :
    ∃ sent r changed cfg, Makes c body (.begun (nextTransaction m)) m.opening sent r
      ((Session.begun (nextTransaction m)).marked changed) (m.opening.staging m.nextId cfg) := by
  obtain ⟨m₁, _, _, hmakes⟩ := Makes.of_run c body (.begun (nextTransaction m)) m.opening []
  have hstage := hbody _ _ _ _ rfl hmakes.conduct
  obtain ⟨cfg, rfl, _⟩ := hmakes.answered.copies (R := fun _ _ => True) (fun _ => trivial)
    (fun _ _ => trivial) (fun x hx => .of_scoped hc (hstage.inScope x hx))
    (Memory.get?_opening (t := nextTransaction m) rfl)
  rw [hstage.session] at hmakes
  exact ⟨_, _, _, cfg, hmakes⟩

/-- A pass is known by what its steps do inside the transaction. It commits what they leave if they
went well and changed something, and discards it otherwise. -/
theorem makes_pass (hc : c.AtRoot) (hm : m.HasRoom) {body : SessionM β} (f : β → α)
    {r : Except ClientError β} {changed : Bool}
    (h : Makes c body (.begun (nextTransaction m)) m.opening sent r
      ((Session.begun (nextTransaction m)).marked changed) (m.opening.staging m.nextId cfg)) :
    ∃ sent', Makes c (c.openTransaction >>= fun _ =>
        c.orAbort (body >>= fun b => c.close >>= fun _ => pure (f b))) .fresh m sent' (r.map f)
        .fresh (afterPass m (r.isOk && changed) cfg) ∧
      writes sent' = openRequest (Int64.ofInt m.version) :: writes sent ++
        [if r.isOk && changed then c.commitRequest (nextTransaction m)
          else discardRequest (nextTransaction m)] := by
  obtain ⟨sent₁, hopen⟩ := (runs_openTransaction hc hm).makes
  have hwrites₁ := writes_of_open hc hm hopen
  cases r with
  | ok b =>
    obtain ⟨closing, hruns⟩ := runs_closing hc m changed cfg
    obtain ⟨sent₂, hclose⟩ := hruns.makes
    have hbody := h.bind (f := fun b => c.close >>= fun _ => pure (f b))
      (hclose.bind (.pure (f b) .fresh (afterPass m changed cfg)))
    refine ⟨_, hopen.bind hbody.orAbort, ?_⟩
    rw [writes_append, writes_append, List.append_nil, hwrites₁, writes_of_close rfl hclose]
    rfl
  | error e =>
    obtain ⟨sent₂, habort, hwrites₂⟩ := makes_abort hc (t := nextTransaction m) m.isPlain_nextId
      (s := (Session.begun (nextTransaction m)).marked changed) rfl
      (m := m.opening.staging m.nextId cfg) Memory.get?_staging
    rw [discarding_opening] at habort
    have hbody := h.bind_failed (f := fun b => c.close >>= fun _ => pure (f b))
    refine ⟨_, hopen.bind (hbody.orAbort_failed habort), ?_⟩
    rw [writes_append, writes_append, hwrites₁, hwrites₂]
    rfl

/-- A pass whose steps leave everything as it is discards its transaction. -/
theorem makes_pass_kept (hc : c.AtRoot) (hm : m.HasRoom) {body : SessionM β} (f : β → α)
    {r : Except ClientError β}
    (h : Makes c body (.begun (nextTransaction m)) m.opening sent r
      (.begun (nextTransaction m)) m.opening) :
    ∃ sent', Makes c (c.openTransaction >>= fun _ =>
        c.orAbort (body >>= fun b => c.close >>= fun _ => pure (f b))) .fresh m sent' (r.map f)
        .fresh (afterPass m false m.committed) ∧
      writes sent' = openRequest (Int64.ofInt m.version) :: writes sent ++
        [discardRequest (nextTransaction m)] := by
  have hcopy : m.opening.staged.get? m.nextId = some m.committed :=
    Memory.get?_opening (t := nextTransaction m) rfl
  have hmakes : Makes c body (.begun (nextTransaction m)) m.opening sent r
      ((Session.begun (nextTransaction m)).marked false)
      (m.opening.staging m.nextId m.committed) := by
    rwa [Session.marked_false, Memory.staging_self hcopy]
  have hpass := makes_pass hc hm f hmakes
  rwa [Bool.and_false] at hpass

end

/-- After a pass there is room for the next one. -/
theorem hasRoom_afterPass (hm : m.HasRoom) (hversion : m.version + 1 < 0x8000000000000000)
    (changed : Bool) (cfg : Configuration) : (afterPass m changed cfg).HasRoom where
  room := (Table.size_erase_le ..).trans_lt hm.room
  version := by
    have hv := hm.version
    cases changed with
    | true => exact ⟨Int.le_add_one hv.1, hversion⟩
    | false => exact hv

end DataPlane.Client
end ProxySync
