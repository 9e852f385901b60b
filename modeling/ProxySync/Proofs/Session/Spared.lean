import ProxySync.Proofs.Session.Reach
/-!
# What a pass leaves as it is

A pass over a backend with a plain name leaves all other backends. Where the name is skipped, a part
that is asked for may be taken for the name of a backend; what is kept there stays as it is all the
same, unless it can be read as a list.

## Main statements

* `Client.sameAt_of_apply`, `Client.sameAt_of_apply_step`: what an application leaves.
* `Client.noList_of_apply`: after it the backend itself is told as no list.
* `Client.unchanged_of_teardown_step`, `Client.absent_of_teardown`: what a teardown leaves.
-/
namespace ProxySync
open DataPlane SessionM

/-! ## Backends whose name is skipped -/

namespace DataPlane.Client
variable {c : Client} {t : Wire.Transaction} {name : String} {s s₁ : Session} {m m₁ : Memory}
  {cfg cfg' : Configuration}

/-- The place of a backend whose name is skipped is that of all backends. -/
theorem below?_step (hc : c.AtRoot) (hstep : Net.IsStep name) {method : Method}
    {body : Option Json} {p : String × String} :
    Memory.below? .configuration
        (c.wire (scopedRequest method ["backends", name] body p)).url.path =
      some ["backends"] := by
  have hskip : Net.Url.withoutSteps ["backends", name] = ["backends"] := by
    rcases hstep with rfl | rfl <;> rfl
  rw [← hskip]
  refine Memory.below?_address_withoutSteps hc fun n hn hdot hdots => ?_
  have hnames : n = "backends" ∨ n = name := by simpa [scopedRequest] using hn
  rcases hnames with rfl | rfl
  · decide
  · exact absurd hstep fun h => h.elim hdot hdots

/-- A look at a backend whose name is skipped shows something, if it goes well. -/
theorem found_of_runs_step (hc : c.AtRoot) (hstep : Net.IsStep name) (hs : s.transaction = some t)
    (hcfg : m.staged.get? t.id = some cfg) {found : Option Wire.Backend}
    (h : Runs c (c.getBackend name) s m (.ok found) s₁ m₁) :
    s₁ = s ∧ m₁ = m ∧ ∃ b, found = some b := by
  have hposes : Poses c (c.getBackend name) .get ["backends", name] none
      (c.foundIn "get backend" "backend" Wire.Backend.ofJson?) := poses_find?
  obtain ⟨hfound, rfl, rfl⟩ :=
    h.unique (hposes.runs hc (below?_step hc hstep) (by simp) rfl hs hcfg)
  rw [foundIn_told] at hfound
  refine ⟨Session.marked_false s, Memory.staging_self hcfg, ?_⟩
  cases hread : c.readIn "backend" Wire.Backend.ofJson? ⟨200, _⟩ with
  | ok b =>
    rw [hread] at hfound
    exact ⟨b, Except.ok.inj hfound⟩
  | error e =>
    rw [hread] at hfound
    cases hfound

/-- All backends cannot be replaced or deleted at once. -/
theorem not_runs_write_step (hc : c.AtRoot) (hstep : Net.IsStep name)
    (hs : s.transaction = some t) (hcfg : m.staged.get? t.id = some cfg) {body : Json}
    {operation resource change : String} {a : Unit} :
    ¬ Runs c (c.write .put ["backends", name] body operation resource change) s m (.ok a) s₁
      m₁ := by
  intro h
  have hposes : Poses c (c.write .put ["backends", name] body operation resource change) .put
      ["backends", name] (some body) (writtenIn operation) := poses_write (.inr rfl)
  obtain ⟨hwritten, _⟩ := h.unique (hposes.runs hc (below?_step hc hstep) (by simp) rfl hs hcfg)
  cases hwritten

theorem not_runs_delete_step (hc : c.AtRoot) (hstep : Net.IsStep name)
    (hs : s.transaction = some t) (hcfg : m.staged.get? t.id = some cfg)
    {operation resource : String} {a : Change} :
    ¬ Runs c (c.delete ["backends", name] operation resource) s m (.ok a) s₁ m₁ := by
  intro h
  have hposes : Poses c (c.delete ["backends", name] operation resource) .delete
      ["backends", name] none (deletedIn operation) := poses_delete
  obtain ⟨hdeleted, _⟩ := h.unique (hposes.runs hc (below?_step hc hstep) (by simp) rfl hs hcfg)
  cases hdeleted

/-- The definition of a backend whose name is skipped is never written. -/
theorem runs_ensureDefinition_step (hc : c.AtRoot) {wanted : Wire.Backend}
    (hstep : Net.IsStep wanted.name) (hs : s.transaction = some t)
    (hcfg : m.staged.get? t.id = some cfg) {change : Change}
    (h : Runs c (c.ensureDefinition wanted) s m (.ok change) s₁ m₁) : s₁ = s ∧ m₁ = m := by
  obtain ⟨found, s₂, m₂, hget, hrest⟩ := Runs.of_bind h
  obtain ⟨rfl, rfl, b, rfl⟩ := found_of_runs_step hc hstep hs hcfg hget
  simp only at hrest
  split at hrest
  · exact absurd hrest not_runs_fail
  · split at hrest
    · obtain ⟨_, _, _, hwrite, _⟩ := Runs.of_bind hrest
      exact absurd hwrite (not_runs_write_step hc hstep hs hcfg)
    · obtain ⟨_, rfl, rfl⟩ := hrest.unique (.pure _ _ _)
      exact ⟨rfl, rfl⟩

/-- No backend whose name is skipped is ever deleted. -/
theorem not_runs_deleteBackend_step (hc : c.AtRoot) (hstep : Net.IsStep name)
    (hs : s.transaction = some t) (hcfg : m.staged.get? t.id = some cfg) {change : Change} :
    ¬ Runs c (c.deleteBackend name) s m (.ok change) s₁ m₁ := by
  intro h
  obtain ⟨found, s₂, m₂, hget, hrest⟩ := Runs.of_bind h
  obtain ⟨rfl, rfl, b, rfl⟩ := found_of_runs_step hc hstep hs hcfg hget
  simp only at hrest
  split at hrest
  · exact not_runs_fail hrest
  · exact not_runs_delete_step hc hstep hs hcfg hrest

/-- Where a part is taken for the name of a backend, that backend is looked at. -/
theorem onConfiguration_get (cfg : Configuration) (n : String) (body : Json) :
    Memory.onConfiguration cfg .get ["backends", n] body =
      (match cfg.backends.get? n with
        | none => .notFound
        | some j => .json 200 j, cfg) := by
  rw [Memory.onConfiguration, Memory.onBackends]
  cases cfg.backends.get? n <;> rfl

theorem below?_part_step (hc : c.AtRoot) (hstep : Net.IsStep name) {part : String}
    (hpart : Net.IsPlain part) {method : Method} {body : Option Json} {p : String × String} :
    Memory.below? .configuration
        (c.wire (scopedRequest method ["backends", name, part] body p)).url.path =
      some ["backends", part] := by
  rw [below?_part hc (.inr hstep) hpart, landing, if_pos hstep, if_pos hstep]

/-- The check list of a backend whose name is skipped is never replaced, unless the backend that is
found in its place can be read as one. -/
theorem runs_ensureHttpChecks_step (hc : c.AtRoot) (hstep : Net.IsStep name)
    (hs : s.transaction = some t) (hcfg : m.staged.get? t.id = some cfg)
    (hno : cfg.NoList "http_checks") {wanted : List Wire.HttpCheck} {change : Change}
    (h : Runs c (c.ensureHttpChecks name wanted) s m (.ok change) s₁ m₁) : s₁ = s ∧ m₁ = m := by
  obtain ⟨current, s₂, m₂, hget, hrest⟩ := Runs.of_bind h
  obtain ⟨found, s₃, m₃, hfind, hpure⟩ := Runs.of_bind hget
  obtain ⟨hcurrent, rfl, rfl⟩ := hpure.unique (.pure _ _ _)
  have hlook : Poses c (c.find? ["backends", name, "http_checks"] "get http checks"
      "http check list" (Json.list? Wire.HttpCheck.ofJson?)) .get
      ["backends", name, "http_checks"] none (c.foundIn "get http checks" "http check list"
        (Json.list? Wire.HttpCheck.ofJson?)) := poses_find?
  obtain ⟨hfound, hs₃, hm₃⟩ := hfind.unique
    (hlook.runs hc (below?_part_step hc hstep isPlain_httpChecks) (by simp)
      (onConfiguration_get cfg _ _) hs hcfg)
  cases hj : cfg.backends.get? "http_checks" with
  | some j =>
    rw [hj] at hfound
    simp only at hfound
    rw [foundIn_told, readIn_untold (hno j hj).checks] at hfound
    cases hfound
  | none =>
    rw [hj] at hs₃
    obtain rfl : s₂ = s := hs₃.trans (Session.marked_false s)
    obtain rfl : m₂ = m := hm₃.trans (Memory.staging_self hcfg)
    split at hrest
    · obtain ⟨_, rfl, rfl⟩ := hrest.unique (.pure _ _ _)
      exact ⟨rfl, rfl⟩
    · obtain ⟨_, _, _, hwrite, _⟩ := Runs.of_bind hrest
      have hreplace : Poses c (c.write .put ["backends", name, "http_checks"]
          (.arr (wanted.map (·.toJson))) "replace http checks" "http_checks" "update") .put
          ["backends", name, "http_checks"] (some (.arr (wanted.map (·.toJson))))
          (writtenIn "replace http checks") := poses_write (.inr rfl)
      have hserve : Memory.onConfiguration cfg .put ["backends", "http_checks"]
          (.arr (wanted.map (·.toJson))) = (.notFound, cfg) := by
        simp [Memory.onConfiguration, Memory.onBackends, Table.contains, hj]
      obtain ⟨hwritten, _⟩ := hwrite.unique
        (hreplace.runs hc (below?_part_step hc hstep isPlain_httpChecks) (by simp) hserve hs hcfg)
      cases hwritten

/-- The servers of a backend whose name is skipped are never brought in line, unless the backend
that is found in their place can be read as a list of servers. -/
theorem not_runs_syncServers_step (hc : c.AtRoot) (hstep : Net.IsStep name)
    (hs : s.transaction = some t) (hcfg : m.staged.get? t.id = some cfg)
    (hno : cfg.NoList "servers") {wanted : List Wire.Server} {report : ServerReport} :
    ¬ Runs c (c.syncServers name wanted) s m (.ok report) s₁ m₁ := by
  intro h
  obtain ⟨_, s₂, m₂, hensure, hrest⟩ := Runs.of_bind h
  obtain ⟨_, _, _, hlist, _⟩ := Runs.of_bind hrest
  -- What the servers are written over is still no list.
  obtain ⟨cfg₁, rfl, hs₂, hno₁⟩ := hensure.copies
    (R := fun cfg cfg' => cfg.NoList "servers" → cfg'.NoList "servers") (fun _ => id)
    (fun h₁ h₂ => h₂ ∘ h₁) (staged_ensureServers name .empty wanted)
    (asks_ensureServers name .empty wanted)
    (fun _ hq hscoped => leaves_noList hc (.inr hstep) hq hscoped "servers") hs hcfg
  have hposes : Poses c (c.listServers name) .get ["backends", name, "servers"] none
      (c.listedIn "list servers" "server list" Wire.Server.ofJson?) := poses_list
  obtain ⟨hlisted, _⟩ := hlist.unique
    (hposes.runs hc (below?_part_step hc hstep isPlain_servers) (by simp)
      (onConfiguration_get cfg₁ _ _) hs₂ Memory.get?_staging)
  cases hj : cfg₁.backends.get? "servers" with
  | none =>
    rw [hj] at hlisted
    cases hlisted
  | some j =>
    rw [hj] at hlisted
    have huntold := (hno₁ hno j hj).servers
    have hread : c.listedIn "list servers" "server list" Wire.Server.ofJson?
        ⟨200, (Answer.json 200 j).bodyText⟩ = .error (.decode "server list"
          (c.jsonDetail "server list" (Answer.json 200 j).bodyText)) := readIn_untold huntold
    cases hlisted.trans hread

end DataPlane.Client

/-! ## What passes leave as it is -/

section Passes
variable {α : Type} {c : Client} {m : Memory} {ok : Bool} {cfg' : Configuration} {d : Resolved}
  {name : String}

/-- What is committed is so related to what was committed before if any copy that the steps leave
is. -/
theorem Commits.related {R : Configuration → Configuration → Prop} {body : SessionM α}
    (h : Commits c body m ok cfg') (hrefl : R m.committed m.committed)
    (hruns : ∀ {t b s cfg}, t.id = m.nextId →
      Runs c body { transaction := some t, dirty := false } m.opening (.ok b) s
        (m.opening.staging t.id cfg) → R m.committed cfg) : R m.committed cfg' := by
  cases h with
  | nothing => exact hrefl
  | unchanged => exact hrefl
  | copy hid hrun => exact hruns hid hrun

namespace DataPlane.Client

/-- An application leaves all other backends. -/
theorem sameAt_of_apply (hc : c.AtRoot) (hname : Net.IsPlain d.name)
    (h : Commits c (c.ensureBackend d) m ok cfg') {n : String} (hn : n ≠ d.name) :
    m.committed.SameAt n cfg' := by
  refine h.related (.refl ..) fun {t b s cfg} hid hrun => ?_
  obtain ⟨cfg₁, hm, _, hsame⟩ := hrun.copies (R := Configuration.SameAt n) (.refl n) (·.trans ·)
    (staged_ensureBackend d) (asks_ensureBackend d)
    (fun q hq hs m cfg hcfg =>
      let ⟨cfg', hserve, hsame, _⟩ := leaves_backend hc hname hq hs m cfg hcfg
      ⟨cfg', hserve, hsame n hn⟩) rfl (Memory.get?_opening hid)
  rwa [Memory.staging_injective hm]

/-- A definition that can be dealt with is told as no list. -/
theorem noList_of_runs {t : Wire.Transaction} {s s₁ : Session} {m₁ : Memory} {cfg : Configuration}
    (hc : c.AtRoot) {wanted : Wire.Backend} (hname : Net.IsPlain wanted.name)
    (hs : s.transaction = some t) (hcfg : m.staged.get? t.id = some cfg) {change : Change}
    (h : Runs c (c.ensureDefinition wanted) s m (.ok change) s₁ m₁) : cfg.NoList wanted.name := by
  obtain ⟨found, _, _, hget, _⟩ := Runs.of_bind h
  obtain ⟨_, _, ⟨_, habsent⟩ | ⟨b, _, j, hj, htold⟩⟩ := found_of_runs hc hname hs hcfg hget
  · exact .of_absent habsent
  · intro j' hj'
    obtain rfl : j = j' := Option.some.inj (hj.symm.trans hj')
    exact IsTold.tellsNoList (.inl ⟨b, htold⟩)

/-- After an application the backend is told as no list, if it was told so before or all went
well. -/
theorem noList_of_apply (hc : c.AtRoot) (hname : Net.IsPlain d.name)
    (h : Commits c (c.ensureBackend d) m ok cfg') (hno : ok = true ∨ m.committed.NoList d.name) :
    cfg'.NoList d.name := by
  have hbefore {t b s cfg} (hid : t.id = m.nextId)
      (hrun : Runs c (c.ensureBackend d) { transaction := some t, dirty := false } m.opening (.ok b)
        s (m.opening.staging t.id cfg)) : m.committed.NoList d.name := by
    obtain ⟨_, _, _, hdefinition, _⟩ := Runs.of_bind hrun
    exact noList_of_runs hc hname rfl (Memory.get?_opening hid) hdefinition
  have hafter {t b s cfg} (hid : t.id = m.nextId)
      (hrun : Runs c (c.ensureBackend d) { transaction := some t, dirty := false } m.opening (.ok b)
        s (m.opening.staging t.id cfg)) : cfg.NoList d.name := by
    obtain ⟨cfg₁, hm, _, hkept⟩ := hrun.copies
      (R := fun cfg cfg' => cfg.NoList d.name → cfg'.NoList d.name) (fun _ => id)
      (fun h₁ h₂ => h₂ ∘ h₁) (staged_ensureBackend d) (asks_ensureBackend d)
      (fun q hq hs m cfg hcfg =>
        let ⟨cfg', hserve, _, hkept⟩ := leaves_backend hc hname hq hs m cfg hcfg
        ⟨cfg', hserve, hkept⟩) rfl (Memory.get?_opening hid)
    rw [Memory.staging_injective hm]
    exact hkept (hbefore hid hrun)
  cases h with
  | nothing hfailed => exact hno.resolve_left (by simp [hfailed])
  | unchanged hid hrun => exact hbefore hid hrun
  | copy hid hrun => exact hafter hid hrun

/-- An application to a backend whose name is skipped leaves everything, but for what may be found
in place of its parts and can be read as a list. -/
theorem sameAt_of_apply_step (hc : c.AtRoot) (hstep : Net.IsStep d.name)
    (h : Commits c (c.ensureBackend d) m ok cfg') {n : String}
    (hno : n = "http_checks" ∨ n = "servers" → m.committed.NoList n) :
    m.committed.SameAt n cfg' := by
  refine h.related (.refl ..) fun {t b s cfg} hid hrun => ?_
  have hcfg : m.opening.staged.get? t.id = some m.committed := Memory.get?_opening hid
  obtain ⟨_, _, _, hdefinition, hrest⟩ := Runs.of_bind hrun
  obtain ⟨rfl, rfl⟩ := runs_ensureDefinition_step hc hstep rfl hcfg hdefinition
  obtain ⟨_, s₁, m₁, hchecks, hrest⟩ := Runs.of_bind hrest
  obtain ⟨_, _, m₂, hservers, hpure⟩ := Runs.of_bind hrest
  obtain ⟨_, _, hm₂⟩ := hpure.unique (.pure _ _ _)
  have hlanding (part : String) : landing d.name part = part := if_pos hstep
  -- The check list lands under one name, the servers under another.
  have hafter : ∃ cfg₁, m₁ = m.opening.staging t.id cfg₁ ∧ s₁.transaction = some t ∧
      m.committed.SameAt n cfg₁ := by
    by_cases hn : n = "http_checks"
    · obtain ⟨rfl, rfl⟩ := runs_ensureHttpChecks_step hc hstep rfl hcfg
        (hn ▸ hno (.inl hn)) hchecks
      exact ⟨_, (Memory.staging_self hcfg).symm, rfl, .refl ..⟩
    · exact hchecks.copies (R := Configuration.SameAt n) (.refl n) (·.trans ·)
        (staged_ensureHttpChecks _ _) (asks_ensureHttpChecks _ _)
        (fun q hq hs => leaves_checks hc (.inr hstep) hq hs (by rwa [hlanding])) rfl hcfg
  obtain ⟨cfg₁, rfl, hs₁, hsame⟩ := hafter
  by_cases hn : n = "servers"
  · exact absurd hservers (not_runs_syncServers_step hc hstep hs₁ Memory.get?_staging
      (hn ▸ (hno (.inr hn)).of_sameAt hsame))
  · obtain ⟨cfg₂, rfl, _, hsame₂⟩ := hservers.copies
      (R := Configuration.SameAt n) (.refl n) (·.trans ·) (staged_syncServers _ _)
      (asks_syncServers _ _)
      (fun q hq hs => leaves_servers hc (.inr hstep) hq hs (by rwa [hlanding])) hs₁
      Memory.get?_staging
    rw [Memory.staging_staging] at hm₂
    rw [Memory.staging_injective hm₂]
    exact hsame.trans hsame₂

/-- A teardown of a backend whose name is skipped always fails. -/
theorem unchanged_of_teardown_step (hc : c.AtRoot) (hstep : Net.IsStep name)
    (h : Commits c (c.deleteBackend name) m ok cfg') : ok = false ∧ cfg' = m.committed := by
  cases h with
  | nothing hfailed => exact ⟨hfailed, rfl⟩
  | unchanged hid hrun | copy hid hrun =>
    exact absurd hrun (not_runs_deleteBackend_step hc hstep rfl (Memory.get?_opening hid))

/-- A teardown defines nothing, whatever the name. -/
theorem absent_of_teardown (hc : c.AtRoot) (h : Commits c (c.deleteBackend name) m ok cfg')
    {n : String} (habsent : m.committed.backends.get? n = none) :
    cfg'.backends.get? n = none := by
  refine h.related (R := fun cfg cfg' => cfg.backends.get? n = none → cfg'.backends.get? n = none)
    id (fun {t b s cfg} hid hrun => ?_) habsent
  obtain ⟨cfg₁, hm, _, hkept⟩ := hrun.copies
    (R := fun cfg cfg' => cfg.backends.get? n = none → cfg'.backends.get? n = none) (fun _ => id)
    (fun h₁ h₂ => h₂ ∘ h₁) (staged_deleteBackend name) (only_deleteBackend name)
    (fun q hq hs => leaves_absent hc hs hq n) rfl (Memory.get?_opening hid)
  rwa [Memory.staging_injective hm]

end DataPlane.Client
end Passes
end ProxySync
