import Mathlib.Data.List.Nodup
import ProxySync.Proofs.Session.Steps
import ProxySync.Proofs.Wire.Canonical
import ProxySync.Session.Backends
/-!
# Bringing the objects of a backend in line

Inside a transaction each object of a backend ends up as it is wanted, whatever the copy held for
that backend before, as long as it belongs to this program and can be read. The copy changes only
where something is written, and only at that backend.

## Main definitions

* `Configuration.Defines`, `Configuration.Checks`, `Configuration.Serves`: what a configuration
  holds for a backend, as it is told to a client.
* `Confined`: a change of a configuration at one backend.
* `Wire.serverDifference`: what sets the servers of a backend apart from those that are wanted.

## Main statements

* `Client.works_ensureDefinition`, `Client.works_ensureHttpChecks`, `Client.works_syncServers`: the
  three stages.
-/
namespace ProxySync
open DataPlane Json

namespace DataPlane.Configuration

/-- The backend section of that name is told as this one. -/
def Defines (cfg : Configuration) (name : String) (b : Wire.Backend) : Prop :=
  ∃ j, cfg.backends.get? name = some j ∧ told? Wire.Backend.ofJson? j = some b

/-- The check list of the backend is told as this one; one that is not there is empty. -/
def Checks (cfg : Configuration) (name : String) (cs : List Wire.HttpCheck) : Prop :=
  told? (Json.list? Wire.HttpCheck.ofJson?) ((cfg.httpChecks.get? name).getD (.arr [])) = some cs

/-- The servers of the backend are kept as these. -/
def Serves (cfg : Configuration) (name : String) (ss : List Wire.Server) : Prop :=
  ∃ js, cfg.servers.get? name = some js ∧ List.Forall₂ (fun j s => Wire.Server.IsKept j s) js ss

end DataPlane.Configuration

/-- A configuration becomes another one that differs at most at one backend, and not at all unless
something was written. -/
structure Confined (name : String) (changed : Bool) (cfg cfg' : Configuration) : Prop where
  backends : ∀ n, n ≠ name → cfg'.backends.get? n = cfg.backends.get? n
  servers : ∀ n, n ≠ name → cfg'.servers.get? n = cfg.servers.get? n
  httpChecks : ∀ n, n ≠ name → cfg'.httpChecks.get? n = cfg.httpChecks.get? n
  kept : changed = false → cfg' = cfg

namespace Confined
variable {name : String} {changed changed₁ changed₂ : Bool} {cfg cfg₁ cfg' : Configuration}

theorem refl (name : String) (changed : Bool) (cfg : Configuration) :
    Confined name changed cfg cfg where
  backends _ _ := rfl
  servers _ _ := rfl
  httpChecks _ _ := rfl
  kept _ := rfl

theorem trans (h₁ : Confined name changed₁ cfg cfg₁) (h₂ : Confined name changed₂ cfg₁ cfg') :
    Confined name (changed₁ || changed₂) cfg cfg' where
  backends n hn := (h₂.backends n hn).trans (h₁.backends n hn)
  servers n hn := (h₂.servers n hn).trans (h₁.servers n hn)
  httpChecks n hn := (h₂.httpChecks n hn).trans (h₁.httpChecks n hn)
  kept h := by
    obtain ⟨hno₁, hno₂⟩ := Bool.or_eq_false_iff.1 h
    exact (h₂.kept hno₂).trans (h₁.kept hno₁)

/-- A write at the backend is confined to it. -/
theorem write (hb : ∀ n, n ≠ name → cfg'.backends.get? n = cfg.backends.get? n)
    (hs : ∀ n, n ≠ name → cfg'.servers.get? n = cfg.servers.get? n)
    (hh : ∀ n, n ≠ name → cfg'.httpChecks.get? n = cfg.httpChecks.get? n) :
    Confined name true cfg cfg' :=
  ⟨hb, hs, hh, nofun⟩

end Confined

namespace DataPlane.Client
variable {c : Client} {t : Wire.Transaction} {cfg : Configuration} {name : String}

/-- The names of the places below a backend are plain if the backend is. -/
theorem isPlain_backends {rest : List String} (hname : Net.IsPlain name)
    (hrest : ∀ n ∈ rest, Net.IsPlain n) : ∀ n ∈ "backends" :: name :: rest, Net.IsPlain n := by
  intro n hn
  rw [List.mem_cons, List.mem_cons] at hn
  rcases hn with rfl | rfl | hn
  · decide
  · exact hname
  · exact hrest n hn

/-! ## The section itself -/

theorem nameOf_backend (b : Wire.Backend) : Memory.nameOf b.toJson = b.name := by
  have hfield : b.toJson.field? "name" = some (.str b.name) := by
    rw [Wire.Backend.toJson, field?_ofFields (by simp)]
    rfl
  rw [Memory.nameOf, hfield]
  rfl

/-- Where there is no such section it is created, with no servers. -/
theorem works_ensureDefinition_absent (hc : c.AtRoot) {b : Wire.Backend}
    (hplain : Net.IsPlain b.name) (habsent : cfg.backends.get? b.name = none) :
    ∃ cfg', Works c t (c.ensureDefinition b) cfg .created true cfg' ∧
      cfg'.Defines b.name b.stamped ∧ cfg'.Serves b.name [] ∧
      cfg'.httpChecks = cfg.httpChecks ∧ Confined b.name true cfg cfg' := by
  let cfg' : Configuration :=
    { cfg with
      backends := cfg.backends.insert b.name b.stamped.toJson
      servers := cfg.servers.insert b.name [] }
  have hget : Works c t (c.getBackend b.name) cfg none false cfg := by
    refine works_find?_absent hc (isPlain_backends hplain (by simp)) (by simp) ?_
    simp [Memory.onConfiguration, Memory.onBackends, habsent]
  have hwrite : Works c t (c.write .post ["backends"] b.stamped.toJson "create backend" "backend"
      "create" >>= fun _ => pure Change.created) cfg .created true cfg' := by
    have hname : Memory.nameOf b.stamped.toJson = b.name := nameOf_backend b.stamped
    have hserve : Memory.onConfiguration cfg .post ["backends"] b.stamped.toJson =
        (.json 201 b.stamped.toJson, cfg') := by
      simp [Memory.onConfiguration, Memory.onBackends, hname, Table.contains, habsent, cfg']
    exact (works_write hc (by decide) (by simp) (.inl rfl) hserve rfl).bind (.pure _ _)
  refine ⟨cfg', hget.bind hwrite, ⟨_, ?_, told?_backend _⟩, ⟨[], ?_, .nil⟩, rfl, .write ?_ ?_ ?_⟩
  · simp [cfg']
  · simp [cfg']
  · intro n hn
    simp [cfg', Ne.symm hn]
  · intro n hn
    simp [cfg', Ne.symm hn]
  · exact fun _ _ => rfl

/-- A section of this program is replaced where it disagrees. -/
theorem works_ensureDefinition_managed (hc : c.AtRoot) {b current : Wire.Backend}
    (hplain : Net.IsPlain b.name) (hcurrent : cfg.Defines b.name current)
    (hmanaged : current.isManaged = true) :
    ∃ change cfg' b', Works c t (c.ensureDefinition b) cfg change change.isWrite cfg' ∧
      change = (if current.same b.stamped then .unchanged else .updated) ∧
      cfg'.Defines b.name b' ∧ b'.same b.stamped = true ∧ cfg'.servers = cfg.servers ∧
      cfg'.httpChecks = cfg.httpChecks ∧ Confined b.name change.isWrite cfg cfg' := by
  obtain ⟨j, hj, htold⟩ := hcurrent
  have hget : Works c t (c.getBackend b.name) cfg (some current) false cfg := by
    refine works_find? hc (isPlain_backends hplain (by simp)) (by simp) ?_ htold
    simp [Memory.onConfiguration, Memory.onBackends, hj]
  cases hsame : current.same b.stamped with
  | true =>
    refine ⟨.unchanged, cfg, current, hget.bind ?_, rfl, ⟨j, hj, htold⟩, hsame, rfl, rfl,
      .refl _ _ _⟩
    simp only [hmanaged, hsame]
    exact .pure _ _
  | false =>
    let cfg' : Configuration :=
      { cfg with backends := cfg.backends.insert b.name b.stamped.toJson }
    have hwrite : Works c t (c.write .put ["backends", b.stamped.name] b.stamped.toJson
        "update backend" "backend" "update" >>= fun _ => pure Change.updated) cfg .updated true
        cfg' := by
      have hserve : Memory.onConfiguration cfg .put ["backends", b.name] b.stamped.toJson =
          (.json 200 b.stamped.toJson, cfg') := by
        simp [Memory.onConfiguration, Memory.onBackends, Table.contains, hj, cfg']
      exact (works_write hc (isPlain_backends hplain (by simp)) (by simp) (.inr rfl) hserve
        rfl).bind (.pure _ _)
    refine ⟨.updated, cfg', b.stamped, hget.bind ?_, rfl, ⟨_, ?_, told?_backend _⟩,
      Wire.Backend.same_self _, rfl, rfl, .write ?_ ?_ ?_⟩
    · simp only [hmanaged, hsame]
      exact hwrite
    · simp [cfg']
    · intro n hn
      simp [cfg', Ne.symm hn]
    · exact fun _ _ => rfl
    · exact fun _ _ => rfl

/-! ## The check list -/

/-- The check list of a section that is there is replaced where it disagrees. -/
theorem works_ensureHttpChecks (hc : c.AtRoot) (hname : Net.IsPlain name)
    {cs : List Wire.HttpCheck} (wanted : List Wire.HttpCheck)
    (hthere : cfg.backends.contains name = true) (hcs : cfg.Checks name cs) :
    ∃ change cfg' cs', Works c t (c.ensureHttpChecks name wanted) cfg change change.isWrite cfg' ∧
      change = (if Wire.HttpCheck.sameList cs wanted then .unchanged else .updated) ∧
      cfg'.Checks name cs' ∧ Wire.HttpCheck.sameList cs' wanted = true ∧
      cfg'.backends = cfg.backends ∧ cfg'.servers = cfg.servers ∧
      Confined name change.isWrite cfg cfg' := by
  have hplain : ∀ n ∈ ["backends", name, "http_checks"], Net.IsPlain n :=
    isPlain_backends hname (by decide)
  have hget : Works c t (c.getHttpChecks name) cfg cs false cfg := by
    have hfind : Works c t (c.find? ["backends", name, "http_checks"] "get http checks"
        "http check list" (Json.list? Wire.HttpCheck.ofJson?)) cfg (some cs) false cfg := by
      refine works_find? hc hplain (by simp) ?_ hcs
      simp [Memory.onConfiguration, Memory.onChecks, hthere]
    exact hfind.bind (.pure cs cfg)
  cases hsame : Wire.HttpCheck.sameList cs wanted with
  | true =>
    refine ⟨.unchanged, cfg, cs, hget.bind ?_, rfl, hcs, hsame, rfl, rfl, .refl _ _ _⟩
    simp only [hsame]
    exact .pure _ _
  | false =>
    let body : Json := .arr (wanted.map (·.toJson))
    let cfg' : Configuration := { cfg with httpChecks := cfg.httpChecks.insert name body }
    have hserve : Memory.onConfiguration cfg .put ["backends", name, "http_checks"] body =
        (.json 202 body, cfg') := by
      simp [Memory.onConfiguration, Memory.onChecks, hthere, cfg']
    refine ⟨.updated, cfg', wanted, hget.bind ?_, rfl, ?_, Wire.HttpCheck.sameList_self _, rfl, rfl,
      .write ?_ ?_ ?_⟩
    · simp only [hsame]
      exact (works_write hc hplain (by simp) (.inr rfl) hserve rfl).bind (.pure _ _)
    · show told? _ ((cfg'.httpChecks.get? name).getD _) = _
      simpa [cfg'] using told?_checks wanted
    · exact fun _ _ => rfl
    · exact fun _ _ => rfl
    · intro n hn
      simp [cfg', Ne.symm hn]

/-! ## Servers that are kept -/

section
variable {js : List Json} {ss : List Wire.Server}

/-- A server is found by its name. -/
theorem find?_kept (h : List.Forall₂ (fun j s => Wire.Server.IsKept j s) js ss) (name : String) :
    (js.find? (Memory.isNamed name) = none ∧ ∀ s ∈ ss, s.name ≠ name) ∨
      ∃ j s, js.find? (Memory.isNamed name) = some j ∧ s ∈ ss ∧ s.name = name ∧ s.IsKept j := by
  induction h with
  | nil => exact .inl ⟨rfl, by simp⟩
  | @cons j s js ss hkept _ ih =>
    rw [List.find?_cons, hkept.isNamed]
    by_cases hs : s.name = name
    · rw [beq_iff_eq.2 hs]
      exact .inr ⟨j, s, rfl, List.mem_cons_self, hs, hkept⟩
    · rw [beq_false_of_ne hs]
      obtain ⟨hno, hall⟩ | ⟨j', s', hfind, hmem, hname, hkept'⟩ := ih
      · exact .inl ⟨hno, List.forall_mem_cons.2 ⟨hs, hall⟩⟩
      · exact .inr ⟨j', s', hfind, List.mem_cons_of_mem _ hmem, hname, hkept'⟩

/-- Where names are distinct, replacing the first server of a name replaces that server. -/
theorem replaceFirst?_kept (h : List.Forall₂ (fun j s => Wire.Server.IsKept j s) js ss)
    (hdistinct : (ss.map (·.name)).Nodup) {w : Wire.Server} (hw : w.name ∈ ss.map (·.name)) :
    ∃ js', Memory.replaceFirst? w.name w.toJson js = some js' ∧
      List.Forall₂ (fun j s => Wire.Server.IsKept j s) js'
        (ss.map fun s => if s.name = w.name then w else s) := by
  induction h with
  | nil => cases hw
  | @cons j s js ss hkept hrest ih =>
    obtain ⟨hs, hdistinct⟩ := List.nodup_cons.1 hdistinct
    rw [Memory.replaceFirst?, hkept.isNamed]
    by_cases hname : s.name = w.name
    · -- No other server has the name, so the rest is left as it is.
      have hothers : ∀ s' ∈ ss, (if s'.name = w.name then w else s') = id s' := by
        intro s' hs'
        refine if_neg fun heq => hs (List.mem_map.2 ⟨s', hs', ?_⟩)
        exact heq.trans hname.symm
      rw [beq_iff_eq.2 hname, List.map_cons, if_pos hname, List.map_congr_left hothers, List.map_id]
      exact ⟨_, rfl, .cons (isKept_toJson w) hrest⟩
    · rw [List.map_cons, List.mem_cons] at hw
      obtain ⟨js', hreplace, hkept'⟩ := ih hdistinct (hw.resolve_left (Ne.symm hname))
      rw [beq_false_of_ne hname, List.map_cons, if_neg hname]
      exact ⟨j :: js', by simp [hreplace], .cons hkept hkept'⟩

/-- Deleting by name keeps the servers of other names. -/
theorem filter_kept (h : List.Forall₂ (fun j s => Wire.Server.IsKept j s) js ss) (name : String) :
    List.Forall₂ (fun j s => Wire.Server.IsKept j s) (js.filter (! Memory.isNamed name ·))
      (ss.filter (·.name != name)) := by
  induction h with
  | nil => exact .nil
  | @cons j s js ss hkept hrest ih =>
    rw [List.filter_cons, List.filter_cons, hkept.isNamed]
    by_cases hs : s.name = name
    · simpa [hs] using ih
    · simpa [hs] using ⟨hkept, ih⟩

theorem any_kept (h : List.Forall₂ (fun j s => Wire.Server.IsKept j s) js ss) (name : String) :
    js.any (Memory.isNamed name) = ss.any (·.name == name) := by
  induction h with
  | nil => rfl
  | cons hkept _ ih => rw [List.any_cons, List.any_cons, hkept.isNamed, ih]

end

/-! ## Servers -/

/-- What became of the servers of a backend when one of them was ensured. -/
structure Ensured (w : Wire.Server) (ss ss' : List Wire.Server) : Prop where
  distinct : (ss'.map (·.name)).Nodup
  names : ∀ n, n ∈ ss'.map (·.name) ↔ n ∈ ss.map (·.name) ∨ n = w.name
  agrees : ∃ s ∈ ss', s.same w = true
  others : ∀ s ∈ ss, s.name ≠ w.name → s ∈ ss'

section
variable {w : Wire.Server} {ss : List Wire.Server}

theorem ensured_created (hdistinct : (ss.map (·.name)).Nodup) (hnew : ∀ s ∈ ss, s.name ≠ w.name) :
    Ensured w ss (ss ++ [w]) where
  distinct := by
    rw [List.map_append, List.nodup_append]
    refine ⟨hdistinct, by simp, fun n hn n' hn' => ?_⟩
    obtain ⟨s, hs, rfl⟩ := List.mem_map.1 hn
    rw [List.mem_singleton.1 hn']
    exact hnew s hs
  names n := by simp
  agrees := ⟨w, by simp, w.same_self⟩
  others s hs _ := List.mem_append_left _ hs

theorem names_replaced (w : Wire.Server) (ss : List Wire.Server) :
    (ss.map fun s => if s.name = w.name then w else s).map (·.name) = ss.map (·.name) := by
  rw [List.map_map]
  apply List.map_congr_left
  intro s _
  show (if s.name = w.name then w else s).name = s.name
  split
  · rename_i h
    exact h.symm
  · rfl

theorem ensured_updated (hdistinct : (ss.map (·.name)).Nodup) (hw : w.name ∈ ss.map (·.name)) :
    Ensured w ss (ss.map fun s => if s.name = w.name then w else s) := by
  have hnames := names_replaced w ss
  obtain ⟨s, hs, hname⟩ := List.mem_map.1 hw
  refine ⟨hnames ▸ hdistinct, fun n => ?_, ⟨w, ?_, w.same_self⟩, fun s hs hne => ?_⟩
  · rw [hnames]
    exact ⟨.inl, fun h => h.elim id fun h => h ▸ hw⟩
  · exact List.mem_map.2 ⟨s, hs, if_pos hname⟩
  · exact List.mem_map.2 ⟨s, hs, if_neg hne⟩

theorem ensured_unchanged (hdistinct : (ss.map (·.name)).Nodup) {s : Wire.Server} (hs : s ∈ ss)
    (hname : s.name = w.name) (hsame : s.same w = true) : Ensured w ss ss where
  distinct := hdistinct
  names n := ⟨.inl, fun h => h.elim id fun h => by
    rw [h, ← hname]
    exact List.mem_map_of_mem hs⟩
  agrees := ⟨s, hs, hsame⟩
  others _ hs _ := hs

end

end DataPlane.Client

/-! ## What sets servers apart -/

namespace Wire

/-- What becomes of a wanted server beside those that are there. -/
def serverChange (ss : List Server) (w : Server) : Change :=
  if ss.any (·.same w) then .unchanged
  else if ss.any (·.name == w.name) then .updated
  else .created

/-- The servers that are there after a wanted one has been ensured. -/
def withServer (ss : List Server) (w : Server) : List Server :=
  match serverChange ss w with
  | .created => ss ++ [w]
  | .updated => ss.map fun s => if s.name = w.name then w else s
  | _ => ss

/-- What is noted while wanted servers are ensured one after the other. -/
def noted (ss : List Server) (report : ServerReport) : List Server → ServerReport
  | [] => report
  | w :: ws => noted (withServer ss w) (report.note w.name (serverChange ss w)) ws

/-- What sets the servers that are there apart from those that are wanted: the names of those that
are missing and of those that are there but disagree, in the order in which they are wanted, and the
names of those that are not wanted, in the order in which they are there. -/
def serverDifference (ss wanted : List Server) : ServerReport where
  created := (wanted.map (·.name)).filter (· ∉ ss.map (·.name))
  updated :=
    (wanted.filter fun w => ss.any fun s => s.name = w.name ∧ s.same w = false).map (·.name)
  deleted := (ss.map (·.name)).filter (· ∉ wanted.map (·.name))

end Wire

namespace DataPlane.Client
open Wire (serverChange withServer noted serverDifference)
variable {c : Client} {t : Wire.Transaction} {cfg : Configuration} {name : String}

section
variable {w : Wire.Server} {ss : List Wire.Server}

/-- A wanted server is missing, or agrees with the one that is there, or disagrees. -/
theorem serverChange_cases (ss : List Wire.Server) (w : Wire.Server) :
    (serverChange ss w = .created ∧ withServer ss w = ss ++ [w] ∧ ∀ s ∈ ss, s.name ≠ w.name) ∨
    (serverChange ss w = .unchanged ∧ withServer ss w = ss ∧ ∃ s ∈ ss, s.same w = true) ∨
    serverChange ss w = .updated ∧
      withServer ss w = (ss.map fun s => if s.name = w.name then w else s) ∧
      w.name ∈ ss.map (·.name) ∧ ∀ s ∈ ss, s.same w = false := by
  rw [withServer, serverChange]
  cases hsame : ss.any (·.same w) with
  | true => exact .inr (.inl ⟨rfl, rfl, List.any_eq_true.1 hsame⟩)
  | false =>
    cases hthere : ss.any (·.name == w.name) with
    | true =>
      obtain ⟨s, hs, hname⟩ := List.any_eq_true.1 hthere
      refine .inr (.inr ⟨rfl, rfl, List.mem_map.2 ⟨s, hs, beq_iff_eq.1 hname⟩, fun s hs => ?_⟩)
      simpa using List.any_eq_false.1 hsame s hs
    | false =>
      refine .inl ⟨rfl, rfl, fun s hs => ?_⟩
      simpa using List.any_eq_false.1 hthere s hs

theorem serverChange_of_same {s : Wire.Server} (hs : s ∈ ss) (hsame : s.same w = true) :
    serverChange ss w = .unchanged := by
  rw [serverChange, if_pos (List.any_eq_true.2 ⟨s, hs, hsame⟩)]

theorem serverChange_eq_created : serverChange ss w = .created ↔ w.name ∉ ss.map (·.name) := by
  rw [List.mem_map]
  obtain ⟨hchange, _, hnew⟩ | ⟨hchange, _, s, hs, hsame⟩ | ⟨hchange, _, hmem, _⟩ :=
    serverChange_cases ss w
  · exact iff_of_true hchange fun ⟨s, hs, hname⟩ => hnew s hs hname
  · exact iff_of_false (by simp [hchange]) fun h => h ⟨s, hs, Wire.Server.name_of_same hsame⟩
  · exact iff_of_false (by simp [hchange]) fun h => h (List.mem_map.1 hmem)

theorem serverChange_eq_updated (hdistinct : (ss.map (·.name)).Nodup) :
    serverChange ss w = .updated ↔ ∃ s ∈ ss, s.name = w.name ∧ s.same w = false := by
  obtain ⟨hchange, _, hnew⟩ | ⟨hchange, _, s, hs, hsame⟩ | ⟨hchange, _, hmem, hno⟩ :=
    serverChange_cases ss w
  · exact iff_of_false (by simp [hchange]) fun ⟨s, hs, hname, _⟩ => hnew s hs hname
  · refine iff_of_false (by simp [hchange]) fun ⟨s', hs', hname, hno⟩ => ?_
    obtain rfl : s' = s :=
      List.inj_on_of_nodup_map hdistinct hs' hs (hname.trans (Wire.Server.name_of_same hsame).symm)
    rw [hsame] at hno
    cases hno
  · obtain ⟨s, hs, hname⟩ := List.mem_map.1 hmem
    exact iff_of_true hchange ⟨s, hs, hname, hno s hs⟩

theorem ensured_withServer (hdistinct : (ss.map (·.name)).Nodup) :
    Ensured w ss (withServer ss w) := by
  obtain ⟨_, hafter, hnew⟩ | ⟨_, hafter, s, hs, hsame⟩ | ⟨_, hafter, hmem, _⟩ :=
    serverChange_cases ss w
  · exact hafter ▸ ensured_created hdistinct hnew
  · exact hafter.symm ▸ ensured_unchanged hdistinct hs (Wire.Server.name_of_same hsame) hsame
  · exact hafter ▸ ensured_updated hdistinct hmem

/-- Servers of other names are what they were. -/
theorem mem_withServer_of_ne {s : Wire.Server} (hne : s.name ≠ w.name) :
    s ∈ withServer ss w ↔ s ∈ ss := by
  obtain ⟨_, hafter, _⟩ | ⟨_, hafter, _⟩ | ⟨_, hafter, _⟩ := serverChange_cases ss w
  · have hw : s ≠ w := fun h => hne (h ▸ rfl)
    simp [hafter, hw]
  · rw [hafter]
  · rw [hafter, List.mem_map]
    constructor
    · rintro ⟨s', hs', heq⟩
      split at heq
      · exact absurd (heq ▸ rfl) hne
      · exact heq ▸ hs'
    · exact fun hs => ⟨s, hs, if_neg hne⟩

/-- What is there after servers have been ensured one after the other. -/
theorem ensured_foldl {ws : List Wire.Server} (hdistinct : (ss.map (·.name)).Nodup)
    (hwanted : (ws.map (·.name)).Nodup) :
    ((ws.foldl withServer ss).map (·.name)).Nodup ∧
      (∀ n, n ∈ (ws.foldl withServer ss).map (·.name) ↔
        n ∈ ss.map (·.name) ∨ n ∈ ws.map (·.name)) ∧
      (∀ w ∈ ws, ∃ s ∈ ws.foldl withServer ss, s.same w = true) ∧
      ∀ s ∈ ss, s.name ∉ ws.map (·.name) → s ∈ ws.foldl withServer ss := by
  induction ws generalizing ss with
  | nil => exact ⟨hdistinct, by simp, by simp, fun s hs _ => hs⟩
  | cons w ws ih =>
    obtain ⟨hnew, hwanted⟩ := List.nodup_cons.1 hwanted
    have hensured : Ensured w ss (withServer ss w) := ensured_withServer hdistinct
    obtain ⟨hdistinct', hnames, hagree, hothers⟩ := ih hensured.distinct hwanted
    refine ⟨hdistinct', fun n => ?_, ?_, fun s hs hno => ?_⟩
    · rw [List.foldl_cons, hnames, hensured.names, List.map_cons, List.mem_cons, or_assoc]
    · -- What agreed with the first server is kept by the others, whose names are different.
      refine List.forall_mem_cons.2 ⟨?_, hagree⟩
      obtain ⟨s, hs, hsame⟩ := hensured.agrees
      exact ⟨s, hothers s hs (Wire.Server.name_of_same hsame ▸ hnew), hsame⟩
    · rw [List.map_cons, List.mem_cons, not_or] at hno
      exact hothers s (hensured.others s hs hno.1) hno.2

/-- One more wanted server sets apart by what becomes of it. -/
theorem serverDifference_cons (hdistinct : (ss.map (·.name)).Nodup) (ws : List Wire.Server) :
    (serverDifference ss (w :: ws)).created =
        (if serverChange ss w = .created then [w.name] else []) ++
          (serverDifference ss ws).created ∧
      (serverDifference ss (w :: ws)).updated =
        (if serverChange ss w = .updated then [w.name] else []) ++
          (serverDifference ss ws).updated := by
  have hany : (ss.any fun s => s.name = w.name ∧ s.same w = false) =
      decide (serverChange ss w = .updated) := by
    rw [Bool.eq_iff_iff, decide_eq_true_iff, serverChange_eq_updated hdistinct, List.any_eq_true]
    simp only [decide_eq_true_eq]
  simp only [serverDifference, List.map_cons, List.filter_cons, hany,
    ← serverChange_eq_created, decide_eq_true_eq]
  constructor <;> split <;> rfl

/-- The other wanted servers are set apart as before after one has been ensured. -/
theorem serverDifference_withServer {ws : List Wire.Server} (hdistinct : (ss.map (·.name)).Nodup)
    (hnew : w.name ∉ ws.map (·.name)) :
    (serverDifference (withServer ss w) ws).created = (serverDifference ss ws).created ∧
      (serverDifference (withServer ss w) ws).updated = (serverDifference ss ws).updated := by
  have hensured : Ensured w ss (withServer ss w) := ensured_withServer hdistinct
  constructor
  · refine List.filter_congr fun n hn => decide_eq_decide.2 ?_
    have hne : n ≠ w.name := by
      rintro rfl
      exact hnew hn
    simp [hensured.names, hne]
  · refine congrArg (List.map fun w : Wire.Server => w.name) (List.filter_congr fun w' hw' => ?_)
    have hne : w'.name ≠ w.name := fun h => hnew (List.mem_map.2 ⟨w', hw', h⟩)
    rw [Bool.eq_iff_iff, List.any_eq_true, List.any_eq_true]
    refine exists_congr fun s => and_congr_left fun hs => ?_
    exact mem_withServer_of_ne ((of_decide_eq_true hs).1 ▸ hne)

/-- What is noted is what set the servers apart at the start. -/
theorem noted_eq {ws : List Wire.Server} (report : ServerReport)
    (hdistinct : (ss.map (·.name)).Nodup) (hwanted : (ws.map (·.name)).Nodup) :
    noted ss report ws =
      { created := report.created ++ (serverDifference ss ws).created
        updated := report.updated ++ (serverDifference ss ws).updated
        deleted := report.deleted } := by
  induction ws generalizing ss report with
  | nil => simp [noted, serverDifference]
  | cons w ws ih =>
    obtain ⟨hnew, hwanted⟩ := List.nodup_cons.1 hwanted
    obtain ⟨hcreated, hupdated⟩ := serverDifference_withServer hdistinct hnew
    obtain ⟨hcreated', hupdated'⟩ := serverDifference_cons (w := w) hdistinct ws
    rw [noted, ih _ (ensured_withServer hdistinct).distinct hwanted, hcreated, hupdated, hcreated',
      hupdated']
    obtain ⟨hchange, _⟩ | ⟨hchange, _⟩ | ⟨hchange, _⟩ := serverChange_cases ss w <;>
      simp [hchange, ServerReport.note]

/-- No server that is ensured is one that is not wanted. -/
theorem deleted_foldl {ws wanted : List Wire.Server}
    (h : ∀ w ∈ ws, w.name ∈ wanted.map (·.name)) :
    (serverDifference (ws.foldl withServer ss) wanted).deleted =
      (serverDifference ss wanted).deleted := by
  induction ws generalizing ss with
  | nil => rfl
  | cons w ws ih =>
    obtain ⟨hw, h⟩ := List.forall_mem_cons.1 h
    rw [List.foldl_cons, ih h, serverDifference, serverDifference]
    obtain ⟨_, hafter, _⟩ | ⟨_, hafter, _⟩ | ⟨_, hafter, _⟩ := serverChange_cases ss w
    · rw [hafter, List.map_append, List.filter_append, List.map_singleton,
        List.filter_cons_of_neg (by simpa using hw), List.filter_nil, List.append_nil]
    · rw [hafter]
    · rw [hafter, names_replaced]

/-- When all wanted servers have been ensured, those that are not wanted are the same as before. -/
theorem extra_foldl (ss wanted : List Wire.Server) :
    (((wanted.foldl withServer ss).map (·.name)).filter
        fun n => !(wanted.map (·.name)).contains n) = (serverDifference ss wanted).deleted := by
  rw [← deleted_foldl fun w (hw : w ∈ wanted) => List.mem_map_of_mem hw]
  exact List.filter_congr fun n _ => Bool.eq_iff_iff.2 (by simp)

end

/-- A wanted server is created, replaced where it disagrees, or left. -/
theorem works_ensureServer (hc : c.AtRoot) (hname : Net.IsPlain name) {w : Wire.Server}
    (hw : Net.IsPlain w.name) {ss : List Wire.Server} (hss : cfg.Serves name ss)
    (hdistinct : (ss.map (·.name)).Nodup) :
    ∃ cfg', Works c t (c.ensureServer name w) cfg (serverChange ss w)
        (serverChange ss w).isWrite cfg' ∧
      cfg'.Serves name (withServer ss w) ∧
      Confined name (serverChange ss w).isWrite cfg cfg' ∧
      cfg'.backends = cfg.backends ∧ cfg'.httpChecks = cfg.httpChecks := by
  obtain ⟨js, hjs, hkept⟩ := hss
  have hservers : ∀ n ∈ ["backends", name, "servers"], Net.IsPlain n :=
    isPlain_backends hname (by decide)
  have hserver : ∀ n ∈ ["backends", name, "servers", w.name], Net.IsPlain n :=
    isPlain_backends hname (by simpa using ⟨by decide, hw⟩)
  let put (js : List Json) : Configuration := { cfg with servers := cfg.servers.insert name js }
  have hput (js : List Json) : Confined name true cfg (put js) ∧
      (put js).backends = cfg.backends ∧ (put js).httpChecks = cfg.httpChecks := by
    refine ⟨.write (fun _ _ => rfl) (fun n hn => ?_) fun _ _ => rfl, rfl, rfl⟩
    simp [put, Ne.symm hn]
  have hserves {js : List Json} {ss : List Wire.Server}
      (h : List.Forall₂ (fun j s => Wire.Server.IsKept j s) js ss) : (put js).Serves name ss :=
    ⟨js, by simp [put], h⟩
  obtain ⟨hno, hnew⟩ | ⟨j, s, hfind, hs, hsw, hj⟩ := find?_kept hkept w.name
  · have hget : Works c t (c.getServer name w.name) cfg none false cfg := by
      refine works_find?_absent hc hserver (by simp) ?_
      simp [Memory.onConfiguration, Memory.onServers, hjs, hno]
    have hserve : Memory.onConfiguration cfg .post ["backends", name, "servers"] w.toJson =
        (.json 201 w.toJson, put (js ++ [w.toJson])) := by
      simp [Memory.onConfiguration, Memory.onServers, hjs, put]
    have hkept' := List.rel_append hkept (.cons (isKept_toJson w) .nil)
    rw [withServer, serverChange_eq_created.2 (by simpa using hnew)]
    refine ⟨put (js ++ [w.toJson]), hget.bind ?_, hserves hkept', hput _⟩
    exact (works_write hc hservers (by simp) (.inl rfl) hserve rfl).bind (.pure _ _)
  · have hget : Works c t (c.getServer name w.name) cfg (some s) false cfg := by
      refine works_find? hc hserver (by simp) ?_ hj.told
      simp [Memory.onConfiguration, Memory.onServers, hjs, hfind]
    have hmem : w.name ∈ ss.map (·.name) := hsw ▸ List.mem_map_of_mem hs
    cases hsame : s.same w with
    | true =>
      rw [withServer, serverChange_of_same hs hsame]
      refine ⟨cfg, hget.bind ?_, ⟨js, hjs, hkept⟩, .refl _ _ _, rfl, rfl⟩
      simp only [hsame]
      exact .pure _ _
    | false =>
      obtain ⟨js', hreplace, hkept'⟩ := replaceFirst?_kept hkept hdistinct hmem
      have hserve : Memory.onConfiguration cfg .put ["backends", name, "servers", w.name]
          w.toJson = (.json 200 w.toJson, put js') := by
        simp [Memory.onConfiguration, Memory.onServers, hjs, hreplace, put]
      rw [withServer, (serverChange_eq_updated hdistinct).2 ⟨s, hs, hsw, hsame⟩]
      refine ⟨put js', hget.bind ?_, hserves hkept', hput _⟩
      simp only [hsame]
      exact (works_write hc hserver (by simp) (.inr rfl) hserve rfl).bind (.pure _ _)

theorem hasChanges_note (name : String) (report : ServerReport) (change : Change) :
    (report.note name change).hasChanges = (report.hasChanges || change.isWrite) := by
  have hconcat (names : List String) : (names ++ [name]).isEmpty = false := by
    cases names <;> rfl
  cases change with
  | created => simp [ServerReport.note, ServerReport.hasChanges, hconcat, Change.isWrite, bne]
  | updated => simp [ServerReport.note, ServerReport.hasChanges, hconcat, Change.isWrite, bne]
  | deleted => simp [ServerReport.note, ServerReport.hasChanges, hconcat, Change.isWrite, bne]
  | unchanged => simp [ServerReport.note, Change.isWrite]

/-- All wanted servers are there after they have been ensured, and what was written is noted. -/
theorem works_ensureServers (hc : c.AtRoot) (hname : Net.IsPlain name) {ws : List Wire.Server}
    (hws : ∀ w ∈ ws, Net.IsPlain w.name) {ss : List Wire.Server} (hss : cfg.Serves name ss)
    (hdistinct : (ss.map (·.name)).Nodup) (report : ServerReport) :
    ∃ changed cfg', Works c t (c.ensureServers name report ws) cfg (noted ss report ws) changed
        cfg' ∧
      (noted ss report ws).hasChanges = (report.hasChanges || changed) ∧
      cfg'.Serves name (ws.foldl withServer ss) ∧ Confined name changed cfg cfg' ∧
      cfg'.backends = cfg.backends ∧ cfg'.httpChecks = cfg.httpChecks := by
  induction ws generalizing cfg ss report with
  | nil => exact ⟨false, cfg, .pure _ _, by simp [noted], hss, .refl _ _ _, rfl, rfl⟩
  | cons w ws ih =>
    obtain ⟨hw, hws⟩ := List.forall_mem_cons.1 hws
    obtain ⟨cfg₁, hwork₁, hss₁, hconf₁, hb₁, hh₁⟩ :=
      works_ensureServer (t := t) hc hname hw hss hdistinct
    obtain ⟨changed, cfg', hwork, hreport, hss', hconf, hb, hh⟩ :=
      ih hws hss₁ (ensured_withServer hdistinct).distinct (report.note w.name (serverChange ss w))
    refine ⟨(serverChange ss w).isWrite || changed, cfg', hwork₁.bind hwork, ?_, hss',
      hconf₁.trans hconf, hb.trans hb₁, hh.trans hh₁⟩
    rw [noted, hreport, hasChanges_note, Bool.or_assoc]

/-- A server that is deleted by a plain name is there no more. -/
theorem works_deleteServer (hc : c.AtRoot) (hname : Net.IsPlain name) {n : String}
    (hn : Net.IsPlain n) {ss : List Wire.Server} (hss : cfg.Serves name ss) :
    ∃ change cfg', Works c t (c.deleteServer name n) cfg change change.isWrite cfg' ∧
      change = (if n ∈ ss.map (·.name) then .deleted else .unchanged) ∧
      cfg'.Serves name (ss.filter (·.name != n)) ∧ Confined name change.isWrite cfg cfg' ∧
      cfg'.backends = cfg.backends ∧ cfg'.httpChecks = cfg.httpChecks := by
  obtain ⟨js, hjs, hkept⟩ := hss
  have hplain : ∀ m ∈ ["backends", name, "servers", n], Net.IsPlain m :=
    isPlain_backends hname (by simpa using ⟨by decide, hn⟩)
  have hany := any_kept hkept n
  have hmem : ss.any (·.name == n) = decide (n ∈ ss.map (·.name)) := by
    rw [Bool.eq_iff_iff]
    simp
  by_cases hthere : n ∈ ss.map (·.name)
  · rw [hmem, decide_eq_true hthere] at hany
    let js' := js.filter (! Memory.isNamed n ·)
    let cfg' : Configuration := { cfg with servers := cfg.servers.insert name js' }
    have hserve : Memory.onConfiguration cfg .delete ["backends", name, "servers", n] .null =
        (.bare 204, cfg') := by
      simp [Memory.onConfiguration, Memory.onServers, hjs, hany, cfg', js']
    refine ⟨.deleted, cfg', works_delete hc hplain (by simp) hserve, (if_pos hthere).symm,
      ⟨js', by simp [cfg'], filter_kept hkept n⟩, .write ?_ ?_ ?_, rfl, rfl⟩
    · exact fun _ _ => rfl
    · intro m hm
      simp [cfg', Ne.symm hm]
    · exact fun _ _ => rfl
  · rw [hmem, decide_eq_false hthere] at hany
    have hserve : Memory.onConfiguration cfg .delete ["backends", name, "servers", n] .null =
        (.notFound, cfg) := by
      simp [Memory.onConfiguration, Memory.onServers, hjs, hany]
    have hall : ss.filter (·.name != n) = ss := by
      apply List.filter_eq_self.2
      intro s hs
      have hne : s.name ≠ n := fun h => hthere (h ▸ List.mem_map_of_mem hs)
      simpa using hne
    refine ⟨.unchanged, cfg, works_delete_absent hc hplain (by simp) hserve, (if_neg hthere).symm,
      ?_, .refl _ _ _, rfl, rfl⟩
    rw [hall]
    exact ⟨js, hjs, hkept⟩

/-- Servers that are deleted by plain names are there no more, and each of them is noted if they
were there. -/
theorem works_deleteServers (hc : c.AtRoot) (hname : Net.IsPlain name) {names : List String}
    (hnames : ∀ n ∈ names, Net.IsPlain n) (hdistinct : names.Nodup) {ss : List Wire.Server}
    (hss : cfg.Serves name ss) (hthere : ∀ n ∈ names, n ∈ ss.map (·.name))
    (report : ServerReport) :
    ∃ cfg', Works c t (c.deleteServers name report names) cfg
        { report with deleted := report.deleted ++ names } (!names.isEmpty) cfg' ∧
      cfg'.Serves name (ss.filter fun s => !names.contains s.name) ∧
      Confined name (!names.isEmpty) cfg cfg' ∧ cfg'.backends = cfg.backends ∧
      cfg'.httpChecks = cfg.httpChecks := by
  induction names generalizing cfg ss report with
  | nil =>
    refine ⟨cfg, ?_, by simpa using hss, .refl _ _ _, rfl, rfl⟩
    rw [List.append_nil]
    exact .pure _ _
  | cons n names ih =>
    obtain ⟨hn, hnames⟩ := List.forall_mem_cons.1 hnames
    obtain ⟨hnew, hdistinct⟩ := List.nodup_cons.1 hdistinct
    obtain ⟨hn', hthere⟩ := List.forall_mem_cons.1 hthere
    obtain ⟨_, cfg₁, hwork₁, hchange, hss₁, hconf₁, hb₁, hh₁⟩ :=
      works_deleteServer (t := t) hc hname hn hss
    rw [if_pos hn'] at hchange
    subst hchange
    have hthere₁ : ∀ m ∈ names, m ∈ (ss.filter (·.name != n)).map (·.name) := by
      intro m hm
      obtain ⟨s, hs, rfl⟩ := List.mem_map.1 (hthere m hm)
      have hne : s.name ≠ n := fun h => hnew (h ▸ hm)
      exact List.mem_map_of_mem (List.mem_filter.2 ⟨hs, by simpa using hne⟩)
    obtain ⟨cfg', hwork, hss', hconf, hb, hh⟩ :=
      ih hnames hdistinct hss₁ hthere₁ (report.note n .deleted)
    have hfilter : (ss.filter (·.name != n)).filter (fun s => !names.contains s.name) =
        ss.filter fun s => !(n :: names).contains s.name := by
      rw [List.filter_filter]
      apply List.filter_congr
      intro s _
      rw [Bool.eq_iff_iff]
      simp [and_comm]
    rw [hfilter] at hss'
    have hnoted : (report.note n .deleted).deleted ++ names = report.deleted ++ n :: names :=
      List.append_assoc ..
    refine ⟨cfg', ?_, hss', hconf₁.trans hconf, hb.trans hb₁, hh.trans hh₁⟩
    rw [← hnoted]
    exact hwork₁.bind hwork

/-- Afterwards the servers are those that are wanted, whatever there was before, and what was
written is what set them apart. -/
theorem works_syncServers (hc : c.AtRoot) (hname : Net.IsPlain name) {wanted : List Wire.Server}
    (hplain : ∀ w ∈ wanted, Net.IsPlain w.name) (hwanted : (wanted.map (·.name)).Nodup)
    {ss : List Wire.Server} (hss : cfg.Serves name ss) (hdistinct : (ss.map (·.name)).Nodup)
    (hstored : ∀ s ∈ ss, Net.IsPlain s.name) :
    ∃ report cfg' ss', Works c t (c.syncServers name wanted) cfg report report.hasChanges cfg' ∧
      report = serverDifference ss wanted ∧ cfg'.Serves name ss' ∧
      (ss'.map (·.name)).Perm (wanted.map (·.name)) ∧ (∀ w ∈ wanted, ∃ s ∈ ss', s.same w = true) ∧
      Confined name report.hasChanges cfg cfg' ∧ cfg'.backends = cfg.backends ∧
      cfg'.httpChecks = cfg.httpChecks := by
  obtain ⟨changed₁, cfg₁, hwork₁, hreport₁, hss₁, hconf₁, hb₁, hh₁⟩ :=
    works_ensureServers (t := t) hc hname hplain hss hdistinct .empty
  obtain ⟨hdistinct₁, hnames, hagree, _⟩ := ensured_foldl hdistinct hwanted
  have hreport := noted_eq .empty hdistinct hwanted
  have hextra₀ := extra_foldl ss wanted
  generalize noted ss .empty wanted = report₁ at hwork₁ hreport₁ hreport
  generalize wanted.foldl withServer ss = ss₁ at hss₁ hdistinct₁ hnames hagree hextra₀
  let extra := (ss₁.map (·.name)).filter fun n => !(wanted.map (·.name)).contains n
  have hlist : Works c t (c.listServers name) cfg₁ ss₁ false cfg₁ := by
    obtain ⟨js, hjs, hkept⟩ := hss₁
    refine works_list hc (isPlain_backends hname (by decide)) (by simp) ?_ (told?_servers hkept)
    simp [Memory.onConfiguration, Memory.onServers, hjs]
  have hextra : ∀ n ∈ extra, Net.IsPlain n := by
    intro n hn
    obtain ⟨hn, hunwanted⟩ := List.mem_filter.1 hn
    obtain hn | hn := (hnames n).1 hn
    · obtain ⟨s, hs, rfl⟩ := List.mem_map.1 hn
      exact hstored s hs
    · simp [hn] at hunwanted
  obtain ⟨cfg', hwork, hss', hconf, hb, hh⟩ :=
    works_deleteServers (t := t) hc hname hextra (hdistinct₁.filter _) hss₁
      (fun n hn => (List.mem_filter.1 hn).1) report₁
  -- What is wanted is not among the names to delete, and all else is.
  have hkeep (s : Wire.Server) (hs : s ∈ ss₁) :
      (!extra.contains s.name) = true ↔ s.name ∈ wanted.map (·.name) := by
    have hmem : s.name ∈ ss₁.map (·.name) := List.mem_map_of_mem hs
    simp [extra, hmem]
  have hall : { report₁ with deleted := report₁.deleted ++ extra } =
      serverDifference ss wanted := by
    rw [hreport]
    exact congrArg (ServerReport.mk _ _) hextra₀
  have hchanges : (serverDifference ss wanted).hasChanges =
      (changed₁ || (false || !extra.isEmpty)) := by
    have hnone : report₁.deleted = [] := by rw [hreport]; rfl
    have hempty : ServerReport.empty.hasChanges = false := rfl
    rw [hempty, Bool.false_or] at hreport₁
    rw [← hall, ← hreport₁]
    simp [ServerReport.hasChanges, hnone]
  refine ⟨_, cfg', _, ?_, rfl, hss', ?_, ?_, ?_, hb.trans hb₁, hh.trans hh₁⟩
  · rw [hchanges, ← hall]
    exact hwork₁.bind (hlist.bind hwork)
  · have hdistinct' : ((ss₁.filter fun s => !extra.contains s.name).map (·.name)).Nodup :=
      hdistinct₁.sublist (List.filter_sublist.map _)
    refine (List.perm_ext_iff_of_nodup hdistinct' hwanted).2 fun n => ⟨fun hn => ?_, fun hn => ?_⟩
    · obtain ⟨s, hs, rfl⟩ := List.mem_map.1 hn
      obtain ⟨hs, hkept⟩ := List.mem_filter.1 hs
      exact (hkeep s hs).1 hkept
    · obtain ⟨s, hs, rfl⟩ := List.mem_map.1 ((hnames n).2 (.inr hn))
      exact List.mem_map.2 ⟨s, List.mem_filter.2 ⟨hs, (hkeep s hs).2 hn⟩, rfl⟩
  · intro w hw
    obtain ⟨s, hs, hsame⟩ := hagree w hw
    refine ⟨s, List.mem_filter.2 ⟨hs, (hkeep s hs).2 ?_⟩, hsame⟩
    exact List.mem_map.2 ⟨w, hw, (Wire.Server.name_of_same hsame).symm⟩
  · rw [hchanges, Bool.false_or]
    exact hconf₁.trans hconf

end DataPlane.Client
end ProxySync
