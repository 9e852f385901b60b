import ProxySync.Proofs.Session.Commits
import ProxySync.Validation
/-!
# What a request about a backend can reach

A request about a backend with a plain name reaches nothing that is kept under other names. A name
that is a step in the hierarchy is skipped on the way, and then the part that was asked for is taken
for the name of a backend.

## Main definitions

* `Net.IsStep`: a name that is skipped in a path.
* `Configuration.NoList`: what is kept under a name is told neither as checks nor as servers.
* `Within`, `landing`: where the requests about one backend arrive.

## Main statements

* `Configuration.sameAt_onConfiguration`: requests only change what they name.
* `leaves_backend`: what a request about a backend with a plain name leaves.
* `leaves_checks`, `leaves_servers`, `leaves_noList`: what the requests about parts leave.
-/
namespace ProxySync
open DataPlane SessionM

/-! ## Names -/

/-- A name that is skipped in a path. -/
def Net.IsStep (name : String) : Prop := name = "." ∨ name = ".."

instance (name : String) : Decidable (Net.IsStep name) :=
  inferInstanceAs (Decidable (_ ∨ _))

/-- The name of a backend is plain, or a step in the hierarchy. -/
theorem Validation.isPlain_or_isStep {name : String} (h : isName name = true) :
    Net.IsPlain name ∨ Net.IsStep name := by
  rw [isName, Bool.and_eq_true, Bool.not_eq_true', List.isEmpty_eq_false_iff, List.all_eq_true] at h
  by_cases hstep : Net.IsStep name
  · exact .inr hstep
  · rw [Net.IsStep, not_or] at hstep
    refine .inl ⟨?_, hstep.1, hstep.2, fun c hc => ?_⟩
    · rintro rfl
      exact h.1 rfl
    · have hchar := h.2 c hc
      simp only [Net.Url.isDropped, Bool.or_eq_false_iff, decide_eq_false_iff_not]
      refine ⟨⟨?_, ?_⟩, ?_⟩ <;> (rintro rfl; exact absurd hchar (by decide))

/-! ## Values that are no lists -/

section
variable {v : Json}

/-- A record whose first field is a text is no list of records. -/
theorem Json.list?_eq_none {α : Type} {item : Json → Option α} {names : List String} {r : Record}
    {x : String} (hr : v.record? ("name" :: names) = some r)
    (hname : r.required "name" Json.text? = some x) (hitem : ∀ s, item (.str s) = none) :
    Json.list? item v = none := by
  cases v with
  | arr items =>
    cases items with
    | nil =>
      simp only [Json.record?, List.length_nil, Nat.zero_le, if_true, Option.some.injEq] at hr
      subst hr
      simp [Record.required, slotAt] at hname
    | cons j items =>
      rw [Json.record?] at hr
      split at hr
      · obtain rfl := Option.some.inj hr
        have hj : j.text? = some x := by simpa [Record.required, slotAt] using hname
        cases j with
        | str s => simp [Json.list?, hitem]
        | _ => simp [Json.text?] at hj
      · cases hr
  | _ => rfl

/-- A value that is told as a backend or as a server. -/
def IsTold (j : Json) : Prop :=
  (∃ b, told? Wire.Backend.ofJson? j = some b) ∨ ∃ s, told? Wire.Server.ofJson? j = some s

/-- It is told neither as a list of checks nor as one of servers. -/
structure TellsNoList (j : Json) : Prop where
  checks : told? (Json.list? Wire.HttpCheck.ofJson?) j = none
  servers : told? (Json.list? Wire.Server.ofJson?) j = none

theorem IsTold.tellsNoList {j : Json} (h : IsTold j) : TellsNoList j := by
  have hsome : ∃ v names r x, Json.parse? j.sorted.print = some v ∧
      v.record? ("name" :: names) = some r ∧ r.required "name" Json.text? = some x := by
    obtain ⟨_, h⟩ | ⟨_, h⟩ := h
    all_goals
      obtain ⟨v, hv, h⟩ := Option.bind_eq_some_iff.1 h
      obtain ⟨r, hr, h⟩ := Option.bind_eq_some_iff.1 h
      obtain ⟨x, hx, _⟩ := Option.bind_eq_some_iff.1 h
      exact ⟨v, _, r, x, hv, hr, hx⟩
  obtain ⟨v, names, r, x, hv, hr, hx⟩ := hsome
  constructor
  · rw [told?, hv]
    exact Json.list?_eq_none hr hx fun _ => rfl
  · rw [told?, hv]
    exact Json.list?_eq_none hr hx fun _ => rfl

theorem isTold_backend (b : Wire.Backend) : IsTold b.toJson := .inl ⟨b, told?_backend b⟩

theorem isTold_server (s : Wire.Server) : IsTold s.toJson := .inr ⟨s, (isKept_toJson s).told⟩

end

/-! ## What a request does to what is kept under a name -/

namespace DataPlane.Configuration

/-- What is kept under the name, if anything, is told as no list. -/
def NoList (name : String) (cfg : Configuration) : Prop :=
  ∀ j, cfg.backends.get? name = some j → TellsNoList j

theorem NoList.of_absent {name : String} {cfg : Configuration}
    (h : cfg.backends.get? name = none) : NoList name cfg :=
  fun _ hj => absurd (h.symm.trans hj) nofun

theorem NoList.of_sameAt {name : String} {cfg cfg' : Configuration} (h : NoList name cfg)
    (hsame : SameAt name cfg cfg') : NoList name cfg' :=
  fun j hj => h j (hsame.backends ▸ hj)

variable {name : String} {cfg : Configuration} {method : Method} {path : List String} {body : Json}

theorem sameAt_onBackends {b : Option String} (hb : ∀ n ∈ b, n ≠ name)
    (hpost : b = none → method = .post → Memory.nameOf body ≠ name) :
    SameAt name cfg (Memory.onBackends cfg method b body).2 := by
  unfold Memory.onBackends
  split
  · exact .refl ..
  · have hne := hpost rfl rfl
    split
    · exact .refl ..
    · constructor <;> simp [hne]
  · split <;> exact .refl ..
  · have hne := hb _ rfl
    split
    · constructor <;> simp [hne]
    · exact .refl ..
  · have hne := hb _ rfl
    split
    · constructor <;> simp [hne]
    · exact .refl ..
  · exact .refl ..

theorem sameAt_onChecks {b : String} (hb : b ≠ name) :
    SameAt name cfg (Memory.onChecks cfg method b body).2 := by
  unfold Memory.onChecks
  split
  · split <;> exact .refl ..
  · split
    · constructor <;> simp [hb]
    · exact .refl ..
  · exact .refl ..

theorem sameAt_onServers {b : String} {n : Option String} (hb : b ≠ name) :
    SameAt name cfg (Memory.onServers cfg method b n body).2 := by
  have hput (js : List Json) :
      SameAt name cfg { cfg with servers := cfg.servers.insert b js } := by
    constructor <;> simp [hb]
  unfold Memory.onServers
  split
  · exact .refl ..
  · exact hput _
  · split <;> exact .refl ..
  · split
    · exact .refl ..
    · exact hput _
  · split
    · exact hput _
    · exact .refl ..
  all_goals exact .refl ..

/-- Only requests that name it change what is kept under a name. -/
theorem sameAt_onConfiguration (hpath : ∀ tail, path ≠ "backends" :: name :: tail)
    (hpost : path = ["backends"] → method = .post → Memory.nameOf body ≠ name) :
    SameAt name cfg (Memory.onConfiguration cfg method path body).2 := by
  have hne {b tail} (h : path = "backends" :: b :: tail) : b ≠ name := by
    rintro rfl
    exact hpath tail h
  unfold Memory.onConfiguration
  split
  · exact sameAt_onBackends (by simp) fun _ => hpost rfl
  · exact sameAt_onBackends (by simpa using hne rfl) (by simp)
  · exact sameAt_onChecks (hne rfl)
  · exact sameAt_onServers (hne rfl)
  · exact sameAt_onServers (hne rfl)
  · exact .refl ..

theorem backends_onChecks {b : String} :
    (Memory.onChecks cfg method b body).2.backends = cfg.backends := by
  unfold Memory.onChecks
  split
  · split <;> rfl
  · split <;> rfl
  · rfl

theorem backends_onServers {b : String} {n : Option String} :
    (Memory.onServers cfg method b n body).2.backends = cfg.backends := by
  unfold Memory.onServers
  split
  · rfl
  · rfl
  · split <;> rfl
  · split <;> rfl
  · split <;> rfl
  all_goals rfl

variable (cfg method path body) in
/-- A request leaves the definitions alone, writes one, or erases one. -/
theorem backends_onConfiguration :
    (Memory.onConfiguration cfg method path body).2.backends = cfg.backends ∨
    (∃ b, (Memory.onConfiguration cfg method path body).2.backends = cfg.backends.insert b body ∧
      (path = ["backends"] ∧ method = .post ∧ Memory.nameOf body = b ∨
        path = ["backends", b] ∧ method = .put ∧ cfg.backends.contains b = true)) ∨
    ∃ b, (Memory.onConfiguration cfg method path body).2.backends = cfg.backends.erase b := by
  unfold Memory.onConfiguration
  split
  · unfold Memory.onBackends
    split
    · exact .inl rfl
    · split
      · exact .inl rfl
      · exact .inr (.inl ⟨_, rfl, .inl ⟨rfl, rfl, rfl⟩⟩)
    · contradiction
    · contradiction
    · contradiction
    · exact .inl rfl
  · rename_i b
    unfold Memory.onBackends
    split
    · contradiction
    · contradiction
    · split <;> exact .inl rfl
    · rename_i hb
      cases hb
      split
      · exact .inr (.inl ⟨b, rfl, .inr ⟨rfl, rfl, ‹_›⟩⟩)
      · exact .inl rfl
    · split
      · exact .inr (.inr ⟨_, rfl⟩)
      · exact .inl rfl
    · exact .inl rfl
  · exact .inl backends_onChecks
  · exact .inl backends_onServers
  · exact .inl backends_onServers
  · exact .inl rfl

/-- What is written in place of a backend is told as no list if it is told at all. -/
theorem NoList.onConfiguration (h : NoList name cfg)
    (hpost : path = ["backends"] → method = .post → IsTold body)
    (hput : path = ["backends", name] → method = .put → IsTold body) :
    NoList name (Memory.onConfiguration cfg method path body).2 := by
  intro j hj
  obtain hbackends | ⟨b, hbackends, hbody⟩ | ⟨b, hbackends⟩ :=
    backends_onConfiguration cfg method path body
  · exact h j (hbackends ▸ hj)
  · rw [hbackends, Table.get?_insert] at hj
    split at hj
    · rename_i hb
      obtain rfl := Option.some.inj hj
      obtain ⟨hpath, hm, _⟩ | ⟨hpath, hm, _⟩ := hbody
      · exact (hpost hpath hm).tellsNoList
      · exact (hput (hb ▸ hpath) hm).tellsNoList
    · exact h j hj
  · rw [hbackends, Table.get?_erase] at hj
    split at hj
    · cases hj
    · exact h j hj

/-- A definition that is not there only comes with the request that creates it. -/
theorem absent_onConfiguration (h : cfg.backends.get? name = none)
    (hpost : path = ["backends"] → method ≠ .post) :
    (Memory.onConfiguration cfg method path body).2.backends.get? name = none := by
  obtain hbackends | ⟨b, hbackends, hbody⟩ | ⟨b, hbackends⟩ :=
    backends_onConfiguration cfg method path body
  · rw [hbackends, h]
  · obtain ⟨hpath, hm, _⟩ | ⟨_, _, hthere⟩ := hbody
    · exact absurd hm (hpost hpath)
    · rw [hbackends, Table.get?_insert, if_neg, h]
      rintro rfl
      rw [Table.contains, h] at hthere
      cases hthere
  · rw [hbackends, Table.get?_erase, h, ite_self]

end DataPlane.Configuration

/-! ## Where the requests about a backend arrive -/

/-- Where the requests about what is kept under a name arrive: below it, or among all backends,
where they create none. -/
inductive Within (name : String) (method : Method) : List String → Prop
  | collection (noPost : method ≠ .post) : Within name method ["backends"]
  | below (tail : List String) : Within name method ("backends" :: name :: tail)

/-- The name under which the requests about a part of a backend arrive: its own, or that of the part
where its own is skipped. -/
def landing (backend part : String) : String := if Net.IsStep backend then part else backend

theorem landing_plain {backend part : String} (h : Net.IsPlain backend) :
    landing backend part = backend :=
  if_neg fun hstep => hstep.elim h.ne_dot h.ne_dots

section Arrival
variable {c : Client} {t : Wire.Transaction} {q : Request} {backend name : String}
  {path : List String}

theorem isPlain_httpChecks : Net.IsPlain "http_checks" := by decide

theorem isPlain_servers : Net.IsPlain "servers" := by decide

/-- On the way to a part of a backend all names but steps are plain. -/
theorem isPlain_part {part : String} (h : Net.IsPlain backend ∨ Net.IsStep backend)
    (hpart : Net.IsPlain part) :
    ∀ n ∈ ["backends", backend, part], n ≠ "." → n ≠ ".." → Net.IsPlain n := by
  intro n hn hdot hdots
  simp only [List.mem_cons, List.not_mem_nil, or_false] at hn
  rcases hn with rfl | rfl | rfl
  · decide
  · exact h.resolve_right fun hstep => hstep.elim hdot hdots
  · exact hpart

/-- A part of a backend is reached under the name where it lands. -/
theorem withoutSteps_part {part : String} (h : Net.IsPlain backend ∨ Net.IsStep backend)
    (hpart : Net.IsPlain part) :
    Net.Url.withoutSteps ["backends", backend, part] =
      "backends" :: landing backend part :: if Net.IsStep backend then [] else [part] := by
  by_cases hstep : Net.IsStep backend
  · rw [landing, if_pos hstep, if_pos hstep]
    rcases hstep with rfl | rfl <;> simp [Net.Url.withoutSteps, hpart.ne_dot, hpart.ne_dots]
  · have hplain := h.resolve_right hstep
    rw [landing, if_neg hstep, if_neg hstep]
    simp [Net.Url.withoutSteps, hplain.ne_dot, hplain.ne_dots, hpart.ne_dot, hpart.ne_dots]

theorem below?_part (hc : c.AtRoot) {part : String} {method : Method} {body : Option Json}
    {p : String × String} (h : Net.IsPlain backend ∨ Net.IsStep backend)
    (hpart : Net.IsPlain part) :
    Memory.below? .configuration
        (c.wire (Client.scopedRequest method ["backends", backend, part] body p)).url.path =
      some ("backends" :: landing backend part :: if Net.IsStep backend then [] else [part]) := by
  rw [← withoutSteps_part h hpart]
  exact Memory.below?_address_withoutSteps hc (isPlain_part h hpart)

/-- The requests about a check list never arrive at a definition, but for a name that is skipped. -/
theorem arrives_checks (hc : c.AtRoot) (hbackend : Net.IsPlain backend ∨ Net.IsStep backend)
    (h : q.AsksChecks backend) (hs : ScopedBy t q) :
    ∃ path, Memory.below? .configuration (c.wire q).url.path = some path ∧
      Within (landing backend "http_checks") q.method path ∧
      (Net.IsPlain backend → ∀ n, path ≠ ["backends", n]) := by
  cases h with
  | version => cases hs.2
  | checks =>
    refine ⟨_, below?_part hc hbackend isPlain_httpChecks, .below _, fun hplain n => ?_⟩
    rw [if_neg fun hstep : Net.IsStep backend => hstep.elim hplain.ne_dot hplain.ne_dots]
    simp

/-- The requests about servers, which may have any names. -/
theorem arrives_servers (hc : c.AtRoot) (hbackend : Net.IsPlain backend ∨ Net.IsStep backend)
    (h : q.AsksServers backend) (hs : ScopedBy t q) :
    ∃ path, Memory.below? .configuration (c.wire q).url.path = some path ∧
      Within (landing backend "servers") q.method path := by
  cases h with
  | version => cases hs.2
  | servers => exact ⟨_, below?_part hc hbackend isPlain_servers, .below _⟩
  | @server method name body p hm =>
    have hsegments : (Client.scopedRequest method ["backends", backend, "servers", name] body
        p).endpoint.segments = ["backends", backend, "servers"] ++ [name] := rfl
    obtain ⟨path, hbelow, hcases⟩ :=
      Memory.below?_address_concat hc hsegments (isPlain_part hbackend isPlain_servers)
        ⟨"backends", by simp, by decide⟩
    refine ⟨path, hbelow, ?_⟩
    rw [withoutSteps_part hbackend isPlain_servers] at hcases
    rcases hcases with rfl | rfl | ⟨x, rfl⟩
    · split
      · exact .collection hm
      · exact .below []
    · exact .below _
    · exact .below _

/-- What is written under a backend in place of a server is one. -/
theorem DataPlane.Request.AsksServers.isTold (h : q.AsksServers backend) (hput : q.method = .put) :
    IsTold (q.body.getD .null) := by
  cases h with
  | version => cases hput
  | servers hm => rcases hm with rfl | rfl <;> cases hput
  | server _ hwritten =>
    obtain ⟨w, rfl⟩ := hwritten hput
    exact isTold_server w

theorem Within.sameAt {cfg : Configuration} {method : Method} {body : Json} {n : String}
    (h : Within name method path) (hn : n ≠ name) :
    Configuration.SameAt n cfg (Memory.onConfiguration cfg method path body).2 := by
  cases h with
  | collection hm => exact Configuration.sameAt_onConfiguration (by simp) fun _ h => absurd h hm
  | below tail =>
    refine Configuration.sameAt_onConfiguration (fun rest h => hn ?_) (by simp)
    exact (List.cons.inj (List.cons.inj h).2).1.symm

theorem Within.ne_version {method : Method} (h : Within name method path) : path ≠ ["version"] := by
  cases h <;> simp

/-- A request leaves what its arrival makes of the copy. -/
theorem Leaves.of_arrival {R : Configuration → Configuration → Prop} (hc : c.AtRoot)
    (hs : ScopedBy t q) (hpath : Memory.below? .configuration (c.wire q).url.path = some path)
    (hversion : path ≠ ["version"])
    (h : ∀ cfg, R cfg (Memory.onConfiguration cfg q.method path (q.body.getD .null)).2) :
    Leaves c t R q := by
  intro m cfg hcfg
  rw [Memory.serve_scoped_at hc hs hpath hversion hcfg]
  exact ⟨_, rfl, h cfg⟩

/-- A request about a check list leaves everything else. -/
theorem leaves_checks (hc : c.AtRoot) (hbackend : Net.IsPlain backend ∨ Net.IsStep backend)
    (h : q.AsksChecks backend) (hs : ScopedBy t q) {n : String}
    (hn : n ≠ landing backend "http_checks") : Leaves c t (Configuration.SameAt n) q := by
  obtain ⟨path, hpath, hwithin, _⟩ := arrives_checks hc hbackend h hs
  exact .of_arrival hc hs hpath hwithin.ne_version fun _ => hwithin.sameAt hn

/-- So does a request about servers. -/
theorem leaves_servers (hc : c.AtRoot) (hbackend : Net.IsPlain backend ∨ Net.IsStep backend)
    (h : q.AsksServers backend) (hs : ScopedBy t q) {n : String}
    (hn : n ≠ landing backend "servers") : Leaves c t (Configuration.SameAt n) q := by
  obtain ⟨path, hpath, hwithin⟩ := arrives_servers hc hbackend h hs
  exact .of_arrival hc hs hpath hwithin.ne_version fun _ => hwithin.sameAt hn

/-- A request about servers puts no list in place of a backend. -/
theorem leaves_noList (hc : c.AtRoot) (hbackend : Net.IsPlain backend ∨ Net.IsStep backend)
    (h : q.AsksServers backend) (hs : ScopedBy t q) (n : String) :
    Leaves c t (fun cfg cfg' => cfg.NoList n → cfg'.NoList n) q := by
  obtain ⟨path, hpath, hwithin⟩ := arrives_servers hc hbackend h hs
  refine .of_arrival hc hs hpath hwithin.ne_version fun cfg hno => ?_
  refine hno.onConfiguration (fun hpath hm => ?_) fun _ => h.isTold
  cases hwithin with
  | collection hne => exact absurd hm hne
  | below => cases hpath

/-- A request about a backend with a plain name leaves all others, and puts no list in its place. -/
theorem leaves_backend (hc : c.AtRoot) {d : Resolved} (hname : Net.IsPlain d.name)
    (h : q.AsksBackend d) (hs : ScopedBy t q) :
    Leaves c t (fun cfg cfg' => (∀ n, n ≠ d.name → cfg.SameAt n cfg') ∧
      (cfg.NoList d.name → cfg'.NoList d.name)) q := by
  cases h with
  | definition h =>
    cases h with
    | version => cases hs.2
    | existing hm hwritten =>
      refine .of_arrival hc hs (Memory.below?_address hc (Client.isPlain_backends hname (by simp)))
        (by simp [Client.scopedRequest]) fun cfg => ⟨fun n hn => ?_, fun hno => ?_⟩
      · exact (Within.below []).sameAt hn
      · refine hno.onConfiguration (fun _ hpost => absurd hpost hm) fun _ hput => ?_
        rw [hwritten hput]
        exact isTold_backend _
    | create =>
      have hplain : ∀ n ∈ ["backends"], Net.IsPlain n := by decide
      refine .of_arrival hc hs (Memory.below?_address hc hplain) (by simp [Client.scopedRequest])
        fun cfg => ⟨fun n hn => ?_, fun hno => ?_⟩
      · refine Configuration.sameAt_onConfiguration (by simp [Client.scopedRequest]) fun _ _ => ?_
        rw [Client.scopedRequest, Option.getD_some, Client.nameOf_backend]
        exact hn.symm
      · refine hno.onConfiguration (fun _ _ => isTold_backend _) fun _ hput => ?_
        cases hput
  | checks h =>
    obtain ⟨path, hpath, hwithin, hnot⟩ := arrives_checks hc (.inl hname) h hs
    rw [landing_plain hname] at hwithin
    refine .of_arrival hc hs hpath hwithin.ne_version fun cfg =>
      ⟨fun n hn => hwithin.sameAt hn, fun hno => ?_⟩
    refine hno.onConfiguration (fun hpath hm => ?_) fun hpath => absurd hpath (hnot hname _)
    cases hwithin with
    | collection hne => exact absurd hm hne
    | below => cases hpath
  | servers h =>
    intro m cfg hcfg
    obtain ⟨cfg', hserve, hno⟩ := leaves_noList hc (.inl hname) h hs d.name m cfg hcfg
    refine ⟨cfg', hserve, fun n hn => ?_, hno⟩
    obtain ⟨cfg'', hserve', hsame⟩ :=
      leaves_servers hc (.inl hname) h hs (by rwa [landing_plain hname]) m cfg hcfg
    rwa [Memory.staging_injective (hserve.symm.trans hserve')]

/-- Wherever a request arrives, it leaves what it makes of the copy there. -/
theorem Leaves.of_anywhere {R : Configuration → Configuration → Prop} (hc : c.AtRoot)
    (hs : ScopedBy t q) (hrefl : ∀ cfg, R cfg cfg)
    (h : ∀ cfg path, (∀ n ∈ path, Net.IsPlain n) →
      R cfg (Memory.onConfiguration cfg q.method path (q.body.getD .null)).2) : Leaves c t R q := by
  intro m cfg hcfg
  have hkept : m = m.staging t.id cfg := (Memory.staging_self hcfg).symm
  obtain hserve | ⟨path, hpath, hserve⟩ := Memory.serve_configuration (m := m) hc hs.1
  · exact ⟨cfg, by rw [hserve]; exact hkept, hrefl cfg⟩
  · rw [hserve, Memory.sent, Memory.onArea_scoped (Memory.parameter?_wire hc hs.2), hcfg]
    split
    · exact ⟨cfg, hkept, hrefl cfg⟩
    · exact ⟨_, rfl, h cfg path hpath⟩

/-- A request that does not create anything leaves out what is not there, wherever it arrives. -/
theorem leaves_absent (hc : c.AtRoot) (hs : ScopedBy t q) (hm : q.method ≠ .post) (n : String) :
    Leaves c t (fun cfg cfg' => cfg.backends.get? n = none → cfg'.backends.get? n = none) q :=
  .of_anywhere hc hs (fun _ => id) fun _ _ _ h => Configuration.absent_onConfiguration h fun _ => hm

end Arrival

end ProxySync
