import ProxySync.Session.Basic
/-!
# What a step of a session can do

A step of a session talks to a Data Plane of which nothing is known. `Dialogue.Leads` says which
answers lead a program to which result, whoever gives them, and every run in every environment is
such a path. `SessionM.Conduct` keeps of a path what the Data Plane sees: the requests in order,
each with its reply.

## Main definitions

* `Dialogue.Leads`: a program, answered in a given way, ends with a given result.
* `Sent`: a request with its reply; `Sent.ofTrace`: those of a trace, in order.
* `SessionM.Conduct`: the requests of a step, its result and the session it leaves.

## Main statements

* `Dialogue.leads_run`: the run in an environment is one of the paths.
* `SessionM.conduct_bind`, `SessionM.conduct_tryCatch`: what two steps do, one after the other, and
  what a step does whose failure is handled.
-/
namespace ProxySync

/-! ## Paths through a program -/

namespace Dialogue
variable {I : Interface} {α β σ : Type}

/-- Answered as in the list of exchanges, the program ends with the result. -/
inductive Leads : Dialogue I α → List (Exchange I) → α → Prop
  | done (a : α) : Leads (.done a) [] a
  | ask (c : I.Call) (r : I.Answer c) {next : I.Answer c → Dialogue I α} {tr : List (Exchange I)}
      {a : α} (h : Leads (next r) tr a) : Leads (.ask c next) (⟨c, r⟩ :: tr) a

/-- Every run is a path. -/
theorem leads_run (env : Environment I σ) (d : Dialogue I α) (s : σ) :
    Leads d (d.trace env s) (d.run env s).1 := by
  induction d generalizing s with
  | done a => exact .done a
  | ask c next ih => exact .ask c _ (ih _ _)

@[simp] theorem leads_done {a b : α} {tr : List (Exchange I)} :
    Leads (.done a) tr b ↔ tr = [] ∧ b = a := by
  constructor
  · rintro ⟨⟩
    exact ⟨rfl, rfl⟩
  · rintro ⟨rfl, rfl⟩
    exact .done _

theorem leads_ask {c : I.Call} {next : I.Answer c → Dialogue I α} {tr : List (Exchange I)}
    {a : α} : Leads (.ask c next) tr a ↔ ∃ r tr', tr = ⟨c, r⟩ :: tr' ∧ Leads (next r) tr' a := by
  constructor
  · rintro ⟨⟩
    exact ⟨_, _, rfl, by assumption⟩
  · rintro ⟨r, tr', rfl, h⟩
    exact .ask c r h

/-- A path through two programs is a path through the first and one through the second. -/
theorem leads_bind {d : Dialogue I α} {f : α → Dialogue I β} {tr : List (Exchange I)} {b : β} :
    Leads (d >>= f) tr b ↔
      ∃ tr₁ tr₂ a, tr = tr₁ ++ tr₂ ∧ Leads d tr₁ a ∧ Leads (f a) tr₂ b := by
  induction d generalizing tr with
  | done a =>
    constructor
    · exact fun h => ⟨[], tr, a, rfl, .done a, h⟩
    · rintro ⟨_, tr₂, _, rfl, ⟨⟩, h⟩
      exact h
  | ask c next ih =>
    simp only [ask_bind, leads_ask, ih]
    constructor
    · rintro ⟨r, _, rfl, tr₁, tr₂, a, rfl, h₁, h₂⟩
      exact ⟨⟨c, r⟩ :: tr₁, tr₂, a, rfl, ⟨r, tr₁, rfl, h₁⟩, h₂⟩
    · rintro ⟨_, tr₂, a, rfl, ⟨r, tr₁, rfl, h₁⟩, h₂⟩
      exact ⟨r, tr₁ ++ tr₂, rfl, tr₁, tr₂, a, rfl, h₁, h₂⟩

end Dialogue

/-- A request with its reply. -/
structure Sent where
  request : DataPlane.Request
  reply : DataPlane.Reply

/-- The requests of a trace with their replies, in order. -/
def Sent.ofTrace : List (Exchange DataPlane.interface) → List Sent
  | [] => []
  | ⟨.request r, reply⟩ :: tr => ⟨r, reply⟩ :: ofTrace tr
  | ⟨.measure _, _⟩ :: tr => ofTrace tr

@[simp] theorem Sent.ofTrace_append (tr₁ tr₂ : List (Exchange DataPlane.interface)) :
    ofTrace (tr₁ ++ tr₂) = ofTrace tr₁ ++ ofTrace tr₂ := by
  fun_induction ofTrace tr₁ with
  | case1 => rfl
  | case2 r reply tr ih => exact congrArg (_ :: ·) ih
  | case3 m u tr ih => exact ih

/-! ## Steps of a session -/

namespace SessionM
variable {α β : Type}

/-- The step, begun in a session, sends these requests and gets these replies, ends with the
result and leaves the session so. -/
def Conduct (x : SessionM α) (s : Session) (sent : List Sent) (r : Except ClientError α)
    (s' : Session) : Prop :=
  ∃ tr, Dialogue.Leads (x.start s) tr (r, s') ∧ Sent.ofTrace tr = sent

/-- Every run of a step is one of its conducts. -/
theorem conduct_run {σ : Type} (env : Environment DataPlane.interface σ) (x : SessionM α)
    (s : Session) (w : σ) :
    Conduct x s (Sent.ofTrace ((x.start s).trace env w)) ((x.start s).run env w).1.1
      ((x.start s).run env w).1.2 :=
  ⟨_, Dialogue.leads_run env _ w, rfl⟩

variable {s s' : Session} {sent : List Sent}

theorem start_bind (x : SessionM α) (f : α → SessionM β) (s : Session) :
    (x >>= f).start s = (x.start s >>= fun p => match p.1 with
      | .ok a => (f a).start p.2
      | .error e => .done (.error e, p.2)) := by
  refine congrArg (x.start s >>= ·) (funext fun p => ?_)
  rcases p with ⟨_ | _, _⟩ <;> rfl

theorem start_tryCatch (x : SessionM α) (f : ClientError → SessionM α) (s : Session) :
    (tryCatch x f).start s = (x.start s >>= fun p => match p.1 with
      | .ok a => .done (.ok a, p.2)
      | .error e => (f e).start p.2) := by
  refine congrArg (x.start s >>= ·) (funext fun p => ?_)
  rcases p with ⟨_ | _, _⟩ <;> rfl

/-- A step that is done at once sends nothing. -/
theorem conduct_of_done {x : SessionM α} {r r₀ : Except ClientError α} {s₀ : Session}
    (h : x.start s = .done (r₀, s₀)) :
    Conduct x s sent r s' ↔ sent = [] ∧ r = r₀ ∧ s' = s₀ := by
  simp only [Conduct, h, Dialogue.leads_done, Prod.mk.injEq]
  constructor
  · rintro ⟨_, ⟨rfl, rfl, rfl⟩, rfl⟩
    exact ⟨rfl, rfl, rfl⟩
  · rintro ⟨rfl, rfl, rfl⟩
    exact ⟨[], ⟨rfl, rfl, rfl⟩, rfl⟩

@[simp] theorem conduct_pure {a : α} {r : Except ClientError α} :
    Conduct (pure a) s sent r s' ↔ sent = [] ∧ r = .ok a ∧ s' = s :=
  conduct_of_done rfl

@[simp] theorem conduct_throw {e : ClientError} {r : Except ClientError α} :
    Conduct (throw e) s sent r s' ↔ sent = [] ∧ r = .error e ∧ s' = s :=
  conduct_of_done rfl

@[simp] theorem conduct_get {r : Except ClientError Session} :
    Conduct (get : SessionM Session) s sent r s' ↔ sent = [] ∧ r = .ok s ∧ s' = s :=
  conduct_of_done rfl

@[simp] theorem conduct_set {s₀ : Session} {r : Except ClientError PUnit} :
    Conduct (set s₀ : SessionM PUnit) s sent r s' ↔ sent = [] ∧ r = .ok ⟨⟩ ∧ s' = s₀ :=
  conduct_of_done rfl

@[simp] theorem conduct_modify {f : Session → Session} {r : Except ClientError PUnit} :
    Conduct (modify f : SessionM PUnit) s sent r s' ↔ sent = [] ∧ r = .ok ⟨⟩ ∧ s' = f s :=
  conduct_of_done rfl

theorem start_measure (m : Measurement) (s : Session) :
    (measure m).start s =
      .ask (I := DataPlane.interface) (.measure m) fun _ => .done (.ok (), s) := rfl

theorem start_request (q : DataPlane.Request) (s : Session) :
    (request q).start s =
      .ask (I := DataPlane.interface) (.request q) fun reply => .done (.ok reply, s) := rfl

/-- Measurements are not seen by the Data Plane. -/
@[simp] theorem conduct_measure {m : Measurement} {r : Except ClientError Unit} :
    Conduct (measure m) s sent r s' ↔ sent = [] ∧ r = .ok () ∧ s' = s := by
  constructor
  · rintro ⟨_, h, rfl⟩
    rw [start_measure] at h
    cases h with
    | ask _ _ h => cases h; exact ⟨rfl, rfl, rfl⟩
  · rintro ⟨rfl, rfl, rfl⟩
    exact ⟨[⟨.measure m, ()⟩], .ask _ _ (.done _), rfl⟩

@[simp] theorem conduct_request {q : DataPlane.Request}
    {r : Except ClientError DataPlane.Reply} :
    Conduct (request q) s sent r s' ↔ ∃ reply, sent = [⟨q, reply⟩] ∧ r = .ok reply ∧ s' = s := by
  constructor
  · rintro ⟨_, h, rfl⟩
    rw [start_request] at h
    cases h with
    | ask _ reply h => cases h; exact ⟨reply, rfl, rfl, rfl⟩
  · rintro ⟨reply, rfl, rfl, rfl⟩
    exact ⟨[⟨.request q, reply⟩], .ask _ _ (.done _), rfl⟩

/-- What two steps do, one after the other. -/
theorem conduct_bind {x : SessionM α} {f : α → SessionM β} {r : Except ClientError β} :
    Conduct (x >>= f) s sent r s' ↔
      (∃ sent₁ sent₂ a s₁, sent = sent₁ ++ sent₂ ∧ Conduct x s sent₁ (.ok a) s₁ ∧
        Conduct (f a) s₁ sent₂ r s') ∨
      ∃ e, r = .error e ∧ Conduct x s sent (.error e) s' := by
  simp only [Conduct, start_bind, Dialogue.leads_bind]
  constructor
  · rintro ⟨_, ⟨tr₁, tr₂, ⟨r₁, s₁⟩, rfl, h₁, h₂⟩, rfl⟩
    cases r₁ with
    | ok a => exact .inl ⟨_, _, a, s₁, Sent.ofTrace_append _ _, ⟨tr₁, h₁, rfl⟩, tr₂, h₂, rfl⟩
    | error e =>
      obtain ⟨rfl, h⟩ := Dialogue.leads_done.1 h₂
      obtain ⟨rfl, rfl⟩ := Prod.mk.inj h
      exact .inr ⟨e, rfl, tr₁, h₁, by simp⟩
  · rintro (⟨_, _, a, s₁, rfl, ⟨tr₁, h₁, rfl⟩, tr₂, h₂, rfl⟩ | ⟨e, rfl, tr, h, rfl⟩)
    · exact ⟨tr₁ ++ tr₂, ⟨tr₁, tr₂, (.ok a, s₁), rfl, h₁, h₂⟩, Sent.ofTrace_append _ _⟩
    · exact ⟨tr, ⟨tr, [], (.error e, s'), by simp, h, .done _⟩, rfl⟩

/-- What a step does whose value is put into another form. -/
theorem conduct_bind_pure {x : SessionM α} {f : α → β} {r : Except ClientError β} :
    Conduct (x >>= fun a => pure (f a)) s sent r s' ↔
      ∃ r₀, r = r₀.map f ∧ Conduct x s sent r₀ s' := by
  simp only [conduct_bind, conduct_pure]
  constructor
  · rintro (⟨_, _, a, _, rfl, h, rfl, rfl, rfl⟩ | ⟨e, rfl, h⟩)
    · exact ⟨.ok a, rfl, by simpa using h⟩
    · exact ⟨.error e, rfl, h⟩
  · rintro ⟨r₀, rfl, h⟩
    cases r₀ with
    | ok a => exact .inl ⟨sent, [], a, s', by simp, h, rfl, rfl, rfl⟩
    | error e => exact .inr ⟨e, rfl, h⟩

/-- What a step does whose failure is handled. -/
theorem conduct_tryCatch {x : SessionM α} {f : ClientError → SessionM α}
    {r : Except ClientError α} :
    Conduct (tryCatch x f) s sent r s' ↔
      (∃ a, r = .ok a ∧ Conduct x s sent (.ok a) s') ∨
      ∃ sent₁ sent₂ e s₁, sent = sent₁ ++ sent₂ ∧ Conduct x s sent₁ (.error e) s₁ ∧
        Conduct (f e) s₁ sent₂ r s' := by
  simp only [Conduct, start_tryCatch, Dialogue.leads_bind]
  constructor
  · rintro ⟨_, ⟨tr₁, tr₂, ⟨r₁, s₁⟩, rfl, h₁, h₂⟩, rfl⟩
    cases r₁ with
    | ok a =>
      obtain ⟨rfl, h⟩ := Dialogue.leads_done.1 h₂
      obtain ⟨rfl, rfl⟩ := Prod.mk.inj h
      exact .inl ⟨a, rfl, tr₁, h₁, by simp⟩
    | error e => exact .inr ⟨_, _, e, s₁, Sent.ofTrace_append _ _, ⟨tr₁, h₁, rfl⟩, tr₂, h₂, rfl⟩
  · rintro (⟨a, rfl, tr, h, rfl⟩ | ⟨_, _, e, s₁, rfl, ⟨tr₁, h₁, rfl⟩, tr₂, h₂, rfl⟩)
    · exact ⟨tr, ⟨tr, [], (.ok a, s'), by simp, h, .done _⟩, rfl⟩
    · exact ⟨tr₁ ++ tr₂, ⟨tr₁, tr₂, (.error e, s₁), rfl, h₁, h₂⟩, Sent.ofTrace_append _ _⟩

/-- A step that sends nothing only hands on its result and its session. -/
theorem conduct_bind_of_quiet {x : SessionM α} {f : α → SessionM β} {a : α} {s₁ : Session}
    {r : Except ClientError β}
    (h : ∀ {sent r s'}, Conduct x s sent r s' ↔ sent = [] ∧ r = .ok a ∧ s' = s₁) :
    Conduct (x >>= f) s sent r s' ↔ Conduct (f a) s₁ sent r s' := by
  rw [conduct_bind]
  constructor
  · rintro (⟨_, _, _, _, rfl, hx, hf⟩ | ⟨_, rfl, hx⟩)
    · obtain ⟨rfl, hr, rfl⟩ := h.1 hx
      cases hr
      exact hf
    · cases (h.1 hx).2.1
  · exact fun hf => .inl ⟨[], sent, a, s₁, rfl, h.2 ⟨rfl, rfl, rfl⟩, hf⟩

/-- After a failure nothing more is done. -/
theorem conduct_bind_of_failed {x : SessionM α} {f : α → SessionM β} {e : ClientError}
    {s₁ : Session} {r : Except ClientError β}
    (h : ∀ {sent r s'}, Conduct x s sent r s' ↔ sent = [] ∧ r = .error e ∧ s' = s₁) :
    Conduct (x >>= f) s sent r s' ↔ sent = [] ∧ r = .error e ∧ s' = s₁ := by
  rw [conduct_bind]
  constructor
  · rintro (⟨_, _, _, _, rfl, hx, hf⟩ | ⟨_, rfl, hx⟩)
    · cases (h.1 hx).2.1
    · obtain ⟨rfl, hr, rfl⟩ := h.1 hx
      cases hr
      exact ⟨rfl, rfl, rfl⟩
  · rintro ⟨rfl, rfl, rfl⟩
    exact .inr ⟨e, rfl, h.2 ⟨rfl, rfl, rfl⟩⟩

section quiet
variable {r : Except ClientError β}

@[simp] theorem conduct_get_bind {f : Session → SessionM β} :
    Conduct (get >>= f) s sent r s' ↔ Conduct (f s) s sent r s' :=
  conduct_bind_of_quiet conduct_get

@[simp] theorem conduct_set_bind {s₀ : Session} {f : PUnit → SessionM β} :
    Conduct (set s₀ >>= f) s sent r s' ↔ Conduct (f ⟨⟩) s₀ sent r s' :=
  conduct_bind_of_quiet conduct_set

@[simp] theorem conduct_modify_bind {g : Session → Session} {f : PUnit → SessionM β} :
    Conduct (modify g >>= f) s sent r s' ↔ Conduct (f ⟨⟩) (g s) sent r s' :=
  conduct_bind_of_quiet conduct_modify

@[simp] theorem conduct_measure_bind {m : Measurement} {f : Unit → SessionM β} :
    Conduct (measure m >>= f) s sent r s' ↔ Conduct (f ()) s sent r s' :=
  conduct_bind_of_quiet conduct_measure

@[simp] theorem conduct_fail {e : ClientError} :
    Conduct (fail e) s sent r s' ↔ sent = [] ∧ r = .error e ∧ s' = s := by
  rw [fail, conduct_measure_bind, conduct_throw]

@[simp] theorem conduct_markDirty {resource operation : String} {r : Except ClientError Unit} :
    Conduct (markDirty resource operation) s sent r s' ↔
      sent = [] ∧ r = .ok () ∧ s' = { s with dirty := true } := by
  rw [markDirty, conduct_modify_bind, conduct_measure]

@[simp] theorem conduct_markDirty_bind {resource operation : String} {f : Unit → SessionM β} :
    Conduct (markDirty resource operation >>= f) s sent r s' ↔
      Conduct (f ()) { s with dirty := true } sent r s' :=
  conduct_bind_of_quiet conduct_markDirty

end quiet
end SessionM

end ProxySync
