import ProxySync.Proofs.DataPlane.Address
import ProxySync.Proofs.Session.Operations
import ProxySync.Proofs.Session.Stages
import ProxySync.Proofs.Wire.Codec
/-!
# Switching rules are appended

A rule is written behind those that the list shows, and is not written where the list shows one with
its target and its condition text. Such a rule may still be another one: whether the condition has
to hold or not to hold is not compared.

## Main definitions

* `Wire.SwitchingRule.Equivalent`: rules that pick the same backend in the same cases.
* `Client.RuleCall`: the ways in which a call for a rule can go.
* `Client.StoresRules`: a Data Plane that keeps the list of a frontend and shows it.
* `Client.EnsuresRule`: what a call for a rule asks and returns.

## Main statements

* `Client.ruleCall_ensureRule`: a call for a rule goes in one of these ways.
* `Client.StoresRules.afterCalls`: however often it is asked for, a rule is appended once at most.
* `Client.ensures_rule`: what calls ask and return, and what they leave.
-/
namespace ProxySync

namespace Wire.SwitchingRule
variable {a b : SwitchingRule}

/-- Two rules pick the same backend in the same cases, where unset and empty texts are equal. -/
structure Equivalent (a b : SwitchingRule) : Prop where
  name : a.name = b.name
  cond : textOr a.cond = textOr b.cond
  condTest : textOr a.condTest = textOr b.condTest

theorem Equivalent.refl (a : SwitchingRule) : a.Equivalent a := ⟨rfl, rfl, rfl⟩

/-- Rules that agree are equivalent just if their conditions have the same sense. -/
theorem equivalent_iff :
    a.Equivalent b ↔ a.same b = true ∧ textOr a.cond = textOr b.cond := by
  constructor
  · intro h
    exact ⟨by simp [same, h.name, h.condTest], h.cond⟩
  · intro h
    obtain ⟨hname, htest⟩ : a.name = b.name ∧ textOr a.condTest = textOr b.condTest := by
      simpa [same] using h.1
    exact ⟨hname, h.2, htest⟩

theorem same_self (a : SwitchingRule) : a.same a = true := (equivalent_iff.1 (.refl a)).1

/-- The body that puts a list of rules in place. -/
def listJson (rules : List SwitchingRule) : Json := .arr (rules.map (·.toJson))

/-- The list that a body tells. -/
def ofBody? (body : String) : Option (List SwitchingRule) :=
  (Json.parse? body).bind (Json.list? ofJson?)

/-- A list of rules is read back as it was written. -/
theorem ofBody?_listJson (rules : List SwitchingRule) :
    ofBody? (listJson rules).print = some rules := by
  have hvalue : Json.IsValue (listJson rules) := Json.isValue_list.2 fun a _ => isValue_rule a
  rw [ofBody?, Json.parse?_print hvalue]
  exact Json.arrival_within.list (rule?_toJson Json.arrival_within 125) rules

end Wire.SwitchingRule

/-- In an environment the requests lead from one state to another, whatever is measured between
them. -/
inductive Visits {σ : Type} (env : Environment DataPlane.interface σ) : σ → List Sent → σ → Prop
  | nil (w : σ) : Visits env w [] w
  | request {q : DataPlane.Request} {w w' : σ} {sent : List Sent}
      (h : Visits env (env (.request q) w).2 sent w') :
      Visits env w (⟨q, (env (.request q) w).1⟩ :: sent) w'
  | measure {m : Measurement} {w w' : σ} {sent : List Sent}
      (h : Visits env (env (.measure m) w).2 sent w') : Visits env w sent w'

theorem visits_run {σ α : Type} (env : Environment DataPlane.interface σ)
    (d : Dialogue DataPlane.interface α) (w : σ) :
    Visits env w (Sent.ofTrace (d.trace env w)) (d.run env w).2 := by
  induction d generalizing w with
  | done a => exact .nil w
  | ask call next ih =>
    cases call with
    | request q => exact .request (ih _ _)
    | measure m => exact .measure (ih _ _)

namespace DataPlane.Client
open SessionM
open Wire (SwitchingRule textOr)
open Wire.SwitchingRule (listJson ofBody? Equivalent)
variable {σ : Type} {c : Client} {env : Environment interface σ} {frontend : String}
  {wanted : SwitchingRule} {held : σ → List SwitchingRule} {s s' : Session} {sent : List Sent}
  {w w' : σ}

/-! ## One call -/

/-- The request for the rules of a frontend. -/
def lookAtRules (frontend : String) (parameter : String × String) : Request :=
  scopedRequest .get ["frontends", frontend, "backend_switching_rules"] none parameter

/-- The request that puts a list of rules in place. -/
def putRules (frontend : String) (rules : List SwitchingRule) (parameter : String × String) :
    Request :=
  scopedRequest .put ["frontends", frontend, "backend_switching_rules"] (some (listJson rules))
    parameter

/-- The list of rules that a reply tells. -/
def toldRules (reply : Reply) : Option (List SwitchingRule) :=
  reply.tells (Json.list? SwitchingRule.ofJson?)

/-- Nothing but the version is read. -/
def AreVersions (sent : List Sent) : Prop := ∀ y ∈ sent, y.request = versionRequest

/-- The ways in which a call for a rule can go. -/
inductive RuleCall (frontend : String) (wanted : SwitchingRule) :
    List Sent → Except ClientError Change → Prop
  /-- It fails before it asks for the list. -/
  | unasked {sent : List Sent} {e : ClientError} (versions : AreVersions sent) :
    RuleCall frontend wanted sent (.error e)
  /-- No list is told. -/
  | untold {front : List Sent} {q : String × String} {reply : Reply} {e : ClientError}
      (versions : AreVersions front) :
    RuleCall frontend wanted (front ++ [⟨lookAtRules frontend q, reply⟩]) (.error e)
  /-- The list has a rule that agrees. -/
  | unchanged {front : List Sent} {q : String × String} {reply : Reply} {rules : List SwitchingRule}
      (versions : AreVersions front) (told : toldRules reply = some rules)
      (present : ∃ rule ∈ rules, rule.same wanted = true) :
    RuleCall frontend wanted (front ++ [⟨lookAtRules frontend q, reply⟩]) (.ok .unchanged)
  /-- It has none, and the call fails before it writes. -/
  | unwritten {front back : List Sent} {q : String × String} {reply : Reply} {e : ClientError}
      (versions : AreVersions front) (versions' : AreVersions back) :
    RuleCall frontend wanted (front ++ ⟨lookAtRules frontend q, reply⟩ :: back) (.error e)
  /-- It has none, and the list with the rule behind it is not accepted. -/
  | refused {front back : List Sent} {q q' : String × String} {reply reply' : Reply}
      {rules : List SwitchingRule} {e : ClientError} (versions : AreVersions front)
      (versions' : AreVersions back) (told : toldRules reply = some rules)
      (absent : ∀ rule ∈ rules, rule.same wanted = false) (refused : reply'.isAccepted = false) :
    RuleCall frontend wanted (front ++ ⟨lookAtRules frontend q, reply⟩ ::
      (back ++ [⟨putRules frontend (rules ++ [wanted]) q', reply'⟩])) (.error e)
  /-- It has none, and the list with the rule behind it is accepted. -/
  | updated {front back : List Sent} {q q' : String × String} {reply reply' : Reply}
      {rules : List SwitchingRule} (versions : AreVersions front) (versions' : AreVersions back)
      (told : toldRules reply = some rules) (absent : ∀ rule ∈ rules, rule.same wanted = false)
      (accepted : reply'.isAccepted = true) :
    RuleCall frontend wanted (front ++ ⟨lookAtRules frontend q, reply⟩ ::
      (back ++ [⟨putRules frontend (rules ++ [wanted]) q', reply'⟩])) (.ok .updated)

/-- A call for a rule goes in one of these ways. -/
theorem ruleCall_ensureRule {r : Except ClientError Change}
    (h : Conduct (c.ensureRule frontend wanted) s sent r s') : RuleCall frontend wanted sent r := by
  have hlist : Poses c (c.listRules frontend) .get
      ["frontends", frontend, "backend_switching_rules"] none (c.listedIn
        "list backend switching rules" "backend switching rule list" SwitchingRule.ofJson?) :=
    poses_list
  rw [ensureRule] at h
  obtain ⟨sent₁, sent₂, rules, s₁, rfl, hlook, hrest⟩ | ⟨e, rfl, hlook⟩ := conduct_bind.1 h
  · obtain ⟨_, he, _⟩ | ⟨front, q, reply, rfl, hfront, hr⟩ := hlist.cases hlook
    · cases he
    have htold : toldRules reply = some rules := of_listed hr
    by_cases hany : rules.any (·.same wanted) = true
    · rw [if_pos hany] at hrest
      obtain ⟨rfl, rfl, _⟩ := conduct_pure.1 hrest
      rw [List.append_nil]
      exact .unchanged hfront htold (List.any_eq_true.1 hany)
    · rw [if_neg hany] at hrest
      have habsent : ∀ rule ∈ rules, rule.same wanted = false := by simpa using hany
      rw [List.append_assoc, List.singleton_append]
      obtain ⟨r₀, rfl, hwrite⟩ := conduct_bind_pure.1 hrest
      obtain ⟨e, rfl, hback⟩ | ⟨back, q', reply', rfl, hback, hr'⟩ :=
        (poses_write (.inr rfl)).cases hwrite
      · exact .unwritten hfront hback
      · have hok : r₀.isOk = reply'.isAccepted := by rw [hr', isOk_written]
        cases r₀ with
        | ok a => exact .updated hfront hback htold habsent hok.symm
        | error e => exact .refused hfront hback htold habsent hok.symm
  · obtain ⟨_, _, hsent⟩ | ⟨front, q, reply, rfl, hfront, _⟩ := hlist.cases hlook
    · exact .unasked hsent
    · exact .untold hfront

/-- What a call for a rule asks and returns. -/
structure EnsuresRule (frontend : String) (wanted : SwitchingRule) (sent : List Sent)
    (r : Except ClientError Change) : Prop where
  /-- Without a change, only the list is asked for, and it has a rule that agrees. It has an
  equivalent one just if the condition of one that agrees has the wanted sense as well. -/
  unchanged : r = .ok .unchanged → ∃ q reply rules,
    Sent.asked sent = [⟨lookAtRules frontend q, reply⟩] ∧ toldRules reply = some rules ∧
    (∃ rule ∈ rules, rule.same wanted = true) ∧
    ((∃ rule ∈ rules, rule.Equivalent wanted) ↔
      ∃ rule ∈ rules, rule.same wanted = true ∧ textOr rule.cond = textOr wanted.cond)
  /-- With a change, the list has none that agrees. It is put in place once, in order and with the
  rule behind it, this is accepted, and what is put in place is read as just that. -/
  updated : r = .ok .updated → ∃ q q' reply reply' rules,
    Sent.asked sent = [⟨lookAtRules frontend q, reply⟩,
      ⟨putRules frontend (rules ++ [wanted]) q', reply'⟩] ∧
    toldRules reply = some rules ∧ (∀ rule ∈ rules, rule.same wanted = false) ∧
    reply'.isAccepted = true ∧
    ofBody? (listJson (rules ++ [wanted])).print = some (rules ++ [wanted])
  /-- A call that ends well does one of the two. -/
  ok : ∀ change, r = .ok change → change = .unchanged ∨ change = .updated
  /-- No write of a call that fails is accepted. -/
  failed : ∀ e, r = .error e → ∀ x ∈ sent, x.changes = false

theorem AreVersions.changes (h : AreVersions sent) : ∀ x ∈ sent, x.changes = false := by
  intro x hx
  exact Sent.changes_of_get (by rw [h x hx]; rfl)

theorem asked_lookAtRules {front back : List Sent} {q : String × String} {reply : Reply}
    (hfront : AreVersions front) :
    Sent.asked (front ++ ⟨lookAtRules frontend q, reply⟩ :: back) =
      ⟨lookAtRules frontend q, reply⟩ :: Sent.asked back := by
  rw [List.append_cons, Sent.asked_append, Sent.asked_append, asked_eq_nil hfront, lookAtRules,
    asked_scopedRequest]
  rfl

theorem changes_lookAtRules {front back : List Sent} {q : String × String} {reply : Reply}
    (hfront : AreVersions front) (hback : ∀ x ∈ back, x.changes = false) :
    ∀ x ∈ front ++ ⟨lookAtRules frontend q, reply⟩ :: back, x.changes = false := by
  intro x hx
  rcases List.mem_append.1 hx with hx | hx
  · exact hfront.changes x hx
  · rcases List.mem_cons.1 hx with rfl | hx
    · exact Sent.changes_of_get rfl
    · exact hback x hx

theorem changes_putRules {rules : List SwitchingRule} {q : String × String} {reply : Reply} :
    Sent.changes ⟨putRules frontend rules q, reply⟩ = reply.isAccepted := by
  cases reply <;> simp [Sent.changes, Reply.accepts, putRules, scopedRequest, Reply.isAccepted,
    Reply.status?]

theorem RuleCall.ensures {r : Except ClientError Change} (h : RuleCall frontend wanted sent r) :
    EnsuresRule frontend wanted sent r := by
  cases h with
  | unasked versions => exact ⟨nofun, nofun, nofun, fun _ _ => versions.changes⟩
  | untold versions =>
    exact ⟨nofun, nofun, nofun, fun _ _ => changes_lookAtRules versions (by simp)⟩
  | @unchanged front q reply rules versions told present =>
    refine ⟨fun _ => ⟨q, reply, rules, asked_lookAtRules versions, told, present, ?_⟩, nofun, ?_,
      nofun⟩
    · simp only [SwitchingRule.equivalent_iff]
    · intro change hchange
      cases hchange
      exact .inl rfl
  | unwritten versions versions' =>
    exact ⟨nofun, nofun, nofun, fun _ _ => changes_lookAtRules versions versions'.changes⟩
  | refused versions versions' told absent refused =>
    refine ⟨nofun, nofun, nofun, fun _ _ => changes_lookAtRules versions fun x hx => ?_⟩
    rcases List.mem_append.1 hx with hx | hx
    · exact versions'.changes x hx
    · rw [List.mem_singleton.1 hx, changes_putRules, refused]
  | @updated front back q q' reply reply' rules versions versions' told absent accepted =>
    refine ⟨nofun, fun _ => ⟨q, q', reply, reply', rules, ?_, told, absent, accepted,
      SwitchingRule.ofBody?_listJson _⟩, ?_, nofun⟩
    · rw [asked_lookAtRules versions, Sent.asked_append, asked_eq_nil versions', putRules,
        asked_scopedRequest, List.nil_append]
    · intro change hchange
      cases hchange
      exact .inr rfl

/-! ## A list that is kept -/

/-- The Data Plane keeps the list of rules of a frontend. It shows what it holds, and holds what is
put in place; where that is not accepted it may hold either. -/
structure StoresRules (env : Environment interface σ) (frontend : String)
    (held : σ → List SwitchingRule) : Prop where
  measured : ∀ m w, held (env (.measure m) w).2 = held w
  version : ∀ w, held (env (.request versionRequest) w).2 = held w
  looked : ∀ q w, held (env (.request (lookAtRules frontend q)) w).2 = held w
  shown : ∀ q w rules, toldRules (env (.request (lookAtRules frontend q)) w).1 = some rules →
    rules = held w
  replaced : ∀ rules q w, (env (.request (putRules frontend rules q)) w).1.isAccepted = true →
    held (env (.request (putRules frontend rules q)) w).2 = rules
  refused : ∀ rules q w, (env (.request (putRules frontend rules q)) w).1.isAccepted = false →
    held (env (.request (putRules frontend rules q)) w).2 = held w ∨
      held (env (.request (putRules frontend rules q)) w).2 = rules

/-- The list is as it was, or had no rule that agrees and has got the wanted one behind it. -/
def GrowsBy (wanted : SwitchingRule) (before after : List SwitchingRule) : Prop :=
  after = before ∨ (∀ rule ∈ before, rule.same wanted = false) ∧ after = before ++ [wanted]

/-- A list that has got the rule does not get it again. -/
theorem GrowsBy.trans {rules₁ rules₂ rules₃ : List SwitchingRule}
    (h₁ : GrowsBy wanted rules₁ rules₂) (h₂ : GrowsBy wanted rules₂ rules₃) :
    GrowsBy wanted rules₁ rules₃ := by
  rcases h₁ with rfl | ⟨habsent, rfl⟩
  · exact h₂
  · rcases h₂ with rfl | ⟨hagain, _⟩
    · exact .inr ⟨habsent, rfl⟩
    · have hself := hagain wanted (by simp)
      rw [SwitchingRule.same_self] at hself
      cases hself

/-- What a call makes of the list that is held. -/
structure Appends (wanted : SwitchingRule) (before after : List SwitchingRule)
    (r : Except ClientError Change) : Prop where
  grows : GrowsBy wanted before after
  unchanged : r = .ok .unchanged → after = before ∧ ∃ rule ∈ before, rule.same wanted = true
  updated : r = .ok .updated →
    (∀ rule ∈ before, rule.same wanted = false) ∧ after = before ++ [wanted]

namespace StoresRules
variable (h : StoresRules env frontend held)
include h

theorem of_nil (hvisits : Visits env w sent w') (hsent : sent = []) : held w' = held w := by
  induction hvisits with
  | nil => rfl
  | request => cases hsent
  | measure _ ih => rw [ih hsent, h.measured]

/-- The first request is answered while the list is still as it was. -/
theorem of_cons {x : Sent} {rest : List Sent} (hvisits : Visits env w sent w')
    (hsent : sent = x :: rest) : ∃ w₁, held w₁ = held w ∧
      x.reply = (env (.request x.request) w₁).1 ∧
      Visits env (env (.request x.request) w₁).2 rest w' := by
  induction hvisits with
  | nil => cases hsent
  | @request q w w' sent hrest =>
    cases hsent
    exact ⟨w, rfl, rfl, hrest⟩
  | @measure m w w' sent _ ih =>
    obtain ⟨w₁, hheld, hreply, hrest⟩ := ih hsent
    exact ⟨w₁, hheld.trans (h.measured m w), hreply, hrest⟩

theorem of_versions {front rest : List Sent} (hfront : AreVersions front)
    (hvisits : Visits env w (front ++ rest) w') :
    ∃ w₁, held w₁ = held w ∧ Visits env w₁ rest w' := by
  induction front generalizing w with
  | nil => exact ⟨w, rfl, hvisits⟩
  | cons x front ih =>
    obtain ⟨hx, hfront⟩ := List.forall_mem_cons.1 hfront
    obtain ⟨w₁, hheld, _, hrest⟩ := h.of_cons hvisits rfl
    obtain ⟨w₂, hheld', hrest⟩ := ih hfront hrest
    rw [hx, h.version, hheld] at hheld'
    exact ⟨w₂, hheld', hrest⟩

/-- The list is asked for while it is still as it was, and stays so. -/
theorem of_look {front rest : List Sent} {q : String × String} {reply : Reply}
    (hfront : AreVersions front)
    (hvisits : Visits env w (front ++ ⟨lookAtRules frontend q, reply⟩ :: rest) w') :
    ∃ w₁, held w₁ = held w ∧ (∀ rules, toldRules reply = some rules → rules = held w) ∧
      Visits env w₁ rest w' := by
  obtain ⟨w₁, hheld, hrest⟩ := h.of_versions hfront hvisits
  obtain ⟨w₂, hheld', hreply, hrest⟩ := h.of_cons hrest rfl
  refine ⟨_, (h.looked q w₂).trans (hheld'.trans hheld), fun rules htold => ?_, hrest⟩
  rw [show reply = _ from hreply] at htold
  rw [h.shown q w₂ rules htold, hheld', hheld]

/-- What one call makes of the list. -/
theorem appends {r : Except ClientError Change} (hcall : RuleCall frontend wanted sent r)
    (hvisits : Visits env w sent w') : Appends wanted (held w) (held w') r := by
  cases hcall with
  | unasked versions =>
    rw [← List.append_nil sent] at hvisits
    obtain ⟨w₁, hheld, hrest⟩ := h.of_versions versions hvisits
    exact ⟨.inl ((h.of_nil hrest rfl).trans hheld), nofun, nofun⟩
  | untold versions =>
    obtain ⟨w₁, hheld, _, hrest⟩ := h.of_look versions hvisits
    exact ⟨.inl ((h.of_nil hrest rfl).trans hheld), nofun, nofun⟩
  | unchanged versions told present =>
    obtain ⟨w₁, hheld, hshown, hrest⟩ := h.of_look versions hvisits
    have hkept : held w' = held w := (h.of_nil hrest rfl).trans hheld
    obtain rfl := hshown _ told
    exact ⟨.inl hkept, fun _ => ⟨hkept, present⟩, nofun⟩
  | @unwritten front back q reply e versions versions' =>
    obtain ⟨w₁, hheld, _, hrest⟩ := h.of_look versions hvisits
    rw [← List.append_nil back] at hrest
    obtain ⟨w₂, hheld', hrest⟩ := h.of_versions versions' hrest
    exact ⟨.inl ((h.of_nil hrest rfl).trans (hheld'.trans hheld)), nofun, nofun⟩
  | @refused front back q q' reply reply' rules e versions versions' told absent refused =>
    obtain ⟨w₁, hheld, hshown, hrest⟩ := h.of_look versions hvisits
    obtain rfl := hshown _ told
    obtain ⟨w₂, hheld', hrest⟩ := h.of_versions versions' hrest
    obtain ⟨w₃, hheld'', hreply, hrest⟩ := h.of_cons hrest rfl
    rw [show reply' = _ from hreply] at refused
    refine ⟨?_, nofun, nofun⟩
    rw [h.of_nil hrest rfl]
    rcases h.refused _ q' w₃ refused with hkept | hput
    · exact .inl (hkept.trans (hheld''.trans (hheld'.trans hheld)))
    · exact .inr ⟨absent, hput⟩
  | @updated front back q q' reply reply' rules versions versions' told absent accepted =>
    obtain ⟨w₁, hheld, hshown, hrest⟩ := h.of_look versions hvisits
    obtain rfl := hshown _ told
    obtain ⟨w₂, hheld', hrest⟩ := h.of_versions versions' hrest
    obtain ⟨w₃, hheld'', hreply, hrest⟩ := h.of_cons hrest rfl
    rw [show reply' = _ from hreply] at accepted
    have hput : held w' = held w ++ [wanted] :=
      (h.of_nil hrest rfl).trans (h.replaced _ q' w₃ accepted)
    exact ⟨.inr ⟨absent, hput⟩, nofun, fun _ => ⟨absent, hput⟩⟩

end StoresRules

/-! ## Calls one after the other -/

/-- A call for a rule, in a session and an environment. -/
def callRule (c : Client) (env : Environment interface σ) (frontend : String)
    (wanted : SwitchingRule) (s : Session) (w : σ) : (Except ClientError Change × Session) × σ :=
  ((c.ensureRule frontend wanted).start s).run env w

/-- The state that calls leave, each made in a session of its own. -/
def afterCalls (c : Client) (env : Environment interface σ) (frontend : String)
    (wanted : SwitchingRule) (sessions : List Session) (w : σ) : σ :=
  sessions.foldl (fun w s => (c.callRule env frontend wanted s w).2) w

theorem StoresRules.call (h : StoresRules env frontend held) (c : Client) (wanted : SwitchingRule)
    (s : Session) (w : σ) : Appends wanted (held w)
      (held (c.callRule env frontend wanted s w).2) (c.callRule env frontend wanted s w).1.1 :=
  h.appends (ruleCall_ensureRule (conduct_run env _ s w)) (visits_run env _ w)

/-- However often it is asked for, a rule is appended once at most. -/
theorem StoresRules.afterCalls (h : StoresRules env frontend held) (c : Client)
    (wanted : SwitchingRule) (sessions : List Session) (w : σ) :
    GrowsBy wanted (held w) (held (c.afterCalls env frontend wanted sessions w)) := by
  induction sessions generalizing w with
  | nil => exact .inl rfl
  | cons s sessions ih => exact (h.call c wanted s w).grows.trans (ih _)

/-- Whatever the Data Plane replies, a call for a rule puts the list that it was shown in place with
the rule behind it, unless a rule agrees. Where the Data Plane keeps the list, all the rules stay,
in order, and the wanted one is appended once at most. -/
theorem ensures_rule (c : Client) (env : Environment interface σ) (frontend : String)
    (wanted : SwitchingRule) :
    (∀ s w, EnsuresRule frontend wanted
      (Sent.ofTrace (((c.ensureRule frontend wanted).start s).trace env w))
      (c.callRule env frontend wanted s w).1.1) ∧
    ∀ held : σ → List SwitchingRule, StoresRules env frontend held →
      (∀ s w, Appends wanted (held w) (held (c.callRule env frontend wanted s w).2)
        (c.callRule env frontend wanted s w).1.1) ∧
      ∀ sessions w, GrowsBy wanted (held w) (held (c.afterCalls env frontend wanted sessions w)) :=
  ⟨fun s w => (ruleCall_ensureRule (conduct_run env _ s w)).ensures,
    fun _ h => ⟨h.call c wanted, h.afterCalls c wanted⟩⟩

/-- A Data Plane that keeps the rules of a frontend, and nothing else. -/
def ruleKeeper : Environment interface (List SwitchingRule)
  | .request q, rules =>
    match q.method, q.endpoint.segments, q.body with
    | .get, ["version"], _ => (.answered 200 "1", rules)
    | .get, _, _ => (.answered 200 (listJson rules).print, rules)
    | .put, _, some body =>
      match ofBody? body.print with
      | some rules' => (.answered 202 "", rules')
      | none => (.answered 400 "", rules)
    | _, _, _ => (.answered 405 "", rules)
  | .measure _, rules => ((), rules)

theorem storesRules_ruleKeeper (frontend : String) : StoresRules ruleKeeper frontend id := by
  have hput (rules : List SwitchingRule) (q : String × String) (w : List SwitchingRule) :
      ruleKeeper (.request (putRules frontend rules q)) w = (.answered 202 "", rules) := by
    simp [ruleKeeper, putRules, scopedRequest, SwitchingRule.ofBody?_listJson]
  have hlook (q : String × String) (w : List SwitchingRule) :
      ruleKeeper (.request (lookAtRules frontend q)) w = (.answered 200 (listJson w).print, w) := by
    simp [ruleKeeper, lookAtRules, scopedRequest]
  refine ⟨fun _ _ => rfl, fun _ => rfl, fun q w => ?_, fun q w rules htold => ?_,
    fun rules q w _ => ?_, fun rules q w _ => ?_⟩
  · rw [hlook]
  · rw [hlook] at htold
    have htold' : ofBody? (listJson w).print = some rules := htold
    rw [SwitchingRule.ofBody?_listJson] at htold'
    exact (Option.some.inj htold').symm
  · rw [hput]
    rfl
  · rw [hput]
    exact .inr rfl

/-- A case of it: of two calls for a rule behind another one, the second finds it. -/
theorem ensures_rule_behind :
    let held : List SwitchingRule := [⟨"api", none, none⟩]
    let wanted : SwitchingRule := ⟨"web", none, none⟩
    let c := onThisHost 5555 "admin" "secret"
    StoresRules ruleKeeper "web" id ∧
    GrowsBy wanted held (c.afterCalls ruleKeeper "web" wanted [.fresh, .fresh] held) ∧
    c.afterCalls ruleKeeper "web" wanted [.fresh, .fresh] held = held ++ [wanted] := by
  intro held wanted c
  have hstores := storesRules_ruleKeeper "web"
  have hgrows := ((ensures_rule c ruleKeeper "web" wanted).2 id hstores).2 [.fresh, .fresh] held
  simp only [id_eq] at hgrows
  exact ⟨hstores, hgrows, by decide +kernel⟩

/-- A call for a rule with the opposite condition ends well and leaves no such rule. -/
theorem opposite_rule_unchanged :
    let held : List SwitchingRule := [⟨"api", some "if", some "is_api"⟩]
    let wanted : SwitchingRule := ⟨"api", some "unless", some "is_api"⟩
    let call := (onThisHost 5555 "admin" "secret").callRule ruleKeeper "web" wanted .fresh held
    call.1.1.toOption = some .unchanged ∧ call.2 = held ∧
      ¬ ∃ rule ∈ call.2, rule.Equivalent wanted := by
  intro held wanted call
  have hunchanged : call.1.1.toOption = some .unchanged := by decide +kernel
  have hkept : call.2 = held := by decide +kernel
  clear_value call
  refine ⟨hunchanged, hkept, ?_⟩
  rintro ⟨rule, hrule, hequivalent⟩
  rw [hkept, List.mem_singleton] at hrule
  rw [hrule] at hequivalent
  exact absurd hequivalent.cond (by decide)

end DataPlane.Client
end ProxySync
