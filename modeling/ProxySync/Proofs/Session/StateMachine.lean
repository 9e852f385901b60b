import ProxySync.Proofs.Session.Operations
/-!
# The state of a session

A session remembers a transaction and whether something was written in it. Both can be read off its
history: the transaction is the one opened last, if nothing has ended it since, and the session is
dirty if a write was accepted since its memory was last cleared. What operations return, and in
which order they come, makes no difference to that.

## Main definitions

* `Performed.opens?`, `Performed.Commits`, `Performed.FindsGone`, `Performed.Discards`: how an
  operation begins or ends a transaction.
* `Performed.Changes`: a write was accepted during the operation.
* `Turn`: what an operation can do to its session.
* `StateMachine`: what holds of a history at every point.

## Main statements

* `Client.turn`: every operation takes one of these turns.
* `Client.state_machine`: every history of a new session is one of the state machine.
-/
namespace ProxySync
open DataPlane (Client)
open DataPlane.Client (commitRequest discardRequest versionRequest)

namespace Performed

/-- The transaction that the operation opened. -/
def opens? : Performed → Option Wire.Transaction
  | ⟨.openTransaction, _, _, .ok t, _⟩ => some t
  | _ => none

/-- The operation committed, be it by closing. -/
def Commits : Performed → Prop
  | ⟨.commit, _, _, .ok _, _⟩ => True
  | ⟨.close, _, _, .ok (.committed _), _⟩ => True
  | _ => False

/-- A commit was answered with 404: there is no such transaction. -/
def FindsGone (c : Client) (p : Performed) : Prop :=
  ∃ x ∈ p.sent, (∃ t, x.request = c.commitRequest t) ∧ x.reply.isAbsent = true

/-- The operation is a discard, be it on giving up or on closing. -/
def Discards (p : Performed) : Prop :=
  p.operation = .discard ∨ p.operation = .abort ∨
    p.operation = .close ∧ ∃ x ∈ p.sent, ∃ t, x.request = discardRequest t

/-- The operation ended a transaction. -/
def Ends (c : Client) (p : Performed) : Prop := p.Commits ∨ p.FindsGone c ∨ p.Discards

/-- A write of the configuration was accepted during the operation. -/
def Changes (p : Performed) : Prop :=
  ∃ x ∈ p.sent, x.request.endpoint.area = .configuration ∧ x.changes = true

/-- The operation made the session forget what was written before. -/
def Clears (p : Performed) : Prop :=
  p.opens?.isSome = true ∨ p.Commits ∨ p.Discards ∧ p.before.transaction.isSome = true

end Performed

/-- What an operation can do to its session. -/
inductive Turn (c : Client) (p : Performed) : Prop
  | opened {t : Wire.Transaction} (opens : p.opens? = some t) (changes : ¬ p.Changes)
      (after : p.after = { transaction := some t, dirty := false })
  | committed (opens : p.opens? = none) (commits : p.Commits) (changes : ¬ p.Changes)
      (after : p.after = .fresh)
  | gone (opens : p.opens? = none) (commits : ¬ p.Commits) (gone : p.FindsGone c)
      (discards : ¬ p.Discards) (changes : ¬ p.Changes)
      (after : p.after = { p.before with transaction := none })
  | discarded (opens : p.opens? = none) (discards : p.Discards)
      (held : p.before.transaction.isSome = true) (changes : ¬ p.Changes)
      (after : p.after = .fresh)
  | kept (opens : p.opens? = none) (commits : ¬ p.Commits) (gone : ¬ p.FindsGone c)
      (discards : p.Discards → p.before.transaction = none)
      (transaction : p.after.transaction = p.before.transaction)
      (dirty : p.after.dirty = true ↔ p.before.dirty = true ∨ p.Changes)

namespace Turn
variable {c : Client} {p : Performed}

/-- An operation that leaves its session alone. -/
theorem idle (opens : p.opens? = none) (commits : ¬ p.Commits) (gone : ¬ p.FindsGone c)
    (discards : p.Discards → p.before.transaction = none) (changes : ¬ p.Changes)
    (after : p.after = p.before) : Turn c p :=
  .kept opens commits gone discards (by rw [after]) (by simp [after, changes])

theorem transaction (h : Turn c p) (t : Wire.Transaction) :
    p.after.transaction = some t ↔
      p.opens? = some t ∨ p.before.transaction = some t ∧
        ¬ (p.opens?.isSome = true ∨ p.Ends c) := by
  cases h with
  | opened opens _ after => simp [opens, after]
  | committed opens commits _ after => simp [opens, after, Session.fresh, Performed.Ends, commits]
  | gone opens _ gone _ _ after => simp [opens, after, Performed.Ends, gone]
  | discarded opens discards _ _ after =>
    simp [opens, after, Session.fresh, Performed.Ends, discards]
  | kept opens commits gone discards transaction _ =>
    have hends (ht : p.before.transaction = some t) : ¬ p.Ends c := by
      rintro (h | h | h)
      · exact commits h
      · exact gone h
      · rw [discards h] at ht
        cases ht
    simpa [opens, transaction] using hends

theorem dirty (h : Turn c p) :
    p.after.dirty = true ↔ p.Changes ∨ p.before.dirty = true ∧ ¬ p.Clears := by
  cases h with
  | opened opens changes after => simp [after, changes, Performed.Clears, opens]
  | committed _ commits changes after =>
    simp [after, Session.fresh, changes, Performed.Clears, commits]
  | gone opens commits _ discards changes after =>
    simp [after, changes, Performed.Clears, opens, commits, discards]
  | discarded _ discards held changes after =>
    simp [after, Session.fresh, changes, Performed.Clears, discards, held]
  | kept opens commits _ discards _ dirty =>
    have hclears : ¬ p.Clears := by
      rintro (h | h | ⟨h, held⟩)
      · simp [opens] at h
      · exact commits h
      · simp [discards h] at held
    rw [dirty, or_comm]
    simp [hclears]

end Turn

/-- The session after the reply to a commit, in each of the three cases. -/
theorem Session.settled_cases (s : Session) (reply : DataPlane.Reply) :
    (reply.isAbsent = true ∧ reply.isAccepted = false ∧
        s.settled reply = { s with transaction := none }) ∨
      (reply.isAbsent = false ∧ reply.isAccepted = true ∧ s.settled reply = .fresh) ∨
      (reply.isAbsent = false ∧ reply.isAccepted = false ∧ s.settled reply = s) := by
  cases reply with
  | lost cause => exact .inr (.inr ⟨rfl, rfl, rfl⟩)
  | answered status body =>
    simp only [DataPlane.Reply.isAbsent, DataPlane.Reply.isAccepted, DataPlane.Reply.status?,
      Option.any_some, Session.settled]
    by_cases h404 : status = 404
    · simp [h404, DataPlane.isSuccess]
    · by_cases hs : DataPlane.isSuccess status = true <;> simp [h404, hs]

namespace DataPlane.Client
open SessionM
variable {c : Client} {s s' : Session} {sent : List Sent}

/-- Opening writes nothing to the configuration, and nothing is committed by it. -/
theorem only_openTransaction_quiet :
    Only (fun q => (q.endpoint.area = .configuration → q.method = .get) ∧ q.method ≠ .put)
      c.openTransaction :=
  only_openTransaction ⟨fun _ => rfl, nofun⟩ fun _ => ⟨nofun, nofun⟩

/-! ## Turns -/

theorem not_changes {p : Performed}
    (h : ∀ x ∈ p.sent, x.request.endpoint.area = .configuration → x.request.method = .get) :
    ¬ p.Changes := by
  rintro ⟨x, hx, harea, hchanges⟩
  rw [Sent.changes_of_get (h x hx harea)] at hchanges
  cases hchanges

theorem not_findsGone {p : Performed} (h : ∀ x ∈ p.sent, x.request.method ≠ .put) :
    ¬ p.FindsGone c := by
  rintro ⟨x, hx, ⟨t, ht⟩, _⟩
  exact h x hx (by rw [ht]; rfl)

theorem turn_openTransaction {r : Except ClientError Wire.Transaction}
    (h : Conduct c.openTransaction s sent r s') : Turn c ⟨.openTransaction, s, sent, r, s'⟩ := by
  have hquiet := only_openTransaction_quiet _ _ _ _ h
  have hchanges : ¬ Performed.Changes ⟨.openTransaction, s, sent, r, s'⟩ :=
    not_changes fun x hx => (hquiet x hx).1
  obtain rfl := session_of_openTransaction h
  cases r with
  | ok t => exact .opened rfl hchanges rfl
  | error e =>
    exact .idle rfl id (not_findsGone fun x hx => (hquiet x hx).2) (by simp [Performed.Discards])
      hchanges rfl

/-- A commit, by whatever operation, takes the turn that its reply tells. -/
theorem turn_of_committing {p : Performed} {t : Wire.Transaction} {reply : Reply}
    (hsent : p.sent = [⟨c.commitRequest t, reply⟩]) (hopens : p.opens? = none)
    (hcommits : p.Commits ↔ reply.isAccepted = true) (hdiscards : ¬ p.Discards)
    (hafter : p.after = p.before.settled reply) : Turn c p := by
  have hchanges : ¬ p.Changes := by
    refine not_changes fun x hx harea => ?_
    rw [hsent] at hx
    rw [List.mem_singleton.1 hx] at harea
    cases harea
  have hgone : p.FindsGone c ↔ reply.isAbsent = true := by
    simp only [Performed.FindsGone, hsent, List.mem_singleton, exists_eq_left]
    exact and_iff_right ⟨t, rfl⟩
  obtain ⟨habsent, haccepted, hs⟩ | ⟨_, haccepted, hs⟩ | ⟨habsent, haccepted, hs⟩ :=
    p.before.settled_cases reply
  · exact .gone hopens (by simp [hcommits, haccepted]) (hgone.2 habsent) hdiscards hchanges
      (hafter.trans hs)
  · exact .committed hopens (hcommits.2 haccepted) hchanges (hafter.trans hs)
  · exact .idle hopens (by simp [hcommits, haccepted]) (by simp [hgone, habsent])
      (fun h => absurd h hdiscards) hchanges (hafter.trans hs)

/-- A discard, by whatever operation, makes the session as new. -/
theorem turn_of_discarding {p : Performed} {t : Wire.Transaction} {reply : Reply}
    (hsent : p.sent = [⟨discardRequest t, reply⟩]) (hopens : p.opens? = none)
    (hdiscards : p.Discards) (ht : p.before.transaction = some t) (hafter : p.after = .fresh) :
    Turn c p := by
  refine .discarded hopens hdiscards (by rw [ht]; rfl) (not_changes fun x hx harea => ?_) hafter
  rw [hsent] at hx
  rw [List.mem_singleton.1 hx] at harea
  cases harea

/-- An operation that needs a transaction does nothing where none is open. -/
theorem turn_of_closed {p : Performed} (hsent : p.sent = []) (hopens : p.opens? = none)
    (hcommits : ¬ p.Commits) (ht : p.before.transaction = none) (hafter : p.after = p.before) :
    Turn c p :=
  .idle hopens hcommits (not_findsGone (by simp [hsent])) (fun _ => ht)
    (not_changes (by simp [hsent])) hafter

theorem turn_commit {r : Except ClientError Wire.Transaction}
    (h : Conduct c.commit s sent r s') : Turn c ⟨.commit, s, sent, r, s'⟩ := by
  cases ht : s.transaction with
  | none =>
    obtain ⟨rfl, rfl, rfl⟩ := (conduct_commit_closed ht).1 h
    exact turn_of_closed rfl rfl id ht rfl
  | some t =>
    obtain ⟨reply, rfl, rfl, rfl⟩ := (conduct_commit ht).1 h
    have hok := isOk_committed (c := c) (c.commitRequest t).endpoint t reply
    refine turn_of_committing rfl rfl ?_ (by simp [Performed.Discards]) rfl
    cases hr : (c.received (c.commitRequest t).endpoint reply).bind (committedIn t) <;>
      rw [hr] at hok <;> simp [Performed.Commits, ← hok, Except.isOk, Except.toBool]

theorem turn_discard {r : Except ClientError Unit} (h : Conduct c.discard s sent r s') :
    Turn c ⟨.discard, s, sent, r, s'⟩ := by
  cases ht : s.transaction with
  | none =>
    obtain ⟨rfl, rfl, rfl⟩ := (conduct_discard_closed ht).1 h
    exact turn_of_closed rfl rfl id ht rfl
  | some t =>
    obtain ⟨reply, rfl, rfl, rfl⟩ := (conduct_discard ht).1 h
    exact turn_of_discarding rfl rfl (.inl rfl) ht rfl

theorem turn_abort {r : Except ClientError Unit} (h : Conduct c.abort s sent r s') :
    Turn c ⟨.abort, s, sent, r, s'⟩ := by
  have hs := session_of_abort h
  obtain ⟨rfl, ⟨ht, rfl⟩ | ⟨t, reply, ht, rfl⟩⟩ := conduct_abort h
  · rw [ht] at hs
    exact turn_of_closed rfl rfl id ht hs
  · rw [ht] at hs
    exact turn_of_discarding rfl rfl (.inr (.inl rfl)) ht hs

theorem turn_close {r : Except ClientError Closing} (h : Conduct c.close s sent r s') :
    Turn c ⟨.close, s, sent, r, s'⟩ := by
  cases ht : s.transaction with
  | none =>
    obtain ⟨rfl, rfl, rfl⟩ := (conduct_close_closed ht).1 h
    exact turn_of_closed rfl rfl id ht rfl
  | some t =>
    cases hd : s.dirty with
    | true =>
      obtain ⟨reply, rfl, rfl, rfl⟩ := conduct_close_dirty ht hd h
      have hok := isOk_committed (c := c) (c.commitRequest t).endpoint t reply
      refine turn_of_committing rfl rfl ?_ ?_ rfl
      · cases hr : (c.received (c.commitRequest t).endpoint reply).bind (committedIn t) <;>
          rw [hr] at hok <;> simp [Except.map, Performed.Commits, ← hok, Except.isOk, Except.toBool]
      · simp [Performed.Discards, commitRequest, discardRequest]
    | false =>
      obtain ⟨reply, rfl, rfl, rfl⟩ := conduct_close_clean ht hd h
      refine turn_of_discarding rfl rfl ?_ ht rfl
      exact .inr (.inr ⟨rfl, _, List.mem_singleton_self _, t, rfl⟩)

theorem turn_configure {q : Configuring} {r : Except ClientError q.Value}
    (h : Conduct (q.step c) s sent r s') : Turn c ⟨.configure q, s, sent, r, s'⟩ := by
  have harea := (q.configures c).area _ _ _ _ h
  obtain rfl := (q.configures c).session h
  refine .kept rfl id ?_ (by simp [Performed.Discards]) rfl ?_
  · rintro ⟨x, hx, ⟨t, ht⟩, _⟩
    have hconf := harea x hx
    rw [ht] at hconf
    cases hconf
  · have hchanges : Performed.Changes ⟨.configure q, s, sent, r, s.marked (sent.any (·.changes))⟩ ↔
        sent.any (·.changes) = true := by
      rw [List.any_eq_true]
      exact exists_congr fun x => and_congr_right fun hx => and_iff_right (harea x hx)
    rw [hchanges]
    exact Bool.or_eq_true_iff

/-- Every operation takes one of the turns. -/
theorem turn {p : Performed} (h : Conduct (p.operation.step c) p.before p.sent p.result p.after) :
    Turn c p := by
  obtain ⟨op, s, sent, r, s'⟩ := p
  cases op with
  | openTransaction => exact turn_openTransaction h
  | commit => exact turn_commit h
  | discard => exact turn_discard h
  | close => exact turn_close h
  | abort => exact turn_abort h
  | configure q => exact turn_configure h

end DataPlane.Client

/-! ## The state machine -/

/-- What a session has in mind after its operations. -/
structure Session.Recalls (c : Client) (ps : List Performed) (s : Session) : Prop where
  /-- The transaction is the one opened last, unless it has been ended since. -/
  transaction : ∀ t, s.transaction = some t ↔ ∃ front p since, ps = front ++ p :: since ∧
    p.opens? = some t ∧ ∀ q ∈ since, q.opens? = none ∧ ¬ q.Ends c
  /-- The session is dirty if a write was accepted and has not been cleared since. -/
  dirty : s.dirty = true ↔ ∃ front p since, ps = front ++ p :: since ∧ p.Changes ∧
    ∀ q ∈ since, ¬ q.Clears

/-- The history of a new session, at every point and operation by operation. -/
structure StateMachine (c : Client) (ps : List Performed) : Prop where
  /-- An operation finds the session as those before it have left it. -/
  before : ∀ front p rest, ps = front ++ p :: rest → p.before = Session.fresh.through front
  recalls : ∀ front rest, ps = front ++ rest →
    Session.Recalls c front (Session.fresh.through front)
  /-- Without a transaction there is nothing to close, and nothing is sent. -/
  close_closed : ∀ p ∈ ps, p.operation = .close → p.before.transaction = none →
    p.sent = [] ∧ p.result = .error .noOpenTransaction
  /-- A dirty session is closed by a commit. -/
  close_dirty : ∀ p ∈ ps, p.operation = .close → ∀ t, p.before.transaction = some t →
    p.before.dirty = true →
      ∃ x, p.sent = [x] ∧ x.request = c.commitRequest t ∧ x.request.method = .put
  /-- A session that is not dirty is closed by a discard. -/
  close_clean : ∀ p ∈ ps, p.operation = .close → ∀ t, p.before.transaction = some t →
    p.before.dirty = false →
      ∃ x, p.sent = [x] ∧ x.request = discardRequest t ∧ x.request.method = .delete
  /-- While a transaction is open no other is asked for. -/
  open_open : ∀ p ∈ ps, p.operation = .openTransaction → ∀ t, p.before.transaction = some t →
    p.sent = [] ∧ p.result = .error (.transactionAlreadyOpen t.id)
  /-- Opening that fails leaves the session as it was. -/
  open_failed : ∀ p ∈ ps, p.operation = .openTransaction → p.result.isOk = false →
    p.after = p.before
  /-- So does a commit that fails, be it on closing, unless the transaction is gone. -/
  commit_failed : ∀ p ∈ ps,
    p.operation = .commit ∨ p.operation = .close ∧ p.before.dirty = true →
      p.result.isOk = false → ¬ p.FindsGone c → p.after = p.before

namespace DataPlane.Client
open SessionM
variable {σ : Type} {c : Client}

/-- What a session has in mind is what its history says. -/
theorem History.recalls {ps : List Performed} (h : History c .fresh ps) :
    Session.Recalls c ps (Session.fresh.through ps) where
  transaction t := by
    rw [h.latched (·.transaction = some t) fun p hp => (turn (h.conduct hp)).transaction t]
    simp [Session.fresh]
  dirty := by
    rw [h.latched (·.dirty = true) fun p hp => (turn (h.conduct hp)).dirty]
    simp [Session.fresh]

/-- A refused commit leaves the session alone unless the transaction is gone. -/
theorem settled_of_refused {s : Session} {t : Wire.Transaction} {reply : Reply}
    (hfail : ((c.received (c.commitRequest t).endpoint reply).bind (committedIn t)).isOk = false)
    (hgone : ¬ ∃ x ∈ [(⟨c.commitRequest t, reply⟩ : Sent)],
      (∃ t, x.request = c.commitRequest t) ∧ x.reply.isAbsent = true) :
    s.settled reply = s := by
  rw [isOk_committed] at hfail
  have hpresent : reply.isAbsent ≠ true := fun habsent =>
    hgone ⟨_, List.mem_singleton_self _, ⟨t, rfl⟩, habsent⟩
  obtain ⟨habsent, _⟩ | ⟨_, haccepted, _⟩ | ⟨_, _, hs⟩ := s.settled_cases reply
  · exact absurd habsent hpresent
  · rw [haccepted] at hfail
    cases hfail
  · exact hs

theorem after_of_commit_failed {p : Performed}
    (h : Conduct (p.operation.step c) p.before p.sent p.result p.after)
    (hop : p.operation = .commit ∨ p.operation = .close ∧ p.before.dirty = true)
    (hfail : p.result.isOk = false) (hgone : ¬ p.FindsGone c) : p.after = p.before := by
  obtain ⟨op, s, sent, r, s'⟩ := p
  obtain hop | ⟨hop, hdirty⟩ := hop
  · obtain rfl : op = .commit := hop
    cases ht : s.transaction with
    | none => exact ((conduct_commit_closed ht).1 h).2.2
    | some t =>
      obtain ⟨reply, rfl, rfl, rfl⟩ := (conduct_commit ht).1 h
      exact settled_of_refused hfail hgone
  · obtain rfl : op = .close := hop
    cases ht : s.transaction with
    | none => exact ((conduct_close_closed ht).1 h).2.2
    | some t =>
      obtain ⟨reply, rfl, rfl, rfl⟩ := conduct_close_dirty ht hdirty h
      exact settled_of_refused ((isOk_map _ _).symm.trans hfail) hgone

theorem History.stateMachine {ps : List Performed} (h : History c .fresh ps) :
    StateMachine c ps where
  before front p rest heq := by
    subst heq
    exact h.of_append.2.before_eq
  recalls front rest heq := by
    subst heq
    exact h.of_append.1.recalls
  close_closed := by
    rintro ⟨op, s, sent, r, s'⟩ hp hop ht
    obtain rfl : op = .close := hop
    obtain ⟨hsent, hr, _⟩ := (conduct_close_closed ht).1 (h.conduct hp)
    exact ⟨hsent, hr⟩
  close_dirty := by
    rintro ⟨op, s, sent, r, s'⟩ hp hop t ht hdirty
    obtain rfl : op = .close := hop
    obtain ⟨reply, hsent, _⟩ := conduct_close_dirty ht hdirty (h.conduct hp)
    exact ⟨_, hsent, rfl, rfl⟩
  close_clean := by
    rintro ⟨op, s, sent, r, s'⟩ hp hop t ht hclean
    obtain rfl : op = .close := hop
    obtain ⟨reply, hsent, _⟩ := conduct_close_clean ht hclean (h.conduct hp)
    exact ⟨_, hsent, rfl, rfl⟩
  open_open := by
    rintro ⟨op, s, sent, r, s'⟩ hp hop t ht
    obtain rfl : op = .openTransaction := hop
    obtain ⟨hsent, hr, _⟩ := (conduct_openTransaction_open ht).1 (h.conduct hp)
    exact ⟨hsent, hr⟩
  open_failed := by
    rintro ⟨op, s, sent, r, s'⟩ hp hop hfail
    obtain rfl : op = .openTransaction := hop
    cases r with
    | ok t => cases hfail
    | error e => exact session_of_openTransaction (h.conduct hp)
  commit_failed p hp hop hfail hgone := after_of_commit_failed (h.conduct hp) hop hfail hgone

/-- Whatever a new session is asked for and whatever the Data Plane replies, at every point its
transaction and its mark are what its history says. -/
theorem state_machine (c : Client) (env : Environment DataPlane.interface σ)
    (ops : List Operation) (w : σ) : StateMachine c (c.performed env ops .fresh w) :=
  (history_performed c env ops .fresh w).stateMachine

end DataPlane.Client
end ProxySync
