import ProxySync.Proofs.DataPlane.Address
import ProxySync.Proofs.Session.Charge
/-!
# Whose failure a pass returns

A pass returns the failure of the first answer with which it cannot go on. Which kind of failure
that is, is settled by the request and by its answer. What comes of the discard that may follow is
not noticed.

## Main definitions

* `Sent.IsFirstUnacceptable`: the first exchange of a run whose answer is not acceptable.
* `Attributed`: for each kind of failure, when a run returns it.
* `DataPlane.answering`: a Data Plane whose answers depend on all that went before.
* `DataPlane.DifferInGivingUp`: two that only differ in what comes of giving up.

## Main statements

* `Client.pass_attributed`: applying and tearing down are such runs against every Data Plane, and do
  not notice what comes of giving up.
-/
namespace ProxySync

/-- The exchange is the first of a run whose answer is not acceptable. -/
def Sent.IsFirstUnacceptable (sent : List Sent) (x : Sent) : Prop :=
  ∃ front after, sent = front ++ x :: after ∧ (∀ y ∈ front, y.isAcceptable = true) ∧
    x.isAcceptable = false

open DataPlane in
/-- Whose failure the result of a run is. -/
structure Attributed {α : Type} (c : Client) (sent : List Sent) (r : Except ClientError α) :
    Prop where
  /-- The failure is that of the first answer that is not acceptable. -/
  first : ∀ e, r = .error e ↔ ∃ x : Sent, x.IsFirstUnacceptable sent ∧ x.Fails c e
  /-- After that answer a transaction is discarded at most. -/
  after : ∀ e, r = .error e → ∃ front x after, sent = front ++ x :: after ∧
    (∀ y ∈ front, y.isAcceptable = true) ∧ x.Fails c e ∧
    (after = [] ∨ ∃ y id, after = [y] ∧ y.request.purpose = .discard id)
  /-- There is a conflict just if the opening is answered with 409. -/
  conflict : r = .error .transactionConflict ↔
    ∃ x ∈ sent, x.request.purpose = .opening ∧ x.reply.status? = some 409
  /-- A refusal is told with the status and the body of that answer. -/
  refused : ∀ operation status body, r = .error (.apiResponse operation status body) ↔
    ∃ x : Sent, x.IsFirstUnacceptable sent ∧ x.reply = .answered status body ∧
      isSuccess status = false ∧ x.request.purpose.refusal? status = none ∧
      operation = x.request.purpose.operation
  /-- A backend is not managed just if the look at its definition shows that of somebody else. -/
  foreign : ∀ kind name, r = .error (.notManaged kind name) ↔
    kind = "backend" ∧ ∃ x ∈ sent, x.FindsForeign (.backend name)
  /-- A commit is rejected just if it is answered with 400, 404 or 406. -/
  rejected : ∀ id status why, r = .error (.commitRejected id status why) ↔
    (status, why) ∈ Purpose.rejections ∧
      ∃ x ∈ sent, x.request.purpose = .commit id ∧ x.reply.status? = some status
  /-- The transaction is not found just if a discard behind acceptable answers is answered with
  404. -/
  missing : ∀ id, r = .error (.transactionNotFound id) ↔
    ∃ x : Sent, x.IsFirstUnacceptable sent ∧ x.request.purpose = .discard id ∧
      x.reply.status? = some 404
  /-- The transport fails just if that request or its answer is lost. -/
  transport : ∀ url cause, r = .error (.transport url cause) ↔
    ∃ x : Sent, x.IsFirstUnacceptable sent ∧ x.reply = .lost cause ∧
      url = c.shownAddress x.request.endpoint
  /-- A body is not decoded just if that of an accepted answer cannot be read. -/
  illegible : ∀ what detail, r = .error (.decode what detail) ↔
    ∃ x ∈ sent, ∃ body, x.IsIllegible what body ∧ detail = c.jsonDetail what body
  /-- No version is told just if that of an accepted answer cannot be read. -/
  unversioned : ∀ text, r = .error (.versionParse text) ↔
    ∃ x ∈ sent, x.request.purpose = .version ∧ ∃ status body, x.reply = .answered status body ∧
      isSuccess status = true ∧ version? body = none ∧ text = Text.trim body

namespace Charged
open SessionM DataPlane DataPlane.Client
variable {α : Type} {c : Client} {sent : List Sent} {r : Except ClientError α} {e : ClientError}
  {x : Sent}

theorem isAcceptable_eq_false : x.isAcceptable = false ↔ ∃ e, c.verdict x = some e := by
  rw [← Bool.not_eq_true, ← verdict_eq_none_iff (c := c), ← Option.isSome_iff_exists,
    Option.isSome_iff_ne_none]

theorem findSome?_of_isFirstUnacceptable (h : x.IsFirstUnacceptable sent) :
    sent.findSome? c.verdict = c.verdict x := by
  obtain ⟨front, after, rfl, hfront, hx⟩ := h
  have hnone : front.findSome? c.verdict = none :=
    List.findSome?_eq_none_iff.2 fun y hy => verdict_eq_none_iff.2 (hfront y hy)
  obtain ⟨e, he⟩ := isAcceptable_eq_false.1 hx
  rw [List.findSome?_append, hnone, List.findSome?_cons, he]
  rfl

/-- The failure of a pass is that of the first answer that is not acceptable. -/
theorem eq_error_iff (h : Charged c sent r) :
    r = .error e ↔ ∃ x : Sent, x.IsFirstUnacceptable sent ∧ x.Fails c e := by
  constructor
  · rintro rfl
    cases h with
    | failed hfront hx =>
      exact ⟨_, ⟨_, _, rfl, fun y hy => verdict_eq_none_iff.1 (hfront y hy),
        isAcceptable_eq_false.2 ⟨e, hx⟩⟩, verdict_eq_some.1 hx⟩
  · rintro ⟨x, hx, hfails⟩
    have hr := h.failure?_eq
    rw [findSome?_of_isFirstUnacceptable hx, verdict_eq_some.2 hfails] at hr
    cases r with
    | ok a => cases hr
    | error e' =>
      cases hr
      rfl

theorem exists_mem (h : Charged c sent r) (hr : r = .error e) : ∃ x ∈ sent, x.Fails c e := by
  obtain ⟨x, ⟨front, after, rfl, _⟩, hfails⟩ := h.eq_error_iff.1 hr
  exact ⟨x, by simp, hfails⟩

theorem fails_refused {status : Nat} {body : String} (hx : x.isAcceptable = false)
    (hreply : x.reply = .answered status body) (hs : isSuccess status = false)
    (hplain : x.request.purpose.refusal? status = none) :
    x.Fails c (.apiResponse x.request.purpose.operation status body) := by
  refine .refused hreply hs hplain ?_
  rw [← Bool.not_eq_true]
  intro habsent
  have hverdict : c.verdict x = none := by
    rw [verdict, hreply]
    exact Purpose.verdict_eq_none.2 (.inr habsent)
  rw [verdict_eq_none_iff.1 hverdict] at hx
  cases hx

/-- What holds of the failure of a pass holds for each of its kinds. -/
theorem attributed (h : Charged c sent r) : Attributed c sent r where
  first _ := h.eq_error_iff
  after e hr := by
    subst hr
    cases h with
    | failed hfront hx hafter =>
      refine ⟨_, _, _, rfl, fun y hy => verdict_eq_none_iff.1 (hfront y hy),
        verdict_eq_some.1 hx, ?_⟩
      obtain rfl | ⟨t, reply, rfl⟩ := hafter
      · exact .inl rfl
      · exact .inr ⟨_, t.id, rfl, rfl⟩
  conflict := by
    constructor
    · intro hr
      obtain ⟨x, hmem, hfails⟩ := h.exists_mem hr
      cases hfails with
      | conflict hp hstatus => exact ⟨x, hmem, hp, hstatus⟩
    · rintro ⟨x, hmem, hp, hstatus⟩
      exact h.of_fails hmem (.conflict hp hstatus) (by simp [hp])
  refused operation status body := by
    rw [h.eq_error_iff]
    refine exists_congr fun x => and_congr_right fun hx => ?_
    constructor
    · intro hfails
      cases hfails with
      | refused hreply hs hplain => exact ⟨hreply, hs, hplain, rfl⟩
    · rintro ⟨hreply, hs, hplain, rfl⟩
      exact fails_refused hx.choose_spec.choose_spec.2.2 hreply hs hplain
  foreign kind name := by
    constructor
    · intro hr
      obtain ⟨x, hmem, hfails⟩ := h.exists_mem hr
      cases hfails with
      | foreign hfinds => exact ⟨rfl, x, hmem, hfinds⟩
    · rintro ⟨rfl, x, hmem, hfinds⟩
      exact h.of_fails hmem (.foreign hfinds) (by simp [(findsForeign_iff.1 hfinds).1])
  rejected id status why := by
    constructor
    · intro hr
      obtain ⟨x, hmem, hfails⟩ := h.exists_mem hr
      cases hfails with
      | rejected hp hstatus hwhy => exact ⟨hwhy, x, hmem, hp, hstatus⟩
    · rintro ⟨hwhy, x, hmem, hp, hstatus⟩
      exact h.of_fails hmem (.rejected hp hstatus hwhy) (by simp [hp])
  missing id := by
    rw [h.eq_error_iff]
    refine exists_congr fun x => and_congr_right fun _ => ?_
    constructor
    · intro hfails
      cases hfails with
      | missing hp hstatus => exact ⟨hp, hstatus⟩
    · exact fun ⟨hp, hstatus⟩ => .missing hp hstatus
  transport url cause := by
    rw [h.eq_error_iff]
    refine exists_congr fun x => and_congr_right fun _ => ?_
    constructor
    · intro hfails
      cases hfails with
      | transport hlost => exact ⟨hlost, rfl⟩
    · rintro ⟨hlost, rfl⟩
      exact .transport hlost
  illegible what detail := by
    constructor
    · intro hr
      obtain ⟨x, hmem, hfails⟩ := h.exists_mem hr
      cases hfails with
      | illegible hbody => exact ⟨x, hmem, _, hbody, rfl⟩
    · rintro ⟨x, hmem, body, hbody, rfl⟩
      refine h.of_fails hmem (.illegible hbody) fun id hp => ?_
      obtain ⟨_, _, _, _, hreading, _⟩ := hbody
      rw [hp] at hreading
      cases hreading
  unversioned text := by
    constructor
    · intro hr
      obtain ⟨x, hmem, hfails⟩ := h.exists_mem hr
      cases hfails with
      | unversioned hp hreply hs hv => exact ⟨x, hmem, hp, _, _, hreply, hs, hv, rfl⟩
    · rintro ⟨x, hmem, hp, status, body, hreply, hs, hv, rfl⟩
      exact h.of_fails hmem (.unversioned hp hreply hs hv) (by simp [hp])

end Charged

/-! ## Answers that a pass does not notice -/

namespace DataPlane

/-- A Data Plane that answers as it is told to, given all that went before. -/
def answering (f : List Sent → Request → Reply) : Environment interface (List Sent)
  | .request q, sent => (f sent q, sent ++ [⟨q, f sent q⟩])
  | .measure _, sent => ((), sent)

/-- Two Data Planes answer alike but to the discard of a transaction after an answer that was not
acceptable. -/
def DifferInGivingUp (f g : List Sent → Request → Reply) : Prop :=
  ∀ sent q, f sent q = g sent q ∨
    (∃ id, q.purpose = .discard id) ∧ ∃ x ∈ sent, x.isAcceptable = false

namespace Client
open SessionM
variable {α : Type} {f g : List Sent → Request → Reply}

theorem findSome?_verdict_of_unacceptable (c : Client) {sent : List Sent}
    (h : ∃ x ∈ sent, x.isAcceptable = false) : ∃ e, sent.findSome? c.verdict = some e := by
  obtain ⟨x, hx, hbad⟩ := h
  obtain ⟨e, he⟩ := Charged.isAcceptable_eq_false.1 hbad
  exact Option.isSome_iff_exists.1 (List.findSome?_isSome_iff.2 ⟨x, hx, by rw [he]; rfl⟩)

/-- Against two such Data Planes a program ends alike, or finds the same first failure. -/
theorem run_of_differInGivingUp (c : Client) (h : DifferInGivingUp f g) (d : Dialogue interface α)
    (sent : List Sent) :
    (d.run (answering f) sent).1 = (d.run (answering g) sent).1 ∨
      ∃ e, (sent ++ Sent.ofTrace (d.trace (answering f) sent)).findSome? c.verdict = some e ∧
        (sent ++ Sent.ofTrace (d.trace (answering g) sent)).findSome? c.verdict = some e := by
  -- Up to the first answer in which they differ all is the same, and by then there is a failure.
  induction d generalizing sent with
  | done a => exact .inl rfl
  | ask call next ih =>
    cases call with
    | measure m => exact ih () sent
    | request q =>
      obtain heq | ⟨-, hbad⟩ := h sent q
      · have hrest := ih (f sent q) (sent ++ [⟨q, f sent q⟩])
        rw [List.append_assoc, List.append_assoc] at hrest
        change ((next (f sent q)).run (answering f) (sent ++ [⟨q, f sent q⟩])).1 =
            ((next (g sent q)).run (answering g) (sent ++ [⟨q, g sent q⟩])).1 ∨
          ∃ e, (sent ++ ⟨q, f sent q⟩ :: Sent.ofTrace ((next (f sent q)).trace (answering f)
              (sent ++ [⟨q, f sent q⟩]))).findSome? c.verdict = some e ∧
            (sent ++ ⟨q, g sent q⟩ :: Sent.ofTrace ((next (g sent q)).trace (answering g)
              (sent ++ [⟨q, g sent q⟩]))).findSome? c.verdict = some e
        rw [← heq]
        exact hrest
      · obtain ⟨e, he⟩ := findSome?_verdict_of_unacceptable c hbad
        exact .inr ⟨e, by rw [List.findSome?_append, he]; rfl, by
          rw [List.findSome?_append, he]; rfl⟩

/-- So does a pass. -/
theorem result_of_differInGivingUp {c : Client} (h : DifferInGivingUp f g) {x : SessionM α}
    (hx : ∀ sent r s', Conduct x .fresh sent r s' → Charged c sent r) :
    ((x.start .fresh).run (answering f) []).1.1 = ((x.start .fresh).run (answering g) []).1.1 := by
  obtain heq | ⟨e, hf, hg⟩ := run_of_differInGivingUp c h (x.start .fresh) []
  · rw [heq]
  · have hresult (f : List Sent → Request → Reply)
        (hf : ([] ++ Sent.ofTrace ((x.start .fresh).trace (answering f) [])).findSome? c.verdict =
          some e) : ((x.start .fresh).run (answering f) []).1.1 = .error e := by
      have hr := (hx _ _ _ (conduct_run (answering f) x .fresh [])).failure?_eq
      rw [← List.nil_append (Sent.ofTrace _), hf] at hr
      cases hres : ((x.start .fresh).run (answering f) []).1.1 with
      | ok a => rw [hres] at hr; cases hr
      | error e' => rw [hres] at hr; cases hr; rfl
    rw [hresult f hf, hresult g hg]

/-- Against every Data Plane, whatever it replies, applying a backend and tearing one down return
the failure of the first answer that is not acceptable. What comes of the discard that may follow
is not noticed. -/
theorem pass_attributed (c : Client) :
    (∀ {σ : Type} (env : Environment DataPlane.interface σ) (w : σ),
      (∀ d : Resolved, Attributed c (Sent.ofTrace (((c.apply d).start .fresh).trace env w))
        (((c.apply d).start .fresh).run env w).1.1) ∧
      ∀ name : String, Attributed c (Sent.ofTrace (((c.teardown name).start .fresh).trace env w))
        (((c.teardown name).start .fresh).run env w).1.1) ∧
    ∀ f g, DifferInGivingUp f g →
      (∀ d : Resolved, (((c.apply d).start .fresh).run (answering f) []).1.1 =
        (((c.apply d).start .fresh).run (answering g) []).1.1) ∧
      ∀ name : String, (((c.teardown name).start .fresh).run (answering f) []).1.1 =
        (((c.teardown name).start .fresh).run (answering g) []).1.1 := by
  have happly (d : Resolved) {sent r s'} (h : Conduct (c.apply d) .fresh sent r s') :
      Charged c sent r := charged_of_conduct (fun _ => charges_ensureBackend d) h
  have hteardown (name : String) {sent r s'} (h : Conduct (c.teardown name) .fresh sent r s') :
      Charged c sent r := charged_of_conduct (fun _ => charges_deleteBackend name) h
  refine ⟨fun env w => ⟨fun d => ?_, fun name => ?_⟩, fun f g h => ⟨fun d => ?_, fun name => ?_⟩⟩
  · exact (happly d (conduct_run env _ _ w)).attributed
  · exact (hteardown name (conduct_run env _ _ w)).attributed
  · exact result_of_differInGivingUp h fun _ _ _ => happly d
  · exact result_of_differInGivingUp h fun _ _ _ => hteardown name

/-- A Data Plane that grants a transaction and then refuses all requests in it. What comes of giving
up is left open. -/
def refusing (givingUp : Reply) (sent : List Sent) (q : Request) : Reply :=
  match q.purpose with
  | .version => .answered 200 "1"
  | .opening => .answered 201 "\x7b\"id\": \"t\"\x7d"
  | .discard _ => if sent.all (·.isAcceptable) then .answered 204 "" else givingUp
  | _ => .answered 500 "down"

theorem differInGivingUp_refusing (reply reply' : Reply) :
    DifferInGivingUp (refusing reply) (refusing reply') := by
  intro sent q
  cases hp : q.purpose
  case discard id =>
    cases hall : sent.all (·.isAcceptable) with
    | true => exact .inl (by simp [refusing, hp, hall])
    | false => exact .inr ⟨⟨id, rfl⟩, by simpa using hall⟩
  all_goals exact .inl (by simp [refusing, hp])

/-- A case of it: the refusal is returned, whether the transaction is discarded, gone or lost. -/
theorem pass_attributed_refusing :
    let c := onThisHost 5555 "admin" "secret"
    ∀ reply ∈ [Reply.answered 204 "", .answered 404 "", .lost "reset"],
      (((c.teardown "shop").start .fresh).run (answering (refusing reply)) []).1.1 =
        .error (.apiResponse "get backend" 500 "down") := by
  intro c reply _
  have hsame := ((pass_attributed c).2 _ _
    (differInGivingUp_refusing reply (.answered 204 ""))).2 "shop"
  rw [hsame]
  decide +kernel

end Client
end DataPlane
end ProxySync
