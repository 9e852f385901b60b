import ProxySync.Proofs.Pass.Quiet
import ProxySync.Proofs.Session.Faults
import ProxySync.Proofs.Session.Lifecycle
import ProxySync.Proofs.Wire.ReadBack
/-!
# All or nothing

Whatever faults hit a pass, the committed configuration is afterwards the one before or the one
that the pass commits without faults. It is the latter if the pass ends well, and the former if the
commit was not acted on.

## Main definitions

* `AllOrNothing`: what holds of the memory after a pass with faults.

## Main statements

* `Lifecycle.allOrNothing`: it holds of every program that makes the requests of one transaction.
-/
namespace ProxySync
open DataPlane

namespace DataPlane.Request

/-- The request to open a transaction. -/
def IsOpening (q : Request) : Prop := q.method = .post ∧ q.endpoint.area = .transactions

/-- The request to commit a transaction. -/
def IsCommit (q : Request) : Prop := q.method = .put ∧ q.endpoint.area = .transactions

/-- The request to discard the transaction of that name. -/
def IsDiscardOf (id : String) (q : Request) : Prop :=
  q.method = .delete ∧ q.endpoint.area = .transactions ∧ q.endpoint.segments = [id]

end DataPlane.Request

/-- What holds of the memory after the requests of a pass, some of them faulted, beside the memory
after the same pass without faults. -/
structure AllOrNothing (faults : Nat → Option Fault) (sent : List Sent) (ok : Bool)
    (before after clean : Memory) : Prop where
  /-- Nothing in between is ever committed. -/
  whole : after.committed = before.committed ∨ after.committed = clean.committed
  done : ok = true → after.committed = clean.committed
  undone : ok = false →
    (∀ i x, sent[i]? = some x → x.request.IsCommit → isProcessed (faults i) = false) →
    after.committed = before.committed
  /-- A transaction stays open only if nobody was told of it or its discard was hit. -/
  closed : after.opened ≠ before.opened → after.staged.contains before.nextId = true →
    (∃ i x processed cause, sent[i]? = some x ∧ x.request.IsOpening ∧
      faults i = some (.lost processed cause)) ∨
    ∃ i x, sent[i]? = some x ∧ x.request.IsDiscardOf before.nextId ∧ faults i ≠ none

/-! ## The requests of a pass -/

/-- A configuration request is no commit. -/
theorem ScopedBy.not_isCommit {t : Wire.Transaction} {q : Request} (h : ScopedBy t q) :
    ¬ q.IsCommit := by
  rintro ⟨_, harea⟩
  rw [h.1] at harea
  cases harea

namespace Lifecycle
open Client
variable {c : Client} {sent : List Sent} {ok : Bool}

/-- The requests of which a pass consists. -/
theorem request_cases (h : Lifecycle c sent ok) : ∀ x ∈ sent,
    x.request = versionRequest ∨ (∃ v, x.request = openRequest v) ∨
      (∃ t, ScopedBy t x.request) ∨ (∃ t, x.request = c.commitRequest t) ∨
      ∃ t, x.request = discardRequest t := by
  cases h with
  | unversioned => simp
  | ungranted => simp
  | @opened _ _ _ t steps closing _ _ _ hscope hend =>
    have hclosing : ∀ x ∈ closing,
        x.request = c.commitRequest t ∨ x.request = discardRequest t := by
      cases hend <;> simp
    intro x hx
    rw [List.mem_cons, List.mem_cons, List.mem_append] at hx
    rcases hx with rfl | rfl | hx | hx
    · exact .inl rfl
    · exact .inr (.inl ⟨_, rfl⟩)
    · exact .inr (.inr (.inl ⟨t, hscope x hx⟩))
    · exact .inr (.inr (.inr ((hclosing x hx).imp (fun h => ⟨t, h⟩) fun h => ⟨t, h⟩)))

/-- No request but a commit touches what is committed. -/
theorem committed_serve (hc : c.AtRoot) (h : Lifecycle c sent ok) :
    ∀ x ∈ sent, ¬ x.request.IsCommit → ∀ m : Memory,
      (m.serve c x.request).2.committed = m.committed := by
  intro x hx hno m
  rcases h.request_cases x hx with hq | ⟨v, hq⟩ | ⟨t, hq⟩ | ⟨t, hq⟩ | ⟨t, hq⟩
  · rw [hq, Memory.serve_versionRequest hc]
    rfl
  · rw [hq]
    exact Memory.committed_serve_transactions hc rfl (by simp [openRequest])
  · obtain hs | ⟨_, _, _, hs⟩ := Memory.serve_scoped (m := m) hc hq
    · rw [hs]
    · rw [hs]
      rfl
  · rw [hq] at hno
    exact absurd ⟨rfl, rfl⟩ hno
  · rw [hq]
    exact Memory.committed_serve_transactions hc rfl (by simp [discardRequest])

theorem not_isCommit_versionRequest : ¬ versionRequest.IsCommit := by
  rintro ⟨h, _⟩
  cases h

theorem not_isCommit_openRequest (v : Int64) : ¬ (openRequest v).IsCommit := by
  rintro ⟨h, _⟩
  cases h

theorem not_isCommit_discardRequest (t : Wire.Transaction) : ¬ (discardRequest t).IsCommit := by
  rintro ⟨h, _⟩
  cases h

/-- A pass commits once at most. -/
theorem commit_once (h : Lifecycle c sent ok) :
    sent.Pairwise fun x y => x.request.IsCommit → ¬ y.request.IsCommit := by
  cases h with
  | unversioned => simp
  | ungranted => simp [not_isCommit_versionRequest]
  | @opened _ _ v t steps closing _ _ _ hscope hend =>
    have hstep : ∀ x ∈ steps, ¬ x.request.IsCommit := fun x hx => (hscope x hx).not_isCommit
    have hclosing : closing.Pairwise fun x y => x.request.IsCommit → ¬ y.request.IsCommit := by
      cases hend <;> simp [not_isCommit_discardRequest]
    refine List.pairwise_cons.2 ⟨fun y _ hx => absurd hx not_isCommit_versionRequest, ?_⟩
    refine List.pairwise_cons.2 ⟨fun y _ hx => absurd hx (not_isCommit_openRequest v), ?_⟩
    exact List.pairwise_append.2
      ⟨List.pairwise_of_forall_mem_list fun x hx _ _ hc => absurd hc (hstep x hx), hclosing,
        fun x hx _ _ hc => absurd hc (hstep x hx)⟩

end Lifecycle

/-! ## Replies that are no faults -/

namespace DataPlane.Reply

theorem isAccepted_of_tells {α : Type} {read : Json → Option α} {reply : Reply}
    (h : (reply.tells read).isSome = true) : reply.isAccepted = true := by
  cases reply with
  | lost cause => cases h
  | answered status body =>
    rw [tells] at h
    split at h
    · assumption
    · cases h

theorem isAccepted_of_version? {reply : Reply} {v : Int64} (h : reply.version? = some v) :
    reply.isAccepted = true := by
  cases reply with
  | lost cause => cases h
  | answered status body =>
    rw [version?] at h
    split at h
    · assumption
    · cases h

end DataPlane.Reply

/-- A request that got what the pass needs was accepted or told that there is no such object. -/
theorem Sent.sound_of_succeeds {x : Sent} (h : x.succeeds = true) :
    x.reply.isAccepted = true ∨ x.reply.isAbsent = true := by
  unfold succeeds at h
  split at h
  · rw [Bool.or_eq_true] at h
    exact h.symm.imp (fun h => Reply.isAccepted_of_tells (Option.isSome_of_any h)) id
  · rw [Bool.or_eq_true] at h
    exact h.symm.imp Reply.isAccepted_of_tells id
  · exact .inl (Reply.isAccepted_of_tells h)
  · rw [Bool.or_eq_true] at h
    exact h.symm.imp Reply.isAccepted_of_tells id
  · rw [Bool.or_eq_true] at h
    exact h.symm
  · exact .inl h

/-! ## The transaction of a pass -/

namespace DataPlane.Memory
open Client Net
variable {c : Client} {m : Memory} {t : Wire.Transaction}

/-- A transaction is opened if and only if the answer grants it by its name. -/
theorem granted?_serve_openRequest (hc : c.AtRoot) (v : Int64) :
    ((m.serve c (openRequest v)).1.granted? = none ∧ (m.serve c (openRequest v)).2 = m) ∨
      ∃ t, (m.serve c (openRequest v)).1.granted? = some t ∧ t.id = m.nextId ∧
        v.toInt = m.version ∧ (m.serve c (openRequest v)).2 = m.opening := by
  rw [serve_openRequest hc]
  split
  · exact .inl ⟨rfl, rfl⟩
  · split
    · exact .inl ⟨rfl, rfl⟩
    · rename_i hv
      have hv : v.toInt = m.version := not_not.1 hv
      refine .inr ⟨{ id := m.nextId, version := v, status := "in_progress" }, ?_, rfl, hv, rfl⟩
      have htold := told?_transactionJson m.nextId (Json.toInt_bounds v) "in_progress"
      rw [Int64.ofInt_toInt, hv] at htold
      exact htold

/-- A discard that is acted on leaves no such transaction. -/
theorem contains_serve_discardRequest (hc : c.AtRoot) (ht : IsPlain t.id) :
    (m.serve c (discardRequest t)).2.staged.contains t.id = false := by
  rw [serve_discardRequest hc ht, Table.contains]
  cases hcfg : m.staged.get? t.id with
  | none => simp [sent, hcfg]
  | some cfg => simp [sent]

/-- Nor does a commit, whether it is accepted or the transaction is gone. -/
theorem contains_serve_commitRequest (hc : c.AtRoot) (ht : IsPlain t.id) :
    (m.serve c (c.commitRequest t)).2.staged.contains t.id = false := by
  rw [serve_commitRequest hc ht, Table.contains]
  cases hcfg : m.staged.get? t.id with
  | none => simp [sent, hcfg]
  | some cfg => simp [sent, committing]

end DataPlane.Memory

/-- Asking for the version changes nothing, faulted or not. -/
theorem Answered.of_version {c : Client} (hc : c.AtRoot) {faults : Nat → Option Fault} {n : Nat}
    {m m' : Memory} {reply : Reply} {rest : List Sent}
    (h : Answered c faults n m (⟨Client.versionRequest, reply⟩ :: rest) m') :
    Answered c faults (n + 1) m rest m' := by
  obtain ⟨_, hrest⟩ := Answered.cons_iff.1 h
  rw [Memory.serve_versionRequest hc] at hrest
  simpa [Memory.sent] using hrest

/-- A transaction that was granted has been opened. -/
theorem Answered.opened {c : Client} (hc : c.AtRoot) {faults : Nat → Option Fault} {n : Nat}
    {m m' : Memory} {reply₀ reply : Reply} {v : Int64} {t : Wire.Transaction} {rest : List Sent}
    (h : Answered c faults n m
      (⟨Client.versionRequest, reply₀⟩ :: ⟨Client.openRequest v, reply⟩ :: rest) m')
    (hgranted : reply.granted? = some t) :
    t.id = m.nextId ∧ Answered c faults (n + 2) m.opening rest m' := by
  obtain ⟨hreply, hrest⟩ := Answered.cons_iff.1 (h.of_version hc)
  have hnone : faults (n + 1) = none := by
    have haccepted : reply.isAccepted = true :=
      Reply.isAccepted_of_tells (Option.isSome_iff_exists.2 ⟨t, hgranted⟩)
    rw [hreply] at haccepted
    exact Fault.reply_eq_none (.inl haccepted)
  rw [hnone] at hreply hrest
  obtain ⟨hno, _⟩ | ⟨t', ht', hid, _, hopening⟩ := Memory.granted?_serve_openRequest (m := m) hc v
  · rw [hreply, Fault.reply, hno] at hgranted
    cases hgranted
  · rw [hreply, Fault.reply, ht'] at hgranted
    cases hgranted
    rw [hopening] at hrest
    exact ⟨hid, hrest⟩

namespace Lifecycle
open Client
variable {c : Client} {faults : Nat → Option Fault} {m m' m₁ m₂ : Memory} {n : Nat}
  {sent sent₁ : List Sent} {ok : Bool} {t : Wire.Transaction}

/-- A transaction that is closed without a fault is not open afterwards; otherwise its discard was
hit. -/
theorem Ending.closed (hc : c.AtRoot) (ht : Net.IsPlain t.id) {steps closing : List Sent}
    (hend : Ending c t steps closing ok) (h : Answered c faults n m₁ closing m') :
    m'.staged.contains t.id = false ∨
      ∃ i x, closing[i]? = some x ∧ x.request = discardRequest t ∧ faults (n + i) ≠ none := by
  have hdiscard {n m reply} (h : Answered c faults n m [⟨discardRequest t, reply⟩] m') :
      m'.staged.contains t.id = false ∨ faults n ≠ none := by
    obtain ⟨_, hlast⟩ := Answered.cons_iff.1 h
    cases hf : faults n with
    | none =>
      rw [hf] at hlast
      cases hlast
      exact .inl (Memory.contains_serve_discardRequest hc ht)
    | some f => exact .inr (by simp)
  have hcommit {reply} (hsound : reply.isAccepted = true ∨ reply.isAbsent = true)
      (h : Answered c faults n m₁ [⟨c.commitRequest t, reply⟩] m') :
      m'.staged.contains t.id = false := by
    have hnone := h.not_faulted (by simpa using hsound) 0 (by simp)
    obtain ⟨_, hlast⟩ := Answered.cons_iff.1 h
    rw [Nat.add_zero] at hnone
    rw [hnone] at hlast
    cases hlast
    exact Memory.contains_serve_commitRequest hc ht
  cases hend with
  | committed _ _ haccepted => exact .inl (hcommit (.inl haccepted) h)
  | gone _ _ habsent => exact .inl (hcommit (.inr habsent) h)
  | rejected =>
    obtain ⟨_, hlast⟩ := Answered.cons_iff.1 h
    exact (hdiscard hlast).imp id fun hf => ⟨1, _, rfl, rfl, hf⟩
  | unchanged => exact (hdiscard h).imp id fun hf => ⟨0, _, rfl, rfl, hf⟩
  | failed => exact (hdiscard h).imp id fun hf => ⟨0, _, rfl, rfl, hf⟩

/-- A transaction of the pass stays open only if nobody was told of it or its discard was hit. -/
theorem closed (hc : c.AtRoot) (hl : Lifecycle c sent ok) (h : Answered c faults 0 m sent m')
    (hopened : m'.opened ≠ m.opened) (hopen : m'.staged.contains m.nextId = true) :
    (∃ i x processed cause, sent[i]? = some x ∧ x.request.IsOpening ∧
      faults i = some (.lost processed cause)) ∨
    ∃ i x, sent[i]? = some x ∧ x.request.IsDiscardOf m.nextId ∧ faults i ≠ none := by
  cases hl with
  | unversioned =>
    cases h.of_version hc
    exact absurd rfl hopened
  | @ungranted _ reply v _ hgranted =>
    obtain ⟨hreply, hlast⟩ := Answered.cons_iff.1 (h.of_version hc)
    cases hlast
    match hf : faults 1 with
    | none =>
      rw [hf] at hreply hopened
      obtain ⟨_, hsame⟩ | ⟨t, ht, _⟩ := Memory.granted?_serve_openRequest (m := m) hc v
      · exact absurd (congrArg Memory.opened hsame) hopened
      · rw [hreply] at hgranted
        rw [Fault.reply, ht] at hgranted
        cases hgranted
    | some (.lost processed cause) =>
      exact .inl ⟨1, _, processed, cause, rfl, ⟨rfl, rfl⟩, hf⟩
    | some (.refused status body hrefusal) =>
      rw [hf] at hopened
      exact absurd rfl hopened
  | @opened _ reply v t steps closing _ _ hgranted hscope hend =>
    obtain ⟨hid, hrest⟩ := h.opened hc hgranted
    have hplain : Net.IsPlain t.id := hid ▸ m.isPlain_nextId
    obtain ⟨m₁, _, hclosing⟩ := Answered.append_iff.1 hrest
    obtain hno | ⟨i, x, hx, hq, hf⟩ := hend.closed hc hplain hclosing
    · rw [hid, hopen] at hno
      cases hno
    · refine .inr ⟨2 + steps.length + i, x, ?_, ?_, hf⟩
      · rw [show 2 + steps.length + i = (steps.length + i) + 1 + 1 by omega,
          List.getElem?_cons_succ, List.getElem?_cons_succ,
          List.getElem?_append_right (by omega), Nat.add_sub_cancel_left]
        exact hx
      · rw [hq, ← hid]
        exact ⟨rfl, rfl, rfl⟩

/-! ## A pass beside the same pass without faults -/

/-- The replies before the closing of a transaction that did not stop the pass. -/
theorem sound_of_granted {reply₀ reply : Reply} {v : Int64} {steps : List Sent}
    (hversion : reply₀.version? = some v) (hgranted : reply.granted? = some t)
    (hsteps : ∀ x ∈ steps, x.succeeds = true) :
    ∀ x ∈ (⟨versionRequest, reply₀⟩ :: ⟨openRequest v, reply⟩ :: steps : List Sent),
      x.reply.isAccepted = true ∨ x.reply.isAbsent = true := by
  intro x hx
  rw [List.mem_cons, List.mem_cons] at hx
  rcases hx with rfl | rfl | hx
  · exact .inl (Reply.isAccepted_of_version? hversion)
  · exact .inl (Reply.isAccepted_of_tells (Option.isSome_iff_exists.2 ⟨t, hgranted⟩))
  · exact Sent.sound_of_succeeds (hsteps x hx)

theorem sound_append {front closing : List Sent}
    (hfront : ∀ x ∈ front, x.reply.isAccepted = true ∨ x.reply.isAbsent = true)
    (hclosing : ∀ x ∈ closing, x.reply.isAccepted = true ∨ x.reply.isAbsent = true) :
    ∀ x ∈ front ++ closing, x.reply.isAccepted = true ∨ x.reply.isAbsent = true :=
  fun x hx => (List.mem_append.1 hx).elim (hfront x) (hclosing x)

section
variable {α : Type} {d : Dialogue DataPlane.interface α}
  {tr tr₂ : List (Exchange DataPlane.interface)} {a a₂ : α} {ok₂ : Bool}

/-- If no reply of a pass was faulted the pass is the one without faults. -/
theorem eq_of_sound (hd : Dialogue.Leads d tr a) (h : Answered c faults 0 m (Sent.ofTrace tr) m')
    (hd₂ : Dialogue.Leads d tr₂ a₂) (h₂ : Answered c (fun _ => none) 0 m (Sent.ofTrace tr₂) m₂)
    (hsound : ∀ x ∈ Sent.ofTrace tr, x.reply.isAccepted = true ∨ x.reply.isAbsent = true) :
    m' = m₂ := by
  obtain ⟨rest₂, m₁, _, _, hrest, hrest₂, hhead, _⟩ :=
    Answered.agree hd h hd₂ h₂ (List.append_nil _).symm (h.not_faulted hsound)
  obtain rfl : rest₂ = [] := by cases rest₂ with
    | nil => rfl
    | cons x rest₂ => cases hhead
  cases hrest
  cases hrest₂
  rfl

/-- A commit that is followed by no other sets what is committed. -/
theorem committed_of_commit {q : Request} {reply : Reply} {rest : List Sent}
    (hkeep : ∀ x ∈ rest, ∀ m : Memory, (m.serve c x.request).2.committed = m.committed)
    (h : Answered c faults n m (⟨q, reply⟩ :: rest) m') :
    m'.committed = if isProcessed (faults n) then (m.serve c q).2.committed else m.committed := by
  obtain ⟨_, hrest⟩ := Answered.cons_iff.1 h
  rw [hrest.unchanged (f := Memory.committed) hkeep]
  split <;> rfl

/-- Of a pass whose commit was answered by a fault, or refused, nothing is committed but what the
pass commits without faults; and that only if the commit was acted on. -/
theorem committed_of_rejected (hc : c.AtRoot) (hd : Dialogue.Leads d tr a)
    (h : Answered c faults 0 m (Sent.ofTrace tr) m') (hd₂ : Dialogue.Leads d tr₂ a₂)
    (h₂ : Answered c (fun _ => none) 0 m (Sent.ofTrace tr₂) m₂)
    (hl : Lifecycle c (Sent.ofTrace tr) ok) (hl₂ : Lifecycle c (Sent.ofTrace tr₂) ok₂)
    {front : List Sent} {x y : Sent} (hsent : Sent.ofTrace tr = front ++ [x, y])
    (hsound : ∀ x ∈ front, x.reply.isAccepted = true ∨ x.reply.isAbsent = true)
    (hcommit : x.request.IsCommit) :
    m'.committed = if isProcessed (faults front.length) then m₂.committed else m.committed := by
  have hmem : x ∈ Sent.ofTrace tr := by simp [hsent]
  have hkeep := hl.committed_serve hc
  have honce := hl.commit_once
  rw [hsent, List.pairwise_append] at honce
  have hnone : ∀ i < front.length, faults (0 + i) = none := by
    obtain ⟨_, hfront, _⟩ := Answered.append_iff.1 (hsent ▸ h)
    exact hfront.not_faulted hsound
  obtain ⟨rest₂, m₁, hsent₂, hfront, hrest, hrest₂, hhead, _⟩ :=
    Answered.agree hd h hd₂ h₂ hsent hnone
  rw [Nat.zero_add] at hrest hrest₂
  -- Before the commit nothing is committed, and after it nothing else.
  have hbefore : m₁.committed = m.committed :=
    hfront.unchanged (f := Memory.committed) fun z hz =>
      hkeep z (by simp [hsent, hz]) fun hz' => honce.2.2 z hz x (by simp) hz' hcommit
  have hafter : m'.committed = if isProcessed (faults front.length) then
      (m₁.serve c x.request).2.committed else m₁.committed := by
    refine committed_of_commit (fun z hz => hkeep z ?_ ?_) hrest
    · rw [List.mem_singleton] at hz
      simp [hsent, hz]
    · exact (List.pairwise_cons.1 honce.2.1).1 z hz hcommit
  obtain ⟨x₂, rest₂, rfl⟩ : ∃ x₂ rest, rest₂ = x₂ :: rest := by cases rest₂ with
    | nil => cases hhead
    | cons x₂ rest => exact ⟨x₂, rest, rfl⟩
  have hrequest : x₂.request = x.request := (Option.some.inj hhead).symm
  have hclean : m₂.committed = (m₁.serve c x.request).2.committed := by
    have honce₂ := hl₂.commit_once
    rw [hsent₂, List.pairwise_append, List.pairwise_cons] at honce₂
    rw [← hrequest]
    exact committed_of_commit (fun z hz => hl₂.committed_serve hc z (by simp [hsent₂, hz])
      (honce₂.2.1.1 z hz (hrequest ▸ hcommit))) hrest₂
  rw [hafter, hclean, hbefore]

/-- Whatever faults hit a pass, all of it is committed or nothing. -/
theorem allOrNothing (hc : c.AtRoot) (hd : Dialogue.Leads d tr a)
    (h : Answered c faults 0 m (Sent.ofTrace tr) m') (hd₂ : Dialogue.Leads d tr₂ a₂)
    (h₂ : Answered c (fun _ => none) 0 m (Sent.ofTrace tr₂) m₂)
    (hl : Lifecycle c (Sent.ofTrace tr) ok) (hl₂ : Lifecycle c (Sent.ofTrace tr₂) ok₂) :
    AllOrNothing faults (Sent.ofTrace tr) ok m m' m₂ := by
  have hclosed := hl.closed hc h
  have hnothing (hno : ∀ x ∈ Sent.ofTrace tr, ¬ x.request.IsCommit) :
      m'.committed = m.committed :=
    h.unchanged (f := Memory.committed) fun x hx => hl.committed_serve hc x hx (hno x hx)
  have hrejected {front : List Sent} {x y : Sent} (hsent : Sent.ofTrace tr = front ++ [x, y]) :=
    committed_of_rejected hc hd h hd₂ h₂ hl hl₂ hsent
  have hall := eq_of_sound hd h hd₂ h₂
  generalize Sent.ofTrace tr = sent at h hl hclosed hnothing hrejected hall ⊢
  cases hl with
  | unversioned =>
    have hno := hnothing (by simpa using not_isCommit_versionRequest)
    exact ⟨.inl hno, nofun, fun _ _ => hno, hclosed⟩
  | @ungranted _ _ v =>
    have hno := hnothing (by simpa using ⟨not_isCommit_versionRequest, not_isCommit_openRequest v⟩)
    exact ⟨.inl hno, nofun, fun _ _ => hno, hclosed⟩
  | @opened reply₀ reply v t steps closing _ hversion hgranted hscope hend =>
    have hfront {x : Sent}
        (hx : x = ⟨versionRequest, reply₀⟩ ∨ x = ⟨openRequest v, reply⟩ ∨ x ∈ steps) :
        ¬ x.request.IsCommit := by
      rcases hx with rfl | rfl | hx
      · exact not_isCommit_versionRequest
      · exact not_isCommit_openRequest v
      · exact (hscope x hx).not_isCommit
    have hsound (hsteps : ∀ x ∈ steps, x.succeeds = true) :=
      sound_of_granted hversion hgranted hsteps
    have hnocommit {reply : Reply} (hclosing : closing = [⟨discardRequest t, reply⟩]) :
        m'.committed = m.committed := by
      apply hnothing
      intro x hx
      simp only [hclosing, List.mem_cons, List.mem_append, List.not_mem_nil, or_false] at hx
      rcases hx with hx | hx | hx | rfl
      · exact hfront (.inl hx)
      · exact hfront (.inr (.inl hx))
      · exact hfront (.inr (.inr hx))
      · exact not_isCommit_discardRequest t
    cases hend with
    | @committed _ hsteps _ haccepted =>
      obtain rfl := hall (sound_append (hsound hsteps) (by simp [haccepted]))
      exact ⟨.inr rfl, fun _ => rfl, nofun, hclosed⟩
    | @gone reply' hsteps _ habsent =>
      have hlast : ∀ x ∈ [(⟨c.commitRequest t, reply'⟩ : Sent)],
          x.reply.isAccepted = true ∨ x.reply.isAbsent = true := by
        simp [habsent]
      have hall' := sound_append (hsound hsteps) hlast
      obtain rfl := hall hall'
      refine ⟨.inr rfl, nofun, fun _ hlost => ?_, hclosed⟩
      -- The answer that there is no such transaction is no fault.
      have hprocessed := hlost (steps.length + 2) ⟨c.commitRequest t, reply'⟩ (by simp) ⟨rfl, rfl⟩
      have hnone := h.not_faulted hall' (steps.length + 2) (by simp)
      rw [Nat.zero_add] at hnone
      rw [hnone] at hprocessed
      cases hprocessed
    | @rejected reply' _ hsteps _ _ _ =>
      have hcommitted := hrejected rfl (hsound hsteps) ⟨rfl, rfl⟩
      refine ⟨?_, nofun, fun _ hlost => ?_, hclosed⟩
      · rw [hcommitted]
        split
        · exact .inr rfl
        · exact .inl rfl
      · have hprocessed := hlost (steps.length + 2) ⟨c.commitRequest t, reply'⟩ (by simp) ⟨rfl, rfl⟩
        rw [hcommitted]
        simp [hprocessed]
    | @unchanged reply' hsteps _ =>
      have hno := hnocommit rfl
      refine ⟨.inl hno, fun haccepted => ?_, fun _ _ => hno, hclosed⟩
      rw [hall (sound_append (hsound hsteps) (by simp [haccepted]))]
    | failed =>
      have hno := hnocommit rfl
      exact ⟨.inl hno, nofun, fun _ _ => hno, hclosed⟩

end

end Lifecycle

namespace DataPlane.Client
open Simulation (Log Plane)
variable {α : Type} {c : Client} {faults : Nat → Option Fault} {m : Memory}

/-- The step as a session of its own, begun on the memory, has all of its effect or none. -/
def Withstands (c : Client) (faults : Nat → Option Fault) (m : Memory) (x : SessionM α) : Prop :=
  ∀ log : Log, ∃ m' m₂,
    ((x.start .fresh).run (faulted (Plane.answer c) faults) ((.holding m, log), 0)).2.1.1 =
      .holding m' ∧
    ((x.start .fresh).run (Plane.answer c) (.holding m, log)).2.1 = .holding m₂ ∧
    AllOrNothing faults
      (Sent.ofTrace
        ((x.start .fresh).trace (faulted (Plane.answer c) faults) ((.holding m, log), 0)))
      ((x.start .fresh).run (faulted (Plane.answer c) faults) ((.holding m, log), 0)).1.1.isOk
      m m' m₂

/-- A step whose requests are those of one transaction withstands faults. -/
theorem withstands_of_lifecycle (hc : c.AtRoot) {x : SessionM α}
    (hx : ∀ {sent r s'}, SessionM.Conduct x .fresh sent r s' → Lifecycle c sent r.isOk) :
    Withstands c faults m x := by
  intro log
  obtain ⟨m', log', n', hrun, h⟩ := answered_run (c := c) _ (x.start .fresh) 0 m log
  obtain ⟨m₂, log₂, hrun₂, h₂⟩ := answered_clean (c := c) (x.start .fresh) 0 m log
  refine ⟨m', m₂, by rw [hrun], by rw [hrun₂], ?_⟩
  exact Lifecycle.allOrNothing hc (Dialogue.leads_run _ _ _) h (Dialogue.leads_run _ _ _) h₂
    (hx (SessionM.conduct_run _ x .fresh _)) (hx (SessionM.conduct_run _ x .fresh _))

/-- A backend without servers. -/
def emptyShop : Resolved :=
  { name := "shop", mode := none, algorithm := none, advCheck := none, servers := [],
    httpChecks := [] }

/-- A configuration with that backend, which has a server there. -/
def stockedShop : Configuration :=
  { backends := Table.empty.insert "shop" emptyShop.wireBackend.stamped.toJson
    servers := Table.empty.insert "shop"
      [Wire.Server.toJson
        { name := "a", address := "10.0.0.1", port := none, id := none, check := none }]
    httpChecks := .empty }

/-- One request is acted on, but its answer does not arrive. -/
def answerLost (i n : Nat) : Option Fault := if n = i then some (.lost true "reset") else none

/-- Whether a step ends well in spite of faults, and the Data Plane that it leaves. -/
def outcome (c : Client) (faults : Nat → Option Fault) (m : Memory) (x : SessionM α) :
    Bool × Option Memory :=
  let run := (x.start .fresh).run (faulted (Plane.answer c) faults) ((.holding m, []), 0)
  (run.1.1.isOk, run.2.1.1.memory)

/-- Whatever faults hit its requests, a pass commits all of its changes or none, and leaves no
transaction open without reason. A pass whose resource is not valid or cannot be resolved makes no
requests. -/
theorem all_or_nothing (hc : c.AtRoot) (faults : Nat → Option Fault) (m : Memory) :
    (∀ d : Resolved, Withstands c faults m (c.apply d)) ∧
    (∀ name : String, Withstands c faults m (c.teardown name)) ∧
    ∀ {σ : Type} (env : Environment Pass.interface σ) (w w' : σ) (now : String) (key : Key)
      (b : Resource.Backend) (index : ServiceIndex),
      env (.store (.get key)) w = (.ok (some b), w') → b.isDeleting = false →
      Pass.Stops env key b w' → Pass.Quiet env (reconcile now c key) index w :=
  ⟨fun _ => withstands_of_lifecycle hc lifecycle_apply,
    fun _ => withstands_of_lifecycle hc lifecycle_teardown,
    fun _ _ _ _ _ _ _ hget hstay hstop => Pass.quiet_reconcile hget hstay hstop⟩

/-- A case of it: the answer to the commit gets lost, when the server of a backend is to be removed
and when the whole backend is. Either pass fails, and has committed all that it was to do. The third
pass is stopped by a resource without a name. -/
theorem all_or_nothing_lost_commit :
    let c := onThisHost 5555 "admin" "secret"
    let m := Memory.ofConfiguration 1 stockedShop
    let applied := outcome c (answerLost 6) m (c.apply emptyShop)
    let tornDown := outcome c (answerLost 4) m (c.teardown "shop")
    c.AtRoot ∧
    Withstands c (answerLost 6) m (c.apply emptyShop) ∧
    (applied.1 = false ∧ applied.2.map (·.version) = some 2 ∧
      applied.2.map (fun m' => (m'.committed.servers.get? "shop").map List.length) =
        some (some 0)) ∧
    Withstands c (answerLost 4) m (c.teardown "shop") ∧
    (tornDown.1 = false ∧ tornDown.2.map (·.version) = some 2 ∧
      tornDown.2.map (·.committed.backends.contains "shop") = some false) ∧
    ∀ now : String,
      Pass.Quiet
        (Pass.knowing { metadata := {}, spec := ⟨"", none, none, none, [], []⟩, status := none })
        (reconcile now c ⟨"shop", "web"⟩) .empty () := by
  intro c m applied tornDown
  have hroot : c.AtRoot := atRoot_onThisHost _ _ _
  have happly := (all_or_nothing hroot (answerLost 6) m).1
  have hrest := (all_or_nothing hroot (answerLost 4) m).2
  exact ⟨hroot, happly _, by decide +kernel, hrest.1 _, by decide +kernel,
    fun now => hrest.2 _ _ _ now _ _ _ rfl rfl trivial⟩

end DataPlane.Client
end ProxySync
