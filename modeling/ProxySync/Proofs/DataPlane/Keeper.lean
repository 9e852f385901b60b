import ProxySync.DataPlane.Memory
import ProxySync.Proofs.Session.Operations
import ProxySync.Proofs.Wire.ReadBack
/-!
# Data Planes with optimistic locks

A Data Plane that is shared with others. A write has to name the version that is current when it
arrives, and is refused otherwise; whatever is accepted makes a new version. Between any two
requests of a session others may commit as many changes as they like. What the Data Plane holds,
how it shows it and which writes it takes is left open.

## Main definitions

* `Revision`: what is held, at a version.
* `Keeper`: such a Data Plane; `Keeper.serve` is its reply to one request.
* `Keeper.answer`: the environment that it makes together with the others.
* `Keeper.during`: the requests of an operation, each with the revision that it finds.

## Main statements

* `Keeper.served`: every reply of a run is the one to the revision found.
* `Keeper.query_of_accepted`: what is accepted has named the version found.
-/
namespace ProxySync.DataPlane
open Client

/-- What is held, at a version. -/
structure Revision (K : Type) where
  version : Int
  held : K

namespace Revision
variable {K : Type}

/-- The revision after a change. -/
def commit (r : Revision K) (held : K) : Revision K := { version := r.version + 1, held }

/-- The revision after changes made one after the other. -/
def commitAll (r : Revision K) (changes : List K) : Revision K := changes.foldl commit r

theorem version_commitAll (r : Revision K) (changes : List K) :
    (r.commitAll changes).version = r.version + changes.length := by
  induction changes generalizing r with
  | nil => simp [commitAll]
  | cons change changes ih =>
    rw [show r.commitAll (change :: changes) = (r.commit change).commitAll changes from rfl, ih]
    simp only [commit, List.length_cons]
    omega

/-- Versions tell whether anything was changed. -/
theorem commitAll_eq_nil_of_version {r : Revision K} {changes : List K}
    (h : (r.commitAll changes).version = r.version) : changes = [] := by
  rw [version_commitAll] at h
  exact List.length_eq_zero_iff.1 (by omega)

theorem commitAll_eq_self_iff {r : Revision K} {changes : List K} :
    r.commitAll changes = r ↔ changes = [] := by
  constructor
  · intro h
    exact commitAll_eq_nil_of_version (congrArg Revision.version h)
  · rintro rfl
    rfl

end Revision

/-- A Data Plane with optimistic locks. -/
structure Keeper (K : Type) where
  /-- The body that tells the version. -/
  tell : Int → String
  told : ∀ {v : Int} {n : Int64}, version? (tell v) = some n → n.toInt = v
  /-- What is shown at a place. -/
  shown : K → List String → Reply
  /-- The reply to a write that names the current version, and what is held if it is accepted. -/
  taken : K → Request → Reply × K

/-- A request with the revision that it finds. -/
structure Moment (K : Type) where
  sent : Sent
  found : Revision K

namespace Keeper
variable {K α : Type} {k : Keeper K} {r : Revision K} {q : Request}

/-- The reply to a request, and the revision that leaves. -/
def serve (k : Keeper K) (r : Revision K) (q : Request) : Reply × Revision K :=
  if q.method = .get then
    if q.endpoint = versionEndpoint then (.answered 200 (k.tell r.version), r)
    else (k.shown r.held q.endpoint.segments, r)
  else if q.endpoint.query = [("version", toString r.version)] then
    let (reply, held) := k.taken r.held q
    (reply, if reply.accepts q.method then r.commit held else r)
  else (.answered 409 "version mismatch", r)

theorem serve_version : k.serve r versionRequest = (.answered 200 (k.tell r.version), r) := rfl

theorem serve_look {place : List String} {parameter : String × String} :
    k.serve r (scopedRequest .get place none parameter) = (k.shown r.held place, r) := by
  have hplace : (scopedRequest .get place none parameter).endpoint ≠ versionEndpoint := fun h =>
    absurd (congrArg Endpoint.query h) (List.cons_ne_nil _ _)
  rw [serve, if_pos (show (scopedRequest .get place none parameter).method = .get from rfl),
    if_neg hplace]
  rfl

/-- What is accepted has named the version found. -/
theorem query_of_accepted (h : (k.serve r q).1.accepts q.method = true) :
    q.endpoint.query = [("version", toString r.version)] := by
  rw [serve] at h
  split at h
  · next hget =>
    rw [hget] at h
    split at h
    · cases h
    · cases hr : k.shown r.held q.endpoint.segments <;> simp [hr, Reply.accepts] at h
  · split at h
    · assumption
    · cases hm : q.method <;> simp [hm, Reply.accepts, isSuccess] at h

/-- The version that is read is the one found. -/
theorem version_of_serve {v : Int64} (h : (k.serve r versionRequest).1.version? = some v) :
    v.toInt = r.version :=
  k.told h

/-- The Data Plane together with the others: before each request they make the next of their
lists of changes. -/
def answer (k : Keeper K) : Environment interface (Revision K × List (List K))
  | .request q, (r, others) =>
    let found := r.commitAll (others.headD [])
    ((k.serve found q).1, ((k.serve found q).2, others.tail))
  | .measure _, w => ((), w)

/-- Requests with the revisions that they find. -/
def moments (k : Keeper K) : Revision K → List (List K) → List Sent → List (Moment K)
  | _, _, [] => []
  | r, others, x :: xs =>
    let found := r.commitAll (others.headD [])
    ⟨x, found⟩ :: k.moments (k.serve found x.request).2 others.tail xs

/-- Every reply of a run is the one to the revision found. -/
theorem served (d : Dialogue interface α) (r : Revision K) (others : List (List K)) :
    ∀ m ∈ k.moments r others (Sent.ofTrace (d.trace k.answer (r, others))),
      m.sent.reply = (k.serve m.found m.sent.request).1 := by
  induction d generalizing r others with
  | done a => simp [Sent.ofTrace, moments]
  | ask call next ih =>
    cases call with
    | request q => exact List.forall_mem_cons.2 ⟨rfl, ih _ _ _⟩
    | measure m => exact ih () r others

/-- The requests of an operation with the revisions that they find. -/
def during (k : Keeper K) (c : Client) (q : Configuring) (s : Session) (r : Revision K)
    (others : List (List K)) : List (Moment K) :=
  k.moments r others (Sent.ofTrace (((q.step c).start s).trace k.answer (r, others)))

end Keeper

/-- A configuration in memory, with locks. A version that no client can read is not told. -/
def Memory.keeper : Keeper Configuration where
  tell v := if -0x8000000000000000 ≤ v ∧ v < 0x8000000000000000 then toString v else ""
  told {v n} h := by
    split at h
    · next hv =>
      rw [version?_toString hv] at h
      cases h
      exact Int64.toInt_ofInt_of_le hv.1 hv.2
    · cases h
  shown cfg place :=
    let a := (onConfiguration cfg .get place .null).1
    .answered a.status a.bodyText
  taken cfg q :=
    let p := onConfiguration cfg q.method q.endpoint.segments (q.body.getD .null)
    (.answered p.1.status p.1.bodyText, p.2)

end ProxySync.DataPlane
