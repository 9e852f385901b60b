import ProxySync.Kube.Api
/-!
# Requests to the Kubernetes API that succeed

A request is made with its path cut where a query would begin, unless the path cannot be written at
all. An object is found, and a patch succeeds, exactly if the answer does not refuse the request and
holds an object that can be read.

## Main statements

* `Kube.run_send_iff`: when a request is answered.
* `Kube.run_getObject_iff`, `Kube.run_patchBackend_iff`: when an object is found, and when a patch
  succeeds.
-/
namespace ProxySync.Kube
variable {σ α β : Type} {env : Environment interface σ} {s s' : σ} {key : Key} {a : α}

/-- A reply is the answer to the request with its path cut. -/
theorem run_send_iff {r : ApiRequest} {reply : ApiReply} :
    (send r).run env s = (some reply, s') ↔
      (cutPath r.path).toList.any isInvalidInPath = false ∧
        env { r with path := cutPath r.path } s = (reply, s') := by
  rw [send]
  split
  · rename_i hinvalid
    exact ⟨nofun, fun h => absurd (hinvalid.symm.trans h.1) (by decide)⟩
  · rename_i hvalid
    let q : ApiRequest := { r with path := cutPath r.path }
    change ((some (env q s).1, (env q s).2) : Option ApiReply × σ) = (some reply, s') ↔
      (cutPath r.path).toList.any isInvalidInPath = false ∧ env q s = (reply, s')
    have hpair : ((some (env q s).1, (env q s).2) : Option ApiReply × σ) = (some reply, s') ↔
        env q s = (reply, s') := by
      rcases env q s with ⟨a, s₁⟩
      exact ⟨fun h => by cases h; rfl, fun h => by cases h; rfl⟩
    rw [hpair]
    exact ⟨fun h => ⟨Bool.eq_false_iff.2 hvalid, h⟩, And.right⟩

theorem exists_of_map_eq_ok {ε : Type} {x : Except ε α} {f : α → β} {b : β}
    (h : x.map f = .ok b) : ∃ a, x = .ok a ∧ f a = b := by
  cases x with
  | error e => cases h
  | ok a => exact ⟨a, rfl, Except.ok.inj h⟩

/-- What is decoded is the body of a request that was not refused. -/
theorem decode_eq_ok_iff {read : Json → Option α} {reply : Option ApiReply} :
    decode read reply = .ok a ↔ ∃ status body, reply = some (.answered status body) ∧
      isRefused status = false ∧ (Json.parse? body).bind read = some a := by
  constructor
  · intro h
    rw [decode.eq_def] at h
    split at h
    · rename_i status body
      split at h
      · cases h
      · rename_i hstatus
        split at h
        · rename_i hread
          cases h
          exact ⟨status, body, rfl, Bool.eq_false_iff.2 hstatus, hread⟩
        · cases h
    · cases h
  · rintro ⟨status, body, rfl, hstatus, hread⟩
    simp only [decode, hstatus, Bool.false_eq_true, if_false, hread]

/-- When an object is found. -/
theorem run_getObject_iff {kind : ObjectKind} {read : Json → Option α} :
    (getObject kind read key).run env s = (.ok (some a), s') ↔
      key.name ≠ "" ∧ (cutPath (kind.path key)).toList.any isInvalidInPath = false ∧
      ∃ status body, env { verb := .get, path := cutPath (kind.path key) } s =
          (.answered status body, s') ∧
        isRefused status = false ∧ (Json.parse? body).bind read = some a := by
  constructor
  · intro h
    rw [getObject] at h
    split at h
    · cases h
    · rename_i hname
      rw [Dialogue.run_bind] at h
      rcases hsend : (send { verb := .get, path := kind.path key }).run env s with ⟨reply, s₁⟩
      rw [hsend] at h
      simp only at h
      split at h
      · split at h
        · cases h
        · obtain ⟨hread, rfl⟩ := Prod.mk.inj h
          obtain ⟨_, hdecode, hsame⟩ := exists_of_map_eq_ok hread
          cases hsame
          obtain ⟨status, body, heq, hstatus, hbody⟩ := decode_eq_ok_iff.1 hdecode
          cases heq
          obtain ⟨hvalid, hreply⟩ := run_send_iff.1 hsend
          exact ⟨hname, hvalid, _, _, hreply, hstatus, hbody⟩
      · cases h
  · rintro ⟨hname, hvalid, status, body, hreply, hstatus, hbody⟩
    have hdecode : decode read (some (.answered status body)) = .ok a :=
      decode_eq_ok_iff.2 ⟨status, body, rfl, hstatus, hbody⟩
    have hsend : (send { verb := .get, path := kind.path key }).run env s =
        (some (.answered status body), s') := run_send_iff.2 ⟨hvalid, hreply⟩
    rw [getObject, if_neg hname, Dialogue.run_bind, hsend]
    simp only [hstatus, Bool.false_and, Bool.false_eq_true, if_false, hdecode]
    rfl

/-- When a patch succeeds. -/
theorem run_patchBackend_iff {b : Resource.Backend} {below : String} {patch : Json} :
    (patchBackend b below patch).run env s = (.ok (), s') ↔
      b.metadata.nameOrStem ≠ "" ∧
      (cutPath (ObjectKind.backend.path b.metadata.key ++ below)).toList.any isInvalidInPath =
        false ∧
      ∃ status body, env { verb := .patch, body := some patch
                           path := cutPath (ObjectKind.backend.path b.metadata.key ++ below) } s =
          (.answered status body, s') ∧ isRefused status = false ∧
        ((Json.parse? body).bind Resource.Backend.ofJson?).isSome = true := by
  constructor
  · intro h
    rw [patchBackend] at h
    split at h
    · cases h
    · rename_i hname
      rw [Dialogue.run_bind] at h
      rcases hsend : (send { verb := .patch, body := some patch
                             path := ObjectKind.backend.path b.metadata.key ++ below }).run env s
        with ⟨reply, s₁⟩
      rw [hsend] at h
      obtain ⟨hread, rfl⟩ := Prod.mk.inj h
      obtain ⟨_, hdecode, _⟩ := exists_of_map_eq_ok hread
      obtain ⟨status, body, rfl, hstatus, hbody⟩ := decode_eq_ok_iff.1 hdecode
      obtain ⟨hvalid, hreply⟩ := run_send_iff.1 hsend
      exact ⟨hname, hvalid, status, body, hreply, hstatus, by rw [hbody]; rfl⟩
  · rintro ⟨hname, hvalid, status, body, hreply, hstatus, hbody⟩
    obtain ⟨patched, hpatched⟩ := Option.isSome_iff_exists.1 hbody
    have hdecode : decode Resource.Backend.ofJson? (some (.answered status body)) = .ok patched :=
      decode_eq_ok_iff.2 ⟨status, body, rfl, hstatus, hpatched⟩
    have hsend : (send { verb := .patch, body := some patch
                         path := ObjectKind.backend.path b.metadata.key ++ below }).run env s =
        (some (.answered status body), s') := run_send_iff.2 ⟨hvalid, hreply⟩
    rw [patchBackend, if_neg hname, Dialogue.run_bind, hsend]
    simp only [hdecode]
    rfl

end ProxySync.Kube
