import ProxySync.Proofs.Json.Sorted
import ProxySync.Simulation.ApiServer
/-!
# What a merge patch makes of the finalizers

A merge patch puts the list that it brings in the place of the one that is kept, whatever that is,
and leaves the rest of the object alone. A resource that is kept goes on being that resource, so
what a server keeps of it can be told after any number of patches. An object that is being deleted
goes away with its last finalizer.

## Main definitions

* `ApiServer.finalizersOf`: the finalizers of an object, as it is kept.
* `ApiServer.finalizersAt`: those of the resource of a key.
* `ApiServer.Keeps`: a server that keeps the resource of a key, if it is there.

## Main statements

* `Json.field?_entries`, `Json.member?_answered`: what is found under a name, where it is kept and
  where it arrives.
* `ApiServer.of_read`: a resource is read with its own key and with the finalizers that are kept.
* `ApiServer.finalizersOf_merge`, `ApiServer.Keeps.patch`: after a patch they are those of the
  patch.
* `ApiServer.Keeps.of_respond`, `ApiServer.Keeps.perform_get`, `ApiServer.Keeps.perform_patch`: what
  a request that succeeds has done.
-/
namespace ProxySync

namespace Json
variable {α : Type}

/-! ## Fields of sorted objects -/

theorem filter_eq_toList_find? {l : List α} {p : α → Bool} (h : l.countP p ≤ 1) :
    l.filter p = (l.find? p).toList := by
  rw [List.countP_eq_length_filter] at h
  rw [← List.head?_filter]
  match hfilter : l.filter p with
  | [] => rfl
  | [x] => rfl
  | x :: y :: rest =>
    rw [hfilter] at h
    simp at h

/-- What a table is looked up for is a field of the object of its entries. -/
theorem field?_entries (t : Table String Json) (name : String) :
    (Json.obj t.entries).field? name = t.get? name := by
  have honce := countP_entries_le_one t name
  have hreverse : t.entries.reverse.find? (·.1 == name) = t.entries.find? (·.1 == name) := by
    rw [← List.head?_filter, ← List.head?_filter, List.filter_reverse, filter_eq_toList_find? honce]
    cases t.entries.find? (·.1 == name) <;> rfl
  rw [field?, hreverse, Table.get?]
  rfl

theorem field?_sorted (j : Json) (name : String) :
    j.sorted.field? name = (j.field? name).map sorted := by
  cases j with
  | obj fields =>
    rw [sorted_obj, field?_entries, get?_ofList, field?, ← List.map_reverse, List.find?_map,
      Option.map_map, Option.map_map]
    rfl
  | _ => rfl

/-- What arrives of an object has the member that the object holds last. -/
theorem member?_answered (read : Json → Option α) (room : Nat) (fields : List (String × Json))
    (name : String) : (answered (room + 1) (.obj fields)).member? name read =
      ((Json.obj fields).field? name).elim (some none)
        fun j => unlessNull read (answered room j) := by
  have hget : (Table.ofList (fields.map fun f => (f.1, f.2.sorted))).get? name =
      ((Json.obj fields).field? name).map sorted := by
    rw [← field?_entries, ← sorted_obj, field?_sorted]
  rw [answered_obj, member?, List.filter_map]
  simp only [Function.comp_def]
  rw [filter_eq_toList_find? (countP_entries_le_one _ name)]
  rw [Table.get?] at hget
  simp only [beq_eq_decide] at hget ⊢
  revert hget
  generalize (Table.ofList (fields.map fun f => (f.1, f.2.sorted))).entries.find?
    (fun f => decide (f.1 = name)) = found
  intro hget
  cases hheld : (Json.obj fields).field? name with
  | none =>
    rw [hheld] at hget
    obtain rfl := Option.map_eq_none_iff.1 hget
    rfl
  | some j =>
    rw [hheld] at hget
    obtain ⟨f, rfl, hf⟩ := Option.map_eq_some_iff.1 hget
    simp only [Option.toList_some, List.map_singleton, List.foldlM_cons, List.foldlM_nil, hf]
    exact bind_pure _

/-- A member that is read as it is sent has the value of what the object holds. -/
theorem eq_bind_of_member? {read : Json → Option α} {room : Nat} {held : Option Json}
    {a : Option α} (hread : ∀ j, read (answered room j) = read j) (hnull : read .null = none)
    (h : held.elim (some none) (fun j => unlessNull read (answered room j)) = some a) :
    a = held.bind read := by
  cases held with
  | none => exact (Option.some.inj h).symm
  | some j =>
    have hvalue : unlessNull read (answered room j) = some a := h
    by_cases hj : answered room j = .null
    · rw [hj] at hvalue
      rw [answered_eq_null.1 hj, Option.bind_some, hnull]
      exact (Option.some.inj hvalue).symm
    · have hplain : unlessNull read (answered room j) = (read (answered room j)).map some := by
        cases hshape : answered room j with
        | null => exact absurd hshape hj
        | _ => rfl
      rw [hplain, hread] at hvalue
      obtain ⟨x, hx, rfl⟩ := Option.map_eq_some_iff.1 hvalue
      exact hx.symm

theorem IsValue.field? {j value : Json} {name : String} (h : IsValue j)
    (hfield : j.field? name = some value) : IsValue value := by
  cases j with
  | obj fields =>
    obtain ⟨f, hf, rfl⟩ := Option.map_eq_some_iff.1 hfield
    exact haveValues_iff.1 h f (List.mem_reverse.1 (List.mem_of_find?_eq_some hf))
  | _ => cases hfield

theorem isValue_insert {t : Table String Json} {name : String} {value : Json}
    (h : IsValue (.obj t.entries)) (hvalue : IsValue value) :
    IsValue (.obj (t.insert name value).entries) := by
  rw [IsValue, haveValues_iff] at h ⊢
  intro f hf
  obtain rfl | hmem := Table.mem_insertEntry hf
  · exact hvalue
  · exact h f hmem

/-- Texts arrive as they are. -/
theorem list?_text?_answered (room : Nat) (j : Json) :
    (answered (room + 1) j).list? text? = j.list? text? := by
  obtain ⟨items, rfl, _⟩ | ⟨fields, rfl, h | ⟨fs, h⟩⟩ | h := answered_cases (room + 1) j
  · rw [list?_answered]
    simp only [text?_answered]
    rfl
  · rw [h]
    rfl
  · rw [h]
    rfl
  · rw [h]

end Json

/-- Three of the entries that are read of metadata. -/
theorem Kube.Meta.of_ofJson? {j : Json} {m : Kube.Meta} (h : Kube.Meta.ofJson? j = some m) :
    j.member? "name" Json.text? = some m.name ∧ j.member? "namespace" Json.text? = some m.ns ∧
      j.member? "finalizers" (Json.list? Json.text?) = some m.finalizers := by
  rw [ofJson?] at h
  obtain ⟨name, hname, h⟩ := Option.bind_eq_some_iff.1 h
  obtain ⟨ns, hns, h⟩ := Option.bind_eq_some_iff.1 h
  iterate 5 obtain ⟨_, _, h⟩ := Option.bind_eq_some_iff.1 h
  obtain ⟨fs, hfs, h⟩ := Option.bind_eq_some_iff.1 h
  iterate 7 obtain ⟨_, _, h⟩ := Option.bind_eq_some_iff.1 h
  cases h
  exact ⟨hname, hns, hfs⟩

namespace Simulation.ApiServer
open Json

/-! ## What is read of a resource -/

/-- The finalizers of an object. -/
def finalizersOf (j : Json) : List String :=
  (((j.field? "metadata").bind (·.field? "finalizers")).bind (Json.list? Json.text?)).getD []

/-- An object with a name has metadata, with that name. -/
theorem of_metaText {j : Json} {name : String} (h : metaText j name ≠ "") :
    ∃ fields data, j = .obj fields ∧ j.field? "metadata" = some (.obj data) ∧
      (Json.obj data).field? name = some (.str (metaText j name)) := by
  have hsome : ((j.field? "metadata").bind (·.field? name)).bind Json.text? =
      some (metaText j name) := by
    rw [metaText] at h ⊢
    cases htext : ((j.field? "metadata").bind (·.field? name)).bind Json.text? with
    | none =>
      rw [htext] at h
      exact absurd rfl h
    | some s => rfl
  obtain ⟨value, hvalue, htext⟩ := Option.bind_eq_some_iff.1 hsome
  obtain ⟨data, hdata, hfield⟩ := Option.bind_eq_some_iff.1 hvalue
  cases j with
  | obj fields =>
    cases data with
    | obj data =>
      cases value with
      | str s =>
        cases htext
        exact ⟨fields, data, rfl, hdata, hfield⟩
      | _ => cases htext
    | _ => cases hfield
  | _ => cases hdata

/-- Of metadata with a name, what is read has its key and its finalizers. -/
theorem of_readMeta {room : Nat} {data : List (String × Json)} {name : String} {m : Kube.Meta}
    (hname : (Json.obj data).field? "name" = some (.str name))
    (h : Kube.Meta.ofJson? (answered (room + 2) (.obj data)) = some m) :
    m.key = ⟨(((Json.obj data).field? "namespace").bind Json.text?).getD "", name⟩ ∧
      m.finalizerList =
        (((Json.obj data).field? "finalizers").bind (Json.list? Json.text?)).getD [] := by
  obtain ⟨hn, hns, hfs⟩ := Kube.Meta.of_ofJson? h
  rw [member?_answered] at hn hns hfs
  have htext (j : Json) : (answered (room + 1) j).text? = j.text? := text?_answered _ j
  have hlist (j : Json) : (answered (room + 1) j).list? text? = j.list? text? :=
    list?_text?_answered room j
  have hread : m.name = some name := by
    rw [eq_bind_of_member? htext rfl hn, hname]
    rfl
  refine ⟨?_, by rw [Kube.Meta.finalizerList, eq_bind_of_member? hlist rfl hfs]⟩
  rw [Kube.Meta.key, Kube.Meta.nsText, Kube.Meta.nameOrStem, hread,
    eq_bind_of_member? htext rfl hns]
  rfl

/-- Of an object with a name, what is read has its key and its finalizers. -/
theorem of_read {j : Json} {b : Resource.Backend} (hname : metaText j "name" ≠ "")
    (h : Resource.Backend.ofJson? (answered maxNesting j) = some b) :
    b.metadata.key = keyOf j ∧ b.metadata.finalizerList = finalizersOf j := by
  obtain ⟨fields, data, rfl, hdata, hfield⟩ := of_metaText hname
  have hrecord := record?_answered ["metadata", "spec", "status"] 126 fields
  rw [Resource.Backend.ofJson?, show maxNesting = 126 + 1 from rfl, hrecord] at h
  simp only [Option.bind_eq_bind, Option.bind_some, Option.bind_eq_some_iff, Option.pure_def,
    Option.some.injEq, Record.required_map] at h
  obtain ⟨m, hm, _, _, _, _, rfl⟩ := h
  have hheld : heldBy fields "metadata" = .given (.obj data) := by rw [heldBy, hdata]; rfl
  rw [Record.required, hheld] at hm
  obtain ⟨hkey, hfinalizers⟩ := of_readMeta hfield hm
  have hmeta (name : String) : metaText (.obj fields) name =
      (((Json.obj data).field? name).bind Json.text?).getD "" := by
    rw [metaText, hdata, Option.bind_some]
  exact ⟨by rw [hkey, keyOf, hmeta "namespace"],
    by rw [hfinalizers, finalizersOf, hdata, Option.bind_some]⟩

theorem field?_metadata_sorted (j : Json) (name : String) :
    (j.sorted.field? "metadata").bind (·.field? name) =
      ((j.field? "metadata").bind (·.field? name)).map sorted := by
  rw [field?_sorted]
  cases j.field? "metadata" with
  | none => rfl
  | some data => exact field?_sorted data name

@[simp] theorem text?_sorted (j : Json) : j.sorted.text? = j.text? := by cases j <;> rfl

theorem list?_text?_sorted (j : Json) : j.sorted.list? text? = j.list? text? := by
  cases j with
  | arr items =>
    rw [sorted_arr, list?, List.mapM_map]
    exact congrArg items.mapM (funext text?_sorted)
  | _ => rfl

@[simp] theorem metaText_sorted (j : Json) (name : String) :
    metaText j.sorted name = metaText j name := by
  rw [metaText, metaText, field?_metadata_sorted]
  cases (j.field? "metadata").bind (·.field? name) with
  | none => rfl
  | some value => rw [Option.map_some, Option.bind_some, Option.bind_some, text?_sorted]

@[simp] theorem finalizersOf_sorted (j : Json) : finalizersOf j.sorted = finalizersOf j := by
  rw [finalizersOf, finalizersOf, field?_metadata_sorted]
  cases (j.field? "metadata").bind (·.field? "finalizers") with
  | none => rfl
  | some value => rw [Option.map_some, Option.bind_some, Option.bind_some, list?_text?_sorted]

/-! ## Merging a list of finalizers -/

theorem list?_ofTexts (ss : List String) : (Json.ofTexts ss).list? text? = some ss := by
  rw [ofTexts, list?, List.mapM_map]
  induction ss with
  | nil => rfl
  | cons s ss ih =>
    rw [List.mapM_cons, ih]
    rfl

/-- A patch of the finalizers puts one field of the metadata in place. -/
theorem merge_finalizersPatch {fields data : List (String × Json)} (fs : List String)
    (hdata : (Json.obj fields).field? "metadata" = some (.obj data)) :
    ∃ t u : Table String Json, (Json.obj fields).sorted = .obj t.entries ∧
      (Json.obj data).sorted = .obj u.entries ∧
      merge (Json.obj fields).sorted (Kube.finalizersPatch fs) = .obj (t.insert "metadata"
        (.obj (u.insert "finalizers" (.ofTexts fs)).entries)).entries := by
  refine ⟨_, _, sorted_obj fields, sorted_obj data, ?_⟩
  rw [sorted_obj]
  generalize ht : Table.ofList (fields.map fun f => (f.1, f.2.sorted)) = t
  have hget : t.get? "metadata" = some (Json.obj data).sorted := by
    rw [← field?_entries, ← ht, ← sorted_obj, field?_sorted, hdata]
    rfl
  have hfind : ((t.entries.find? (·.1 == "metadata")).map (·.2)).getD .null =
      (Json.obj data).sorted := by
    rw [Table.get?] at hget
    simp only [beq_eq_decide, hget]
    rfl
  have hfields (entries : List (String × Json)) :
      mergeFields entries [("finalizers", .ofTexts fs)] =
        Table.insertEntry "finalizers" (.ofTexts fs) entries := by
    rw [ofTexts]
    simp only [mergeFields, merge, putField_eq]
  rw [Kube.finalizersPatch, merge]
  simp only [fieldsOf, mergeFields, merge, hfind, sorted_obj, putField_eq, hfields]
  rfl

section
variable {j : Json} {fs : List String}

/-- In the metadata a patch of the finalizers changes nothing else. -/
theorem field?_merge (hname : metaText j "name" ≠ "") (field : String) :
    ((merge j.sorted (Kube.finalizersPatch fs)).field? "metadata").bind (·.field? field) =
      if field = "finalizers" then some (.ofTexts fs)
      else (j.sorted.field? "metadata").bind (·.field? field) := by
  obtain ⟨fields, data, rfl, hdata, _⟩ := of_metaText hname
  obtain ⟨t, u, ht, hu, hmerge⟩ := merge_finalizersPatch fs hdata
  have hheld : (Json.obj fields).sorted.field? "metadata" = some (Json.obj u.entries) := by
    rw [field?_sorted, hdata, ← hu]
    rfl
  rw [hmerge, field?_entries, Table.get?_insert, if_pos rfl, hheld, Option.bind_some,
    Option.bind_some, field?_entries, field?_entries, Table.get?_insert]
  simp only [eq_comm]

/-- The finalizers are those of the patch. -/
theorem finalizersOf_merge (hname : metaText j "name" ≠ "") :
    finalizersOf (merge j.sorted (Kube.finalizersPatch fs)) = fs := by
  rw [finalizersOf, field?_merge hname, if_pos rfl, Option.bind_some, list?_ofTexts]
  rfl

theorem metaText_merge (hname : metaText j "name" ≠ "") {field : String}
    (hfield : field ≠ "finalizers") :
    metaText (merge j.sorted (Kube.finalizersPatch fs)) field = metaText j field := by
  rw [metaText, field?_merge hname, if_neg hfield, ← metaText, metaText_sorted]

theorem isValue_merge (hname : metaText j "name" ≠ "") (hj : IsValue j) :
    IsValue (merge j.sorted (Kube.finalizersPatch fs)) := by
  obtain ⟨fields, data, rfl, hdata, _⟩ := of_metaText hname
  obtain ⟨t, u, ht, hu, hmerge⟩ := merge_finalizersPatch fs hdata
  have hwhole : IsValue (.obj t.entries) := ht ▸ hj.sorted
  have hinner : IsValue (.obj u.entries) := hu ▸ (hj.field? hdata).sorted
  have hfs : IsValue (.ofTexts fs) := by
    rw [ofTexts, IsValue, areValues_iff, List.forall_mem_map]
    exact fun _ _ => trivial
  rw [hmerge]
  exact isValue_insert hwhole (isValue_insert hinner hfs)

/-- An object goes away only without finalizers. -/
theorem eq_nil_of_isGone (hname : metaText j "name" ≠ "")
    (h : isGone (merge j.sorted (Kube.finalizersPatch fs)) = true) : fs = [] := by
  have hfield : ((merge j.sorted (Kube.finalizersPatch fs)).field? "metadata").bind
      (·.field? "finalizers") = some (.ofTexts fs) := by rw [field?_merge hname, if_pos rfl]
  obtain ⟨data, hdata, hheld⟩ := Option.bind_eq_some_iff.1 hfield
  rw [isGone, hdata, Option.getD_some, hheld, ofTexts] at h
  have hfree := (Bool.and_eq_true_iff.1 h).2
  simpa using hfree

end

/-! ## A server that keeps a resource -/

/-- Where requests about a resource arrive. -/
def address (key : Key) : String := Kube.cutPath (Kube.ObjectKind.backend.path key)

/-- The finalizers that are kept of a resource. -/
def finalizersAt (key : Key) (s : ApiServer) : List String :=
  (s.objects.get? (address key)).elim [] finalizersOf

/-- What is kept is a resource with a name, to be found by its own key, with its fields sorted. -/
def IsKept (key : Key) (j : Json) : Prop :=
  ∃ given, j = given.sorted ∧ IsValue given ∧ metaText given "name" ≠ "" ∧
    address (keyOf given) = address key

/-- The server keeps a resource, if it is there: what is found where requests about it arrive is
that resource and nothing else. It may be scripted to refuse requests, or not to answer them. -/
structure Keeps (key : Key) (s : ApiServer) : Prop where
  refuses : ∀ r ∈ s.routes, r.broken = true ∨ Kube.isRefused r.status = true
  kept : ∀ j, s.objects.get? (address key) = some j → IsKept key j
  single : collection? (address key) = none
  apart : patchedPath (address key) = address key ∨
    s.objects.get? (patchedPath (address key)) = none

variable {key : Key} {s : ApiServer} {j : Json} {fs : List String}

theorem IsKept.finalizers_merge (h : IsKept key j) :
    finalizersOf (merge j (Kube.finalizersPatch fs)) = fs := by
  obtain ⟨given, rfl, _, hname, _⟩ := h
  exact finalizersOf_merge hname

theorem IsKept.merge (h : IsKept key j) :
    IsKept key (merge j (Kube.finalizersPatch fs)).sorted := by
  obtain ⟨given, rfl, hvalue, hname, hown⟩ := h
  refine ⟨_, rfl, isValue_merge hname hvalue, ?_, ?_⟩
  · rwa [metaText_merge hname (by decide)]
  · rwa [keyOf, metaText_merge hname (by decide), metaText_merge hname (by decide)]

/-- The server with the resource changed or gone. -/
theorem Keeps.with_objects (h : s.Keeps key) {objects : Table String Json}
    (hkept : ∀ j, objects.get? (address key) = some j → IsKept key j)
    (hrest : ∀ path, path ≠ address key → objects.get? path = s.objects.get? path) :
    Keeps key { s with objects } where
  refuses := h.refuses
  kept := hkept
  single := h.single
  apart := by
    by_cases hpath : patchedPath (address key) = address key
    · exact .inl hpath
    · rw [hrest _ hpath]
      exact h.apart

/-- Where a resource is kept, a patch of its finalizers leaves those of the patch. -/
theorem Keeps.patch (h : s.Keeps key) (hthere : s.objects.get? (address key) = some j)
    (fs : List String) :
    (s.patch (address key) (Kube.finalizersPatch fs)).2.2.Keeps key ∧
      (s.patch (address key) (Kube.finalizersPatch fs)).2.2.finalizersAt key = fs := by
  have hkept := h.kept j hthere
  simp only [ApiServer.patch, hthere]
  split
  · rename_i hgone
    refine ⟨h.with_objects (fun j hj => ?_) fun path hpath => ?_, ?_⟩
    · simp at hj
    · simp [hpath.symm]
    · obtain ⟨given, rfl, _, hname, _⟩ := hkept
      simp [finalizersAt, eq_nil_of_isGone hname hgone]
  · refine ⟨h.with_objects (fun j hj => ?_) fun path hpath => ?_, ?_⟩
    · rw [Table.get?_insert, if_pos rfl] at hj
      exact Option.some.inj hj ▸ hkept.merge
    · rw [Table.get?_insert, if_neg hpath.symm]
    · rw [finalizersAt, Table.get?_insert, if_pos rfl, Option.elim_some, finalizersOf_sorted,
        hkept.finalizers_merge]

/-- Nothing is patched where no resource is. -/
theorem patch_of_absent {path : String} (hnone : s.objects.get? path = none) (body : Json) :
    s.patch path body = (404, notFound, s) := by
  rw [ApiServer.patch, hnone]

theorem mem_of_matchRoute? {method path query : String} {routes rest : List Route} {r : Route}
    (h : matchRoute? method path query routes = some (r, rest)) : r ∈ routes := by
  induction routes generalizing rest with
  | nil => cases h
  | cons x routes ih =>
    rw [matchRoute?] at h
    split at h
    · cases h
      exact List.mem_cons_self
    · obtain ⟨⟨r', rest'⟩, hmatch, heq⟩ := Option.map_eq_some_iff.1 h
      cases heq
      exact List.mem_cons_of_mem _ (ih hmatch)

/-- A request that gets a reply and is not refused is performed. -/
theorem Keeps.of_respond (h : s.Keeps key) {r : Kube.ApiRequest} {status : Nat} {body : String}
    {s' : ApiServer} (hreply : s.respond r = (.answered status body, s'))
    (hstatus : Kube.isRefused status = false) :
    status = (s.perform r).1 ∧ body = (s.perform r).2.1.print ∧ s' = (s.perform r).2.2 := by
  rw [respond] at hreply
  split at hreply
  · rename_i route routes hmatch
    obtain hbroken | hrefused := h.refuses route (mem_of_matchRoute? hmatch)
    · rw [hbroken] at hreply
      cases hreply
    · split at hreply
      · cases hreply
      · cases hreply
        rw [hrefused] at hstatus
        cases hstatus
  · cases hreply
    exact ⟨rfl, rfl, rfl⟩

/-- A resource that is found is answered as it is kept. -/
theorem Keeps.perform_get (h : s.Keeps key)
    (hstatus : Kube.isRefused (s.perform { verb := .get, path := address key }).1 = false) :
    ∃ j, s.objects.get? (address key) = some j ∧
      s.perform { verb := .get, path := address key } = (200, j, s) := by
  cases hthere : s.objects.get? (address key) with
  | none =>
    simp only [perform, hthere, h.single] at hstatus
    exact absurd hstatus (by decide)
  | some j => exact ⟨j, rfl, by simp only [perform, hthere]⟩

/-- A patch of the finalizers that is accepted leaves those of the patch. -/
theorem Keeps.perform_patch (h : s.Keeps key)
    (hstatus : Kube.isRefused (s.perform { verb := .patch, path := address key
                                           body := some (Kube.finalizersPatch fs) }).1 = false) :
    (s.perform { verb := .patch, path := address key
                 body := some (Kube.finalizersPatch fs) }).2.2.finalizersAt key = fs := by
  cases hthere : s.objects.get? (address key) with
  | none =>
    have hnone : s.objects.get? (patchedPath (address key)) = none :=
      h.apart.elim (fun heq => heq.symm ▸ hthere) id
    simp only [perform, hthere, Option.isSome_none, Bool.false_eq_true, if_false,
      patch_of_absent hnone] at hstatus
    exact absurd hstatus (by decide)
  | some j =>
    simp only [perform, hthere, Option.isSome_some, if_true, Option.getD_some]
    exact (h.patch hthere fs).2

end Simulation.ApiServer
end ProxySync
