import ProxySync.Proofs.Session.Reach
/-!
# What the path of a request spells out

Names are written into the path of a request one by one. Behind the area of the configuration the
path can be taken apart again, at the slashes and piece by piece. A plain name is found again as it
was, inside its own segment, whatever characters it holds. The steps in the hierarchy, which are
accepted as names, are skipped, and tabs and line ends are lost.

## Main definitions

* `Net.Url.spelled?`: the names that a path spells out behind its front.
* `Net.Url.kept`: what is left of a name in a path.
* `Addressee`: a backend or a server; `Addressee.Accepted`: its names pass the validation.
* `Client.Addresses`: a request is addressed to exactly this object, strictly below its collection.

## Main statements

* `Client.addresses_iff_isPlain`: requests are addressed to an accepted object exactly if its names
  are plain, and then to no other one and to no collection.
* `Client.HasPath.addresses_server_iff`: a request about a server arrives at the one whose name is
  kept of the name in it.
* `Client.not_addresses_dots`: accepted names whose requests go to the collection.
-/
namespace ProxySync

namespace Net.Url

/-! ## Taking a path apart -/

/-- The names that a written path spells out behind a front: its pieces between slashes, decoded. -/
def spelled? (front path : List Char) : Option (List String) :=
  if front.isPrefixOf path then
    match path.drop front.length with
    | [] => some []
    | '/' :: rest => some ((Text.pieces (· == '/') rest).map Percent.decode)
    | _ => none
  else none

theorem toList_pathText (ss : List String) :
    (pathText (.segments ss)).toList = ss.flatMap fun s => '/' :: s.toList := by
  rw [pathText, String.toList_join, List.flatMap_map]
  exact congrArg (ss.flatMap ·) (funext fun s => String.toList_append)

theorem pathText_append (ss ss' : List String) :
    pathText (.segments (ss ++ ss')) = pathText (.segments ss) ++ pathText (.segments ss') := by
  rw [pathText, pathText, pathText, List.map_append, String.join_append]

theorem pieces_segments (s : String) {ss : List String}
    (h : ∀ x ∈ s :: ss, '/' ∉ x.toList) :
    Text.pieces (· == '/') (s.toList ++ ss.flatMap fun x => '/' :: x.toList) =
      (s :: ss).map (·.toList) := by
  have huncut {x : String} (hx : x ∈ s :: ss) : ∀ c ∈ x.toList, (c == '/') = false :=
    fun c hc => beq_eq_false_iff_ne.2 fun heq => h x hx (heq ▸ hc)
  induction ss generalizing s with
  | nil =>
    rw [List.flatMap_nil, List.append_nil, Text.pieces_of_uncut (huncut List.mem_cons_self)]
    rfl
  | cons x ss ih =>
    rw [List.flatMap_cons, List.cons_append,
      Text.pieces_append_cons (huncut List.mem_cons_self) (by rfl),
      ih x (fun y hy => h y (List.mem_cons_of_mem _ hy))
        fun hy => huncut (List.mem_cons_of_mem _ hy)]
    rfl

/-- Segments are spelled out as they are read. -/
theorem spelled?_pathText (front : List String) {ss : List String}
    (h : ∀ s ∈ ss, '/' ∉ s.toList) :
    spelled? (pathText (.segments front)).toList (pathText (.segments (front ++ ss))).toList =
      some (ss.map fun s => Percent.decode s.toList) := by
  rw [pathText_append, String.toList_append, spelled?,
    if_pos (List.isPrefixOf_iff_prefix.2 (List.prefix_append _ _)), List.drop_left, toList_pathText]
  cases ss with
  | nil => rfl
  | cons s ss =>
    rw [List.flatMap_cons, List.cons_append]
    simp only [pieces_segments s h, List.map_map]
    rfl

/-! ## What is written -/

/-- A name that is one segment has no slash in it. -/
theorem slash_not_mem_encodeSegment (name : List Char) : '/' ∉ (encodeSegment name).toList := by
  rw [encodeSegment, String.toList_ofList]
  intro h
  rcases Percent.of_mem_encode h with h | h | h <;> exact absurd h (by decide)

theorem slash_not_mem_pushSegment {ss : List String} (name : String)
    (h : ∀ s ∈ ss, '/' ∉ s.toList) : ∀ s ∈ pushSegment ss name, '/' ∉ s.toList := by
  have hbase : ∀ s ∈ (if ss = [""] then [] else ss), '/' ∉ s.toList := by
    split
    · simp
    · exact h
  have hlast {base : List String} {last : String} (hbase : ∀ s ∈ base, '/' ∉ s.toList)
      (hlast : '/' ∉ last.toList) : ∀ s ∈ base ++ [last], '/' ∉ s.toList := by
    intro s hs
    rcases List.mem_append.1 hs with hs | hs
    · exact hbase s hs
    · rw [List.mem_singleton.1 hs]
      exact hlast
  rw [pushSegment]
  split
  · exact h
  · simp only
    split
    · exact hlast (fun s hs => hbase s ((List.dropLast_sublist _).subset hs)) (by decide)
    · split
      · exact hlast hbase (by decide)
      · exact hlast hbase (slash_not_mem_encodeSegment _)

/-- The segments that plain names are written as. -/
def segmentsOf (names : List String) : List String := names.map fun n => encodeSegment n.toList

theorem slash_not_mem_segmentsOf {names : List String} :
    ∀ s ∈ segmentsOf names, '/' ∉ s.toList := by
  intro s hs
  obtain ⟨n, _, rfl⟩ := List.mem_map.1 hs
  exact slash_not_mem_encodeSegment _

/-- They are read as those names. -/
theorem decode_segmentsOf {names : List String} (h : ∀ n ∈ names, IsPlain n) :
    (segmentsOf names).map (fun s => Percent.decode s.toList) = names := by
  rw [segmentsOf, List.map_map]
  refine (List.map_congr_left fun n hn => ?_).trans (List.map_id _)
  exact decode_encodeSegment_plain (h n hn)

theorem decode_empty : Percent.decode "".toList = "" := Percent.decode_of_not_mem List.not_mem_nil

theorem segmentsOf_ne_empty {names : List String} (h : ∀ n ∈ names, IsPlain n) :
    segmentsOf names ≠ [""] := by
  intro hempty
  have hnames := decode_segmentsOf h
  rw [hempty, List.map_singleton, decode_empty] at hnames
  exact (h "" (by simp [← hnames])).ne_empty rfl

/-- A name is skipped, or leaves an empty segment, one place further up or not, or is written. -/
theorem pushSegment_cases {ss : List String} (name : String) (h : ss ≠ [""]) :
    pushSegment ss name = ss ∨ pushSegment ss name = ss.dropLast ++ [""] ∨
      pushSegment ss name = ss ++ [""] ∨
      pushSegment ss name = ss ++ [encodeSegment name.toList] := by
  simp only [pushSegment, if_neg h]
  split
  · exact .inl rfl
  · split
    · exact .inr (.inl rfl)
    · split
      · exact .inr (.inr (.inl rfl))
      · exact .inr (.inr (.inr rfl))

/-- Behind something that stays, a name is written as it would be without it. -/
theorem pushSegment_append (front : List String) {ss : List String} (name : String) (h : ss ≠ [])
    (h' : ss ≠ [""]) : pushSegment (front ++ ss) name = front ++ pushSegment ss name := by
  have hne : front ++ ss ≠ [""] := by
    intro heq
    rcases List.append_eq_singleton_iff.1 heq with ⟨_, hss⟩ | ⟨_, hss⟩
    · exact h' hss
    · exact h hss
  simp only [pushSegment, if_neg hne, if_neg h', List.dropLast_append_of_ne_nil h]
  split
  · rfl
  · split
    · exact List.append_assoc ..
    · split <;> exact List.append_assoc ..

end Net.Url

open Net Net.Url

/-! ## Names that are accepted -/

/-- The name of a server that a valid specification gives. -/
def Validation.IsServerName (s : String) : Prop :=
  ∃ (spec : Resource.Spec) (ns : String) (d : Desired) (x : StaticServer),
    spec.validate ns = .ok d ∧ .fixed x ∈ d.servers ∧ x.name = s

theorem Validation.ne_empty_of_isName {name : String} (h : isName name = true) : name ≠ "" := by
  rintro rfl
  exact absurd h (by decide)

theorem Validation.ne_empty_of_nonEmpty {s : Option String} {name : String}
    (h : nonEmpty s = some name) : name ≠ "" :=
  of_decide_eq_true (Option.filter_eq_some_iff.1 h).2

theorem Validation.ne_empty_of_entry {ns : String} {s : Resource.ServerSpec} {x : StaticServer}
    (h : entry ns s = .ok (.fixed x)) : x.name ≠ "" := by
  rw [entry] at h
  cases hport : port s.port with
  | error e => simp [hport, bind, Except.bind] at h
  | ok p =>
    simp only [hport, bind, Except.bind] at h
    split at h
    · cases h
      exact ne_empty_of_nonEmpty (by assumption)
    · cases h
    · rename_i v _ _ _
      cases href : reference ns v p s.check <;> rw [href] at h <;> cases h
    · cases h

/-- Every entry of a valid list is what one of its specifications says. -/
theorem Validation.entry_of_entriesFrom {ns : String} {taken : List String} {i : Nat}
    {ss : List Resource.ServerSpec} {xs : List ServerEntry}
    (h : entriesFrom ns taken i ss = .ok xs) : ∀ x ∈ xs, ∃ s, entry ns s = .ok x := by
  induction ss generalizing taken i xs with
  | nil =>
    cases h
    simp
  | cons s ss ih =>
    rw [entriesFrom] at h
    cases hfresh : freshEntry ns taken s with
    | error e => simp [hfresh] at h
    | ok x =>
      cases hrest : entriesFrom ns ((takenName x).toList ++ taken) (i + 1) ss with
      | error e => simp [hfresh, hrest] at h
      | ok rest =>
        simp only [hfresh, hrest, Except.ok.injEq] at h
        subst h
        have hx : entry ns s = .ok x := by
          cases hentry : entry ns s with
          | error e => simp [freshEntry, hentry, bind, Except.bind] at hfresh
          | ok y =>
            simp only [freshEntry, hentry, bind, Except.bind] at hfresh
            split at hfresh
            · split at hfresh
              · cases hfresh
              · exact hfresh
            · exact hfresh
        intro y hy
        rcases List.mem_cons.1 hy with rfl | hy
        · exact ⟨s, hx⟩
        · exact ih hrest y hy

/-- All that is asked of the name of a server is that it is not empty. -/
theorem Validation.isServerName_iff {s : String} : IsServerName s ↔ s ≠ "" := by
  constructor
  · rintro ⟨spec, ns, d, x, hspec, hx, rfl⟩
    rw [Resource.Spec.validate] at hspec
    split at hspec
    · cases hentries : entriesFrom ns [] 0 spec.servers with
      | error e => simp [hentries] at hspec
      | ok xs =>
        simp only [hentries, Except.ok.injEq] at hspec
        subst hspec
        obtain ⟨s, hs⟩ := entry_of_entriesFrom hentries _ hx
        exact ne_empty_of_entry hs
    · cases hspec
  · intro hs
    have hname : nonEmpty (some s) = some s := by simp [nonEmpty, hs]
    let server : Resource.ServerSpec :=
      { name := some s, address := some "localhost", port := none, id := none, check := none
        valueFrom := none }
    let spec : Resource.Spec :=
      { name := "web", mode := none, balance := none, advCheck := none, servers := [server]
        httpChecks := [] }
    have hentry : entry "default" server = .ok (.fixed ⟨s, "localhost", none, none, none⟩) := by
      simp only [entry, port, server, hname]
      rfl
    have hvalid : spec.validate "default" =
        .ok ⟨"web", none, none, none, [.fixed ⟨s, "localhost", none, none, none⟩], []⟩ := by
      have hfresh : freshEntry "default" [] server =
          .ok (.fixed ⟨s, "localhost", none, none, none⟩) := by
        rw [freshEntry, hentry]
        rfl
      rw [Resource.Spec.validate, if_pos (show isName "web" = true by decide)]
      simp only [spec, entriesFrom, hfresh]
    exact ⟨spec, "default", _, _, hvalid, List.mem_cons_self, rfl⟩

namespace Net.Url

/-- What is kept of a name in a path. -/
def kept (name : String) : String := String.ofList (name.toList.filter (! isDropped ·))

end Net.Url

namespace DataPlane

/-! ## Objects and their addresses -/

/-- An object that requests are about. -/
inductive Addressee where
  | backend (name : String)
  | server (backend name : String)
deriving DecidableEq

namespace Addressee

/-- The names that lead to it from the area of the configuration. -/
def names : Addressee → List String
  | backend b => ["backends", b]
  | server b s => ["backends", b, "servers", s]

/-- The names that lead to its collection. -/
def collection : Addressee → List String
  | backend _ => ["backends"]
  | server b _ => ["backends", b, "servers"]

/-- Its names pass the validation. -/
def Accepted : Addressee → Prop
  | backend b => Validation.isName b = true
  | server b s => Validation.isName b = true ∧ Validation.IsServerName s

/-- Its names are plain. -/
def IsPlain : Addressee → Prop
  | backend b => Net.IsPlain b
  | server b s => Net.IsPlain b ∧ Net.IsPlain s

end Addressee

/-- The request is made about the object. -/
def Request.IsAbout (q : Request) (o : Addressee) : Prop :=
  q.endpoint.area = .configuration ∧ q.endpoint.segments = o.names

namespace Client
variable {c : Client}

/-- The base of the client is a path on a server, with nothing behind it. -/
structure HasPath (c : Client) : Prop where
  query : c.base.query = none
  fragment : c.base.fragment = none
  path : ∃ ss, c.base.path = .segments ss

theorem AtRoot.hasPath (hc : c.AtRoot) : c.HasPath :=
  ⟨hc.query, hc.fragment, hc.path.imp fun _ h => h.1⟩

/-- The path of the place to which names lead from the area of the configuration. -/
def pathTo (c : Client) (names : List String) : String :=
  pathText (c.address { area := .configuration, segments := names, query := [] }).path

/-- The request is addressed to the object and nothing else: its path leads strictly below the
collection of the object, and spells out the names of the object. -/
structure Addresses (c : Client) (q : Request) (o : Addressee) : Prop where
  below : ∃ last, last ≠ "" ∧ (c.wire q).path = c.pathTo o.collection ++ "/" ++ last
  names : spelled? (c.pathTo []).toList (c.wire q).path.toList = some o.names

/-- The segments of every place stand behind those of the area. -/
theorem HasPath.pathTo_eq (hc : c.HasPath) :
    ∃ front : List String, 1 < front.length ∧
      (∀ names, c.pathTo names = pathText (.segments (names.foldl pushSegment front))) ∧
      ∀ q : Request, q.endpoint.area = .configuration →
        (c.wire q).path = pathText (.segments (q.endpoint.segments.foldl pushSegment front)) := by
  obtain ⟨ss, hss⟩ := hc.path
  refine ⟨trimSegments ss ++ Area.configuration.path, by simp [Area.path], fun names => ?_,
    fun q hq => ?_⟩
  · rw [pathTo, path_address hc.query hc.fragment hss]
  · rw [WireRequest.path, wire, path_address hc.query hc.fragment hss, hq]

/-- The path of a request is that of the place it names. -/
theorem HasPath.path_configuration (hc : c.HasPath) {q : Request}
    (h : q.endpoint.area = .configuration) : (c.wire q).path = c.pathTo q.endpoint.segments := by
  obtain ⟨front, _, hplace, hrequest⟩ := hc.pathTo_eq
  rw [hrequest q h, hplace]

theorem HasPath.path_wire (hc : c.HasPath) {q : Request} {o : Addressee} (h : q.IsAbout o) :
    (c.wire q).path = c.pathTo o.names := by
  rw [hc.path_configuration h.1, h.2]

/-- Plain names are spelled out as they are. -/
theorem HasPath.spelled?_pathTo (hc : c.HasPath) {names : List String}
    (h : ∀ n ∈ names, IsPlain n) :
    spelled? (c.pathTo []).toList (c.pathTo names).toList = some names := by
  obtain ⟨front, hfront, hplace, _⟩ := hc.pathTo_eq
  rw [hplace, hplace, List.foldl_nil, foldl_pushSegment_plain hfront h]
  exact (spelled?_pathText _ slash_not_mem_segmentsOf).trans (congrArg some (decode_segmentsOf h))

/-- Behind plain names, what is spelled out is read off the segments with the last name behind
them. -/
theorem HasPath.spelled?_concat (hc : c.HasPath) {init : List String} (hne : init ≠ [])
    (hinit : ∀ n ∈ init, IsPlain n) (last : String) :
    spelled? (c.pathTo []).toList (c.pathTo (init ++ [last])).toList =
      some ((pushSegment (segmentsOf init) last).map fun s => Percent.decode s.toList) := by
  obtain ⟨front, hfront, hplace, _⟩ := hc.pathTo_eq
  have hsome : segmentsOf init ≠ [] := List.map_eq_nil_iff.not.2 hne
  rw [hplace, hplace, List.foldl_nil, List.foldl_append, foldl_pushSegment_plain hfront hinit,
    List.foldl_cons, List.foldl_nil]
  have hpush := pushSegment_append front last hsome (segmentsOf_ne_empty hinit)
  rw [segmentsOf] at hpush
  rw [hpush]
  exact spelled?_pathText _ (slash_not_mem_pushSegment last slash_not_mem_segmentsOf)

/-- A plain name behind plain names is written below them. -/
theorem HasPath.pathTo_concat (hc : c.HasPath) {names : List String} {n : String}
    (h : ∀ x ∈ names, IsPlain x) (hn : IsPlain n) :
    c.pathTo (names ++ [n]) = c.pathTo names ++ "/" ++ encodeSegment n.toList := by
  obtain ⟨front, hfront, hplace, _⟩ := hc.pathTo_eq
  have hall : ∀ x ∈ names ++ [n], IsPlain x := by
    intro x hx
    rcases List.mem_append.1 hx with hx | hx
    · exact h x hx
    · exact List.mem_singleton.1 hx ▸ hn
  rw [hplace, hplace, foldl_pushSegment_plain hfront hall, foldl_pushSegment_plain hfront h,
    List.map_append, ← List.append_assoc, pathText_append, String.append_assoc]
  rfl

/-- Behind plain names, one without characters is written as a slash. -/
theorem HasPath.pathTo_empty (hc : c.HasPath) {names : List String} (h : ∀ x ∈ names, IsPlain x) :
    c.pathTo (names ++ [""]) = c.pathTo names ++ "/" := by
  obtain ⟨front, hfront, hplace, _⟩ := hc.pathTo_eq
  have hne : front ++ segmentsOf names ≠ [""] := by
    intro heq
    have hlength := congrArg List.length heq
    rw [List.length_append, List.length_singleton] at hlength
    omega
  have hpush : pushSegment (front ++ segmentsOf names) "" = front ++ segmentsOf names ++ [""] := by
    rw [pushSegment, if_neg (by decide), if_neg hne]
    rfl
  rw [hplace, hplace, List.foldl_append, foldl_pushSegment_plain hfront h, List.foldl_cons,
    List.foldl_nil]
  exact (congrArg _ (congrArg _ hpush)).trans (pathText_append _ _)

/-- Behind a place and a plain name, whatever names follow, nothing leads back to the place. -/
theorem HasPath.pathTo_below (hc : c.HasPath) (names : List String) {n : String} (hn : IsPlain n)
    (rest : List String) :
    ∃ s ss, c.pathTo (names ++ n :: rest) = c.pathTo names ++ pathText (.segments (s :: ss)) := by
  obtain ⟨front, hfront, hplace, _⟩ := hc.pathTo_eq
  have hlength := hfront.trans_le (length_le_foldl_pushSegment names hfront)
  have hne : names.foldl pushSegment front ≠ [""] := fun heq => by simp [heq] at hlength
  have hsome : names.foldl pushSegment front ≠ [] := fun heq => by simp [heq] at hlength
  obtain ⟨s, ss, hss, _⟩ := foldl_pushSegment_under (encodeSegment n.toList) rest hsome
    ⟨_, [], pushSegment_plain hne hn, .inl rfl⟩
  refine ⟨s, ss, ?_⟩
  rw [hplace, hplace, List.foldl_append, List.foldl_cons, hss, pathText_append]

/-- So what is written there is not the path of the place. -/
theorem HasPath.pathTo_append_ne (hc : c.HasPath) (names : List String) {n : String}
    (hn : IsPlain n) (rest : List String) : c.pathTo (names ++ n :: rest) ≠ c.pathTo names := by
  obtain ⟨s, ss, hbelow⟩ := hc.pathTo_below names hn rest
  intro heq
  have hlist := congrArg String.toList (hbelow.symm.trans heq)
  rw [String.toList_append, List.append_right_eq_self, toList_pathText, List.flatMap_cons] at hlist
  cases hlist

/-- A plain name alone is no path that begins with another one. -/
theorem HasPath.pathTo_ne_of_first (hc : c.HasPath) {n n' : String} (hn : IsPlain n)
    (hn' : IsPlain n') (hne : n ≠ n') (rest : List String) :
    c.pathTo [n] ≠ c.pathTo (n' :: rest) := by
  obtain ⟨front, hfront, hplace, _⟩ := hc.pathTo_eq
  have hsome : front ≠ [] := fun heq => by simp [heq] at hfront
  have hroot : front ≠ [""] := fun heq => by simp [heq] at hfront
  obtain ⟨s, ss, hss, hs⟩ := foldl_pushSegment_under (encodeSegment n'.toList) rest hsome
    ⟨_, [], pushSegment_plain hroot hn', .inl rfl⟩
  intro heq
  rw [hplace, hplace, List.foldl_cons, List.foldl_cons, List.foldl_nil, hss,
    pushSegment_plain hroot hn, pathText_append, pathText_append, String.append_right_inj] at heq
  have hlist := congrArg String.toList heq
  rw [toList_pathText, toList_pathText, List.flatMap_cons, List.flatMap_cons, List.flatMap_nil,
    List.append_nil, List.cons_append, List.cons.injEq] at hlist
  cases ss with
  | nil =>
    have hsegment : encodeSegment n.toList = s := String.toList_inj.1 (by simpa using hlist.2)
    obtain rfl | rfl := hs
    · exact hne ((decode_encodeSegment_plain hn).symm.trans
        ((congrArg (Percent.decode ·.toList) hsegment).trans (decode_encodeSegment_plain hn')))
    · exact encodeSegment_ne hn hn.ne_empty (by decide) hsegment
  | cons s' ss =>
    refine slash_not_mem_encodeSegment n.toList ?_
    rw [hlist.2]
    simp

/-- Whatever the last name is, what is spelled out is empty or plain, if the names before it are
plain or skipped. -/
theorem HasPath.of_mem_spelled (hc : c.HasPath) (init : List String) {last : String}
    (hinit : ∀ n ∈ init, IsPlain n ∨ IsStep n) (hsome : ∃ n ∈ init, ¬ IsStep n)
    {names : List String}
    (h : spelled? (c.pathTo []).toList (c.pathTo (init ++ [last])).toList = some names) :
    ∀ n ∈ names, n = "" ∨ IsPlain n := by
  have hplain : ∀ n ∈ withoutSteps init, IsPlain n := by
    intro n hn
    obtain ⟨hn, hdot, hdots⟩ := mem_withoutSteps.1 hn
    exact (hinit n hn).resolve_right (not_or.2 ⟨hdot, hdots⟩)
  obtain ⟨n, hn, hstep⟩ := hsome
  have hmem : n ∈ withoutSteps init := mem_withoutSteps.2 ⟨hn, not_or.1 hstep⟩
  have hpath : c.pathTo (init ++ [last]) = c.pathTo (withoutSteps init ++ [last]) := by
    obtain ⟨front, _, hplace, _⟩ := hc.pathTo_eq
    rw [hplace, hplace, List.foldl_append, List.foldl_append, foldl_withoutSteps]
  rw [hpath, hc.spelled?_concat (List.ne_nil_of_mem hmem) hplain] at h
  obtain rfl := Option.some.inj h
  have hdecode : ∀ s ∈ segmentsOf (withoutSteps init),
      s = "" ∨ IsPlain (Percent.decode s.toList) := by
    intro s hs
    obtain ⟨n, hn, rfl⟩ := List.mem_map.1 hs
    rw [decode_encodeSegment_plain (hplain n hn)]
    exact .inr (hplain n hn)
  intro n hn
  obtain ⟨s, hs, rfl⟩ := List.mem_map.1 hn
  obtain rfl | hs := decode_pushSegment last hdecode s hs
  · exact .inl decode_empty
  · exact .inr hs

/-- Names that are accepted and found again are plain. -/
theorem HasPath.isPlain_of_addresses (hc : c.HasPath) {o : Addressee} {q : Request}
    (ho : o.Accepted) (hq : q.IsAbout o) (h : c.Addresses q o) : o.IsPlain := by
  have hbackends : IsPlain "backends" := by decide
  have hservers : IsPlain "servers" := by decide
  have hnames := h.names
  rw [hc.path_wire hq] at hnames
  cases o with
  | backend b =>
    have hmem := hc.of_mem_spelled ["backends"] (by simp [hbackends])
      ⟨"backends", by simp, by decide⟩ hnames
    exact (hmem b (by simp [Addressee.names])).resolve_left (Validation.ne_empty_of_isName ho)
  | server b s =>
    have hb := Validation.isPlain_or_isStep ho.1
    have hmem := hc.of_mem_spelled ["backends", b, "servers"]
      (by simp [hbackends, hservers, hb]) ⟨"backends", by simp, by decide⟩ hnames
    exact ⟨(hmem b (by simp [Addressee.names])).resolve_left (Validation.ne_empty_of_isName ho.1),
      (hmem s (by simp [Addressee.names])).resolve_left (Validation.isServerName_iff.1 ho.2)⟩

end Client

theorem Addressee.names_eq (o : Addressee) : ∃ n, o.names = o.collection ++ [n] ∧
    (o.IsPlain → Net.IsPlain n) := by
  cases o with
  | backend b => exact ⟨b, rfl, id⟩
  | server b s => exact ⟨s, rfl, And.right⟩

/-- The names that lead to an object with plain names are plain. -/
theorem Addressee.IsPlain.collection {o : Addressee} (h : o.IsPlain) :
    ∀ n ∈ o.collection, Net.IsPlain n := by
  have hbackends : Net.IsPlain "backends" := by decide
  have hservers : Net.IsPlain "servers" := by decide
  cases o with
  | backend b => simp [Addressee.collection, hbackends]
  | server b s => simp [Addressee.collection, hbackends, hservers, h.1]

theorem Addressee.IsPlain.names {o : Addressee} (h : o.IsPlain) :
    ∀ n ∈ o.names, Net.IsPlain n := by
  obtain ⟨last, hnames, hlast⟩ := o.names_eq
  rw [hnames]
  intro n hn
  rcases List.mem_append.1 hn with hn | hn
  · exact h.collection n hn
  · exact List.mem_singleton.1 hn ▸ hlast h

theorem Addressee.isPlain_of_names {o : Addressee} (h : ∀ n ∈ o.names, Net.IsPlain n) :
    o.IsPlain := by
  cases o with
  | backend b => exact h b (by simp [Addressee.names])
  | server b s => exact ⟨h b (by simp [Addressee.names]), h s (by simp [Addressee.names])⟩

theorem Addressee.names_injective : Function.Injective Addressee.names := by
  rintro (b | ⟨b, s⟩) (b' | ⟨b', s'⟩) h <;> simp_all [Addressee.names]

/-- No object is one of the collections. -/
theorem Addressee.names_ne_collection (o o' : Addressee) : o.names ≠ o'.collection := by
  cases o <;> cases o' <;> simp [Addressee.names, Addressee.collection]

namespace Client
variable {c : Client}

/-- An object with plain names is addressed. -/
theorem HasPath.addresses_of_isPlain (hc : c.HasPath) {o : Addressee} {q : Request}
    (ho : o.IsPlain) (hq : q.IsAbout o) : c.Addresses q o := by
  obtain ⟨last, hnames, hlast⟩ := o.names_eq
  have hne := encodeSegment_ne (hlast ho) (hlast ho).ne_empty (by decide)
  refine ⟨⟨encodeSegment last.toList, hne, ?_⟩, ?_⟩
  · rw [hc.path_wire hq, hnames, hc.pathTo_concat ho.collection (hlast ho)]
  · rw [hc.path_wire hq, hc.spelled?_pathTo ho.names]

/-- A request about a server of a backend with a plain name is addressed to that server just if the
name of the server is plain, whether it passes the validation or not. -/
theorem HasPath.addresses_self_iff (hc : c.HasPath) {backend name : String} {q : Request}
    (hbackend : IsPlain backend) (hq : q.IsAbout (.server backend name)) :
    c.Addresses q (.server backend name) ↔ IsPlain name := by
  refine ⟨fun h => ?_, fun hname => hc.addresses_of_isPlain ⟨hbackend, hname⟩ hq⟩
  have hinit : ∀ n ∈ ["backends", backend, "servers"], IsPlain n := by
    have hends : IsPlain "backends" ∧ IsPlain "servers" := by decide
    simp [hbackend, hends]
  have hpath := hc.path_wire hq
  have hnames := h.names
  rw [hpath] at hnames
  have hmem := hc.of_mem_spelled ["backends", backend, "servers"] (fun n hn => .inl (hinit n hn))
    ⟨"backends", by simp, by decide⟩ hnames
  refine (hmem name (by simp [Addressee.names])).resolve_left ?_
  rintro rfl
  -- Nothing stands behind the slash.
  obtain ⟨last, hlast, hbelow⟩ := h.below
  rw [hpath] at hbelow
  have hslash : c.pathTo ["backends", backend, "servers"] ++ "/" ++ "" =
      c.pathTo ["backends", backend, "servers"] ++ "/" ++ last := by
    rw [String.append_empty]
    exact (hc.pathTo_empty hinit).symm.trans hbelow
  exact hlast ((String.append_right_inj _).1 hslash).symm

/-- Where a plain name is kept of a name, the path is that of the plain name. -/
theorem HasPath.pathTo_kept (hc : c.HasPath) (init : List String) {name : String}
    (hkept : IsPlain (kept name)) : c.pathTo (init ++ [name]) = c.pathTo (init ++ [kept name]) := by
  obtain ⟨front, _, hplace, _⟩ := hc.pathTo_eq
  have hdot : name ≠ "." := fun h => hkept.ne_dot (by rw [h]; decide)
  have hdots : name ≠ ".." := fun h => hkept.ne_dots (by rw [h]; decide)
  have hsegment : encodeSegment name.toList = encodeSegment (kept name).toList := by
    rw [encodeSegment, encodeSegment, kept, String.toList_ofList, List.filter_filter]
    simp
  have hpush (ss : List String) : pushSegment ss name = pushSegment ss (kept name) := by
    simp only [pushSegment, hdot, hdots, hkept.ne_dot, hkept.ne_dots, hsegment]
  rw [hplace, hplace, List.foldl_append, List.foldl_append, List.foldl_cons, List.foldl_cons, hpush]

/-- Behind plain names, a name is spelled out as another one just if that is what is kept of it. -/
theorem HasPath.kept_of_spelled (hc : c.HasPath) {init : List String} {name n : String}
    (hne : init ≠ []) (hinit : ∀ x ∈ init, IsPlain x) (hn : IsPlain n)
    (h : spelled? (c.pathTo []).toList (c.pathTo (init ++ [name])).toList = some (init ++ [n])) :
    kept name = n := by
  rw [hc.spelled?_concat hne hinit] at h
  have hnames := Option.some.inj h
  have hlength := congrArg List.length hnames
  have hfirst : (segmentsOf init).length = init.length := List.length_map ..
  have hpos := List.length_pos_of_ne_nil hne
  -- Only a name that is written adds a name to those that are spelled out before it.
  rcases pushSegment_cases name (segmentsOf_ne_empty hinit) with hpush | hpush | hpush | hpush
  · simp [hpush, hfirst] at hlength
  · simp [hpush, hfirst] at hlength
    omega
  · rw [hpush, List.map_append, decode_segmentsOf hinit, List.append_cancel_left_eq,
      List.map_singleton, decode_empty, List.singleton_inj] at hnames
    exact absurd hnames.symm hn.ne_empty
  · rwa [hpush, List.map_append, decode_segmentsOf hinit, List.append_cancel_left_eq,
      List.map_singleton, decode_encodeSegment, List.singleton_inj] at hnames

/-- A request about a server arrives at the one whose name is what is kept of the name it is made
with. -/
theorem HasPath.addresses_server_iff (hc : c.HasPath) {backend name n : String} {q : Request}
    (hbackend : IsPlain backend) (hn : IsPlain n) (hq : q.IsAbout (.server backend name)) :
    c.Addresses q (.server backend n) ↔ kept name = n := by
  have hinit : ∀ x ∈ ["backends", backend, "servers"], IsPlain x :=
    Addressee.IsPlain.collection (show (Addressee.server backend n).IsPlain from ⟨hbackend, hn⟩)
  have hpath : (c.wire q).path = c.pathTo (["backends", backend, "servers"] ++ [name]) :=
    hc.path_wire hq
  constructor
  · intro h
    have hnames := h.names
    rw [hpath] at hnames
    exact hc.kept_of_spelled (by simp) hinit hn hnames
  · intro hkept
    subst hkept
    let q' : Request :=
      { q with
        endpoint := { q.endpoint with segments := (Addressee.server backend (kept name)).names } }
    have habout : q'.IsAbout (.server backend (kept name)) := ⟨hq.1, rfl⟩
    have hsame : (c.wire q).path = (c.wire q').path := by
      rw [hpath, hc.pathTo_kept _ hn, hc.path_wire habout]
      rfl
    have hplain : (Addressee.server backend (kept name)).IsPlain := ⟨hbackend, hn⟩
    have haddresses := hc.addresses_of_isPlain hplain habout
    exact ⟨hsame ▸ haddresses.below, hsame ▸ haddresses.names⟩

/-- A request about an accepted object is addressed to it and to nothing else, strictly below its
collection, exactly if the names of the object are plain. Then no request about another object with
plain names has its path, and neither has a collection of such an object. -/
theorem addresses_iff_isPlain (hc : c.HasPath) :
    (∀ (o : Addressee) (q : Request), o.Accepted → q.IsAbout o →
      (c.Addresses q o ↔ o.IsPlain)) ∧
    (∀ (o o' : Addressee) (q q' : Request), o.IsPlain → o'.IsPlain → q.IsAbout o → q'.IsAbout o' →
      (c.wire q).path = (c.wire q').path → o = o') ∧
    ∀ (o o' : Addressee) (q : Request), o.IsPlain → o'.IsPlain → q.IsAbout o →
      (c.wire q).path ≠ c.pathTo o'.collection := by
  refine ⟨fun o q ho hq => ⟨hc.isPlain_of_addresses ho hq, (hc.addresses_of_isPlain · hq)⟩,
    fun o o' q q' ho ho' hq hq' heq => ?_, fun o o' q ho ho' hq heq => ?_⟩
  · have hnames := (hc.addresses_of_isPlain ho hq).names
    rw [heq, (hc.addresses_of_isPlain ho' hq').names] at hnames
    exact (Addressee.names_injective (Option.some.inj hnames)).symm
  · have hnames := (hc.addresses_of_isPlain ho hq).names
    rw [heq, hc.spelled?_pathTo ho'.collection] at hnames
    exact Addressee.names_ne_collection o o' (Option.some.inj hnames).symm

/-- The deletion of a server whose name is full of reserved characters. -/
theorem addresses_reserved :
    (onThisHost 5555 "admin" "secret").Addresses
      (scopedRequest .delete ["backends", "web", "servers", "a/b?c#d"] none
        ("transaction_id", "tx-1"))
      (.server "web" "a/b?c#d") :=
  ((addresses_iff_isPlain (atRoot_onThisHost 5555 "admin" "secret").hasPath).1
    (.server "web" "a/b?c#d") _ ⟨by decide, Validation.isServerName_iff.2 (by decide)⟩
    ⟨rfl, rfl⟩).2 ⟨by decide, by decide⟩

/-- A backend and a server that are called like a step in the hierarchy: both names are accepted,
and what is asked of the object is asked of its collection. -/
theorem not_addresses_dots :
    (Addressee.backend "..").Accepted ∧ (Addressee.server "web" "..").Accepted ∧
    ∀ o ∈ [Addressee.backend "..", .server "web" ".."], ∀ q : Request, q.IsAbout o →
      ((onThisHost 5555 "admin" "secret").wire q).path =
          (onThisHost 5555 "admin" "secret").pathTo o.collection ∧
        ¬ (onThisHost 5555 "admin" "secret").Addresses q o := by
  have hpath := (atRoot_onThisHost 5555 "admin" "secret").hasPath
  have hname : Validation.isName ".." = true := by decide
  have hserver : (Addressee.server "web" "..").Accepted :=
    ⟨by decide, Validation.isServerName_iff.2 (by decide)⟩
  refine ⟨hname, hserver, fun o ho q hq => ⟨?_, fun h => ?_⟩⟩
  · rw [hpath.path_wire hq]
    rcases List.mem_pair.1 ho with rfl | rfl <;> rfl
  · rcases List.mem_pair.1 ho with rfl | rfl
    · exact absurd (hpath.isPlain_of_addresses (o := .backend "..") hname hq h).ne_dots (by decide)
    · exact absurd (hpath.isPlain_of_addresses hserver hq h).2.ne_dots (by decide)

end Client
end DataPlane
end ProxySync
