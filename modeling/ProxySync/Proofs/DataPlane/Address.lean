import Mathlib.Data.List.TakeWhile
import ProxySync.DataPlane.Memory
import ProxySync.Proofs.Text.Form
/-!
# Where requests arrive

A request of a client whose base is the root of a Data Plane arrives in the area it is meant for,
whatever names it has. If the names are plain it arrives with just these names, and its parameter
can be read off its query.

## Main definitions

* `Net.IsPlain`: a name that is one segment of a path as it stands.
* `Net.Url.withoutSteps`: names without those that are skipped.
* `Client.AtRoot`: the base of the client is the root of a server.

## Main statements

* `Client.decodeAll_query_wire`: the one parameter of a request is all that its query holds.
* `Memory.below?_address`: a place with plain names is found by these names.
* `Memory.below?_address_concat`: where a place is found whose last name may be anything.
* `Memory.below?_address_ne`: no place of one area lies in the other.
* `Memory.parameter?_wire`: the parameter of a request is read off its query.
-/
namespace ProxySync

namespace Net

/-- A name that is a segment of its own: it is not empty, does not stand for a step in the
hierarchy and holds nothing that would be dropped. -/
structure IsPlain (name : String) : Prop where
  ne_empty : name ≠ ""
  ne_dot : name ≠ "."
  ne_dots : name ≠ ".."
  kept : ∀ c ∈ name.toList, Url.isDropped c = false

theorem isPlain_iff {name : String} :
    IsPlain name ↔
      name ≠ "" ∧ name ≠ "." ∧ name ≠ ".." ∧ name.toList.all (! Url.isDropped ·) = true := by
  simp only [List.all_eq_true, Bool.not_eq_true']
  exact ⟨fun h => ⟨h.ne_empty, h.ne_dot, h.ne_dots, h.kept⟩,
    fun ⟨h₁, h₂, h₃, h₄⟩ => ⟨h₁, h₂, h₃, h₄⟩⟩

instance (name : String) : Decidable (IsPlain name) := decidable_of_iff _ isPlain_iff.symm

namespace Url

/-- A segment is read back as its name, but for what is dropped. -/
theorem decode_encodeSegment (cs : List Char) :
    Percent.decode (encodeSegment cs).toList = String.ofList (cs.filter (! isDropped ·)) := by
  rw [encodeSegment, String.toList_ofList, Percent.decode_encode rfl]

theorem decode_encodeSegment_plain {name : String} (h : IsPlain name) :
    Percent.decode (encodeSegment name.toList).toList = name := by
  have hkept : name.toList.filter (! isDropped ·) = name.toList :=
    List.filter_eq_self.2 fun c hc => by rw [h.kept c hc]; rfl
  rw [decode_encodeSegment, hkept, String.ofList_toList]

/-- A plain name is not written as something else would be. -/
theorem encodeSegment_ne {name text : String} (h : IsPlain name) (hne : name ≠ text)
    (htext : '%' ∉ text.toList) : encodeSegment name.toList ≠ text := by
  intro heq
  have hdecode := decode_encodeSegment_plain h
  rw [heq, Percent.decode_of_not_mem htext, String.ofList_toList] at hdecode
  exact hne hdecode.symm

/-- A plain name is one more segment. -/
theorem pushSegment_plain {ss : List String} {name : String} (hss : ss ≠ [""])
    (h : IsPlain name) : pushSegment ss name = ss ++ [encodeSegment name.toList] := by
  have hdot := encodeSegment_ne h h.ne_dot (by decide)
  have hdots := encodeSegment_ne h h.ne_dots (by decide)
  simp only [pushSegment, h.ne_dot, h.ne_dots, decide_false, Bool.or_false, Bool.false_eq_true,
    if_false, hss, hdots, hdot]

theorem foldl_pushSegment_plain {ss names : List String} (hss : 1 < ss.length)
    (h : ∀ n ∈ names, IsPlain n) :
    names.foldl pushSegment ss = ss ++ names.map fun n => encodeSegment n.toList := by
  induction names generalizing ss with
  | nil => simp
  | cons n names ih =>
    have hne : ss ≠ [""] := by
      rintro rfl
      simp at hss
    rw [List.foldl_cons, pushSegment_plain hne (h n (by simp)), ih (by simp; omega)
      fun m hm => h m (by simp [hm])]
    simp

/-- The names without the steps in the hierarchy, which are skipped. -/
def withoutSteps (names : List String) : List String :=
  names.filter fun n => n ≠ "." && n ≠ ".."

theorem mem_withoutSteps {names : List String} {n : String} :
    n ∈ withoutSteps names ↔ n ∈ names ∧ n ≠ "." ∧ n ≠ ".." := by
  simp [withoutSteps]

theorem foldl_withoutSteps (ss names : List String) :
    (withoutSteps names).foldl pushSegment ss = names.foldl pushSegment ss := by
  induction names generalizing ss with
  | nil => rfl
  | cons n names ih =>
    by_cases hn : n = "." ∨ n = ".."
    · have hskip : pushSegment ss n = ss := by
        rw [pushSegment, if_pos (by simpa using hn)]
      have hdrop : withoutSteps (n :: names) = withoutSteps names := by
        rcases hn with rfl | rfl <;> rfl
      rw [hdrop, List.foldl_cons, hskip, ih]
    · have hkeep : withoutSteps (n :: names) = n :: withoutSteps names :=
        List.filter_cons_of_pos (by simpa using hn)
      rw [hkeep, List.foldl_cons, List.foldl_cons, ih]

/-- No name leads out of a path, nor to another last segment of it but the empty one. -/
theorem pushSegment_under {front : List String} {last : String} {ss : List String} {name : String}
    (hfront : front ≠ []) (h : ∃ s rest, ss = front ++ s :: rest ∧ (s = last ∨ s = "")) :
    ∃ s rest, pushSegment ss name = front ++ s :: rest ∧ (s = last ∨ s = "") := by
  obtain ⟨s, rest, rfl, hs⟩ := h
  have hne : front ++ s :: rest ≠ [""] := by
    obtain ⟨f, fs, rfl⟩ := List.exists_cons_of_ne_nil hfront
    simp
  rw [pushSegment, if_neg hne]
  split
  · exact ⟨s, rest, rfl, hs⟩
  · simp only
    split
    · -- A step up: it drops the last name, or makes the last segment empty.
      rcases List.eq_nil_or_concat rest with rfl | ⟨rest', r, rfl⟩
      · exact ⟨"", [], by rw [List.dropLast_concat], .inr rfl⟩
      · refine ⟨s, rest' ++ [""], ?_, hs⟩
        rw [List.concat_eq_append, ← List.cons_append, ← List.append_assoc, List.dropLast_concat]
        simp
    · split
      · exact ⟨s, rest ++ [""], by simp, hs⟩
      · exact ⟨s, rest ++ [encodeSegment name.toList], by simp, hs⟩

theorem foldl_pushSegment_under {front : List String} (last : String) {ss : List String}
    (names : List String) (hfront : front ≠ [])
    (h : ∃ s rest, ss = front ++ s :: rest ∧ (s = last ∨ s = "")) :
    ∃ s rest, names.foldl pushSegment ss = front ++ s :: rest ∧ (s = last ∨ s = "") := by
  induction names generalizing ss with
  | nil => exact h
  | cons n names ih => exact ih (pushSegment_under hfront h)

/-- No name takes a segment away. -/
theorem length_le_foldl_pushSegment {ss : List String} (names : List String) (h : 1 < ss.length) :
    ss.length ≤ (names.foldl pushSegment ss).length := by
  induction names generalizing ss with
  | nil => exact Nat.le_refl _
  | cons n names ih =>
    have hne : ss ≠ [""] := fun heq => by simp [heq] at h
    have hpush : ss.length ≤ (pushSegment ss n).length := by
      simp only [pushSegment, if_neg hne]
      split
      · exact Nat.le_refl _
      · split
        · rw [List.length_append, List.length_dropLast, List.length_singleton]
          omega
        · split <;> simp
    exact hpush.trans (ih (h.trans_le hpush))

/-- A segment that a name is written as is empty or read as a plain name. -/
theorem decode_pushSegment {ss : List String} (name : String)
    (h : ∀ s ∈ ss, s = "" ∨ IsPlain (Percent.decode s.toList)) :
    ∀ s ∈ pushSegment ss name, s = "" ∨ IsPlain (Percent.decode s.toList) := by
  have hbase : ∀ s ∈ (if ss = [""] then [] else ss),
      s = "" ∨ IsPlain (Percent.decode s.toList) := by
    split
    · simp
    · exact h
  have hlast {base : List String} {last : String}
      (hbase : ∀ s ∈ base, s = "" ∨ IsPlain (Percent.decode s.toList))
      (hlast : last = "" ∨ IsPlain (Percent.decode last.toList)) :
      ∀ s ∈ base ++ [last], s = "" ∨ IsPlain (Percent.decode s.toList) := by
    intro s hs
    rcases List.mem_append.1 hs with hs | hs
    · exact hbase s hs
    · rw [List.mem_singleton.1 hs]
      exact hlast
  rw [pushSegment]
  split
  · exact h
  · simp only
    split
    · exact hlast (fun s hs => hbase s ((List.dropLast_sublist _).subset hs)) (.inl rfl)
    · split
      · exact hlast hbase (.inl rfl)
      · rename_i hdots hdot
        refine hlast hbase ?_
        have hkept (cs : List Char) (h : String.ofList (name.toList.filter (! isDropped ·)) =
            String.ofList cs) :
            encodeSegment name.toList = String.ofList (Percent.encode inSegment cs) := by
          rw [encodeSegment, String.ofList_injective h]
        rw [decode_encodeSegment]
        by_cases hempty : String.ofList (name.toList.filter (! isDropped ·)) = ""
        · exact .inl (hkept [] hempty)
        · refine .inr ⟨hempty, fun h => hdot (hkept ['.'] h),
            fun h => hdots (hkept ['.', '.'] h), ?_⟩
          intro c hc
          rw [String.toList_ofList] at hc
          simpa using (List.mem_filter.1 hc).2

theorem decode_foldl_pushSegment {ss : List String} (names : List String)
    (h : ∀ s ∈ ss, s = "" ∨ IsPlain (Percent.decode s.toList)) :
    ∀ s ∈ names.foldl pushSegment ss, s = "" ∨ IsPlain (Percent.decode s.toList) := by
  induction names generalizing ss with
  | nil => exact h
  | cons n names ih => exact ih (decode_pushSegment n h)

end Url
end Net

namespace DataPlane
open Net Net.Url
variable {c : Client}

/-- The base of the client is the root of a server. -/
structure Client.AtRoot (c : Client) : Prop where
  query : c.base.query = none
  fragment : c.base.fragment = none
  path : ∃ ss, c.base.path = .segments ss ∧ ∀ s ∈ ss, s = ""

/-- The client of a Data Plane on this host. -/
def Client.onThisHost (port : Nat) (user password : String) : Client :=
  { base :=
      { scheme := "http", username := "", password := "", host := some "localhost"
        port := some port, path := .segments [""], query := none, fragment := none }
    user, password, timeoutMillis := 1000, forceReload := false
    jsonDetail := Client.maskedDetail }

theorem Client.atRoot_onThisHost (port : Nat) (user password : String) :
    (onThisHost port user password).AtRoot where
  query := rfl
  fragment := rfl
  path := ⟨[""], rfl, by simp⟩

/-- The address of a place below a base that is a path. -/
theorem Client.path_address {ss : List String} (hquery : c.base.query = none)
    (hfragment : c.base.fragment = none) (hpath : c.base.path = .segments ss) (e : Endpoint) :
    (c.address e).path =
      .segments (e.segments.foldl pushSegment (trimSegments ss ++ e.area.path)) := by
  have happend :
      (c.base.appendPath e.area.path).path = .segments (trimSegments ss ++ e.area.path) := by
    simp [appendPath, hquery, hfragment, hpath]
  have hpop : popEmpty (trimSegments ss ++ e.area.path) = trimSegments ss ++ e.area.path := by
    rw [popEmpty]
    cases e.area <;> simp [Area.path]
  have hpairs (u : Url) (pairs : List (String × String)) : (u.withPairs pairs).path = u.path := by
    rw [withPairs]
    split <;> rfl
  rw [Client.address, hpairs]
  cases hsegs : e.segments with
  | nil => simp [withSegments, happend]
  | cons n ns => simp [withSegments, happend, hpop]

/-- The address of a place below the root. -/
theorem Client.AtRoot.path_address (hc : c.AtRoot) (e : Endpoint) :
    (c.address e).path = .segments (e.segments.foldl pushSegment e.area.path) := by
  obtain ⟨ss, hss, hempty⟩ := hc.path
  have htrim : trimSegments ss = [] := by
    have hdrop : ss.reverse.dropWhile (· = "") = [] :=
      List.dropWhile_eq_nil_iff.2 fun s hs => by simpa using hempty s (List.mem_reverse.1 hs)
    rw [trimSegments, hdrop, List.reverse_nil]
  rw [Client.path_address hc.query hc.fragment hss, htrim, List.nil_append]

/-- The query of a place holds its parameters and nothing else. -/
theorem Client.query_address (h : c.base.query = none) (e : Endpoint) :
    ((c.address e).query.getD "").toList = Form.append [] e.query := by
  have hbase (u : Url) (h : u.query = none) (pairs : List (String × String)) :
      ((u.withPairs pairs).query.getD "").toList = Form.append [] pairs := by
    rw [withPairs]
    cases pairs with
    | nil => simp [h, Form.append]
    | cons p ps => simp [h]
  refine hbase _ ?_ _
  have happend : (c.base.appendPath e.area.path).query = none := by
    rw [appendPath, h]
    cases c.base.fragment with
    | some f => rfl
    | none => cases c.base.path <;> rfl
  rw [withSegments.eq_def]
  split <;> exact happend

/-- A query of one parameter is read back. -/
theorem Client.decodeAll_query_wire (h : c.base.query = none) {q : Request}
    {parameter : String × String} (hq : q.endpoint.query = [parameter]) :
    Form.decodeAll (c.wire q).query.toList = [parameter] := by
  rw [WireRequest.query, Client.wire, Client.query_address h, hq]
  exact Form.decodeAll_encodePair parameter

namespace Memory

/-- Names that begin a path below an area are found in front. -/
theorem below?_segments (area : Area) {names : List String} (rest : List String)
    (h : ∀ n ∈ names, IsPlain n) :
    below? area (.segments (area.path ++ (names.map (fun n => encodeSegment n.toList) ++ rest))) =
      some (names ++ (rest.filter (· ≠ "")).map fun s => Percent.decode s.toList) := by
  have hstarts (ss : List String) : area.path.isPrefixOf (area.path ++ ss) = true := by simp
  have hkeep : ∀ s ∈ names.map fun n => encodeSegment n.toList, decide (s ≠ "") = true := by
    intro s hs
    obtain ⟨n, hn, rfl⟩ := List.mem_map.1 hs
    exact decide_eq_true (encodeSegment_ne (h n hn) (h n hn).ne_empty (by decide))
  have hdecode : ∀ n ∈ names,
      ((fun s : String => Percent.decode s.toList) ∘ fun n => encodeSegment n.toList) n = id n :=
    fun n hn => decode_encodeSegment_plain (h n hn)
  rw [below?]
  simp only [hstarts, if_true, List.drop_left]
  rw [List.filter_append, List.filter_eq_self.2 hkeep, List.map_append, List.map_map,
    List.map_congr_left hdecode, List.map_id]

/-- A place with plain names is found by these names. -/
theorem below?_address (hc : c.AtRoot) {e : Endpoint} (h : ∀ n ∈ e.segments, IsPlain n) :
    below? e.area (c.address e).path = some e.segments := by
  have hlen : 1 < e.area.path.length := by cases e.area <;> decide
  have hbelow := below?_segments e.area [] h
  rw [List.append_nil, List.filter_nil, List.map_nil, List.append_nil] at hbelow
  rw [hc.path_address, foldl_pushSegment_plain hlen h, hbelow]

/-- Steps in the hierarchy are skipped on the way to a place, whose last name may be anything: then
the place itself is found, or the one above it, or one below it. -/
theorem below?_address_concat (hc : c.AtRoot) {e : Endpoint} {front : List String} {last : String}
    (hsegments : e.segments = front ++ [last])
    (hfront : ∀ n ∈ front, n ≠ "." → n ≠ ".." → IsPlain n)
    (hsome : ∃ n ∈ front, n ≠ "." ∧ n ≠ "..") :
    ∃ path, below? e.area (c.address e).path = some path ∧
      (path = (withoutSteps front).dropLast ∨ path = withoutSteps front ∨
        ∃ name, path = withoutSteps front ++ [name]) := by
  have hlen : 1 < e.area.path.length := by cases e.area <;> decide
  have hplain : ∀ n ∈ withoutSteps front, IsPlain n := by
    intro n hn
    obtain ⟨hn, hstep⟩ := mem_withoutSteps.1 hn
    exact hfront n hn hstep.1 hstep.2
  have hne : withoutSteps front ≠ [] := by
    obtain ⟨n, hn, hstep⟩ := hsome
    exact List.ne_nil_of_mem (mem_withoutSteps.2 ⟨hn, hstep⟩)
  have hpath : (c.address e).path = .segments (pushSegment (e.area.path ++
      (withoutSteps front).map fun n => encodeSegment n.toList) last) := by
    rw [hc.path_address, hsegments, List.foldl_append, ← foldl_withoutSteps _ front,
      foldl_pushSegment_plain hlen hplain, List.foldl_cons, List.foldl_nil]
  have hbase :
      e.area.path ++ (withoutSteps front).map (fun n => encodeSegment n.toList) ≠ [""] := by
    intro h
    have hlen' := congrArg List.length h
    rw [List.length_append, List.length_singleton] at hlen'
    omega
  rw [hpath, pushSegment, if_neg hbase]
  split
  · have hbelow := below?_segments e.area [] hplain
    rw [List.append_nil, List.filter_nil, List.map_nil, List.append_nil] at hbelow
    exact ⟨_, hbelow, .inr (.inl rfl)⟩
  · simp only
    split
    · -- A step up from the last of the names, which leaves those before it.
      obtain ⟨init, z, hinit⟩ : ∃ init z, withoutSteps front = init ++ [z] :=
        ⟨_, _, (List.dropLast_concat_getLast hne).symm⟩
      rw [hinit] at hplain ⊢
      have hup : (e.area.path ++ (init ++ [z]).map fun n => encodeSegment n.toList).dropLast ++
          [""] = e.area.path ++ (init.map (fun n => encodeSegment n.toList) ++ [""]) := by
        rw [List.map_append, ← List.append_assoc, List.map_singleton, List.dropLast_concat,
          List.append_assoc]
      rw [hup, below?_segments _ _ fun n hn => hplain n (List.mem_append_left _ hn)]
      exact ⟨_, rfl, .inl (by simp)⟩
    · split
      · rw [List.append_assoc, below?_segments _ _ hplain]
        exact ⟨_, rfl, .inr (.inl (by simp))⟩
      · rw [List.append_assoc, below?_segments _ _ hplain]
        refine ⟨_, rfl, .inr ?_⟩
        by_cases hempty : encodeSegment last.toList = ""
        · exact .inl (by simp [hempty])
        · exact .inr ⟨Percent.decode (encodeSegment last.toList).toList, by simp [hempty]⟩

/-- A place of plain names and steps in the hierarchy is found without the steps. -/
theorem below?_address_withoutSteps (hc : c.AtRoot) {e : Endpoint}
    (h : ∀ n ∈ e.segments, n ≠ "." → n ≠ ".." → IsPlain n) :
    below? e.area (c.address e).path = some (withoutSteps e.segments) := by
  have hplain : ∀ n ∈ withoutSteps e.segments, IsPlain n := by
    intro n hn
    obtain ⟨hn, hstep⟩ := mem_withoutSteps.1 hn
    exact h n hn hstep.1 hstep.2
  have hbelow := below?_address (e := { e with segments := withoutSteps e.segments }) hc hplain
  rw [hc.path_address] at hbelow ⊢
  rwa [foldl_withoutSteps] at hbelow

/-- No place of one area lies in the other, whatever its names. -/
theorem below?_address_ne (hc : c.AtRoot) {e : Endpoint} {area : Area} (h : area ≠ e.area) :
    below? area (c.address e).path = none := by
  have hparts (a : Area) : ∃ last, a.path = ["v3", "services", "haproxy"] ++ [last] ∧
      last ≠ "" ∧ (a ≠ area → area.path ≠ ["v3", "services", "haproxy"] ++ [last]) := by
    cases a <;> exact ⟨_, rfl, by decide, by cases area <;> simp [Area.path]⟩
  obtain ⟨last, hlast, _, hne⟩ := hparts e.area
  obtain ⟨last', hlast', hne', _⟩ := hparts area
  obtain ⟨s, rest, hss, hs⟩ :=
    foldl_pushSegment_under last e.segments (List.cons_ne_nil _ _) ⟨last, [], hlast, .inl rfl⟩
  have hno : area.path.isPrefixOf (e.segments.foldl pushSegment e.area.path) = false := by
    rw [hss, hlast', Bool.eq_false_iff, ne_eq, List.isPrefixOf_iff_prefix]
    rw [List.prefix_append_right_inj]
    intro hp
    obtain rfl : last' = s := by simpa using hp
    rcases hs with rfl | rfl
    · exact hne h.symm hlast'
    · exact hne' rfl
  rw [hc.path_address, below?]
  simp [hno]

/-- Whatever the names of a place, those by which it is found are plain. -/
theorem isPlain_of_below? (hc : c.AtRoot) {e : Endpoint} {area : Area} {path : List String}
    (h : below? area (c.address e).path = some path) : ∀ n ∈ path, IsPlain n := by
  have harea : ∀ s ∈ e.area.path, s = "" ∨ IsPlain (Percent.decode s.toList) := by
    have hnames : ∀ s ∈ e.area.path, '%' ∉ s.toList ∧ IsPlain s := by cases e.area <;> decide
    intro s hs
    rw [Percent.decode_of_not_mem (hnames s hs).1, String.ofList_toList]
    exact .inr (hnames s hs).2
  have hsegments := decode_foldl_pushSegment e.segments harea
  rw [hc.path_address, below?] at h
  split at h
  · cases h
    intro n hn
    obtain ⟨s, hs, rfl⟩ := List.mem_map.1 hn
    obtain ⟨hs, hne⟩ := List.mem_filter.1 hs
    exact (hsegments s (List.mem_of_mem_drop hs)).resolve_left (by simpa using hne)
  · cases h

/-- A parameter that stands alone in a query is read off it. -/
theorem parameter?_wire (hc : c.AtRoot) {q : Request} {name value : String}
    (h : q.endpoint.query = [(name, value)]) :
    parameter? (c.wire q).query name = some value := by
  rw [parameter?, Client.decodeAll_query_wire hc.query h]
  simp

end Memory
end DataPlane
end ProxySync
