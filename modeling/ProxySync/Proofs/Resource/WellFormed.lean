import Mathlib.Data.List.Forall2
import Mathlib.Order.Bounds.Basic
import ProxySync.Validation
/-!
# Well-formed specifications

What a specification has to be, said without regard to the order in which it is checked, and that
the validation accepts just that. Of several things that are wrong, the one told is that of the
first entry with which the entries up to it stop being well-formed.

## Main definitions

* `ServerSpec.IsWellFormed`, `AreWellFormed`, `Spec.IsWellFormed`: what an entry, a list of entries
  and a specification have to be.
* `ServerSpec.Means`: the desired entry that an entry stands for.
* `ServerSpec.Fault`: what is wrong with an entry behind others, as it is told.

## Main statements

* `Spec.validate_decides`: the validation accepts the well-formed specifications, copies them, and
  tells of any other what is wrong first.
-/
namespace ProxySync.Resource
open Validation

/-! ## What an entry has to be -/

/-- The text is set to this one. The empty text counts as unset. -/
def SetTo (s : Option String) (t : String) : Prop := s = some t ∧ t ≠ ""

/-- The text is set. -/
def IsSet (s : Option String) : Prop := ∃ t, SetTo s t

namespace ServerSpec

/-- The port is unset or between 1 and 65535. -/
def HasPort (s : ServerSpec) : Prop := ∀ p ∈ s.port, 1 ≤ p.toInt ∧ p.toInt ≤ 65535

/-- The entry has a name and an address and no other source. -/
structure IsStatic (s : ServerSpec) : Prop where
  name : IsSet s.name
  address : IsSet s.address
  source : s.valueFrom = none

/-- The entry refers to a Service by name and has neither a name nor an address. -/
structure IsDynamic (s : ServerSpec) : Prop where
  name : ¬ IsSet s.name
  address : ¬ IsSet s.address
  source : ∃ ref : ServiceRef, s.valueFrom = some ⟨some ref⟩ ∧ ref.name ≠ ""

/-- The entry has a usable port and is one of the two. -/
structure IsWellFormed (s : ServerSpec) : Prop where
  port : s.HasPort
  form : s.IsStatic ∨ s.IsDynamic

/-- The entries are static and have one name. -/
def Collides (x s : ServerSpec) : Prop := x.IsStatic ∧ s.IsStatic ∧ x.name = s.name

/-- The desired entry that an entry stands for. A reference without a namespace is to a Service of
the namespace given. -/
inductive Means (ns : String) (s : ServerSpec) : ServerEntry → Prop
  | fixed {x : StaticServer} (source : s.valueFrom = none) (name : SetTo s.name x.name)
      (address : SetTo s.address x.address)
      (port : x.port.map (fun p => (p.toNat : Int)) = s.port.map (·.toInt)) (id : x.id = s.id)
      (check : x.check = s.check) : Means ns s (.fixed x)
  | dynamic {ref : ServiceRef} {d : DynamicServer} (source : s.valueFrom = some ⟨some ref⟩)
      (namespaced : SetTo ref.ns d.ns ∨ ¬ IsSet ref.ns ∧ d.ns = ns) (service : d.service = ref.name)
      (servicePort : (∃ text, SetTo ref.port text ∧ d.servicePort = some (ServicePort.parse text)) ∨
        ¬ IsSet ref.port ∧ d.servicePort = none)
      (port : d.port.map (fun p => (p.toNat : Int)) = s.port.map (·.toInt))
      (check : d.check = s.check) : Means ns s (.dynamic d)

/-- What is wrong with an entry behind others, as it is told. The port goes before the form and the
form before a name that is taken. -/
inductive Fault (front : List ServerSpec) (s : ServerSpec) : String → Prop
  | port {p : Int64} (hp : s.port = some p) (out : p.toInt < 1 ∨ 65535 < p.toInt) :
    Fault front s ("port " ++ toString p.toInt ++ " is out of range 1-65535")
  | unset (hport : s.HasPort) (source : s.valueFrom = none)
      (half : ¬ (IsSet s.name ∧ IsSet s.address)) :
    Fault front s "either address/name or valueFrom must be set for server"
  | both (hport : s.HasPort) (source : s.valueFrom ≠ none)
      (either : IsSet s.name ∨ IsSet s.address) :
    Fault front s "only one of address/name or valueFrom may be set for server"
  | reference (hport : s.HasPort) (name : ¬ IsSet s.name) (address : ¬ IsSet s.address)
      (source : s.valueFrom = some ⟨none⟩) : Fault front s "valueFrom.serviceRef must be set"
  | service {ref : ServiceRef} (hport : s.HasPort) (name : ¬ IsSet s.name)
      (address : ¬ IsSet s.address) (source : s.valueFrom = some ⟨some ref⟩)
      (unnamed : ref.name = "") : Fault front s "valueFrom.serviceRef.name must be set"
  | taken {name : String} {x : ServerSpec} (hport : s.HasPort) (hx : x ∈ front)
      (collides : x.Collides s) (hname : s.name = some name) :
    Fault front s ("duplicate server name " ++ Text.quoted name)

end ServerSpec

/-! ## What a specification has to be -/

/-- The entries are well-formed, and no two of them have one static name. -/
structure AreWellFormed (ss : List ServerSpec) : Prop where
  each : ∀ s ∈ ss, s.IsWellFormed
  apart : ss.Pairwise fun x s => ¬ x.Collides s

/-- The name is not empty and has only ASCII letters, digits and `-_.:`. -/
def IsBackendName (name : String) : Prop :=
  name ≠ "" ∧ ∀ c ∈ name.toList, ('A' ≤ c ∧ c ≤ 'Z') ∨ ('a' ≤ c ∧ c ≤ 'z') ∨ ('0' ≤ c ∧ c ≤ '9') ∨
    c = '-' ∨ c = '_' ∨ c = '.' ∨ c = ':'

namespace Spec

/-- The name and the entries are well-formed. -/
structure IsWellFormed (s : Spec) : Prop where
  name : IsBackendName s.name
  servers : AreWellFormed s.servers

/-- The backend that the specification asks for. -/
structure Asks (s : Spec) (ns : String) (d : Desired) : Prop where
  name : d.name = s.name
  mode : d.mode = s.mode
  algorithm : d.algorithm = s.balance
  advCheck : d.advCheck = s.advCheck
  httpChecks : d.httpChecks = s.httpChecks
  servers : List.Forall₂ (ServerSpec.Means ns) s.servers d.servers

/-- What is told of a specification that is not well-formed: that the name is wrong, or else what is
wrong with the first entry with which the entries up to it are not well-formed. -/
inductive Refused (s : Spec) : String → Prop
  | name (bad : ¬ IsBackendName s.name) :
    Refused s ("name " ++ Text.quoted s.name ++ " must be non-empty and match ^[A-Za-z0-9-_.:]+$")
  | server {i : Nat} {entry : ServerSpec} {why : String} (good : IsBackendName s.name)
      (found : s.servers[i]? = some entry)
      (first : IsLeast {k | ¬ AreWellFormed (s.servers.take (k + 1))} i)
      (fault : entry.Fault (s.servers.take i) why) :
    Refused s ("server[" ++ toString i ++ "]: " ++ why)

/-- Every desired entry is asked for by an entry. -/
theorem Asks.exists_means {s : Spec} {ns : String} {d : Desired} (h : s.Asks ns d) {x : ServerEntry}
    (hx : x ∈ d.servers) : ∃ e ∈ s.servers, e.Means ns x := by
  obtain ⟨i, rfl⟩ := List.get_of_mem hx
  have hi : i < s.servers.length := i.isLt.trans_eq h.servers.length_eq.symm
  exact ⟨_, List.get_mem _ ⟨i, hi⟩, h.servers.get hi i.isLt⟩

end Spec

/-! ## Single entries -/

section
variable {ns : String} {s x : ServerSpec} {front : List ServerSpec}

theorem nonEmpty_eq_some {t : Option String} {u : String} : nonEmpty t = some u ↔ SetTo t u := by
  simp [nonEmpty, SetTo, Option.filter_eq_some_iff]

theorem nonEmpty_eq_none {t : Option String} : nonEmpty t = none ↔ ¬ IsSet t := by
  simp [IsSet, ← nonEmpty_eq_some, Option.eq_none_iff_forall_ne_some]

/-- What the check of a port comes to. -/
theorem port_spec (s : ServerSpec) (front : List ServerSpec) :
    match Validation.port s.port with
    | .ok q => s.HasPort ∧ q.map (fun p => (p.toNat : Int)) = s.port.map (·.toInt)
    | .error why => ¬ s.HasPort ∧ s.Fault front why := by
  cases hp : s.port with
  | none => simp [Validation.port, ServerSpec.HasPort, hp]
  | some p =>
    by_cases hrange : 1 ≤ p.toInt ∧ p.toInt ≤ 65535
    · simp only [Validation.port, if_pos hrange]
      refine ⟨by simpa [ServerSpec.HasPort, hp] using hrange, ?_⟩
      simp only [Option.map_some, Option.some.injEq, UInt16.toNat_ofNat']
      omega
    · simp only [Validation.port, if_neg hrange]
      refine ⟨fun h => hrange (h p hp), .port hp (by omega)⟩

/-- What the check of a source comes to, beside a good port and no name or address. -/
theorem reference_spec (ns : String) (front : List ServerSpec) {port : Option UInt16}
    {v : ValueFrom} (hsource : s.valueFrom = some v) (hport : s.HasPort)
    (hsame : port.map (fun p => (p.toNat : Int)) = s.port.map (·.toInt))
    (hname : ¬ IsSet s.name) (haddress : ¬ IsSet s.address) :
    match reference ns v port s.check with
    | .ok d => s.IsDynamic ∧ s.Means ns (.dynamic d)
    | .error why => ¬ s.IsDynamic ∧ s.Fault front why := by
  obtain ⟨_ | ref⟩ := v
  · refine ⟨fun h => ?_, .reference hport hname haddress hsource⟩
    obtain ⟨ref, href, -⟩ := h.source
    cases hsource.symm.trans href
  · by_cases hunnamed : ref.name = ""
    · simp only [reference, if_pos hunnamed]
      refine ⟨fun h => ?_, .service hport hname haddress hsource hunnamed⟩
      obtain ⟨ref', href, hnamed⟩ := h.source
      cases hsource.symm.trans href
      exact hnamed hunnamed
    · simp only [reference, if_neg hunnamed]
      refine ⟨⟨hname, haddress, ref, hsource, hunnamed⟩, .dynamic hsource ?_ rfl ?_ hsame rfl⟩
      · cases hns : nonEmpty ref.ns with
        | none => exact .inr ⟨nonEmpty_eq_none.1 hns, rfl⟩
        | some own => exact .inl (nonEmpty_eq_some.1 hns)
      · cases htext : nonEmpty ref.port with
        | none => exact .inr ⟨nonEmpty_eq_none.1 htext, rfl⟩
        | some text => exact .inl ⟨text, nonEmpty_eq_some.1 htext, rfl⟩

/-- What the check of an entry without a source comes to, once its port is found good. -/
theorem unsourced_spec {port : Option UInt16} (hp : Validation.port s.port = .ok port)
    (hport : s.HasPort) (hsame : port.map (fun p => (p.toNat : Int)) = s.port.map (·.toInt))
    (hsource : s.valueFrom = none) :
    match entry ns s with
    | .ok e => s.IsWellFormed ∧ s.Means ns e
    | .error why => ¬ s.IsWellFormed ∧ s.Fault front why := by
  have hform (h : s.IsWellFormed) : s.IsStatic :=
    h.form.resolve_right fun h => by simpa [hsource] using h.source
  simp only [entry, hp, hsource, Except.bind, bind]
  cases hname : nonEmpty s.name with
  | none =>
    have hname := nonEmpty_eq_none.1 hname
    exact ⟨fun h => hname (hform h).name, .unset hport hsource (hname ·.1)⟩
  | some name =>
    have hname := nonEmpty_eq_some.1 hname
    cases haddress : nonEmpty s.address with
    | none =>
      have haddress := nonEmpty_eq_none.1 haddress
      exact ⟨fun h => haddress (hform h).address, .unset hport hsource (haddress ·.2)⟩
    | some address =>
      have haddress := nonEmpty_eq_some.1 haddress
      exact ⟨⟨hport, .inl ⟨⟨name, hname⟩, ⟨address, haddress⟩, hsource⟩⟩,
        .fixed hsource hname haddress hsame rfl rfl⟩

/-- What the check of an entry with a source comes to, once its port is found good. -/
theorem sourced_spec {port : Option UInt16} {v : ValueFrom}
    (hp : Validation.port s.port = .ok port) (hport : s.HasPort)
    (hsame : port.map (fun p => (p.toNat : Int)) = s.port.map (·.toInt))
    (hsource : s.valueFrom = some v) :
    match entry ns s with
    | .ok e => s.IsWellFormed ∧ s.Means ns e
    | .error why => ¬ s.IsWellFormed ∧ s.Fault front why := by
  have hform (h : s.IsWellFormed) : s.IsDynamic :=
    h.form.resolve_left fun h => by simpa [hsource] using h.source
  have hset : s.valueFrom ≠ none := by simp [hsource]
  simp only [entry, hp, hsource, Except.bind, bind]
  cases hname : nonEmpty s.name with
  | some name =>
    have hname : IsSet s.name := ⟨name, nonEmpty_eq_some.1 hname⟩
    exact ⟨fun h => (hform h).name hname, .both hport hset (.inl hname)⟩
  | none =>
    have hname := nonEmpty_eq_none.1 hname
    cases haddress : nonEmpty s.address with
    | some address =>
      have haddress : IsSet s.address := ⟨address, nonEmpty_eq_some.1 haddress⟩
      exact ⟨fun h => (hform h).address haddress, .both hport hset (.inr haddress)⟩
    | none =>
      have haddress := nonEmpty_eq_none.1 haddress
      have href := reference_spec ns front hsource hport hsame hname haddress
      cases hv : reference ns v port s.check with
      | error why =>
        rw [hv] at href
        simp only [hv]
        exact ⟨fun h => href.1 (hform h), href.2⟩
      | ok d =>
        rw [hv] at href
        simp only [hv]
        exact ⟨⟨hport, .inr href.1⟩, href.2⟩

/-- What the check of an entry alone comes to. -/
theorem entry_spec (ns : String) (s : ServerSpec) (front : List ServerSpec) :
    match entry ns s with
    | .ok e => s.IsWellFormed ∧ s.Means ns e
    | .error why => ¬ s.IsWellFormed ∧ s.Fault front why := by
  have hport := port_spec s front
  cases hp : Validation.port s.port with
  | error why =>
    rw [hp] at hport
    simp only [entry, hp, Except.bind, bind]
    exact ⟨fun h => hport.1 h.port, hport.2⟩
  | ok port =>
    rw [hp] at hport
    obtain ⟨hport, hsame⟩ := hport
    cases hsource : s.valueFrom with
    | none => exact unsourced_spec hp hport hsame hsource
    | some v => exact sourced_spec hp hport hsame hsource

/-! ## Entries behind others -/

theorem ServerSpec.Means.takenName_eq_some {e : ServerEntry} {name : String} (h : s.Means ns e) :
    takenName e = some name ↔ s.IsStatic ∧ s.name = some name := by
  cases h with
  | @fixed x source hname haddress =>
    have hstatic : s.IsStatic := ⟨⟨_, hname⟩, ⟨_, haddress⟩, source⟩
    simp [takenName, hstatic, hname.1]
  | dynamic source =>
    have hnot : ¬ s.IsStatic := fun h => by simpa [source] using h.source
    simp [takenName, hnot]

/-- The names are those that the static entries take. -/
def AreTaken (taken : List String) (front : List ServerSpec) : Prop :=
  ∀ name, name ∈ taken ↔ ∃ x ∈ front, x.IsStatic ∧ x.name = some name

theorem AreTaken.append {taken : List String} {e : ServerEntry} (h : AreTaken taken front)
    (hmeans : s.Means ns e) : AreTaken ((takenName e).toList ++ taken) (front ++ [s]) := by
  intro name
  have hs : takenName e = some name ↔ _ := hmeans.takenName_eq_some
  simp only [List.mem_append, Option.mem_toList, List.mem_singleton, or_and_right, exists_or,
    exists_eq_left, h name, hs, Or.comm]

/-- What the check of an entry behind others comes to. -/
theorem freshEntry_spec (ns : String) (s : ServerSpec) {taken : List String}
    (htaken : AreTaken taken front) :
    match freshEntry ns taken s with
    | .ok e => s.IsWellFormed ∧ (∀ x ∈ front, ¬ x.Collides s) ∧ s.Means ns e
    | .error why => ¬ (s.IsWellFormed ∧ ∀ x ∈ front, ¬ x.Collides s) ∧ s.Fault front why := by
  have hentry := entry_spec ns s front
  rw [freshEntry]
  cases he : entry ns s with
  | error why =>
    rw [he] at hentry
    exact ⟨fun h => hentry.1 h.1, hentry.2⟩
  | ok e =>
    rw [he] at hentry
    obtain ⟨hwell, hmeans⟩ := hentry
    have hname {name : String} : takenName e = some name ↔ _ := hmeans.takenName_eq_some
    simp only [Except.bind, bind]
    cases hn : takenName e with
    | none =>
      refine ⟨hwell, fun x _ hcollides => ?_, hmeans⟩
      obtain ⟨-, hs, -⟩ := hcollides
      obtain ⟨name, hset⟩ := hs.name
      rw [hname.2 ⟨hs, hset.1⟩] at hn
      cases hn
    | some name =>
      obtain ⟨hs, hsname⟩ := hname.1 hn
      by_cases hmem : name ∈ taken
      · simp only [if_pos hmem]
        obtain ⟨x, hx, hxs, hxname⟩ := (htaken name).1 hmem
        have hcollides : x.Collides s := ⟨hxs, hs, hxname.trans hsname.symm⟩
        exact ⟨fun h => h.2 x hx hcollides, .taken hwell.port hx hcollides hsname⟩
      · simp only [if_neg hmem]
        refine ⟨hwell, fun x hx hcollides => hmem ?_, hmeans⟩
        exact (htaken name).2 ⟨x, hx, hcollides.1, hcollides.2.2.trans hsname⟩

/-! ## Lists of entries -/

theorem areWellFormed_nil : AreWellFormed [] := ⟨by simp, .nil⟩

theorem areWellFormed_append_singleton :
    AreWellFormed (front ++ [s]) ↔
      AreWellFormed front ∧ s.IsWellFormed ∧ ∀ x ∈ front, ¬ x.Collides s := by
  constructor
  · rintro ⟨heach, hapart⟩
    obtain ⟨hfront, -, hcross⟩ := List.pairwise_append.1 hapart
    exact ⟨⟨fun x hx => heach x (by simp [hx]), hfront⟩, heach s (by simp),
      fun x hx => hcross x hx s (by simp)⟩
  · rintro ⟨⟨heach, hapart⟩, hs, hfresh⟩
    refine ⟨fun x hx => ?_, List.pairwise_append.2 ⟨hapart, by simp, by simpa using hfresh⟩⟩
    rcases List.mem_append.1 hx with hx | hx
    · exact heach x hx
    · rwa [List.mem_singleton.1 hx]

theorem AreWellFormed.sublist {ss ss' : List ServerSpec} (h : AreWellFormed ss)
    (hsub : ss'.Sublist ss) : AreWellFormed ss' :=
  ⟨fun s hs => h.each s (hsub.subset hs), h.apart.sublist hsub⟩

/-- What the check of entries behind others comes to. -/
theorem entriesFrom_spec (ns : String) (ss : List ServerSpec) {taken : List String}
    (hfront : AreWellFormed front) (htaken : AreTaken taken front) :
    match entriesFrom ns taken front.length ss with
    | .ok es => AreWellFormed (front ++ ss) ∧ List.Forall₂ (ServerSpec.Means ns) ss es
    | .error e => ∃ mid s back why, ss = mid ++ s :: back ∧ AreWellFormed (front ++ mid) ∧
        ¬ AreWellFormed (front ++ mid ++ [s]) ∧ s.Fault (front ++ mid) why ∧
        e = .validation ("server[" ++ toString (front ++ mid).length ++ "]: " ++ why) := by
  -- Front to back: each entry that passes joins those in front.
  induction ss generalizing front taken with
  | nil => exact ⟨by simpa using hfront, .nil⟩
  | cons s ss ih =>
    have hs := freshEntry_spec ns s htaken
    rw [entriesFrom]
    cases he : freshEntry ns taken s with
    | error why =>
      rw [he] at hs
      refine ⟨[], s, ss, why, rfl, by simpa using hfront, ?_, by simpa using hs.2, ?_⟩
      · rw [List.append_nil, areWellFormed_append_singleton]
        exact fun h => hs.1 h.2
      · simp [toString, String.append_assoc]
    | ok e =>
      rw [he] at hs
      obtain ⟨hwell, hfresh, hmeans⟩ := hs
      have hfront' := areWellFormed_append_singleton.2 ⟨hfront, hwell, hfresh⟩
      have hrest := ih hfront' (htaken.append hmeans)
      rw [List.length_append, List.length_singleton] at hrest
      cases hes : entriesFrom ns ((takenName e).toList ++ taken) (front.length + 1) ss with
      | error e =>
        rw [hes] at hrest
        obtain ⟨mid, s', back, why, rfl, hmid, hnot, hfault, rfl⟩ := hrest
        simp only [hes]
        exact ⟨s :: mid, s', back, why, rfl, by simpa using hmid, by simpa using hnot,
          by simpa using hfault, by simp⟩
      | ok es =>
        rw [hes] at hrest
        simp only [hes]
        exact ⟨by simpa using hrest.1, .cons hmeans hrest.2⟩

end

/-! ## Specifications -/

theorem isAlphanum_eq (c : Char) : c.isAlphanum =
    (decide ('A' ≤ c ∧ c ≤ 'Z') || (decide ('a' ≤ c) && decide (c ≤ 'z')) ||
      (decide ('0' ≤ c) && decide (c ≤ '9'))) := rfl

theorem isName_iff {name : String} : isName name = true ↔ IsBackendName name := by
  have hempty : (!name.toList.isEmpty) = true ↔ name ≠ "" := by simp
  rw [isName, Bool.and_eq_true, hempty, List.all_eq_true, IsBackendName]
  refine and_congr_right fun _ => forall₂_congr fun c _ => ?_
  simp only [isNameChar, isAlphanum_eq, Bool.or_eq_true, Bool.and_eq_true, decide_eq_true_eq,
    beq_iff_eq, or_assoc]

/-- Where entries stop being well-formed. -/
theorem isLeast_length {front : List ServerSpec} {s : ServerSpec} (back : List ServerSpec)
    (h : AreWellFormed front) (hs : ¬ AreWellFormed (front ++ [s])) :
    IsLeast {k | ¬ AreWellFormed ((front ++ s :: back).take (k + 1))} front.length := by
  refine ⟨by simpa [List.take_append, List.take_of_length_le] using hs, fun k hk => ?_⟩
  by_contra hlt
  refine hk (h.sublist ?_)
  rw [List.take_append_of_le_length (by omega)]
  exact List.take_sublist ..

/-- What the validation comes to. -/
theorem Spec.validate_spec (s : Spec) (ns : String) :
    match s.validate ns with
    | .ok d => s.IsWellFormed ∧ s.Asks ns d
    | .error e => ¬ s.IsWellFormed ∧ ∃ text, e = .validation text ∧ s.Refused text := by
  have htaken : AreTaken [] [] := by simp [AreTaken]
  have hservers := entriesFrom_spec ns s.servers areWellFormed_nil htaken
  rw [List.length_nil] at hservers
  by_cases hname : isName s.name = true
  · have hgood := isName_iff.1 hname
    simp only [Spec.validate, if_pos hname]
    cases hes : entriesFrom ns [] 0 s.servers with
    | ok es =>
      rw [hes] at hservers
      exact ⟨⟨hgood, hservers.1⟩, rfl, rfl, rfl, rfl, rfl, hservers.2⟩
    | error e =>
      rw [hes] at hservers
      obtain ⟨front, x, back, why, hsplit, hfront, hnot, hfault, rfl⟩ := hservers
      have hleast := isLeast_length back hfront hnot
      rw [List.nil_append] at hleast hfault
      rw [← hsplit] at hleast
      have hx : s.servers[front.length]? = some x := by simp [hsplit]
      exact ⟨fun h => hleast.1 (h.servers.sublist (List.take_sublist ..)), _, rfl,
        .server hgood hx hleast (by simpa [hsplit] using hfault)⟩
  · have hbad := mt isName_iff.2 hname
    simp only [Spec.validate, if_neg hname]
    exact ⟨fun h => hbad h.name, _, rfl, .name hbad⟩

/-- What an accepted specification is, and what it asks for. -/
theorem Spec.asks_of_validate {s : Spec} {ns : String} {d : Desired} (h : s.validate ns = .ok d) :
    s.IsWellFormed ∧ s.Asks ns d := by
  have hs := s.validate_spec ns
  rwa [h] at hs

/-- The validation accepts just the well-formed specifications. Of such a one it makes the backend
that is asked for, entry for entry. Of any other it tells, as a failed validation, that the name is
wrong, or else what is wrong with the first entry with which the entries up to it are not
well-formed. -/
theorem Spec.validate_decides (s : Spec) (ns : String) :
    ((∃ d, s.validate ns = .ok d) ↔ s.IsWellFormed) ∧
      (∀ d, s.validate ns = .ok d → s.Asks ns d) ∧
      ∀ e, s.validate ns = .error e → ∃ text, e = .validation text ∧ s.Refused text := by
  have hs := s.validate_spec ns
  refine ⟨⟨fun ⟨d, hd⟩ => (asks_of_validate hd).1, fun hwell => ?_⟩,
    fun d hd => (asks_of_validate hd).2, fun e he => ?_⟩
  · cases hv : s.validate ns with
    | ok d => exact ⟨d, rfl⟩
    | error e =>
      rw [hv] at hs
      exact absurd hwell hs.1
  · rw [he] at hs
    exact hs.2

end ProxySync.Resource
