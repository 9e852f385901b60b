import ProxySync.Proofs.DataPlane.Address
import ProxySync.Proofs.Json.Recognition
import ProxySync.Proofs.Session.Requests
import ProxySync.Proofs.Wire.ReadBack
/-!
# Which bodies tell a version

The version is read from the body of an answer in two ways tried in turn: as a numeral, and as a
record with the field `_version`. Which bodies these are is said by the grammar of JSON. A record
may be written as a list of its values, so there is a third form beside the two that are meant.

## Main definitions

* `DataPlane.IsVersion`: the two forms that are meant, a numeral and an object.
* `DataPlane.IsVersionList`: the list of the one value.

## Main statements

* `DataPlane.version?_eq_some_iff`: the bodies from which a version is read.
* `DataPlane.Client.version_told`: what reading the version makes of any body.
-/
namespace ProxySync.DataPlane
open Json

/-- The text of a number of 64 bits. -/
def written (n : Int64) : List Char := (toString n.toInt).toList

/-- Among the members is one of the name `_version`, and its value is that number. -/
def SingleVersion (ms : List WrittenMember) (n : Int64) : Prop :=
  ∃ before name after, ms = before ++ (name, written n) :: after ∧ Says name "_version" ∧
    ∀ m ∈ before ++ after, ¬ Says m.1 "_version"

/-- The text of an object with that number as its single `_version`. All names have to say
something. -/
def IsVersionObject (cs : List Char) (n : Int64) : Prop :=
  ∃ ms, IsObject ms cs ∧ (∀ m ∈ ms, ∃ t, Says m.1 t) ∧ SingleVersion ms n

/-- A body that tells a version, but for white space around it: the number in decimal, or an object
with the number as its single `_version`. -/
inductive IsVersion (body : String) (n : Int64) : Prop
  | numeral (isDecimal : Numeral.IsDecimal (Text.trim body).toList n.toInt)
  | object (isObject : IsVersionObject (Text.trim body).toList n)

/-- A body that is a list of nothing but the number, but for white space around it. -/
def IsVersionList (body : String) (n : Int64) : Prop := IsList [written n] (Text.trim body).toList

/-! ## The record form -/

theorem fitsInt_toInt (n : Int64) : fitsInt n.toInt = true := by
  have hrange := toInt_bounds n
  simp only [fitsInt, Bool.and_eq_true, decide_eq_true_eq]
  omega

theorem int64?_eq_some_iff {j : Json} {n : Int64} : j.int64? = some n ↔ j = .int n.toInt := by
  constructor
  · intro h
    cases j with
    | int k =>
      rw [Json.int64?] at h
      split at h
      · rename_i hrange
        rw [← Option.some.inj h, Int64.toInt_ofInt_of_le hrange.1 hrange.2]
      · cases h
    | _ => cases h
  · rintro rfl
    exact int64?_ofInt64 n

/-- The value is that number just if it is what is written. -/
theorem tells_int64? {v : List Char} {j : Json} (h : Tells v j) (n : Int64) :
    j.int64? = some n ↔ v = written n := by
  rw [int64?_eq_some_iff, h, written]
  exact and_iff_right (fitsInt_toInt n)

/-- An object gives the number that its only field of the name `_version` holds. -/
theorem versionOfJson?_obj {fields : List (String × Json)} {n : Int64} :
    versionOfJson? (.obj fields) = some n ↔
      ∃ before value after, fields = before ++ ("_version", value) :: after ∧
        value.int64? = some n ∧ ∀ f ∈ before ++ after, f.1 ≠ "_version" := by
  constructor
  · intro h
    simp only [versionOfJson?, Option.bind_eq_bind, Option.bind_eq_some_iff, Json.record?] at h
    obtain ⟨r, hr, hrequired⟩ := h
    split at hr
    · rename_i hcount
      obtain rfl := Option.some.inj hr
      rw [Record.required, slotOf] at hrequired
      cases hfind : fields.find? (·.1 == "_version") with
      | none => rw [hfind] at hrequired; cases hrequired
      | some f =>
        rw [hfind] at hrequired
        obtain ⟨hname, before, after, rfl, hbefore⟩ := List.find?_eq_some_iff_append.1 hfind
        obtain ⟨name, value⟩ := f
        obtain rfl : name = "_version" := by simpa using hname
        refine ⟨before, value, after, rfl, hrequired, ?_⟩
        have hafter : after.countP (·.1 == "_version") = 0 := by
          simp only [List.all_cons, List.all_nil, Bool.and_true, decide_eq_true_eq,
            List.countP_append, List.countP_cons, beq_self_eq_true, if_true] at hcount
          omega
        intro f hf
        rcases List.mem_append.1 hf with hf | hf
        · simpa using hbefore f hf
        · simpa using List.countP_eq_zero.1 hafter f hf
    · cases hr
  · rintro ⟨before, value, after, rfl, hvalue, hothers⟩
    have hbefore : ∀ f ∈ before, ¬ (f.1 == "_version") = true := fun f hf => by
      simpa using hothers f (List.mem_append_left _ hf)
    have hafter : ∀ f ∈ after, ¬ (f.1 == "_version") = true := fun f hf => by
      simpa using hothers f (List.mem_append_right _ hf)
    have hcount : (before ++ ("_version", value) :: after).countP (·.1 == "_version") ≤ 1 := by
      rw [List.countP_append, List.countP_cons, List.countP_eq_zero.2 hbefore,
        List.countP_eq_zero.2 hafter]
      simp
    have hfind : (before ++ ("_version", value) :: after).find? (·.1 == "_version") =
        some ("_version", value) := by
      rw [List.find?_append, List.find?_eq_none.2 hbefore]
      rfl
    simp only [versionOfJson?, Json.record?, List.all_cons, List.all_nil, Bool.and_true, hcount,
      decide_true, if_true, Option.bind_eq_bind, Option.bind_some, Record.required, slotOf, hfind,
      hvalue]

/-- A list gives the number that is its only item. -/
theorem versionOfJson?_arr {items : List Json} {n : Int64} :
    versionOfJson? (.arr items) = some n ↔ ∃ value, items = [value] ∧ value.int64? = some n := by
  match items with
  | [] => exact ⟨nofun, nofun⟩
  | [value] =>
    have hread : versionOfJson? (.arr [value]) = value.int64? := rfl
    rw [hread]
    exact ⟨fun h => ⟨value, rfl, h⟩, fun ⟨_, hvalue, h⟩ => by cases hvalue; exact h⟩
  | _ :: _ :: _ => exact ⟨nofun, nofun⟩

theorem forall₂_cons_of_append {α β : Type} {R : α → β → Prop} {a : α} {l₁ l₂ : List α}
    {l : List β} (h : List.Forall₂ R (l₁ ++ a :: l₂) l) : ∃ l₁' b l₂', l = l₁' ++ b :: l₂' ∧
      List.Forall₂ R l₁ l₁' ∧ R a b ∧ List.Forall₂ R l₂ l₂' := by
  induction l₁ generalizing l with
  | nil =>
    cases h with
    | cons hab hrest => exact ⟨[], _, _, rfl, .nil, hab, hrest⟩
  | cons x l₁ ih =>
    cases h with
    | cons hx hrest =>
      obtain ⟨l₁', b, l₂', rfl, h₁, hab, h₂⟩ := ih hrest
      exact ⟨_ :: l₁', b, l₂', rfl, .cons hx h₁, hab, h₂⟩

theorem forall_names {ms : List WrittenMember} {fields : List (String × Json)}
    (h : List.Forall₂ TellsPair ms fields) :
    (∀ m ∈ ms, ¬ Says m.1 "_version") ↔ ∀ f ∈ fields, f.1 ≠ "_version" := by
  induction h with
  | nil => exact ⟨nofun, nofun⟩
  | @cons m f ms fields hm _ ih =>
    have hhead : Says m.1 "_version" ↔ f.1 = "_version" :=
      ⟨fun hsaid => hm.1.unique hsaid, fun hname => hname ▸ hm.1⟩
    rw [List.forall_mem_cons, List.forall_mem_cons, hhead, ih]

/-- Members tell a version just if their fields do. -/
theorem versionOfJson?_members {ms : List WrittenMember} {fields : List (String × Json)}
    (h : List.Forall₂ TellsPair ms fields) (n : Int64) :
    versionOfJson? (.obj fields) = some n ↔ SingleVersion ms n := by
  rw [versionOfJson?_obj]
  constructor
  · rintro ⟨before, value, after, rfl, hvalue, hothers⟩
    obtain ⟨before', m, after', rfl, hbefore, hm, hafter⟩ := forall₂_cons_of_append h.flip
    obtain ⟨name, v⟩ := m
    obtain rfl : v = written n := (tells_int64? hm.2 n).1 hvalue
    exact ⟨before', name, after', rfl, hm.1,
      (forall_names (List.rel_append hbefore.flip hafter.flip)).2 hothers⟩
  · rintro ⟨before, name, after, rfl, hname, hothers⟩
    obtain ⟨before', f, after', rfl, hbefore, hf, hafter⟩ := forall₂_cons_of_append h
    obtain ⟨key, value⟩ := f
    obtain rfl : key = "_version" := hf.1.unique hname
    exact ⟨before', value, after', rfl, (tells_int64? hf.2 n).2 rfl,
      (forall_names (List.rel_append hbefore hafter)).1 hothers⟩

/-- The JSON bodies from which a version is read. -/
theorem parse?_bind_versionOfJson? {s : String} {n : Int64} :
    (Json.parse? s).bind versionOfJson? = some n ↔
      IsVersionObject s.toList n ∨ IsList [written n] s.toList := by
  constructor
  · intro h
    obtain ⟨j, hj, hversion⟩ := Option.bind_eq_some_iff.1 h
    cases j with
    | obj fields =>
      obtain ⟨ms, hms, htells⟩ := of_parse?_obj hj
      exact .inl ⟨ms, hms, exists_says htells, (versionOfJson?_members htells n).1 hversion⟩
    | arr items =>
      obtain ⟨vs, hvs, htells⟩ := of_parse?_arr hj
      obtain ⟨value, rfl, hvalue⟩ := versionOfJson?_arr.1 hversion
      obtain ⟨v, hv, rfl⟩ : ∃ v, Tells v value ∧ vs = [v] := by
        cases htells with
        | cons hv hnil =>
          cases hnil
          exact ⟨_, hv, rfl⟩
      rw [(tells_int64? hv n).1 hvalue] at hvs
      exact .inr hvs
    | _ => cases hversion
  · rintro (⟨ms, hms, hsaid, hsingle⟩ | hlist)
    · obtain ⟨fields, hparse, htells⟩ := parse?_eq_obj hms hsaid
      rw [hparse, Option.bind_some]
      exact (versionOfJson?_members htells n).2 hsingle
    · obtain ⟨items, htells, hparse⟩ := parse?_list hlist
      obtain ⟨value, rfl, hvalue⟩ : ∃ value, items = [value] ∧ Tells (written n) value := by
        cases htells with
        | cons hv hnil =>
          cases hnil
          exact ⟨_, rfl, hv⟩
      rw [hparse, Option.bind_some]
      exact versionOfJson?_arr.2 ⟨value, rfl, (tells_int64? hvalue n).2 rfl⟩

/-! ## Both forms -/

/-- A text with this character is no numeral. -/
theorem int64?_eq_none {s : String} {c : Char} (hc : c ∈ s.toList)
    (hno : c.isDigit = false ∧ c ≠ '+' ∧ c ≠ '-') : Numeral.int64? s = none := by
  cases h : Numeral.int64? s with
  | none => rfl
  | some n =>
    rcases (Numeral.int64?_eq_some_iff.1 h).mem hc with hdigit | hsign
    · rw [hno.1] at hdigit
      cases hdigit
    · exact absurd hsign (not_or.2 hno.2)

theorem brace_mem {ms : List WrittenMember} {cs : List Char} (h : IsObject ms cs) : '{' ∈ cs := by
  cases h <;> simp

theorem bracket_mem {vs : List (List Char)} {cs : List Char} (h : IsList vs cs) : '[' ∈ cs := by
  cases h <;> simp

/-- The bodies from which a version is read. -/
theorem version?_eq_some_iff {body : String} {n : Int64} :
    version? body = some n ↔ IsVersion body n ∨ IsVersionList body n := by
  have hjson := parse?_bind_versionOfJson? (s := Text.trim body) (n := n)
  simp only [version?]
  constructor
  · intro h
    rcases Option.or_eq_some_iff.1 h with hnumeral | ⟨-, hrecord⟩
    · exact .inl (.numeral (Numeral.int64?_eq_some_iff.1 hnumeral))
    · rcases hjson.1 hrecord with hobject | hlist
      · exact .inl (.object hobject)
      · exact .inr hlist
  · rintro ((hnumeral | hobject) | hlist)
    · rw [Numeral.int64?_eq_some_iff.2 hnumeral, Option.some_or]
    · obtain ⟨ms, hms, hsaid, hsingle⟩ := hobject
      rw [int64?_eq_none (brace_mem hms) (by decide), Option.none_or]
      exact hjson.2 (.inl ⟨ms, hms, hsaid, hsingle⟩)
    · rw [int64?_eq_none (bracket_mem hlist) (by decide), Option.none_or]
      exact hjson.2 (.inr hlist)

/-- A body with two of the forms would have two readings. -/
theorem IsVersionList.not_isVersion {body : String} {n m : Int64} (h : IsVersionList body n) :
    ¬ IsVersion body m := by
  rintro (hnumeral | ⟨ms, hms, -⟩)
  · have hnone := int64?_eq_none (bracket_mem h) (by decide)
    rw [Numeral.int64?_eq_some_iff.2 hnumeral] at hnone
    cases hnone
  · obtain ⟨read, -, hobject⟩ := parse?_object hms
    obtain ⟨items, -, hlist⟩ := parse?_list h
    rw [hobject] at hlist
    have hopening := opening?_ofReadFields (congrArg opening? (Option.some.inj hlist))
    cases hopening

/-! ## Versions as they are written -/

/-- White space is dropped up to a text that does not begin with any. -/
theorem dropWhile_isBlank {blank text : List Char} {c : Char}
    (hblank : ∀ d ∈ blank, Text.isBlank d = true) (hhead : text.head? = some c)
    (hc : Text.isBlank c = false) (rest : List Char) :
    (blank ++ (text ++ rest)).dropWhile Text.isBlank = text ++ rest := by
  cases text with
  | nil => cases hhead
  | cons d text =>
    obtain rfl : d = c := Option.some.inj hhead
    rw [List.dropWhile_append_of_pos hblank, List.cons_append, List.dropWhile_cons_of_neg]
    rw [hc]
    exact Bool.false_ne_true

/-- White space around a text is dropped. -/
theorem trim_append {before text after : String} {c d : Char}
    (hblank : ∀ c ∈ before.toList ++ after.toList, Text.isBlank c = true)
    (hhead : text.toList.head? = some c) (hlast : text.toList.reverse.head? = some d)
    (hends : Text.isBlank c = false ∧ Text.isBlank d = false) :
    Text.trim (before ++ text ++ after) = text := by
  have hbefore : ∀ c ∈ before.toList, Text.isBlank c = true :=
    fun c hc => hblank c (List.mem_append_left _ hc)
  have hafter : ∀ c ∈ after.toList.reverse, Text.isBlank c = true :=
    fun c hc => hblank c (List.mem_append_right _ (List.mem_reverse.1 hc))
  have hback := dropWhile_isBlank hafter hlast hends.2 []
  rw [List.append_nil] at hback
  rw [Text.trim, Text.trimChars, String.toList_append, String.toList_append, List.append_assoc,
    dropWhile_isBlank hbefore hhead hends.1, List.reverse_append, hback, List.reverse_reverse,
    String.ofList_toList]

/-- The number in decimal, with white space around it, tells it. -/
theorem isVersion_numeral {before after : String}
    (hblank : ∀ c ∈ before.toList ++ after.toList, Text.isBlank c = true) (n : Int64) :
    IsVersion (before ++ toString n.toInt ++ after) n := by
  have htrim : Text.trim (before ++ toString n.toInt ++ after) = toString n.toInt := by
    have hne : (toString n.toInt).toList ≠ [] := by
      intro hnil
      have hread := Numeral.int?_toString n.toInt
      rw [hnil] at hread
      cases hread
    have hc := List.head?_eq_some_head hne
    have hd := List.head?_eq_some_head (mt List.reverse_eq_nil_iff.1 hne)
    exact trim_append hblank hc hd
      ⟨isBlank_of_mem_toString (List.mem_of_mem_head? hc),
        isBlank_of_mem_toString (List.mem_reverse.1 (List.mem_of_mem_head? hd))⟩
  refine .numeral ?_
  rw [htrim]
  exact Numeral.int?_eq_some_iff.1 (Numeral.int?_toString n.toInt)

theorem isText_written (n : Int64) : IsText (written n) := by
  obtain ⟨v, hv, hnumber, -⟩ := of_readNumber (readNumber_toString (fitsInt_toInt n))
  rw [written, hv, List.append_nil]
  exact .number hnumber

/-- So does an object of nothing but the number. -/
theorem isVersion_record {before after : String}
    (hblank : ∀ c ∈ before.toList ++ after.toList, Text.isBlank c = true) (n : Int64) :
    IsVersion (before ++ ("\x7b\"_version\":" ++ toString n.toInt ++ "\x7d") ++ after) n := by
  have hchars : ("\x7b\"_version\":" ++ toString n.toInt ++ "\x7d").toList =
      '{' :: ('"' :: "_version".toList ++ '"' :: ':' :: written n) ++ ['}'] := by
    rw [String.toList_append, String.toList_append]
    rfl
  refine .object ?_
  rw [trim_append hblank (c := '{') (d := '}') (by rw [hchars]; rfl) (by rw [hchars]; simp)
    (by decide), hchars]
  have hplain : "_version".toList.all (fun c => c ≠ '"' ∧ c ≠ '\\' ∧ ¬ c.toNat < 0x20) = true := by
    decide
  obtain ⟨ps, hparts, hmeans⟩ := says_toList fun c hc => by
    simpa using List.all_eq_true.1 hplain c hc
  have hmembers : Members [("_version".toList, written n)] _ :=
    .last isGap_nil hparts isGap_nil isGap_nil (isText_written n) isGap_nil
  have hsaid : Says "_version".toList "_version" := ⟨ps, hparts, hmeans⟩
  refine ⟨_, ?_, ?_, [], _, [], rfl, hsaid, nofun⟩
  · have hobject := IsObject.members isGap_nil hmembers isGap_nil
    simpa using hobject
  · intro m hm
    obtain rfl := List.mem_singleton.1 hm
    exact ⟨_, hsaid⟩

/-! ## Asking for the version -/

/-- What an answer that is no refusal tells. -/
def IsReadAs (body : String) (n : Int64) : Prop := IsVersion body n ∨ IsVersionList body n

namespace Client
open SessionM

/-- Reading the version gives a number just if the body of the answer is one of the forms of it,
and else an error with the body that was trimmed. A list is none of the forms that are meant, and
each number is told in both of these, with any white space around it. -/
theorem version_told (c : Client) (s : Session) {status : Nat}
    (hok : isSuccess status = true) :
    (∀ body r s', Conduct c.version s [⟨versionRequest, .answered status body⟩] r s' ↔
      s' = s ∧ ((∃ n, IsReadAs body n ∧ r = .ok n) ∨
        ((∀ n, ¬ IsReadAs body n) ∧ r = .error (.versionParse (Text.trim body))))) ∧
    (∀ body n m, IsReadAs body n → IsReadAs body m → n = m) ∧
    (∀ body n m, IsVersionList body n → ¬ IsVersion body m) ∧
    ∀ before after : String, (∀ x ∈ before.toList ++ after.toList, Text.isBlank x = true) →
      ∀ n : Int64, IsVersion (before ++ toString n.toInt ++ after) n ∧
        IsVersion (before ++ ("\x7b\"_version\":" ++ toString n.toInt ++ "\x7d") ++ after) n := by
  have hread (body : String) (n : Int64) : version? body = some n ↔ IsReadAs body n :=
    version?_eq_some_iff
  refine ⟨fun body r s' => ?_, fun body n m hn hm => ?_, fun body n m h => h.not_isVersion,
    fun before after hblank n => ⟨isVersion_numeral hblank n, isVersion_record hblank n⟩⟩
  · have hconduct : Conduct c.version s [⟨versionRequest, .answered status body⟩] r s' ↔
        r = versionIn ⟨status, body⟩ ∧ s' = s := by
      rw [conduct_version]
      constructor
      · rintro ⟨reply, hsent, hr, hs⟩
        cases hsent
        exact ⟨hr, hs⟩
      · rintro ⟨hr, hs⟩
        exact ⟨_, rfl, hr, hs⟩
    have hsuccess : Response.isSuccess ⟨status, body⟩ = true := hok
    rw [hconduct, versionIn, if_pos hsuccess, and_comm]
    refine and_congr_right fun _ => ?_
    cases hversion : version? body with
    | some n =>
      constructor
      · exact fun hr => .inl ⟨n, (hread body n).1 hversion, hr⟩
      · rintro (⟨m, hm, rfl⟩ | ⟨hnone, -⟩)
        · rw [(hread body m).2 hm] at hversion
          rw [Option.some.inj hversion]
        · exact absurd ((hread body n).1 hversion) (hnone n)
    | none =>
      have hnone (n : Int64) : ¬ IsReadAs body n := by
        rw [← hread, hversion]
        nofun
      constructor
      · exact fun hr => .inr ⟨hnone, hr⟩
      · rintro (⟨m, hm, -⟩ | ⟨-, hr⟩)
        · exact absurd hm (hnone m)
        · exact hr
  · rw [← hread] at hn hm
    rw [hn] at hm
    exact Option.some.inj hm

/-- A case of it: a record with white space around it. -/
theorem version_told_record :
    let c := onThisHost 5555 "admin" "secret"
    isSuccess 200 = true ∧
    Conduct c.version .fresh [⟨versionRequest, .answered 200 " \x7b\"_version\":42\x7d\n"⟩]
      (.ok 42) .fresh := by
  intro c
  have htold := version_told c .fresh (show isSuccess 200 = true by decide)
  have hform := (htold.2.2.2 " " "\n" (List.all_eq_true.1 (by decide)) 42).2
  have hbody : " " ++ ("\x7b\"_version\":" ++ toString (42 : Int64).toInt ++ "\x7d") ++ "\n" =
      " \x7b\"_version\":42\x7d\n" := by decide
  rw [hbody] at hform
  exact ⟨by decide, (htold.1 _ _ _).2 ⟨rfl, .inl ⟨42, .inl hform, rfl⟩⟩⟩

/-- A list of one number is taken for a version, although it is none of the forms that are
meant. -/
theorem list_read_as_version :
    let c := onThisHost 5555 "admin" "secret"
    Conduct c.version .fresh [⟨versionRequest, .answered 200 "[5]"⟩] (.ok 5) .fresh ∧
    ¬ IsVersion "[5]" 5 := by
  intro c
  have hlist : IsVersionList "[5]" 5 := by
    have hitems := IsList.items isGap_nil (.last isGap_nil (isText_written 5) isGap_nil) isGap_nil
    have hchars : (Text.trim "[5]").toList = '[' :: written 5 ++ [']'] := by decide
    rw [IsVersionList, hchars]
    simpa using hitems
  have hversion : version? "[5]" = some 5 := version?_eq_some_iff.2 (.inr hlist)
  have hread : versionIn ⟨200, "[5]"⟩ = .ok 5 := by
    rw [versionIn, if_pos (by decide), hversion]
  exact ⟨conduct_version.2 ⟨_, rfl, hread.symm, rfl⟩, hlist.not_isVersion⟩

end Client
end ProxySync.DataPlane
