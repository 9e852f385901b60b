import Mathlib.Data.List.Forall2
import ProxySync.Proofs.Json.Grammar
/-!
# The reader of JSON recognizes its grammar

What is read as a value is the text of one, and every text of a value is read. An object is read
with the members that are written, a list with its items.

## Main definitions

* `Json.IsObject`, `Json.IsList`: whole texts that are an object or a list.
* `Json.Tells`: the value read is an integer just if that integer is written.

## Main statements

* `Json.of_readValue`, `Json.readValue_text`: the reader of values and the grammar.
* `Json.of_parse?_obj`, `Json.parse?_object`: which texts are read as objects, and with what fields.
-/
namespace ProxySync.Json
variable {cs rest : List Char}

/-! ## What is read is in the grammar -/

-- The fuel goes down with every call, so the induction is on it.
mutual

/-- What is read as a value is the text of one, behind white space. -/
theorem of_readValue {fuel room : Nat} {cs rest : List Char} {j : Json}
    (h : readValue fuel room cs = some (j, rest)) :
    ∃ gap v, cs = gap ++ v ++ rest ∧ IsGap gap ∧ IsText v := by
  cases fuel with
  | zero => cases h
  | succ fuel =>
    suffices hbody : ∃ v, skipGap cs = v ++ rest ∧ IsText v by
      obtain ⟨v, hv, hvalue⟩ := hbody
      obtain ⟨gap, hgap, hcs⟩ := exists_gap cs
      exact ⟨gap, v, by rw [List.append_assoc, ← hv, ← hcs], hgap, hvalue⟩
    rw [readValue] at h
    generalize skipGap cs = body at h ⊢
    split at h
    · rename_i inner
      simp only [Option.bind_eq_bind, Option.bind_eq_some_iff] at h
      obtain ⟨⟨s, r⟩, hstring, hdone⟩ := h
      cases hdone
      obtain ⟨text, ps, rfl, hparts⟩ := of_readString hstring
      exact ⟨_, by simp, .string hparts⟩
    · rename_i inner
      split at h
      · rename_i r hclose
        cases h
        obtain ⟨gap, hgap, hinner⟩ := exists_gap inner
        rw [hclose] at hinner
        exact ⟨_, by rw [hinner]; simp, .noItems hgap⟩
      · simp only [Option.bind_eq_bind, Option.bind_eq_some_iff] at h
        obtain ⟨⟨js, r⟩, hitems, hdone⟩ := h
        cases hdone
        obtain ⟨vs, text, rfl, hvs⟩ := of_readItems hitems
        exact ⟨_, by simp, .list hvs⟩
    · rename_i inner
      split at h
      · rename_i r hclose
        cases h
        obtain ⟨gap, hgap, hinner⟩ := exists_gap inner
        rw [hclose] at hinner
        exact ⟨_, by rw [hinner]; simp, .noMembers hgap⟩
      · simp only [Option.bind_eq_bind, Option.bind_eq_some_iff] at h
        obtain ⟨⟨fields, r⟩, hfields, hdone⟩ := h
        cases hdone
        obtain ⟨ms, text, rfl, hms⟩ := of_readFields hfields
        exact ⟨_, by simp, .object hms⟩
    · cases h
      exact ⟨_, rfl, .null⟩
    · cases h
      exact ⟨_, rfl, .yes⟩
    · cases h
      exact ⟨_, rfl, .no⟩
    · obtain ⟨v, rfl, hnumber, -⟩ := of_readNumber h
      exact ⟨v, rfl, .number hnumber⟩

theorem of_readItems {fuel room : Nat} {cs rest : List Char} {js : List Json}
    (h : readItems fuel room cs = some (js, rest)) :
    ∃ vs body, cs = body ++ ']' :: rest ∧ Items vs body := by
  cases fuel with
  | zero => cases h
  | succ fuel =>
    rw [readItems] at h
    simp only [Option.bind_eq_bind, Option.bind_eq_some_iff] at h
    obtain ⟨⟨j, after⟩, hvalue, h⟩ := h
    obtain ⟨gap, v, rfl, hgap, hv⟩ := of_readValue hvalue
    obtain ⟨gap', hgap', hafter⟩ := exists_gap after
    split at h
    · rename_i tail hcomma
      simp only [Option.bind_eq_some_iff] at h
      obtain ⟨⟨js', r⟩, hitems, hdone⟩ := h
      cases hdone
      obtain ⟨vs, body, rfl, hvs⟩ := of_readItems hitems
      rw [hcomma] at hafter
      exact ⟨_, _, by rw [hafter]; simp [List.append_assoc], .cons hgap hv hgap' hvs⟩
    · rename_i tail hclose
      cases h
      rw [hclose] at hafter
      exact ⟨_, _, by rw [hafter]; simp [List.append_assoc], .last hgap hv hgap'⟩
    · cases h

theorem of_readFields {fuel room : Nat} {cs rest : List Char}
    {fields : List (Option String × Json)} (h : readFields fuel room cs = some (fields, rest)) :
    ∃ ms body, cs = body ++ '}' :: rest ∧ Members ms body := by
  cases fuel with
  | zero => cases h
  | succ fuel =>
    obtain ⟨gap, hgap, hcs⟩ := exists_gap cs
    rw [readFields] at h
    split at h
    · rename_i inner hquote
      rw [hquote] at hcs
      simp only [Option.bind_eq_bind, Option.bind_eq_some_iff] at h
      obtain ⟨⟨key, after⟩, hstring, h⟩ := h
      obtain ⟨k, ps, rfl, hparts⟩ := of_readString hstring
      obtain ⟨gap₁, hgap₁, hafter⟩ := exists_gap after
      split at h
      · rename_i behind hcolon
        rw [hcolon] at hafter
        simp only [Option.bind_eq_some_iff] at h
        obtain ⟨⟨j, last⟩, hvalue, h⟩ := h
        obtain ⟨gap₂, v, rfl, hgap₂, hv⟩ := of_readValue hvalue
        obtain ⟨gap', hgap', hlast⟩ := exists_gap last
        split at h
        · rename_i tail hcomma
          simp only [Option.bind_eq_some_iff] at h
          obtain ⟨⟨fields', r⟩, hfields, hdone⟩ := h
          cases hdone
          obtain ⟨ms, body, rfl, hms⟩ := of_readFields hfields
          rw [hcomma] at hlast
          refine ⟨_, _, ?_, .cons hgap hparts hgap₁ hgap₂ hv hgap' hms⟩
          rw [hcs, hafter, hlast]
          simp [List.append_assoc]
        · rename_i tail hclose
          cases h
          rw [hclose] at hlast
          refine ⟨_, _, ?_, .last hgap hparts hgap₁ hgap₂ hv hgap'⟩
          rw [hcs, hafter, hlast]
          simp [List.append_assoc]
        · cases h
      · cases h
    · cases h

end

/-! ## What is in the grammar is read -/

/-- The value is an integer just if the text is that of one. -/
def Tells (v : List Char) (j : Json) : Prop :=
  ∀ n, j = .int n ↔ fitsInt n = true ∧ v = (toString n).toList

/-- The name of the field is what the member's name says, and its value what is written there. -/
def TellsField (m : WrittenMember) (f : Option String × Json) : Prop :=
  (∀ t, f.1 = some t ↔ Says m.1 t) ∧ Tells m.2 f.2

/-- A text that begins otherwise than a number tells no integer. -/
theorem tells_of_head {c : Char} {j : Json} (hdigit : c.isDigit = false) (hminus : c ≠ '-')
    (hj : ∀ n, j ≠ .int n) (cs : List Char) : Tells (c :: cs) j := by
  refine fun n => ⟨fun h => absurd h (hj n), fun ⟨hfits, htext⟩ => ?_⟩
  have hread := readNumber_toString hfits
  rw [← htext] at hread
  rcases head_of_readNumber hread with hc | hc
  · rw [hdigit] at hc
    cases hc
  · exact absurd hc hminus

theorem ifRoom_ne_int {room : Nat} {j : Json} (hj : ∀ n, j ≠ .int n) (n : Int) :
    ifRoom room j ≠ .int n := by
  rw [ifRoom]
  split
  · exact Json.noConfusion
  · exact hj n

theorem ofReadFields_ne_int (fields : List (Option String × Json)) (n : Int) :
    ofReadFields fields ≠ .int n := by
  rw [ofReadFields]
  split <;> exact Json.noConfusion

theorem isGap_of_isDigit {c : Char} (hc : c.isDigit = true ∨ c = '-') :
    isGap c = false ∧ c ≠ ']' := by
  rcases hc with hc | rfl
  · refine ⟨?_, by rintro rfl; cases hc⟩
    simp only [isGap, Bool.or_eq_false_iff, beq_eq_false_iff_ne]
    refine ⟨⟨⟨?_, ?_⟩, ?_⟩, ?_⟩ <;> (rintro rfl; cases hc)
  · exact ⟨rfl, by decide⟩

/-- The text of a value begins neither with white space nor with a closing bracket. -/
theorem IsText.eq_cons {v : List Char} (h : IsText v) :
    ∃ c cs, v = c :: cs ∧ isGap c = false ∧ c ≠ ']' := by
  cases h with
  | number number =>
    obtain ⟨j, hread⟩ := readNumber_text number
    cases v with
    | nil => cases hread
    | cons c cs => exact ⟨c, cs, rfl, isGap_of_isDigit (head_of_readNumber hread)⟩
  | _ => exact ⟨_, _, rfl, rfl, by decide⟩

theorem endsNumber_of_isGap {gap : List Char} (h : IsGap gap) : EndsNumber gap := by
  cases gap with
  | nil => exact endsNumber_nil
  | cons g gap =>
    have hg : isGap g = true := h g List.mem_cons_self
    simp only [isGap, Bool.or_eq_true, beq_iff_eq] at hg
    refine endsNumber_cons ?_
    rcases hg with ((rfl | rfl) | rfl) | rfl <;> rfl

theorem endsNumber_append {front : List Char} (hfront : EndsNumber front)
    (hrest : EndsNumber rest) : EndsNumber (front ++ rest) := by
  cases front with
  | nil => exact hrest
  | cons c front => exact endsNumber_cons (hfront c rfl)

/-- White space and what comes after it are no part of a number. -/
theorem endsNumber_gap {gap : List Char} (h : IsGap gap) {c : Char} (hc : isNumberChar c = false)
    (cs : List Char) : EndsNumber (gap ++ c :: cs) :=
  endsNumber_append (endsNumber_of_isGap h) (endsNumber_cons hc)

/-- Items do not begin as an empty list ends. -/
theorem Items.head_ne {vs : List (List Char)} (h : Items vs cs) (rest : List Char) :
    (skipGap (cs ++ rest)).head? ≠ some ']' := by
  cases h with
  | last hgap hv | cons hgap hv =>
    obtain ⟨c, v, rfl, hc, hclose⟩ := hv.eq_cons
    simp only [List.append_assoc, skipGap_append hgap, List.cons_append]
    rw [skipGap_cons hc]
    simpa using hclose

/-- Members do not begin as an empty object ends. -/
theorem Members.head_ne {ms : List WrittenMember} (h : Members ms cs) (rest : List Char) :
    (skipGap (cs ++ rest)).head? ≠ some '}' := by
  cases h with
  | last hgap | cons hgap =>
    simp only [List.append_assoc, skipGap_append hgap, List.cons_append]
    rw [skipGap_cons rfl, List.head?_cons]
    decide

/-- A list that has items is read item by item. -/
theorem readValue_list {vs : List (List Char)} (h : Items vs cs) (fuel room : Nat) :
    readValue (fuel + 1) room ('[' :: (cs ++ ']' :: rest)) =
      (readItems fuel (room - 1) (cs ++ ']' :: rest)).map fun p =>
        (ifRoom room (.arr p.1), p.2) := by
  rw [readValue, skipGap_cons rfl]
  simp only
  split
  · rename_i hclose
    exact absurd (by rw [hclose]; rfl) (h.head_ne (']' :: rest))
  · cases readItems fuel (room - 1) (cs ++ ']' :: rest) <;> rfl

/-- An object that has members is read member by member. -/
theorem readValue_object {ms : List WrittenMember} (h : Members ms cs) (fuel room : Nat) :
    readValue (fuel + 1) room ('{' :: (cs ++ '}' :: rest)) =
      (readFields fuel (room - 1) (cs ++ '}' :: rest)).map fun p =>
        (ifRoom room (ofReadFields p.1), p.2) := by
  rw [readValue, skipGap_cons rfl]
  simp only
  split
  · rename_i hclose
    exact absurd (by rw [hclose]; rfl) (h.head_ne ('}' :: rest))
  · cases readFields fuel (room - 1) (cs ++ '}' :: rest) <;> rfl

-- The fuel covers the length of what is still to be read, and the induction is on it.
mutual

/-- The text of a value is read as one. -/
theorem readValue_text {fuel : Nat} (room : Nat) {v rest : List Char} (h : IsText v)
    (hrest : EndsNumber rest) (hfuel : v.length ≤ fuel) :
    ∃ j, readValue fuel room (v ++ rest) = some (j, rest) ∧ Tells v j := by
  obtain ⟨fuel, rfl⟩ : ∃ n, fuel = n + 1 := by
    obtain ⟨c, cs, rfl, -⟩ := h.eq_cons
    rw [List.length_cons] at hfuel
    exact ⟨fuel - 1, by omega⟩
  cases h with
  | null => exact ⟨.null, rfl, tells_of_head (by decide) (by decide) (fun _ => Json.noConfusion) _⟩
  | yes =>
    exact ⟨.bool true, rfl, tells_of_head (by decide) (by decide) (fun _ => Json.noConfusion) _⟩
  | no =>
    exact ⟨.bool false, rfl, tells_of_head (by decide) (by decide) (fun _ => Json.noConfusion) _⟩
  | number number =>
    obtain ⟨j, hread⟩ := readNumber_text number
    refine ⟨j, readValue_of_readNumber hread hrest, fun n => ?_⟩
    rw [← readNumber_eq_int_iff, hread]
    simp
  | string parts =>
    obtain ⟨s, hread, -⟩ := readString_parts parts rest
    refine ⟨(s.map Json.str).getD .illFormed, ?_,
      tells_of_head (by decide) (by decide) (fun _ => by cases s <;> exact Json.noConfusion) _⟩
    simp only [List.append_assoc, List.cons_append, List.nil_append]
    rw [readValue, skipGap_cons rfl]
    simp [hread]
  | noItems hgap =>
    refine ⟨ifRoom room (.arr []), ?_,
      tells_of_head (by decide) (by decide) (ifRoom_ne_int fun _ => Json.noConfusion) _⟩
    simp only [List.append_assoc, List.cons_append, List.nil_append]
    rw [readValue, skipGap_cons rfl]
    simp [skipGap_append hgap, skipGap_cons (c := ']') rfl]
  | @list vs cs items =>
    have hlen : cs.length < fuel := by
      simp only [List.length_append, List.length_cons, List.length_nil] at hfuel
      omega
    obtain ⟨js, hread, -⟩ := readItems_text (room - 1) rest items hlen
    refine ⟨ifRoom room (.arr js), ?_,
      tells_of_head (by decide) (by decide) (ifRoom_ne_int fun _ => Json.noConfusion) _⟩
    simp only [List.append_assoc, List.cons_append, List.nil_append]
    rw [readValue_list items, hread]
    rfl
  | noMembers hgap =>
    refine ⟨ifRoom room (.obj []), ?_,
      tells_of_head (by decide) (by decide) (ifRoom_ne_int fun _ => Json.noConfusion) _⟩
    simp only [List.append_assoc, List.cons_append, List.nil_append]
    rw [readValue, skipGap_cons rfl]
    simp [skipGap_append hgap, skipGap_cons (c := '}') rfl]
  | @object ms cs members =>
    have hlen : cs.length < fuel := by
      simp only [List.length_append, List.length_cons, List.length_nil] at hfuel
      omega
    obtain ⟨fields, hread, -⟩ := readFields_text (room - 1) rest members hlen
    refine ⟨ifRoom room (ofReadFields fields), ?_,
      tells_of_head (by decide) (by decide) (ifRoom_ne_int (ofReadFields_ne_int _)) _⟩
    simp only [List.append_assoc, List.cons_append, List.nil_append]
    rw [readValue_object members, hread]
    rfl

theorem readItems_text {fuel : Nat} (room : Nat) {vs : List (List Char)} {cs : List Char}
    (rest : List Char) (h : Items vs cs) (hfuel : cs.length < fuel) :
    ∃ js, readItems fuel room (cs ++ ']' :: rest) = some (js, rest) ∧ List.Forall₂ Tells vs js := by
  obtain ⟨fuel, rfl⟩ : ∃ n, fuel = n + 1 := ⟨fuel - 1, by omega⟩
  cases h with
  | @last v gap gap' hgap hv hgap' =>
    simp only [List.length_append] at hfuel
    have hlen : v.length ≤ fuel := by omega
    obtain ⟨j, hread, htells⟩ := readValue_text room hv
      (endsNumber_gap hgap' (c := ']') (by decide) rest) hlen
    refine ⟨[j], ?_, .cons htells .nil⟩
    simp only [List.append_assoc]
    rw [readItems, readValue_gap hgap, hread]
    simp [skipGap_append hgap', skipGap_cons (c := ']') rfl]
  | @cons v gap gap' vs cs hgap hv hgap' items =>
    simp only [List.length_append, List.length_cons] at hfuel
    have hlen : v.length ≤ fuel ∧ cs.length < fuel := by omega
    obtain ⟨j, hread, htells⟩ := readValue_text room hv
      (endsNumber_gap hgap' (c := ',') (by decide) (cs ++ ']' :: rest)) hlen.1
    obtain ⟨js, hreads, hall⟩ := readItems_text room rest items hlen.2
    refine ⟨j :: js, ?_, .cons htells hall⟩
    simp only [List.append_assoc, List.cons_append]
    rw [readItems, readValue_gap hgap, hread]
    simp [skipGap_append hgap', skipGap_cons (c := ',') rfl, hreads]

theorem readFields_text {fuel : Nat} (room : Nat) {ms : List WrittenMember} {cs : List Char}
    (rest : List Char) (h : Members ms cs) (hfuel : cs.length < fuel) :
    ∃ fields, readFields fuel room (cs ++ '}' :: rest) = some (fields, rest) ∧
      List.Forall₂ TellsField ms fields := by
  obtain ⟨fuel, rfl⟩ : ∃ n, fuel = n + 1 := ⟨fuel - 1, by omega⟩
  cases h with
  | @last k v gap gap₁ gap₂ gap' ps hgap parts hgap₁ hgap₂ hv hgap' =>
    simp only [List.length_append, List.length_cons] at hfuel
    obtain ⟨s, hkey, hsaid⟩ :=
      readString_parts parts (gap₁ ++ ':' :: (gap₂ ++ (v ++ (gap' ++ '}' :: rest))))
    have hlen : v.length ≤ fuel := by omega
    obtain ⟨j, hread, htells⟩ := readValue_text room hv
      (endsNumber_gap hgap' (c := '}') (by decide) rest) hlen
    refine ⟨[(s, j)], ?_, .cons ⟨hsaid, htells⟩ .nil⟩
    simp only [List.append_assoc, List.cons_append]
    rw [readFields, skipGap_append hgap, skipGap_cons rfl]
    simp [hkey, skipGap_append hgap₁, skipGap_cons (c := ':') rfl, readValue_gap hgap₂, hread,
      skipGap_append hgap', skipGap_cons (c := '}') rfl]
  | @cons k v gap gap₁ gap₂ gap' ps ms cs hgap parts hgap₁ hgap₂ hv hgap' members =>
    simp only [List.length_append, List.length_cons] at hfuel
    obtain ⟨s, hkey, hsaid⟩ := readString_parts parts
      (gap₁ ++ ':' :: (gap₂ ++ (v ++ (gap' ++ ',' :: (cs ++ '}' :: rest)))))
    have hlen : v.length ≤ fuel ∧ cs.length < fuel := by omega
    obtain ⟨j, hread, htells⟩ := readValue_text room hv
      (endsNumber_gap hgap' (c := ',') (by decide) (cs ++ '}' :: rest)) hlen.1
    obtain ⟨fields, hreads, hall⟩ := readFields_text room rest members hlen.2
    refine ⟨(s, j) :: fields, ?_, .cons ⟨hsaid, htells⟩ hall⟩
    simp only [List.append_assoc, List.cons_append]
    rw [readFields, skipGap_append hgap, skipGap_cons rfl]
    simp [hkey, skipGap_append hgap₁, skipGap_cons (c := ':') rfl, readValue_gap hgap₂, hread,
      skipGap_append hgap', skipGap_cons (c := ',') rfl, hreads]

end

/-! ## Whole texts -/

/-- The text of an object with these members, and white space around it. -/
inductive IsObject : List WrittenMember → List Char → Prop
  | empty {gap body gap' : List Char} (isGap : IsGap gap) (isGap_body : IsGap body)
      (isGap' : IsGap gap') : IsObject [] (gap ++ ('{' :: body ++ ['}']) ++ gap')
  | members {gap body gap' : List Char} {ms : List WrittenMember} (isGap : IsGap gap)
      (members : Members ms body) (isGap' : IsGap gap') :
      IsObject ms (gap ++ ('{' :: body ++ ['}']) ++ gap')

/-- The text of a list with these items, and white space around it. -/
inductive IsList : List (List Char) → List Char → Prop
  | empty {gap body gap' : List Char} (isGap : IsGap gap) (isGap_body : IsGap body)
      (isGap' : IsGap gap') : IsList [] (gap ++ ('[' :: body ++ [']']) ++ gap')
  | items {gap body gap' : List Char} {vs : List (List Char)} (isGap : IsGap gap)
      (items : Items vs body) (isGap' : IsGap gap') :
      IsList vs (gap ++ ('[' :: body ++ [']']) ++ gap')

/-- The name of the field is what the member's name says, and its value what is written there. -/
def TellsPair (m : WrittenMember) (f : String × Json) : Prop := Says m.1 f.1 ∧ Tells m.2 f.2

variable {s : String} {j : Json} {ms : List WrittenMember} {vs : List (List Char)}

/-- Of the fields that were read all have to have a name. -/
theorem ofReadFields_eq_obj_iff {read : List (Option String × Json)}
    {fields : List (String × Json)} :
    ofReadFields read = .obj fields ↔ read = fields.map fun f => (some f.1, f.2) := by
  constructor
  · intro h
    have hall : read.mapM (fun f : Option String × Json => f.1.map (·, f.2)) = some fields := by
      rw [ofReadFields] at h
      split at h
      · rename_i fs hfs
        rw [hfs, Json.obj.inj h]
      · exact Json.noConfusion h
    clear h
    induction read generalizing fields with
    | nil =>
      cases hall
      rfl
    | cons r read ih =>
      obtain ⟨name, value⟩ := r
      simp only [List.mapM_cons, Option.bind_eq_bind, Option.bind_eq_some_iff] at hall
      obtain ⟨f, hf, fs, hfs, hdone⟩ := hall
      cases hdone
      obtain ⟨k, rfl, rfl⟩ := Option.map_eq_some_iff.1 hf
      rw [ih hfs, List.map_cons]
  · rintro rfl
    exact ofReadFields_map fields

theorem tellsPair_of_tellsField {fields : List (String × Json)}
    (h : List.Forall₂ TellsField ms (fields.map fun f => (some f.1, f.2))) :
    List.Forall₂ TellsPair ms fields := by
  rw [List.forall₂_map_right_iff] at h
  exact h.imp fun m f hf => ⟨(hf.1 f.1).1 rfl, hf.2⟩

/-- Where every name says something, all fields have names. -/
theorem exists_names {read : List (Option String × Json)} (h : List.Forall₂ TellsField ms read)
    (hsaid : ∀ m ∈ ms, ∃ t, Says m.1 t) :
    ∃ fields : List (String × Json), read = fields.map fun f => (some f.1, f.2) := by
  induction h with
  | nil => exact ⟨[], rfl⟩
  | @cons m r ms read hm _ ih =>
    obtain ⟨t, ht⟩ := hsaid m List.mem_cons_self
    obtain ⟨fields, rfl⟩ := ih fun m' hm' => hsaid m' (List.mem_cons_of_mem _ hm')
    exact ⟨(t, r.2) :: fields, by rw [List.map_cons, ← (hm.1 t).2 ht]⟩

theorem exists_says {fields : List (String × Json)} (h : List.Forall₂ TellsPair ms fields) :
    ∀ m ∈ ms, ∃ t, Says m.1 t := by
  induction h with
  | nil => nofun
  | cons hm _ ih => exact List.forall_mem_cons.2 ⟨⟨_, hm.1⟩, ih⟩

/-- A text that is read is that of a value, with white space around it. -/
theorem of_parse? (h : parse? s = some j) : ∃ gap v gap', s.toList = gap ++ v ++ gap' ∧
    IsGap gap ∧ IsText v ∧ IsGap gap' ∧
    readValue (2 * s.toList.length + 2) maxNesting (v ++ gap') = some (j, gap') := by
  simp only [parse?] at h
  split at h
  · rename_i j' gap' hread
    split at h
    · rename_i hend
      cases h
      obtain ⟨gap, v, hs, hgap, hv⟩ := of_readValue hread
      refine ⟨gap, v, gap', hs, hgap, hv, skipGap_eq_nil_iff.1 (by simpa using hend), ?_⟩
      rwa [hs, List.append_assoc, readValue_gap hgap, ← List.append_assoc, ← hs] at hread
    · cases h
  · cases h

/-- The bracket that opens a list or an object. -/
def opening? : Json → Option Char
  | .arr _ => some '['
  | .obj _ => some '{'
  | _ => none

theorem opening?_of_ifRoom {room : Nat} {c : Char} (h : (ifRoom room j).opening? = some c) :
    j.opening? = some c := by
  rw [ifRoom] at h
  split at h
  · cases h
  · exact h

theorem opening?_ofReadFields {read : List (Option String × Json)} {c : Char}
    (h : (ofReadFields read).opening? = some c) : c = '{' := by
  rw [ofReadFields] at h
  split at h <;> cases h
  rfl

theorem opening?_of_readNumber (h : readNumber cs = some (j, rest)) : j.opening? = none := by
  rw [readNumber_eq] at h
  obtain ⟨p, -, hj⟩ := Option.map_eq_some_iff.1 h
  obtain ⟨rfl, -⟩ := Prod.mk.inj hj
  rw [ofParts]
  split
  · rfl
  · split
    · simp only [ofWhole]
      generalize (fitsInt _ && !(_ && _)) = fits
      cases fits <;> rfl
    · rfl

/-- What is read as a list or an object begins with its bracket. -/
theorem head_of_readValue {fuel room : Nat} {c : Char}
    (h : readValue fuel room cs = some (j, rest)) (hc : j.opening? = some c) :
    (skipGap cs).head? = some c := by
  cases fuel with
  | zero => cases h
  | succ fuel =>
    rw [readValue] at h
    split at h
    · simp only [Option.bind_eq_bind, Option.bind_eq_some_iff] at h
      obtain ⟨⟨s, r⟩, -, hdone⟩ := h
      cases hdone
      cases s <;> cases hc
    · rename_i hbracket
      rw [hbracket]
      split at h
      · cases h
        cases opening?_of_ifRoom hc
        rfl
      · simp only [Option.bind_eq_bind, Option.bind_eq_some_iff] at h
        obtain ⟨p, -, hdone⟩ := h
        cases hdone
        cases opening?_of_ifRoom hc
        rfl
    · rename_i hbrace
      rw [hbrace]
      split at h
      · cases h
        cases opening?_of_ifRoom hc
        rfl
      · simp only [Option.bind_eq_bind, Option.bind_eq_some_iff] at h
        obtain ⟨p, -, hdone⟩ := h
        cases hdone
        rw [opening?_ofReadFields (opening?_of_ifRoom hc)]
        rfl
    · cases h
      cases hc
    · cases h
      cases hc
    · cases h
      cases hc
    · rw [opening?_of_readNumber h] at hc
      cases hc

/-- A text that is read as a list or an object is one. -/
theorem isObject_or_isList {c : Char} (h : parse? s = some j) (hc : j.opening? = some c) :
    (c = '{' ∧ ∃ ms, IsObject ms s.toList) ∨ (c = '[' ∧ ∃ vs, IsList vs s.toList) := by
  obtain ⟨gap, v, gap', hs, hgap, hv, hgap', hread⟩ := of_parse? h
  have hhead := head_of_readValue hread hc
  obtain ⟨d, tail, hcons, hd, -⟩ := hv.eq_cons
  rw [hcons, List.cons_append, skipGap_cons hd] at hhead
  obtain rfl : d = c := Option.some.inj hhead
  clear hread hhead
  have hopening : d = '{' ∨ d = '[' := by
    cases j <;> cases hc
    · exact .inr rfl
    · exact .inl rfl
  rw [hs]
  cases hv with
  | noMembers inner =>
    cases hcons
    exact .inl ⟨rfl, [], .empty hgap inner hgap'⟩
  | object members =>
    cases hcons
    exact .inl ⟨rfl, _, .members hgap members hgap'⟩
  | noItems inner =>
    cases hcons
    exact .inr ⟨rfl, [], .empty hgap inner hgap'⟩
  | list items =>
    cases hcons
    exact .inr ⟨rfl, _, .items hgap items hgap'⟩
  | number number =>
    subst hcons
    obtain ⟨j', hread⟩ := readNumber_text number
    rcases hopening with rfl | rfl <;> rcases head_of_readNumber hread with h | h <;> cases h
  | null | yes | no | string =>
    cases hcons
    rcases hopening with h | h <;> cases h

/-- A value that stands alone, but for white space around it, is what the text is read as. -/
theorem parse?_of_readValue {gap v gap' : List Char} (hs : s.toList = gap ++ v ++ gap')
    (hgap : IsGap gap) (hgap' : IsGap gap')
    (hread : readValue (2 * s.toList.length + 2) maxNesting (v ++ gap') = some (j, gap')) :
    parse? s = some j := by
  have hvalue : readValue (2 * s.toList.length + 2) maxNesting s.toList = some (j, gap') := by
    rw [← readValue_gap hgap, ← List.append_assoc, ← hs] at hread
    exact hread
  simp only [parse?, hvalue, skipGap_eq_nil_iff.2 hgap', List.isEmpty_nil, if_true]

/-- An object is read with the members that are written. -/
theorem parse?_object (h : IsObject ms s.toList) : ∃ read, List.Forall₂ TellsField ms read ∧
    parse? s = some (ofReadFields read) := by
  generalize hs : s.toList = text at h
  cases h with
  | @empty gap body gap' hgap hbody hgap' =>
    refine ⟨[], .nil, parse?_of_readValue hs hgap hgap' ?_⟩
    simp only [List.append_assoc, List.cons_append, List.nil_append]
    rw [readValue, skipGap_cons rfl]
    simp [skipGap_append hbody, skipGap_cons (c := '}') rfl, ifRoom, maxNesting, ofReadFields]
  | @members gap body gap' ms hgap members hgap' =>
    have hfuel : body.length < 2 * s.toList.length + 1 := by
      rw [hs]
      simp only [List.length_append, List.length_cons]
      omega
    obtain ⟨read, hread, htells⟩ :=
      readFields_text (maxNesting - 1) gap' members hfuel
    refine ⟨read, htells, parse?_of_readValue hs hgap hgap' ?_⟩
    simp only [List.append_assoc, List.cons_append, List.nil_append]
    rw [readValue_object members, hread]
    rfl

/-- A list is read with the items that are written. -/
theorem parse?_list (h : IsList vs s.toList) : ∃ items, List.Forall₂ Tells vs items ∧
    parse? s = some (.arr items) := by
  generalize hs : s.toList = text at h
  cases h with
  | @empty gap body gap' hgap hbody hgap' =>
    refine ⟨[], .nil, parse?_of_readValue hs hgap hgap' ?_⟩
    simp only [List.append_assoc, List.cons_append, List.nil_append]
    rw [readValue, skipGap_cons rfl]
    simp [skipGap_append hbody, skipGap_cons (c := ']') rfl, ifRoom, maxNesting]
  | @items gap body gap' vs hgap items hgap' =>
    have hfuel : body.length < 2 * s.toList.length + 1 := by
      rw [hs]
      simp only [List.length_append, List.length_cons]
      omega
    obtain ⟨js, hread, htells⟩ :=
      readItems_text (maxNesting - 1) gap' items hfuel
    refine ⟨js, htells, parse?_of_readValue hs hgap hgap' ?_⟩
    simp only [List.append_assoc, List.cons_append, List.nil_append]
    rw [readValue_list items, hread]
    rfl

/-- What is read as an object is one, and its fields are the members that are written. -/
theorem of_parse?_obj {fields : List (String × Json)} (h : parse? s = some (.obj fields)) :
    ∃ ms, IsObject ms s.toList ∧ List.Forall₂ TellsPair ms fields := by
  obtain ⟨-, ms, hms⟩ | ⟨hc, -⟩ := isObject_or_isList h rfl
  · obtain ⟨read, htells, hread⟩ := parse?_object hms
    rw [h] at hread
    have hfields := ofReadFields_eq_obj_iff.1 (Option.some.inj hread).symm
    exact ⟨ms, hms, tellsPair_of_tellsField (hfields ▸ htells)⟩
  · cases hc

/-- What is read as a list is one, and its items are those that are written. -/
theorem of_parse?_arr {items : List Json} (h : parse? s = some (.arr items)) :
    ∃ vs, IsList vs s.toList ∧ List.Forall₂ Tells vs items := by
  obtain ⟨hc, -⟩ | ⟨-, vs, hvs⟩ := isObject_or_isList h rfl
  · cases hc
  · obtain ⟨items', htells, hread⟩ := parse?_list hvs
    rw [h] at hread
    cases hread
    exact ⟨vs, hvs, htells⟩

/-- An object all of whose names say something is read as one. -/
theorem parse?_eq_obj (h : IsObject ms s.toList) (hsaid : ∀ m ∈ ms, ∃ t, Says m.1 t) :
    ∃ fields, parse? s = some (.obj fields) ∧ List.Forall₂ TellsPair ms fields := by
  obtain ⟨read, htells, hread⟩ := parse?_object h
  obtain ⟨fields, rfl⟩ := exists_names htells hsaid
  exact ⟨fields, by rw [hread, ofReadFields_map], tellsPair_of_tellsField htells⟩

end ProxySync.Json
