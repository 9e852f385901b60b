import ProxySync.Proofs.Json.Number
import ProxySync.Proofs.Json.Text
/-!
# JSON can be read back

The compact form of a value is read as that value, but for what is nested too deeply to be held.

## Main definitions

* `Json.IsValue`: a value as a program holds it: its numbers read as themselves.
* `Json.within`: what is left of a value where so many lists and objects may be nested.

## Main statements

* `Json.parse?_print`: the round trip.
-/
namespace ProxySync.Json

mutual

/-- Whether a value is one that the reader of its text gives. -/
def IsValue : Json → Prop
  | .int n => fitsInt n = true
  | .decimal digits => readNumber digits.toList = some (.decimal digits, [])
  | .arr items => AreValues items
  | .obj fields => HaveValues fields
  | .illFormed => False
  | _ => True

/-- Whether all items are such values. -/
def AreValues : List Json → Prop
  | [] => True
  | j :: js => IsValue j ∧ AreValues js

/-- Whether the fields have such values. -/
def HaveValues : List (String × Json) → Prop
  | [] => True
  | (_, j) :: fields => IsValue j ∧ HaveValues fields

end

mutual

/-- What is left of a value where so many lists and objects may be nested. -/
def within (room : Nat) : Json → Json
  | .arr items => ifRoom room (.arr (itemsWithin (room - 1) items))
  | .obj fields => ifRoom room (.obj (fieldsWithin (room - 1) fields))
  | j => j

/-- What is left of each item. -/
def itemsWithin (room : Nat) : List Json → List Json
  | [] => []
  | j :: js => within room j :: itemsWithin room js

/-- What is left of each field. -/
def fieldsWithin (room : Nat) : List (String × Json) → List (String × Json)
  | [] => []
  | (k, j) :: fields => (k, within room j) :: fieldsWithin room fields

end

variable {fuel room : Nat} {cs rest : List Char}

theorem skipGap_cons {c : Char} (h : isGap c = false) (cs : List Char) :
    skipGap (c :: cs) = c :: cs := by
  simp [skipGap, h]

/-! ## Values without parts -/

/-- A number begins with a digit or a minus sign. -/
theorem head_of_readNumber {c : Char} {p : Json × List Char}
    (h : readNumber (c :: cs) = some p) : c.isDigit = true ∨ c = '-' := by
  by_cases hneg : c = '-'
  · exact .inr hneg
  · rw [readNumber_eq] at h
    obtain ⟨q, hparts, _⟩ := Option.map_eq_some_iff.1 h
    simp only [readParts, List.head?_cons, Option.some.injEq, hneg, if_false, Option.bind_eq_bind,
      Option.bind_eq_some_iff] at hparts
    obtain ⟨w, hw, _⟩ := hparts
    by_cases hzero : c = '0'
    · subst hzero
      exact .inl rfl
    · rw [readWhole.eq_2 _ (by rintro _ ⟨⟩; exact hzero rfl)] at hw
      by_cases hdigit : c.isDigit = true
      · exact .inl hdigit
      · simp [spanDigits, hdigit] at hw

/-- A text that begins so is read as a number. -/
theorem readValue_number {c : Char} (hc : c.isDigit = true ∨ c = '-') :
    readValue (fuel + 1) room (c :: cs) = readNumber (c :: cs) := by
  have hgap : isGap c = false := by
    rcases hc with hc | rfl
    · simp only [isGap, Bool.or_eq_false_iff, beq_eq_false_iff_ne]
      refine ⟨⟨⟨?_, ?_⟩, ?_⟩, ?_⟩ <;> (rintro rfl; cases hc)
    · rfl
  have hne {d : Char} (hd : d.isDigit = false ∧ d ≠ '-') : c ≠ d := by
    rintro rfl
    rcases hc with hc | hc
    · rw [hd.1] at hc
      cases hc
    · exact hd.2 hc
  rw [readValue, skipGap_cons hgap]
  split
  · rename_i h
    exact absurd (List.cons.inj h).1 (hne (by decide))
  · rename_i h
    exact absurd (List.cons.inj h).1 (hne (by decide))
  · rename_i h
    exact absurd (List.cons.inj h).1 (hne (by decide))
  · rename_i h
    exact absurd (List.cons.inj h).1 (hne (by decide))
  · rename_i h
    exact absurd (List.cons.inj h).1 (hne (by decide))
  · rename_i h
    exact absurd (List.cons.inj h).1 (hne (by decide))
  · rfl

/-- What reads as a number by itself is read as a value in front of anything else. -/
theorem readValue_of_readNumber {j : Json} (hread : readNumber cs = some (j, []))
    (hrest : EndsNumber rest) : readValue (fuel + 1) room (cs ++ rest) = some (j, rest) := by
  have happend := readNumber_append hrest hread
  cases cs with
  | nil => cases hread
  | cons c cs => rw [← happend, List.cons_append, readValue_number (head_of_readNumber hread)]

theorem readValue_str (s : String) :
    readValue (fuel + 1) room (stringChars s ++ rest) = some (.str s, rest) := by
  rw [stringChars, List.append_assoc, List.cons_append, readValue, skipGap_cons rfl]
  simp [readString_stringChars]

/-- The text of a value begins neither with white space nor with a closing bracket. -/
theorem chars_eq_cons {j : Json} (hj : IsValue j) :
    ∃ c cs, chars j = c :: cs ∧ isGap c = false ∧ c ≠ ']' := by
  have hnumber {cs : List Char} {p : Json × List Char} (h : readNumber cs = some p) :
      ∃ c cs', cs = c :: cs' ∧ isGap c = false ∧ c ≠ ']' := by
    cases cs with
    | nil => cases h
    | cons c cs =>
      refine ⟨c, cs, rfl, ?_⟩
      rcases head_of_readNumber h with hc | rfl
      · refine ⟨?_, by rintro rfl; cases hc⟩
        simp only [isGap, Bool.or_eq_false_iff, beq_eq_false_iff_ne]
        refine ⟨⟨⟨?_, ?_⟩, ?_⟩, ?_⟩ <;> (rintro rfl; cases hc)
      · exact ⟨rfl, by decide⟩
  cases j with
  | null => exact ⟨_, _, rfl, rfl, by decide⟩
  | bool b => cases b <;> exact ⟨_, _, rfl, rfl, by decide⟩
  | int n => exact hnumber (readNumber_toString hj)
  | decimal digits => exact hnumber hj
  | str s => exact ⟨_, _, rfl, rfl, by decide⟩
  | arr items => exact ⟨_, _, rfl, rfl, by decide⟩
  | obj fields => exact ⟨_, _, rfl, rfl, by decide⟩
  | illFormed => exact hj.elim

/-! ## Lists and objects -/

theorem itemChars_cons_cons (j j' : Json) (js : List Json) :
    itemChars (j :: j' :: js) = chars j ++ ',' :: itemChars (j' :: js) := by
  rw [itemChars]
  simp

theorem fieldChars_cons_cons (f f' : String × Json) (fs : List (String × Json)) :
    fieldChars (f :: f' :: fs) =
      stringChars f.1 ++ ':' :: chars f.2 ++ ',' :: fieldChars (f' :: fs) := by
  rw [fieldChars]
  simp

/-- Fields that were all read make an object. -/
theorem ofReadFields_map (fields : List (String × Json)) :
    ofReadFields (fields.map fun f => (some f.1, f.2)) = .obj fields := by
  have h : (fields.map fun f => (some f.1, f.2)).mapM
      (fun f : Option String × Json => f.1.map (·, f.2)) = some fields := by
    induction fields with
    | nil => rfl
    | cons f fs ih => simp [ih]
  rw [ofReadFields, h]

-- The induction is on the value; the fuel covers the length of what is still to be read.
mutual

theorem readValue_chars {fuel room : Nat} {rest : List Char} (j : Json) (hj : IsValue j)
    (hrest : EndsNumber rest) (hfuel : (chars j).length ≤ fuel) :
    readValue fuel room (chars j ++ rest) = some (within room j, rest) := by
  obtain ⟨c, cs, hchars, _⟩ := chars_eq_cons hj
  obtain ⟨fuel, rfl⟩ : ∃ n, fuel = n + 1 := by
    rw [hchars, List.length_cons] at hfuel
    exact ⟨fuel - 1, by omega⟩
  cases j with
  | null => rfl
  | bool b => cases b <;> rfl
  | int n => exact readValue_of_readNumber (readNumber_toString hj) hrest
  | decimal digits => exact readValue_of_readNumber hj hrest
  | str s => exact readValue_str s
  | arr items =>
    cases items with
    | nil => rfl
    | cons i is =>
      have hlen : (itemChars (i :: is)).length < fuel := by
        simp only [chars, List.length_append, List.length_cons, List.length_nil] at hfuel
        omega
      have hread : readItems fuel (room - 1) (itemChars (i :: is) ++ ']' :: rest) =
          some (itemsWithin (room - 1) (i :: is), rest) := readItems_chars i is hj hlen
      obtain ⟨d, ds, hd, hgap, hclose⟩ := chars_eq_cons hj.1
      have hitems : ∃ ds', itemChars (i :: is) = d :: ds' := by
        cases is with
        | nil => exact ⟨ds, hd⟩
        | cons i' is => exact ⟨_, by rw [itemChars_cons_cons, hd, List.cons_append]⟩
      obtain ⟨ds', hitems⟩ := hitems
      rw [chars, List.append_assoc, List.cons_append, readValue, skipGap_cons rfl]
      simp only [List.singleton_append]
      rw [hitems] at hread ⊢
      simp only [List.cons_append] at hread ⊢
      rw [skipGap_cons hgap]
      split
      · rename_i h
        exact absurd (List.cons.inj h).1 hclose
      · rw [hread]
        rfl
  | obj fields =>
    cases fields with
    | nil => rfl
    | cons f fs =>
      have hlen : (fieldChars (f :: fs)).length < fuel := by
        simp only [chars, List.length_append, List.length_cons, List.length_nil] at hfuel
        omega
      have hread : readFields fuel (room - 1) (fieldChars (f :: fs) ++ '}' :: rest) =
          some ((fieldsWithin (room - 1) (f :: fs)).map fun f => (some f.1, f.2), rest) :=
        readFields_chars f fs hj hlen
      have hfields : ∃ ds, fieldChars (f :: fs) = '"' :: ds := by
        cases fs with
        | nil => exact ⟨_, rfl⟩
        | cons f' fs => exact ⟨_, by rw [fieldChars_cons_cons]; rfl⟩
      obtain ⟨ds, hfields⟩ := hfields
      rw [chars, List.append_assoc, List.cons_append, readValue, skipGap_cons rfl]
      simp only [List.singleton_append]
      rw [hfields] at hread ⊢
      simp only [List.cons_append] at hread ⊢
      rw [skipGap_cons rfl]
      simp only [hread, Option.bind_eq_bind, Option.bind_some, Option.pure_def]
      rw [ofReadFields_map, within]
      rfl
  | illFormed => exact hj.elim

theorem readItems_chars {fuel room : Nat} {rest : List Char} (i : Json) (is : List Json)
    (h : AreValues (i :: is)) (hfuel : (itemChars (i :: is)).length < fuel) :
    readItems fuel room (itemChars (i :: is) ++ ']' :: rest) =
      some (itemsWithin room (i :: is), rest) := by
  obtain ⟨fuel, rfl⟩ : ∃ n, fuel = n + 1 := ⟨fuel - 1, by omega⟩
  cases is with
  | nil =>
    have hlen : (chars i).length ≤ fuel := by
      simp only [itemChars] at hfuel
      omega
    rw [itemChars, readItems,
      readValue_chars i h.1 (endsNumber_cons (by decide)) hlen]
    simp only [Option.bind_eq_bind, Option.bind_some, skipGap_cons (c := ']') rfl]
    rfl
  | cons i' is =>
    rw [itemChars_cons_cons, List.length_append, List.length_cons] at hfuel
    rw [itemChars_cons_cons, List.append_assoc, List.cons_append, readItems,
      readValue_chars i h.1 (endsNumber_cons (by decide)) (by omega)]
    simp only [Option.bind_eq_bind, Option.bind_some, skipGap_cons (c := ',') rfl]
    rw [readItems_chars i' is h.2 (by omega)]
    rfl

theorem readFields_chars {fuel room : Nat} {rest : List Char} (f : String × Json)
    (fs : List (String × Json)) (h : HaveValues (f :: fs))
    (hfuel : (fieldChars (f :: fs)).length < fuel) :
    readFields fuel room (fieldChars (f :: fs) ++ '}' :: rest) =
      some ((fieldsWithin room (f :: fs)).map (fun f => (some f.1, f.2)), rest) := by
  obtain ⟨fuel, rfl⟩ : ∃ n, fuel = n + 1 := ⟨fuel - 1, by omega⟩
  obtain ⟨k, v⟩ := f
  have hv : IsValue v := h.1
  cases fs with
  | nil =>
    have hlen : (chars v).length ≤ fuel := by
      simp only [fieldChars, List.length_append, List.length_cons] at hfuel
      omega
    rw [fieldChars, stringChars]
    simp only [List.cons_append, List.append_assoc, List.nil_append]
    rw [readFields, skipGap_cons rfl]
    simp only [readString_stringChars, Option.bind_eq_bind, Option.bind_some,
      skipGap_cons (c := ':') rfl]
    rw [readValue_chars v hv (endsNumber_cons (by decide)) hlen]
    simp only [Option.bind_some, skipGap_cons (c := '}') rfl]
    rfl
  | cons f' fs =>
    rw [fieldChars_cons_cons] at hfuel ⊢
    simp only [List.length_append, List.length_cons] at hfuel
    rw [stringChars]
    simp only [List.cons_append, List.append_assoc, List.nil_append]
    rw [readFields, skipGap_cons rfl]
    simp only [readString_stringChars, Option.bind_eq_bind, Option.bind_some,
      skipGap_cons (c := ':') rfl]
    rw [readValue_chars v hv (endsNumber_cons (by decide)) (by omega)]
    simp only [Option.bind_some, skipGap_cons (c := ',') rfl]
    rw [readFields_chars f' fs h.2 (by omega)]
    rfl

end

/-- A value is read back from its compact form, but for what is nested too deeply. -/
theorem parse?_print {j : Json} (hj : IsValue j) :
    parse? j.print = some (within maxNesting j) := by
  have hread : readValue (2 * (chars j).length + 2) maxNesting (chars j) =
      some (within maxNesting j, []) := by
    have hread : readValue (2 * (chars j).length + 2) maxNesting (chars j ++ []) = _ :=
      readValue_chars j hj endsNumber_nil (by omega)
    rwa [List.append_nil] at hread
  simp only [parse?, print, String.toList_ofList, hread]
  rfl

end ProxySync.Json
