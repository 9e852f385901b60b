import ProxySync.Proofs.Text.Percent
import ProxySync.Text.Form
/-!
# Form-encoded parameters can be read back

What is appended to an empty query is read back pair by pair: neither a name nor a value is written
with a character that separates pairs, or name and value.

## Main statements

* `Form.decode_encode`: one name or value.
* `Form.decodeAll_encodePair`: a query of one pair.
-/
namespace ProxySync.Form

/-- What is escaped apart from spaces, which are written in a form of their own. -/
def isEscapedBesideSpace (c : Char) : Bool := isEscaped c && c != ' '

/-- The characters that a name or a value is written with. -/
theorem of_mem_encode {s : String} {x : Char} (hx : x ∈ encode s) :
    x = '+' ∨ isEscaped x = false ∨ x = '%' ∨ x.isAlphanum = true := by
  obtain ⟨c, _, hc⟩ := List.mem_flatMap.1 hx
  split at hc
  · exact .inl (List.mem_singleton.1 hc)
  · obtain ⟨rfl, h⟩ | h := Percent.of_mem_encodeChar hc
    · exact .inr (.inl h)
    · exact .inr (.inr h)

/-- No separator occurs in what is written for a name or a value. -/
theorem not_mem_encode {s : String} {x : Char} (h : isEscaped x = true)
    (h' : x ≠ '+' ∧ x ≠ '%' ∧ x.isAlphanum = false) : x ∉ encode s := by
  intro hx
  obtain rfl | hno | rfl | hal := of_mem_encode hx
  · exact h'.1 rfl
  · rw [h] at hno
    cases hno
  · exact h'.2.1 rfl
  · rw [h'.2.2] at hal
    cases hal

/-- With spaces for plus signs a name or a value is percent-encoded. -/
theorem map_encode (s : String) :
    (encode s).map (fun c => if c = '+' then ' ' else c) =
      Percent.encode isEscapedBesideSpace s.toList := by
  rw [encode, Percent.encode, List.map_flatMap]
  refine congrArg List.flatten (List.map_congr_left fun c _ => ?_)
  by_cases hc : c = ' '
  · subst hc
    rfl
  · have hsame : Percent.encodeChar isEscapedBesideSpace c = Percent.encodeChar isEscaped c := by
      simp [Percent.encodeChar, isEscapedBesideSpace, hc]
    rw [if_neg hc, hsame]
    refine (List.map_congr_left fun x hx => if_neg ?_).trans (List.map_id _)
    rintro rfl
    obtain ⟨rfl, h⟩ | h | h := Percent.of_mem_encodeChar hx
    · cases h
    · cases h
    · cases h

/-- A name or a value is read back. -/
theorem decode_encode (s : String) : decode (encode s) = s := by
  rw [decode, map_encode, Percent.decode_encode rfl, String.ofList_toList]

/-! ## Pairs -/

/-- A text without separators is one piece. -/
theorem splitChars_of_not_mem {sep : Char} {cs : List Char} (h : sep ∉ cs) :
    splitChars sep cs = [cs] := by
  induction cs with
  | nil => rfl
  | cons c cs ih =>
    have hc : c ≠ sep := fun hc => h (by simp [hc])
    rw [splitChars, ih fun hmem => h (List.mem_cons_of_mem _ hmem)]
    simp [hc]

/-- A query of one pair is read back. -/
theorem decodeAll_encodePair (pair : String × String) : decodeAll (encodePair pair) = [pair] := by
  have hamp : '&' ∉ encodePair pair := by
    have h (s : String) : '&' ∉ encode s := not_mem_encode rfl (by decide)
    simp [encodePair, h]
  have heq : ∀ x ∈ encode pair.1, decide (x ≠ '=') = true := by
    rintro x hx
    have h : '=' ∉ encode pair.1 := not_mem_encode rfl (by decide)
    simpa using ne_of_mem_of_not_mem hx h
  have hfirst : (encodePair pair).takeWhile (· ≠ '=') = encode pair.1 := by
    rw [encodePair, List.takeWhile_append_of_pos heq]
    simp
  have hrest : ((encodePair pair).dropWhile (· ≠ '=')).drop 1 = encode pair.2 := by
    rw [encodePair, List.dropWhile_append_of_pos heq]
    simp
  have hne : encodePair pair ≠ [] := by simp [encodePair]
  rw [decodeAll, splitChars_of_not_mem hamp, List.filter_cons_of_pos (by simpa using hne),
    List.filter_nil, List.map_cons, List.map_nil, decodePair, hfirst, hrest, decode_encode,
    decode_encode]

end ProxySync.Form
