import ProxySync.Text.Percent
/-!
# Percent-encoding can be undone

Decoding gives back what has been encoded, whichever further characters the place escapes: it is
enough that it escapes the percent sign. What is written for an escaped character are percent signs
and hexadecimal digits only.

## Main statements

* `Percent.decode_encode`: the round trip.
* `Percent.of_mem_encode`: the characters that can occur in what is encoded.
-/
namespace ProxySync.Percent
variable {escaped : Char → Bool}

/-- The bytes of a text are UTF-8. -/
theorem fromUTF8?_utf8EncodeChar (cs : List Char) :
    String.fromUTF8? (cs.flatMap String.utf8EncodeChar).toByteArray = some (String.ofList cs) := by
  have hcs : (cs.flatMap String.utf8EncodeChar).toByteArray = (String.ofList cs).toByteArray := by
    rw [String.toByteArray_ofList, List.utf8Encode]
  rw [String.fromUTF8?, hcs, dif_pos (String.ofList cs).isValidUTF8]
  rfl

/-! ## Hexadecimal digits -/

/-- What holds of the sixteen digits holds of every digit of a byte. -/
theorem forall_lt_sixteen {P : UInt8 → Prop} (h : ∀ n : Fin 16, P (UInt8.ofNat n)) {n : UInt8}
    (hn : n < 16) : P n := by
  have hlt : n.toNat < 16 := UInt8.lt_iff_toNat_lt.1 hn
  simpa using h ⟨n.toNat, hlt⟩

theorem hexValue?_upperHex {n : UInt8} (hn : n < 16) : hexValue? (upperHex n) = some n :=
  forall_lt_sixteen (P := fun n => hexValue? (upperHex n) = some n) (by decide) hn

theorem isAlphanum_upperHex {n : UInt8} (hn : n < 16) : (upperHex n).isAlphanum = true :=
  forall_lt_sixteen (P := fun n => (upperHex n).isAlphanum = true) (by decide) hn

/-- The two digits of a byte. -/
theorem digits_lt (b : UInt8) : b / 16 < 16 ∧ b % 16 < 16 ∧ 16 * (b / 16) + b % 16 = b := by
  have hb : b.toNat < 256 := b.toNat_lt
  refine ⟨UInt8.lt_iff_toNat_lt.2 ?_, UInt8.lt_iff_toNat_lt.2 ?_, UInt8.toNat_inj.1 ?_⟩
  · simp
    omega
  · simp
    omega
  · simp
    omega

/-! ## Decoding -/

/-- An escape is read as its byte. -/
theorem decodeBytes_escapeByte (b : UInt8) (cs : List Char) :
    decodeBytes (escapeByte b ++ cs) = b :: decodeBytes cs := by
  obtain ⟨hhigh, hlow, hb⟩ := digits_lt b
  simp only [escapeByte, List.cons_append, List.nil_append]
  rw [decodeBytes]
  simp only [hexValue?_upperHex hhigh, hexValue?_upperHex hlow, hb]

theorem decodeBytes_escapeBytes (bs : List UInt8) (cs : List Char) :
    decodeBytes (bs.flatMap escapeByte ++ cs) = bs ++ decodeBytes cs := by
  induction bs with
  | nil => rfl
  | cons b bs ih =>
    rw [List.flatMap_cons, List.append_assoc, decodeBytes_escapeByte, ih, List.cons_append]

/-- Any other character stands for itself. -/
theorem decodeBytes_cons {c : Char} (hc : c ≠ '%') (cs : List Char) :
    decodeBytes (c :: cs) = String.utf8EncodeChar c ++ decodeBytes cs := by
  rw [decodeBytes]
  rintro a b _ rfl
  exact absurd rfl hc

/-- A character is read back from its form in any place that escapes the percent sign. -/
theorem decodeBytes_encodeChar (h : escaped '%' = true) (c : Char) (cs : List Char) :
    decodeBytes (encodeChar escaped c ++ cs) = String.utf8EncodeChar c ++ decodeBytes cs := by
  by_cases hc : alwaysEscaped c || escaped c
  · rw [encodeChar, if_pos hc, decodeBytes_escapeBytes]
  · rw [encodeChar, if_neg hc]
    refine decodeBytes_cons ?_ cs
    rintro rfl
    simp [h] at hc

theorem decodeBytes_encode (h : escaped '%' = true) (cs : List Char) :
    decodeBytes (encode escaped cs) = cs.flatMap String.utf8EncodeChar := by
  induction cs with
  | nil => simp [encode, decodeBytes]
  | cons c cs ih =>
    rw [encode, List.flatMap_cons, decodeBytes_encodeChar h, List.flatMap_cons]
    exact congrArg _ ih

/-- Decoding undoes encoding. -/
theorem decode_encode (h : escaped '%' = true) (cs : List Char) :
    decode (encode escaped cs) = String.ofList cs := by
  rw [decode, decode?, decodeBytes_encode h, fromUTF8?_utf8EncodeChar]
  rfl

/-- A text without percent signs stands for itself. -/
theorem decode?_of_not_mem {cs : List Char} (h : '%' ∉ cs) :
    decode? cs = some (String.ofList cs) := by
  have hbytes : decodeBytes cs = cs.flatMap String.utf8EncodeChar := by
    induction cs with
    | nil => simp [decodeBytes]
    | cons c cs ih =>
      have hc : c ≠ '%' := fun hc => h (by simp [hc])
      rw [decodeBytes_cons hc, ih fun hmem => h (List.mem_cons_of_mem _ hmem), List.flatMap_cons]
  rw [decode?, hbytes, fromUTF8?_utf8EncodeChar]

theorem decode_of_not_mem {cs : List Char} (h : '%' ∉ cs) : decode cs = String.ofList cs := by
  rw [decode, decode?_of_not_mem h]
  rfl

/-! ## What is written -/

/-- An escape consists of a percent sign and two digits. -/
theorem of_mem_escapeByte {b : UInt8} {x : Char} (hx : x ∈ escapeByte b) :
    x = '%' ∨ x.isAlphanum = true := by
  obtain ⟨hhigh, hlow, _⟩ := digits_lt b
  simp only [escapeByte, List.mem_cons, List.not_mem_nil, or_false] at hx
  rcases hx with rfl | rfl | rfl
  · exact .inl rfl
  · exact .inr (isAlphanum_upperHex hhigh)
  · exact .inr (isAlphanum_upperHex hlow)

/-- What is written for a character is that character or an escape. -/
theorem of_mem_encodeChar {c x : Char} (hx : x ∈ encodeChar escaped c) :
    x = c ∧ escaped c = false ∨ x = '%' ∨ x.isAlphanum = true := by
  rw [encodeChar] at hx
  split at hx
  · obtain ⟨b, _, hb⟩ := List.mem_flatMap.1 hx
    exact .inr (of_mem_escapeByte hb)
  · rename_i hc
    exact .inl ⟨List.mem_singleton.1 hx, by simp at hc; exact hc.2⟩

/-- Nothing that a place escapes is written in it, but for percent signs and letters and digits. -/
theorem of_mem_encode {cs : List Char} {x : Char} (hx : x ∈ encode escaped cs) :
    escaped x = false ∨ x = '%' ∨ x.isAlphanum = true := by
  obtain ⟨c, _, hc⟩ := List.mem_flatMap.1 hx
  obtain ⟨rfl, h⟩ | h := of_mem_encodeChar hc
  · exact .inl h
  · exact .inr h

end ProxySync.Percent
