import ProxySync.Json.Printer
import ProxySync.Json.Reader
/-!
# Strings in JSON can be read back

Every character of a text is written as itself or as an escape, and the escape of a character is
read as that character. So the text between the quotes is read back whatever it holds.

## Main statements

* `Json.readString_stringChars`: the round trip.
-/
namespace ProxySync.Json

/-- The part of a string that a character is read as. -/
def pieceOf (c : Char) : Piece :=
  if c.toNat < 0x20 && c.toNat != 8 && c.toNat != 9 && c.toNat != 10 && c.toNat != 12 &&
    c.toNat != 13 then .unit c.toNat
  else .char c

/-- Whether a text is an escape that is read as a control character. -/
def isEscapeOf (c : Char) : List Char → Bool
  | ['\\', e] => e != 'u' && shortEscape? e == some c &&
      (c.toNat == 8 || c.toNat == 9 || c.toNat == 10 || c.toNat == 12 || c.toNat == 13)
  | ['\\', 'u', w, x, y, z] => hex4? w x y z == some c.toNat &&
      !(c.toNat == 8 || c.toNat == 9 || c.toNat == 10 || c.toNat == 12 || c.toNat == 13)
  | _ => false

/-- Control characters are escaped. -/
theorem isEscapeOf_stringChar {c : Char} (h : c.toNat < 0x20) :
    isEscapeOf c (stringChar c) = true := by
  have hall : ∀ n : Fin 32, isEscapeOf (Char.ofNat n) (stringChar (Char.ofNat n)) = true := by
    decide
  have hc := hall ⟨c.toNat, h⟩
  rwa [Char.ofNat_toNat] at hc

theorem readPieces_escape {e c : Char} (hu : e ≠ 'u') (h : shortEscape? e = some c)
    (cs : List Char) :
    readPieces ('\\' :: e :: cs) = (readPieces cs).map fun p => (.char c :: p.1, p.2) := by
  rw [readPieces.eq_4 _ _ (by rintro _ _ _ _ _ rfl; exact absurd rfl hu), h]
  cases readPieces cs <;> rfl

theorem readPieces_unit {w x y z : Char} {n : Nat} (h : hex4? w x y z = some n) (cs : List Char) :
    readPieces ('\\' :: 'u' :: w :: x :: y :: z :: cs) =
      (readPieces cs).map fun p => (.unit n :: p.1, p.2) := by
  rw [readPieces, h]
  cases readPieces cs <;> rfl

theorem readPieces_plain {c : Char} (hc : c ≠ '"' ∧ c ≠ '\\' ∧ ¬ c.toNat < 0x20)
    (cs : List Char) :
    readPieces (c :: cs) = (readPieces cs).map fun p => (.char c :: p.1, p.2) := by
  obtain ⟨hquote, hback, hcontrol⟩ := hc
  rw [readPieces.eq_5]
  · rw [if_neg (by simp [hback, hcontrol])]
    cases readPieces cs <;> rfl
  · exact fun h => hquote h
  · rintro _ _ _ _ _ rfl
    exact absurd rfl hback
  · rintro _ _ rfl
    exact absurd rfl hback

/-- What is written for a character is read as one part. -/
theorem readPieces_stringChar (c : Char) (cs : List Char) :
    readPieces (stringChar c ++ cs) = (readPieces cs).map fun p => (pieceOf c :: p.1, p.2) := by
  by_cases hcontrol : c.toNat < 0x20
  · have h := isEscapeOf_stringChar hcontrol
    generalize stringChar c = text at h
    unfold isEscapeOf at h
    split at h
    · rename_i e
      simp only [Bool.and_eq_true, Bool.or_eq_true, bne_iff_ne, ne_eq, beq_iff_eq] at h
      have hpiece : pieceOf c = .char c := by
        rw [pieceOf, if_neg]
        simp only [Bool.and_eq_true, bne_iff_ne]
        omega
      rw [hpiece]
      exact readPieces_escape h.1.1 h.1.2 cs
    · rename_i w x y z
      simp only [Bool.and_eq_true, Bool.not_eq_true', Bool.or_eq_false_iff, beq_iff_eq,
        beq_eq_false_iff_ne] at h
      have hpiece : pieceOf c = .unit c.toNat := by
        rw [pieceOf, if_pos]
        simp only [Bool.and_eq_true, bne_iff_ne, decide_eq_true_eq]
        omega
      rw [hpiece]
      exact readPieces_unit h.1 cs
    · cases h
  · have hpiece : pieceOf c = .char c := by
      rw [pieceOf, if_neg]
      simp [hcontrol]
    rw [hpiece]
    by_cases hshort : c = '"' ∨ c = '\\'
    · rcases hshort with rfl | rfl
      · exact readPieces_escape (by decide) rfl cs
      · exact readPieces_escape (by decide) rfl cs
    · simp only [not_or] at hshort
      have htext : stringChar c = [c] := by
        have hne {n : Nat} (hn : n < 0x20) : c.toNat ≠ n := fun h => hcontrol (h ▸ hn)
        have hne' {d : Char} (hd : d.toNat < 0x20) : c ≠ d := fun h => hcontrol (h ▸ hd)
        rw [stringChar, if_neg (by simp [hshort]), if_neg (hne (by decide)),
          if_neg (hne' (by decide)), if_neg (hne' (by decide)), if_neg (hne (by decide)),
          if_neg (hne' (by decide)), if_neg hcontrol]
      rw [htext]
      exact readPieces_plain ⟨hshort.1, hshort.2, hcontrol⟩ cs

theorem readPieces_flatMap (cs rest : List Char) :
    readPieces (cs.flatMap stringChar ++ '"' :: rest) = some (cs.map pieceOf, rest) := by
  induction cs with
  | nil => rfl
  | cons c cs ih =>
    rw [List.flatMap_cons, List.append_assoc, readPieces_stringChar, ih]
    rfl

theorem pieceOf_cases (c : Char) :
    pieceOf c = .char c ∨ pieceOf c = .unit c.toNat ∧ c.toNat < 0x20 := by
  rw [pieceOf]
  split
  · rename_i h
    simp only [Bool.and_eq_true, decide_eq_true_eq] at h
    exact .inr ⟨rfl, h.1.1.1.1.1⟩
  · exact .inl rfl

/-- A unit that is no surrogate stands for its character. -/
theorem joinPieces_unit {n : Nat} (hn : n < 0x20) (ps : List Piece) :
    joinPieces (.unit n :: ps) = (joinPieces ps).map (Char.ofNat n :: ·) := by
  have hhigh : isHighSurrogate n = false := by simp [isHighSurrogate]; omega
  have hlow : isLowSurrogate n = false := by simp [isLowSurrogate]; omega
  cases ps with
  | nil => simp [joinPieces, hhigh, hlow]
  | cons p ps => cases p <;> simp [joinPieces, hhigh, hlow]

theorem joinPieces_map (cs : List Char) : joinPieces (cs.map pieceOf) = some cs := by
  induction cs with
  | nil => rfl
  | cons c cs ih =>
    rw [List.map_cons]
    obtain h | ⟨h, hc⟩ := pieceOf_cases c
    · rw [h, joinPieces, ih, Option.map_some]
    · rw [h, joinPieces_unit hc, ih, Option.map_some, Char.ofNat_toNat]

/-- A string is read back up to its closing quote. -/
theorem readString_stringChars (s : String) (rest : List Char) :
    readString (s.toList.flatMap stringChar ++ '"' :: rest) = some (some s, rest) := by
  rw [readString, readPieces_flatMap]
  simp [joinPieces_map, String.ofList_toList]

end ProxySync.Json
