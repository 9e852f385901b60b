import Mathlib.Data.List.TakeWhile
import ProxySync.Json.Printer
import ProxySync.Json.Reader
import ProxySync.Proofs.Text.Numeral
/-!
# Numbers in JSON can be read back

A text that reads as a number does so wherever it stands, if what follows cannot be part of it. The
text of an integer that fits reads as that integer.

## Main definitions

* `Json.EndsNumber`: no part of a number follows.

## Main statements

* `Json.readNumber_append`: reading a number in front of something else.
* `Json.readNumber_toString`: reading an integer back.
-/
namespace ProxySync.Json
variable {cs rest : List Char}

/-- A character that a number may go on with. -/
def isNumberChar (c : Char) : Bool :=
  c.isDigit || c = '.' || c = 'e' || c = 'E' || c = '+' || c = '-'

/-- What follows is no part of a number. -/
def EndsNumber (rest : List Char) : Prop := ∀ c ∈ rest.head?, isNumberChar c = false

theorem endsNumber_nil : EndsNumber [] := by simp [EndsNumber]

theorem endsNumber_cons {c : Char} (h : isNumberChar c = false) : EndsNumber (c :: rest) := by
  simpa [EndsNumber] using h

/-- Taking characters from the front stops where the rest begins, at the latest. -/
theorem takeWhile_append_of_stop {p : Char → Bool} (cs : List Char)
    (h : ∀ c ∈ rest.head?, p c = false) :
    (cs ++ rest).takeWhile p = cs.takeWhile p ∧
      (cs ++ rest).dropWhile p = cs.dropWhile p ++ rest := by
  induction cs with
  | nil =>
    cases rest with
    | nil => simp
    | cons c rest =>
      have hc : p c = false := h c rfl
      simp [hc]
  | cons c cs ih =>
    by_cases hc : p c = true
    · simp [hc, ih]
    · simp [hc]

theorem EndsNumber.not_isDigit (h : EndsNumber rest) : ∀ c ∈ rest.head?, c.isDigit = false := by
  intro c hc
  have hno := h c hc
  simp only [isNumberChar, Bool.or_eq_false_iff] at hno
  exact hno.1.1.1.1.1

theorem spanDigits_append (h : EndsNumber rest) :
    spanDigits (cs ++ rest) = ((spanDigits cs).1, (spanDigits cs).2 ++ rest) := by
  obtain ⟨htake, hdrop⟩ := takeWhile_append_of_stop cs h.not_isDigit
  simp only [spanDigits, htake, hdrop]

/-! ## The parts of a number -/

theorem readWhole_append (h : EndsNumber rest) {whole r : List Char}
    (hread : readWhole cs = some (whole, r)) :
    readWhole (cs ++ rest) = some (whole, r ++ rest) := by
  cases cs with
  | nil => cases hread
  | cons c cs =>
    by_cases hc : c = '0'
    · subst hc
      simp only [readWhole] at hread
      have hhead : ((cs ++ rest).head?.map Char.isDigit).getD false =
          (cs.head?.map Char.isDigit).getD false := by
        cases cs with
        | nil =>
          cases rest with
          | nil => rfl
          | cons d rest => simpa using h.not_isDigit d
        | cons d cs => rfl
      rw [List.cons_append, readWhole, hhead]
      split at hread
      · cases hread
      · rename_i hno
        cases hread
        rw [if_neg hno]
    · rw [readWhole.eq_2 _ (by rintro _ ⟨⟩; exact hc rfl)] at hread
      rw [List.cons_append, readWhole.eq_2 _ (by rintro _ ⟨⟩; exact hc rfl), ← List.cons_append,
        spanDigits_append h]
      simp only at hread ⊢
      split at hread
      · cases hread
      · rename_i hne
        cases hread
        rw [if_neg hne]

theorem readFraction_append (h : EndsNumber rest) {fraction r : List Char}
    (hread : readFraction cs = some (fraction, r)) :
    readFraction (cs ++ rest) = some (fraction, r ++ rest) := by
  have hplain {cs : List Char} (hno : ∀ r, cs ≠ '.' :: r) : readFraction cs = some ([], cs) :=
    readFraction.eq_2 cs fun r hr => hno r hr
  by_cases hdot : ∃ r, cs = '.' :: r
  · obtain ⟨r', rfl⟩ := hdot
    rw [List.cons_append, readFraction, spanDigits_append h]
    rw [readFraction] at hread
    simp only at hread ⊢
    split at hread
    · cases hread
    · rename_i hne
      cases hread
      rw [if_neg hne]
  · rw [hplain fun r hr => hdot ⟨r, hr⟩] at hread
    cases hread
    refine hplain ?_
    rintro r hr
    cases cs with
    | nil =>
      have hno := h '.' (by simp only [List.nil_append] at hr; simp [hr])
      cases hno
    | cons c cs =>
      cases hr
      exact hdot ⟨_, rfl⟩

theorem readExponent_append (h : EndsNumber rest) {exponent r : List Char}
    (hread : readExponent cs = some (exponent, r)) :
    readExponent (cs ++ rest) = some (exponent, r ++ rest) := by
  cases cs with
  | nil =>
    cases hread
    cases rest with
    | nil => rfl
    | cons c rest =>
      have hc : ¬(c = 'e' ∨ c = 'E') := by
        rintro (rfl | rfl)
        · cases h 'e' (by simp)
        · cases h 'E' (by simp)
      rw [List.nil_append, readExponent, if_neg (by simpa using hc)]
  | cons e cs =>
    by_cases he : e = 'e' ∨ e = 'E'
    · have hsign : ∀ c ∈ rest.head?, decide (c = '+' ∨ c = '-') = false := by
        intro c hc
        have hno := h c hc
        simp only [isNumberChar, Bool.or_eq_false_iff, decide_eq_false_iff_not] at hno
        simp [hno.1.2, hno.2]
      obtain ⟨htake, _⟩ := takeWhile_append_of_stop cs hsign
      rw [List.cons_append, readExponent, if_pos (by simpa using he)]
      rw [readExponent, if_pos (by simpa using he)] at hread
      simp only at hread ⊢
      have hlen : (cs.takeWhile fun c => c = '+' || c = '-').length ≤ cs.length :=
        (List.takeWhile_prefix _).length_le
      simp only [Bool.decide_or] at htake
      rw [htake, List.drop_append_of_le_length hlen, spanDigits_append h]
      split at hread
      · rename_i hok
        cases hread
        rw [if_pos hok]
      · cases hread
    · rw [readExponent, if_neg (by simpa using he)] at hread
      cases hread
      rw [List.cons_append, readExponent, if_neg (by simpa using he)]

/-! ## A number as a whole -/

/-- The digits before the point, the fraction, the exponent, and what follows. -/
def readParts (cs : List Char) : Option (List Char × List Char × List Char × List Char) := do
  let (whole, rest) ← readWhole (if cs.head? = some '-' then cs.drop 1 else cs)
  let (fraction, rest) ← readFraction rest
  let (exponent, rest) ← readExponent rest
  return (whole, fraction, exponent, rest)

/-- What the parts of a number make. -/
def ofParts (negative : Bool) (whole fraction exponent : List Char) : Json :=
  if !isFinite (whole ++ fraction.drop 1)
    (exponentValue exponent - (fraction.length - 1 : Nat)) then .illFormed
  else if fraction.isEmpty && exponent.isEmpty then ofWhole negative whole
  else
    let digits := whole ++ fraction ++ exponent
    .decimal (String.ofList (if negative then '-' :: digits else digits))

/-- A number is read by its parts. -/
theorem readNumber_eq (cs : List Char) :
    readNumber cs = (readParts cs).map fun p =>
      (ofParts (cs.head? = some '-') p.1 p.2.1 p.2.2.1, p.2.2.2) := by
  rw [readNumber, readParts]
  cases readWhole (if cs.head? = some '-' then cs.drop 1 else cs) with
  | none => rfl
  | some w =>
    cases hf : readFraction w.2 with
    | none => simp [hf]
    | some f =>
      cases he : readExponent f.2 with
      | none => simp [hf, he]
      | some e =>
        simp only [hf, he, Option.bind_eq_bind, Option.bind_some, Option.pure_def, Option.map_some,
          ofParts]
        split
        · rfl
        · split <;> simp

theorem readParts_append (h : EndsNumber rest) {whole fraction exponent r : List Char}
    (hread : readParts cs = some (whole, fraction, exponent, r)) :
    readParts (cs ++ rest) = some (whole, fraction, exponent, r ++ rest) := by
  have hpart : (if (cs ++ rest).head? = some '-' then (cs ++ rest).drop 1 else cs ++ rest) =
      (if cs.head? = some '-' then cs.drop 1 else cs) ++ rest := by
    cases cs with
    | nil => cases hread
    | cons c cs =>
      simp only [List.cons_append, List.head?_cons, List.drop_one, List.tail_cons]
      split <;> rfl
  simp only [readParts, Option.bind_eq_bind, Option.bind_eq_some_iff, hpart] at hread ⊢
  obtain ⟨⟨w, r₁⟩, hw, ⟨f, r₂⟩, hf, ⟨e, r₃⟩, he, hr⟩ := hread
  cases hr
  exact ⟨_, readWhole_append h hw, _, readFraction_append h hf, _, readExponent_append h he, rfl⟩

/-- A text that reads as a number does so in front of what cannot be part of it. -/
theorem readNumber_append (h : EndsNumber rest) {j : Json}
    (hread : readNumber cs = some (j, [])) : readNumber (cs ++ rest) = some (j, rest) := by
  rw [readNumber_eq] at hread ⊢
  cases cs with
  | nil => cases hread
  | cons c cs =>
    obtain ⟨⟨whole, fraction, exponent, r⟩, hparts, hj⟩ := Option.map_eq_some_iff.1 hread
    obtain ⟨rfl, rfl⟩ := Prod.mk.inj hj
    rw [readParts_append h hparts]
    rfl

/-! ## Integers -/

theorem natOfDigits_toDigits (n : Nat) : natOfDigits (Nat.toDigits 10 n) = n := by
  have h : Nat.ofDigitChars 10 (Nat.toDigits 10 n) 0 = _ := Nat.ofDigitChars_eq_foldl
  rw [Nat.ofDigitChars_ten_toDigits] at h
  exact h.symm

/-- Only zero is written with a leading zero. -/
theorem head?_toDigits_ne_zero {n : Nat} (hn : 0 < n) : (Nat.toDigits 10 n).head? ≠ some '0' := by
  intro hzero
  induction n using Nat.strongRecOn with
  | ind n ih =>
    by_cases h : n < 10
    · rw [Nat.toDigits_of_lt_base h] at hzero
      have hdigit : ∀ m : Fin 10, 0 < m.1 → Nat.digitChar m.1 ≠ '0' := by decide
      exact hdigit ⟨n, h⟩ hn (by simpa using hzero)
    · rw [Nat.toDigits_of_base_le (by decide) (by omega), List.head?_append] at hzero
      cases hd : Nat.toDigits 10 (n / 10) with
      | nil => exact Nat.toDigits_ne_nil hd
      | cons c cs =>
        refine ih (n / 10) (by omega) (by omega) ?_
        rw [hd] at hzero ⊢
        exact hzero

theorem readWhole_toDigits (n : Nat) :
    readWhole (Nat.toDigits 10 n) = some (Nat.toDigits 10 n, []) := by
  by_cases hn : n = 0
  · subst hn
    rfl
  · have hdigits : ∀ c ∈ Nat.toDigits 10 n, c.isDigit = true :=
      fun _ => Numeral.isDigit_of_mem_toDigits
    have htake : (Nat.toDigits 10 n).takeWhile Char.isDigit = Nat.toDigits 10 n :=
      List.takeWhile_eq_self_iff.2 hdigits
    have hdrop : (Nat.toDigits 10 n).dropWhile Char.isDigit = [] :=
      List.dropWhile_eq_nil_iff.2 hdigits
    rw [readWhole.eq_2]
    · simp only [spanDigits, htake, hdrop]
      rw [if_neg (by simp)]
    · intro r hr
      exact head?_toDigits_ne_zero (Nat.pos_of_ne_zero hn) (by rw [hr]; rfl)

/-- Integers that fit have few digits. -/
theorem isFinite_toDigits {n : Nat} (hn : n < 0x10000000000000000) :
    isFinite (Nat.toDigits 10 n) 0 = true := by
  have hlen : (Nat.toDigits 10 n).length ≤ 20 :=
    (Nat.length_toDigits_le_iff (by decide) (by decide)).2 (Nat.lt_trans hn (by decide))
  have hshort : ((Nat.toDigits 10 n).dropWhile (· = '0')).length ≤ 20 :=
    Nat.le_trans (List.dropWhile_suffix _).length_le hlen
  rw [isFinite]
  simp only [Int.add_zero]
  rw [if_pos]
  have hlt : (((Nat.toDigits 10 n).dropWhile (· = '0')).length : Int) < 300 := by omega
  simp [hlt]

/-- An integer that fits is read back from its text. -/
theorem readNumber_toString {n : Int} (hn : fitsInt n = true) :
    readNumber (toString n).toList = some (.int n, []) := by
  have hfits : n.natAbs < 0x10000000000000000 := by
    simp only [fitsInt, Bool.and_eq_true, decide_eq_true_eq] at hn
    omega
  have hdigit (n : Nat) : (Nat.toDigits 10 n).head? ≠ some '-' := by
    intro h
    have hmem : '-' ∈ Nat.toDigits 10 n := List.mem_of_head? h
    cases Numeral.isDigit_of_mem_toDigits hmem
  have hparts : readParts (toString n).toList = some (Nat.toDigits 10 n.natAbs, [], [], []) := by
    have hbody : (if (toString n).toList.head? = some '-' then (toString n).toList.drop 1
        else (toString n).toList) = Nat.toDigits 10 n.natAbs := by
      rw [Numeral.toList_toString]
      split <;> simp [hdigit]
    rw [readParts, hbody, readWhole_toDigits]
    rfl
  have hneg : decide ((toString n).toList.head? = some '-') = decide (n < 0) := by
    rw [Numeral.toList_toString]
    split
    · rename_i h
      simp [h]
    · rename_i h
      simp [h, hdigit]
  have hvalue : (if decide (n < 0) = true then -(natOfDigits (Nat.toDigits 10 n.natAbs) : Int)
      else natOfDigits (Nat.toDigits 10 n.natAbs)) = n := by
    simp only [natOfDigits_toDigits, decide_eq_true_eq]
    split <;> omega
  rw [readNumber_eq, hparts, Option.map_some, hneg, ofParts]
  simp only [List.drop_nil, List.append_nil, exponentValue, List.length_nil, Nat.zero_sub,
    Int.ofNat_zero, Int.sub_zero, List.isEmpty_nil, Bool.and_self, if_true]
  rw [isFinite_toDigits hfits, ofWhole, hvalue, hn]
  have hzero : (decide (n < 0) && n == 0) = false := by
    by_cases h : n = 0
    · subst h
      rfl
    · simp [h]
  rw [hzero]
  rfl

end ProxySync.Json
