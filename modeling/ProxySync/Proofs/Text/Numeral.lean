import ProxySync.Text.Numeral
/-!
# Numerals that are written can be read

An integer is written with its decimal digits, after a minus sign if it is negative. Reading gives
back the integer, where it fits the range asked for. Beside these texts there are those with a plus
sign and with leading zeros, and no others.

## Main definitions

* `Numeral.IsDecimal`: the decimal texts of an integer.

## Main statements

* `Numeral.int?_toString`, `Numeral.int64?_toString`: the round trip.
* `Numeral.int64?_eq_some_iff`: which texts are read, and as what.
-/
namespace ProxySync.Numeral

/-- The text of an integer. -/
theorem toList_toString (n : Int) :
    (toString n).toList =
      if n < 0 then '-' :: Nat.toDigits 10 n.natAbs else Nat.toDigits 10 n.natAbs := by
  cases n with
  | ofNat m =>
    have hm : ¬ (Int.ofNat m < 0) := by simp
    rw [if_neg hm]
    exact Nat.toList_repr
  | negSucc m =>
    rw [if_pos (Int.negSucc_lt_zero m)]
    show ("-" ++ Nat.repr (m + 1)).toList = _
    rw [String.toList_append, Nat.toList_repr]
    rfl

theorem isDigit_of_mem_toDigits {n : Nat} {c : Char} (h : c ∈ Nat.toDigits 10 n) :
    c.isDigit = true :=
  Nat.isDigit_of_mem_toDigits (by decide) (by decide) h

/-- A run of digits has a value. -/
theorem digitsFrom?_eq {cs : List Char} (h : ∀ c ∈ cs, c.isDigit = true) (value : Nat) :
    digitsFrom? value cs = some (Nat.ofDigitChars 10 cs value) := by
  induction cs generalizing value with
  | nil => rfl
  | cons c cs ih =>
    have hc : digit? c = some (c.toNat - '0'.toNat) := by simp [digit?, h c]
    rw [digitsFrom?, hc, Nat.ofDigitChars_cons]
    exact ih (fun x hx => h x (List.mem_cons_of_mem _ hx)) _

theorem digits?_toDigits (n : Nat) : digits? (Nat.toDigits 10 n) = some n := by
  have hread := digitsFrom?_eq (fun _ => isDigit_of_mem_toDigits (n := n)) 0
  rw [Nat.ofDigitChars_ten_toDigits] at hread
  cases hd : Nat.toDigits 10 n with
  | nil => exact absurd hd Nat.toDigits_ne_nil
  | cons c cs =>
    rw [← hread, hd, digits?]
    exact List.cons_ne_nil c cs

/-- An integer is read back from its text. -/
theorem int?_toString (n : Int) : int? (toString n).toList = some n := by
  rw [toList_toString]
  by_cases hn : n < 0
  · rw [if_pos hn, int?, digits?_toDigits]
    have hvalue : -(n.natAbs : Int) = n := by omega
    exact congrArg some hvalue
  · rw [if_neg hn]
    have hvalue : (n.natAbs : Int) = n := by omega
    have hread := digits?_toDigits n.natAbs
    cases hd : Nat.toDigits 10 n.natAbs with
    | nil => exact absurd hd Nat.toDigits_ne_nil
    | cons c cs =>
      have hc : c.isDigit = true := isDigit_of_mem_toDigits (n := n.natAbs) (by simp [hd])
      rw [hd] at hread
      rw [int?.eq_3, hread]
      · exact congrArg some hvalue
      · rintro _ ⟨⟩
        cases hc
      · rintro _ ⟨⟩
        cases hc

/-- An integer of 64 bits is read back as such. -/
theorem int64?_toString {n : Int} (h : -0x8000000000000000 ≤ n ∧ n < 0x8000000000000000) :
    int64? (toString n) = some (Int64.ofInt n) := by
  simp only [int64?, int?_toString, Option.bind_eq_bind, Option.bind_some, h, and_self, if_true]

/-! ## All texts of an integer -/

/-- A run of decimal digits and its value. -/
inductive IsDigits : List Char → Nat → Prop
  | mk {ds : List Char} (nonempty : ds ≠ []) (digits : ∀ c ∈ ds, c.isDigit = true) :
      IsDigits ds (Nat.ofDigitChars 10 ds 0)

/-- A decimal text of an integer: an optional sign and at least one digit. -/
inductive IsDecimal : List Char → Int → Prop
  | unsigned {ds : List Char} {n : Nat} (digits : IsDigits ds n) : IsDecimal ds n
  | plus {ds : List Char} {n : Nat} (digits : IsDigits ds n) : IsDecimal ('+' :: ds) n
  | minus {ds : List Char} {n : Nat} (digits : IsDigits ds n) : IsDecimal ('-' :: ds) (-n)

theorem digitsFrom?_eq_some {cs : List Char} {value n : Nat} (h : digitsFrom? value cs = some n) :
    ∀ c ∈ cs, c.isDigit = true := by
  induction cs generalizing value with
  | nil => nofun
  | cons c cs ih =>
    simp only [digitsFrom?, Option.bind_eq_bind, Option.bind_eq_some_iff] at h
    obtain ⟨d, hd, hrest⟩ := h
    refine List.forall_mem_cons.2 ⟨?_, ih hrest⟩
    rw [digit?] at hd
    split at hd
    · assumption
    · cases hd

theorem digits?_eq_some_iff {cs : List Char} {n : Nat} :
    digits? cs = some n ↔ IsDigits cs n := by
  constructor
  · intro h
    cases cs with
    | nil => cases h
    | cons c cs =>
      have hdigits := digitsFrom?_eq_some h
      have hvalue := digitsFrom?_eq hdigits 0
      rw [digits?, hvalue] at h
      · obtain rfl := Option.some.inj h
        exact .mk (List.cons_ne_nil c cs) hdigits
      · exact List.cons_ne_nil c cs
  · rintro ⟨hne, hdigits⟩
    rw [digits?, digitsFrom?_eq hdigits]
    exact hne

/-- A text is read as an integer just if it is a decimal text of it. -/
theorem int?_eq_some_iff {cs : List Char} {n : Int} : int? cs = some n ↔ IsDecimal cs n := by
  constructor
  · intro h
    rw [int?.eq_def] at h
    split at h
    all_goals
      simp only [Option.map_eq_some_iff, Option.bind_eq_bind, Option.bind_eq_some_iff,
        Option.pure_def, Option.some.injEq] at h
      obtain ⟨_, ⟨m, hm, rfl⟩, rfl⟩ := h
      have hdigits := digits?_eq_some_iff.1 hm
    · exact .minus hdigits
    · exact .plus hdigits
    · exact .unsigned hdigits
  · intro h
    cases h with
    | @unsigned ds n digits =>
      have hread := digits?_eq_some_iff.2 digits
      obtain ⟨hne, hdigits⟩ := digits
      rw [int?.eq_3, hread]
      · rfl
      · rintro _ rfl
        cases hdigits '-' List.mem_cons_self
      · rintro _ rfl
        cases hdigits '+' List.mem_cons_self
    | plus digits => rw [int?, digits?_eq_some_iff.2 digits]; rfl
    | minus digits => rw [int?, digits?_eq_some_iff.2 digits]; rfl

/-- A text is read as an integer of 64 bits just if it is a decimal text of it. -/
theorem int64?_eq_some_iff {s : String} {n : Int64} :
    int64? s = some n ↔ IsDecimal s.toList n.toInt := by
  simp only [int64?, Option.bind_eq_bind, Option.bind_eq_some_iff, int?_eq_some_iff]
  constructor
  · rintro ⟨m, hm, h⟩
    split at h
    · rename_i hrange
      obtain rfl := Option.some.inj h
      rwa [Int64.toInt_ofInt_of_le hrange.1 hrange.2]
    · cases h
  · exact fun h => ⟨_, h, by rw [if_pos ⟨n.le_toInt, n.toInt_lt⟩, Int64.ofInt_toInt]⟩

/-- There are no other characters than signs and digits in a decimal text. -/
theorem IsDecimal.mem {cs : List Char} {n : Int} (h : IsDecimal cs n) {c : Char} (hc : c ∈ cs) :
    c.isDigit = true ∨ c = '+' ∨ c = '-' := by
  cases h with
  | unsigned digits =>
    obtain ⟨-, hdigits⟩ := digits
    exact .inl (hdigits c hc)
  | plus digits =>
    obtain ⟨-, hdigits⟩ := digits
    rcases List.mem_cons.1 hc with rfl | hc
    · exact .inr (.inl rfl)
    · exact .inl (hdigits c hc)
  | minus digits =>
    obtain ⟨-, hdigits⟩ := digits
    rcases List.mem_cons.1 hc with rfl | hc
    · exact .inr (.inr rfl)
    · exact .inl (hdigits c hc)

end ProxySync.Numeral
