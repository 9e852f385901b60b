import Mathlib.Data.List.Induction
import ProxySync.Proofs.Json.ReadBack
/-!
# The grammar of JSON

Which texts are values, said without the reader: white space, numbers, strings, lists and objects.
The tokens among them are what the reader takes for one: a number, or what stands between quotes.

## Main definitions

* `Json.IsNumber`: the text of a number.
* `Json.Parts`, `Json.Means`, `Json.Says`: what stands between the quotes of a string, and what it
  says.
* `Json.IsText`, `Json.Items`, `Json.Members`: the text of a value, and the texts of the values in
  lists and objects.

## Main statements

* `Json.readNumber_text`, `Json.of_readNumber`: the text of a number is read, and nothing else is.
* `Json.readNumber_eq_int_iff`: a number that is read as an integer is written as that integer is.
* `Json.readString_parts`, `Json.of_readString`: so for strings, with what they say.
-/
namespace ProxySync.Json

/-- White space between tokens. -/
def IsGap (cs : List Char) : Prop := ∀ c ∈ cs, isGap c = true

/-! ## The grammar -/

/-- A run of digits. -/
def IsRun (cs : List Char) : Prop := cs ≠ [] ∧ ∀ c ∈ cs, c.isDigit = true

/-- The digits before the point: a single zero, or digits that do not begin with one. -/
def IsWhole (cs : List Char) : Prop := IsRun cs ∧ (cs.head? = some '0' → cs = ['0'])

/-- The point and the digits after it, if there is a point. -/
inductive IsFraction : List Char → Prop
  | absent : IsFraction []
  | digits {ds : List Char} (run : IsRun ds) : IsFraction ('.' :: ds)

/-- The exponent, if there is one. -/
inductive IsExponent : List Char → Prop
  | absent : IsExponent []
  | digits {e : Char} {sign ds : List Char} (letter : e = 'e' ∨ e = 'E')
      (sign_mem : sign ∈ [[], ['+'], ['-']]) (run : IsRun ds) : IsExponent (e :: sign ++ ds)

/-- The text of a number. -/
inductive IsNumber : List Char → Prop
  | mk {sign whole fraction exponent : List Char} (sign_mem : sign ∈ [[], ['-']])
      (whole_digits : IsWhole whole) (fraction_digits : IsFraction fraction)
      (exponent_digits : IsExponent exponent) :
      IsNumber (sign ++ whole ++ fraction ++ exponent)

/-- The text between the quotes of a string, and its parts. -/
inductive Parts : List Char → List Piece → Prop
  | nil : Parts [] []
  | plain {c : Char} {cs : List Char} {ps : List Piece}
      (plain : c ≠ '"' ∧ c ≠ '\\' ∧ ¬ c.toNat < 0x20) (rest : Parts cs ps) :
      Parts (c :: cs) (.char c :: ps)
  | escape {e c : Char} {cs : List Char} {ps : List Piece} (escape : shortEscape? e = some c)
      (rest : Parts cs ps) : Parts ('\\' :: e :: cs) (.char c :: ps)
  | unit {w x y z : Char} {n : Nat} {cs : List Char} {ps : List Piece}
      (hex : hex4? w x y z = some n) (rest : Parts cs ps) :
      Parts ('\\' :: 'u' :: w :: x :: y :: z :: cs) (.unit n :: ps)

/-- The characters that parts stand for: surrogates come in pairs. -/
inductive Means : List Piece → List Char → Prop
  | nil : Means [] []
  | char {c : Char} {ps : List Piece} {cs : List Char} (rest : Means ps cs) :
      Means (.char c :: ps) (c :: cs)
  | unit {n : Nat} {ps : List Piece} {cs : List Char} (high : isHighSurrogate n = false)
      (low : isLowSurrogate n = false) (rest : Means ps cs) :
      Means (.unit n :: ps) (Char.ofNat n :: cs)
  | pair {n m : Nat} {ps : List Piece} {cs : List Char} (high : isHighSurrogate n = true)
      (low : isLowSurrogate m = true) (rest : Means ps cs) :
      Means (.unit n :: .unit m :: ps)
        (Char.ofNat (0x10000 + (n - 0xd800) * 0x400 + (m - 0xdc00)) :: cs)

/-- A member of an object as it is written: its name between the quotes, and its value. -/
abbrev WrittenMember := List Char × List Char

mutual

/-- The text of a value, without white space around it. -/
inductive IsText : List Char → Prop
  | null : IsText ['n', 'u', 'l', 'l']
  | yes : IsText ['t', 'r', 'u', 'e']
  | no : IsText ['f', 'a', 'l', 's', 'e']
  | number {cs : List Char} (number : IsNumber cs) : IsText cs
  | string {cs : List Char} {ps : List Piece} (parts : Parts cs ps) : IsText ('"' :: cs ++ ['"'])
  | noItems {gap : List Char} (isGap : IsGap gap) : IsText ('[' :: gap ++ [']'])
  | list {vs : List (List Char)} {cs : List Char} (items : Items vs cs) :
      IsText ('[' :: cs ++ [']'])
  | noMembers {gap : List Char} (isGap : IsGap gap) : IsText ('{' :: gap ++ ['}'])
  | object {ms : List WrittenMember} {cs : List Char} (members : Members ms cs) :
      IsText ('{' :: cs ++ ['}'])

/-- The texts of values with commas between them, and white space around each. -/
inductive Items : List (List Char) → List Char → Prop
  | last {v gap gap' : List Char} (isGap : IsGap gap) (isText : IsText v) (isGap' : IsGap gap') :
      Items [v] (gap ++ v ++ gap')
  | cons {v gap gap' : List Char} {vs : List (List Char)} {cs : List Char} (isGap : IsGap gap)
      (isText : IsText v) (isGap' : IsGap gap') (rest : Items vs cs) :
      Items (v :: vs) (gap ++ v ++ gap' ++ ',' :: cs)

/-- Members with commas between them, and white space around all their parts. -/
inductive Members : List WrittenMember → List Char → Prop
  | last {k v gap gap₁ gap₂ gap' : List Char} {ps : List Piece} (isGap : IsGap gap)
      (parts : Parts k ps) (isGap₁ : IsGap gap₁) (isGap₂ : IsGap gap₂) (isText : IsText v)
      (isGap' : IsGap gap') :
      Members [(k, v)] (gap ++ '"' :: k ++ '"' :: gap₁ ++ ':' :: gap₂ ++ v ++ gap')
  | cons {k v gap gap₁ gap₂ gap' : List Char} {ps : List Piece} {ms : List WrittenMember}
      {cs : List Char} (isGap : IsGap gap) (parts : Parts k ps) (isGap₁ : IsGap gap₁)
      (isGap₂ : IsGap gap₂) (isText : IsText v) (isGap' : IsGap gap') (rest : Members ms cs) :
      Members ((k, v) :: ms)
        (gap ++ '"' :: k ++ '"' :: gap₁ ++ ':' :: gap₂ ++ v ++ gap' ++ ',' :: cs)

end

variable {cs rest : List Char}

/-! ## White space -/

theorem isGap_nil : IsGap [] := by simp [IsGap]

/-- What is skipped is white space. -/
theorem exists_gap (cs : List Char) : ∃ gap, IsGap gap ∧ cs = gap ++ skipGap cs :=
  ⟨cs.takeWhile isGap, fun _ => List.mem_takeWhile_imp, List.takeWhile_append_dropWhile.symm⟩

theorem skipGap_append {gap : List Char} (h : IsGap gap) (cs : List Char) :
    skipGap (gap ++ cs) = skipGap cs := by
  rw [skipGap, List.dropWhile_append_of_pos h, skipGap]

theorem skipGap_eq_nil_iff : skipGap cs = [] ↔ IsGap cs := List.dropWhile_eq_nil_iff

/-- White space in front of a value does not count. -/
theorem readValue_gap {gap : List Char} (h : IsGap gap) (fuel room : Nat) (cs : List Char) :
    readValue fuel room (gap ++ cs) = readValue fuel room cs := by
  cases fuel with
  | zero => simp only [readValue]
  | succ fuel => rw [readValue, skipGap_append h, readValue]

/-! ## Numbers -/

theorem not_isDigit_append {front rest : List Char}
    (hfront : ∀ c ∈ front.head?, c.isDigit = false)
    (hrest : front = [] → ∀ c ∈ rest.head?, c.isDigit = false) :
    ∀ c ∈ (front ++ rest).head?, c.isDigit = false := by
  cases front with
  | nil => exact hrest rfl
  | cons c front => simpa using hfront

theorem spanDigits_run {ds : List Char} (h : ∀ c ∈ ds, c.isDigit = true)
    (hrest : ∀ c ∈ rest.head?, c.isDigit = false) : spanDigits (ds ++ rest) = (ds, rest) := by
  obtain ⟨htake, hdrop⟩ := takeWhile_append_of_stop ds hrest
  rw [spanDigits, htake, hdrop, List.takeWhile_eq_self_iff.2 h, List.dropWhile_eq_nil_iff.2 h]
  rfl

theorem of_spanDigits {ds r : List Char} (h : spanDigits cs = (ds, r)) :
    cs = ds ++ r ∧ ∀ c ∈ ds, c.isDigit = true := by
  obtain ⟨rfl, rfl⟩ := Prod.mk.inj h
  exact ⟨List.takeWhile_append_dropWhile.symm, fun _ => List.mem_takeWhile_imp⟩

theorem readWhole_text {whole : List Char} (h : IsWhole whole)
    (hrest : ∀ c ∈ rest.head?, c.isDigit = false) :
    readWhole (whole ++ rest) = some (whole, rest) := by
  obtain ⟨⟨hne, hdigits⟩, hzero⟩ := h
  by_cases hz : whole.head? = some '0'
  · rw [hzero hz, List.singleton_append, readWhole, if_neg]
    cases rest with
    | nil => exact Bool.false_ne_true
    | cons c rest => simpa using hrest c
  · rw [readWhole.eq_2, spanDigits_run hdigits hrest]
    · simp [hne]
    · cases whole with
      | nil => exact absurd rfl hne
      | cons c whole =>
        rintro r hr
        cases hr
        exact hz rfl

theorem of_readWhole {whole r : List Char} (h : readWhole cs = some (whole, r)) :
    cs = whole ++ r ∧ IsWhole whole := by
  rw [readWhole.eq_def] at h
  split at h
  · split at h
    · cases h
    · cases h
      exact ⟨rfl, ⟨List.cons_ne_nil _ _, by simp⟩, fun _ => rfl⟩
  · rename_i hne
    obtain ⟨ds, r', hspan⟩ : ∃ ds r', spanDigits cs = (ds, r') := ⟨_, _, rfl⟩
    obtain ⟨hcs, hdigits⟩ := of_spanDigits hspan
    rw [hspan] at h
    simp only [List.isEmpty_iff] at h
    split at h
    · cases h
    · rename_i hds
      cases h
      refine ⟨hcs, ⟨hds, hdigits⟩, fun hzero => ?_⟩
      cases whole with
      | nil => cases hzero
      | cons c whole =>
        cases hzero
        exact absurd hcs (hne _)

theorem readFraction_text {fraction : List Char} (h : IsFraction fraction)
    (hrest : ∀ c ∈ rest.head?, c.isDigit = false ∧ c ≠ '.') :
    readFraction (fraction ++ rest) = some (fraction, rest) := by
  cases h with
  | absent =>
    rw [List.nil_append, readFraction.eq_2]
    rintro r rfl
    exact (hrest '.' rfl).2 rfl
  | digits run =>
    rw [List.cons_append, readFraction, spanDigits_run run.2 fun c hc => (hrest c hc).1]
    simp [run.1]

theorem of_readFraction {fraction r : List Char} (h : readFraction cs = some (fraction, r)) :
    cs = fraction ++ r ∧ IsFraction fraction := by
  rw [readFraction.eq_def] at h
  split at h
  · rename_i tail
    obtain ⟨ds, r', hspan⟩ : ∃ ds r', spanDigits tail = (ds, r') := ⟨_, _, rfl⟩
    obtain ⟨rfl, hdigits⟩ := of_spanDigits hspan
    rw [hspan] at h
    simp only [List.isEmpty_iff] at h
    split at h
    · cases h
    · rename_i hds
      cases h
      exact ⟨rfl, .digits ⟨hds, hdigits⟩⟩
  · cases h
    exact ⟨rfl, .absent⟩

theorem takeWhile_sign {sign ds : List Char} (hsign : sign ∈ [[], ['+'], ['-']]) (run : IsRun ds) :
    (sign ++ ds).takeWhile (fun c => c = '+' || c = '-') = sign := by
  have hds : ds.takeWhile (fun c => c = '+' || c = '-') = [] := by
    obtain ⟨hne, hdigits⟩ := run
    cases ds with
    | nil => exact absurd rfl hne
    | cons d ds =>
      have hd := hdigits d List.mem_cons_self
      rw [List.takeWhile_cons_of_neg]
      simp only [Bool.or_eq_true, decide_eq_true_eq, not_or]
      constructor <;> (rintro rfl; cases hd)
  simp only [List.mem_cons, List.not_mem_nil, or_false] at hsign
  rcases hsign with rfl | rfl | rfl <;> simp_all

theorem readExponent_text {exponent : List Char} (h : IsExponent exponent) :
    readExponent exponent = some (exponent, []) := by
  cases h with
  | absent => rfl
  | @digits e sign ds letter sign_mem run =>
    have hrun : spanDigits (ds ++ []) = (ds, []) := spanDigits_run run.2 (by simp)
    have hspan : spanDigits ds = (ds, []) := by rwa [List.append_nil] at hrun
    have hlen : sign.length ≤ 1 := by
      simp only [List.mem_cons, List.not_mem_nil, or_false] at sign_mem
      rcases sign_mem with rfl | rfl | rfl <;> decide
    rw [List.cons_append, readExponent, if_pos (by simpa using letter)]
    simp only [takeWhile_sign sign_mem run, List.drop_left, hspan]
    rw [if_pos (by simp [hlen, run.1])]
    rfl

theorem of_readExponent {exponent r : List Char} (h : readExponent cs = some (exponent, r)) :
    cs = exponent ++ r ∧ IsExponent exponent := by
  cases cs with
  | nil =>
    cases h
    exact ⟨rfl, .absent⟩
  | cons e tail =>
    rw [readExponent] at h
    split at h
    · rename_i letter
      generalize hs : tail.takeWhile (fun c => c = '+' || c = '-') = sign at h
      obtain ⟨ds, r', hspan⟩ : ∃ ds r', spanDigits (tail.drop sign.length) = (ds, r') := ⟨_, _, rfl⟩
      obtain ⟨hdrop, hdigits⟩ := of_spanDigits hspan
      simp only [hspan] at h
      split at h
      · rename_i hok
        simp only [Bool.and_eq_true, decide_eq_true_eq, Bool.not_eq_true',
          List.isEmpty_eq_false_iff] at hok
        cases h
        have htail : tail = sign ++ tail.drop sign.length := by
          have hfront : sign <+: tail := hs ▸ List.takeWhile_prefix _
          exact (List.prefix_iff_eq_append.1 hfront).symm
        refine ⟨?_, .digits (by simpa using letter) ?_ ⟨hok.2, hdigits⟩⟩
        · rw [List.cons_append, List.cons_append, List.append_assoc, ← hdrop, ← htail]
        · have hall : ∀ c ∈ sign, (c = '+' || c = '-') = true := by
            rw [← hs]
            exact fun _ => List.mem_takeWhile_imp
          cases sign with
          | nil => simp
          | cons c sign =>
            obtain rfl : sign = [] := by simpa using hok.1
            simpa using hall c
      · cases h
    · cases h
      exact ⟨rfl, .absent⟩

theorem head_of_isExponent {exponent : List Char} (h : IsExponent exponent) :
    ∀ c ∈ exponent.head?, c.isDigit = false ∧ c ≠ '.' := by
  cases h with
  | absent => simp
  | digits letter => rcases letter with rfl | rfl <;> simp

/-- The parts of a number are read from its text. -/
theorem readParts_text {sign whole fraction exponent : List Char} (hsign : sign ∈ [[], ['-']])
    (hw : IsWhole whole) (hf : IsFraction fraction) (he : IsExponent exponent) :
    readParts (sign ++ whole ++ fraction ++ exponent) = some (whole, fraction, exponent, []) := by
  have hbody : (if (sign ++ whole ++ fraction ++ exponent).head? = some '-' then
      (sign ++ whole ++ fraction ++ exponent).drop 1 else sign ++ whole ++ fraction ++ exponent) =
      whole ++ (fraction ++ exponent) := by
    simp only [List.mem_cons, List.not_mem_nil, or_false] at hsign
    rcases hsign with rfl | rfl
    · obtain ⟨⟨hne, hdigits⟩, -⟩ := hw
      cases whole with
      | nil => exact absurd rfl hne
      | cons c whole =>
        have hc : c ≠ '-' := by
          rintro rfl
          cases hdigits '-' List.mem_cons_self
        simp [hc]
    · simp
  have hexponent := head_of_isExponent he
  have hstop : ∀ c ∈ (fraction ++ exponent).head?, c.isDigit = false := by
    refine not_isDigit_append ?_ fun _ c hc => (hexponent c hc).1
    cases hf with
    | absent => simp
    | digits => simp
  rw [readParts, hbody, readWhole_text hw hstop]
  simp only [Option.bind_eq_bind, Option.bind_some, readFraction_text hf hexponent,
    readExponent_text he, Option.pure_def]

theorem of_readParts {whole fraction exponent r : List Char}
    (h : readParts cs = some (whole, fraction, exponent, r)) :
    ∃ sign ∈ [[], ['-']], cs = sign ++ whole ++ fraction ++ exponent ++ r ∧
      decide (cs.head? = some '-') =
        decide ((sign ++ whole ++ fraction ++ exponent).head? = some '-') ∧
      IsWhole whole ∧ IsFraction fraction ∧ IsExponent exponent := by
  simp only [readParts, Option.bind_eq_bind, Option.bind_eq_some_iff] at h
  obtain ⟨⟨w, r₁⟩, hw, ⟨f, r₂⟩, hf, ⟨e, r₃⟩, he, hr⟩ := h
  cases hr
  obtain ⟨hbody, hwhole⟩ := of_readWhole hw
  obtain ⟨rfl, hfraction⟩ := of_readFraction hf
  obtain ⟨rfl, hexponent⟩ := of_readExponent he
  cases cs with
  | nil =>
    cases hwhole.1.1 (List.append_eq_nil_iff.1 hbody.symm).1
  | cons c cs =>
    by_cases hc : c = '-'
    · subst hc
      refine ⟨['-'], by simp, ?_, by simp, hwhole, hfraction, hexponent⟩
      simp only [List.head?_cons, if_true, List.drop_one, List.tail_cons] at hbody
      simp [hbody]
    · have hno : ¬ (c :: cs).head? = some '-' := by simpa using hc
      rw [if_neg hno] at hbody
      refine ⟨[], by simp, by simp [hbody], ?_, hwhole, hfraction, hexponent⟩
      rw [hbody]
      cases w with
      | nil => exact absurd rfl hwhole.1.1
      | cons d w => rfl

/-- Every text of a number is read. -/
theorem readNumber_text (h : IsNumber cs) : ∃ j, readNumber cs = some (j, []) := by
  obtain ⟨hsign, hw, hf, he⟩ := h
  rw [readNumber_eq, readParts_text hsign hw hf he]
  exact ⟨_, rfl⟩

/-- What is read as a number is the text of one. -/
theorem of_readNumber {j : Json} (h : readNumber cs = some (j, rest)) :
    ∃ v, cs = v ++ rest ∧ IsNumber v ∧ readNumber v = some (j, []) := by
  rw [readNumber_eq] at h
  obtain ⟨⟨whole, fraction, exponent, r⟩, hparts, hj⟩ := Option.map_eq_some_iff.1 h
  obtain ⟨rfl, rfl⟩ := Prod.mk.inj hj
  obtain ⟨sign, hsign, hcs, hhead, hw, hf, he⟩ := of_readParts hparts
  refine ⟨_, hcs, ⟨hsign, hw, hf, he⟩, ?_⟩
  rw [readNumber_eq, readParts_text hsign hw hf he, ← hhead]
  rfl

theorem digitChar_of_isDigit {c : Char} (h : c.isDigit = true) :
    c.toNat - 48 < 10 ∧ Nat.digitChar (c.toNat - 48) = c := by
  have hall : ∀ n : Fin 10, Nat.digitChar n = Char.ofNat (n + 48) := by decide
  have hbounds : 48 ≤ c.toNat ∧ c.toNat ≤ 57 := by
    simpa [Char.isDigit, UInt32.le_iff_toNat_le] using h
  have hlt : c.toNat - 48 < 10 := by omega
  refine ⟨hlt, (hall ⟨c.toNat - 48, hlt⟩).trans ?_⟩
  rw [Nat.sub_add_cancel hbounds.1, Char.ofNat_toNat]

theorem natOfDigits_concat (ds : List Char) (c : Char) :
    natOfDigits (ds ++ [c]) = 10 * natOfDigits ds + (c.toNat - 48) := by
  rw [natOfDigits, List.foldl_append, natOfDigits]
  rfl

/-- Digits that do not begin with a zero are those of their value. -/
theorem toDigits_natOfDigits {ds : List Char} (h : IsWhole ds) :
    Nat.toDigits 10 (natOfDigits ds) = ds := by
  induction ds using List.reverseRecOn with
  | nil => exact absurd rfl h.1.1
  | append_singleton ds c ih =>
    obtain ⟨⟨-, hdigits⟩, hzero⟩ := h
    obtain ⟨hlt, hchar⟩ := digitChar_of_isDigit (hdigits c (by simp))
    rw [natOfDigits_concat]
    by_cases hds : ds = []
    · subst hds
      rw [show 10 * natOfDigits [] + (c.toNat - 48) = c.toNat - 48 by simp [natOfDigits],
        Nat.toDigits_of_lt_base hlt, hchar]
      rfl
    · have hhead : (ds ++ [c]).head? = ds.head? := by
        cases ds with
        | nil => exact absurd rfl hds
        | cons d ds => rfl
      rw [hhead] at hzero
      have hfirst : ds.head? ≠ some '0' := by
        intro hd
        have hlen := congrArg List.length (hzero hd)
        simp [hds] at hlen
      have hds' := ih ⟨⟨hds, fun d hd => hdigits d (by simp [hd])⟩, fun hd => absurd hd hfirst⟩
      have hpos : 0 < natOfDigits ds := by
        refine Nat.pos_of_ne_zero fun h0 => hfirst ?_
        rw [h0] at hds'
        rw [← hds']
        rfl
      rw [Nat.toDigits_of_base_le (by decide) (by omega)]
      rw [show (10 * natOfDigits ds + (c.toNat - 48)) / 10 = natOfDigits ds by omega,
        show (10 * natOfDigits ds + (c.toNat - 48)) % 10 = c.toNat - 48 by omega, hds', hchar]

theorem ofWhole_eq_int {negative : Bool} {digits : List Char} {n : Int}
    (h : ofWhole negative digits = .int n) : fitsInt n = true ∧
      n = (if negative then -(natOfDigits digits : Int) else natOfDigits digits) ∧
      (negative = true → n ≠ 0) := by
  simp only [ofWhole] at h
  generalize (if negative then -(natOfDigits digits : Int) else natOfDigits digits) = value at h
  by_cases hok : (fitsInt value && !(negative && value == 0)) = true
  · rw [if_pos hok] at h
    simp only [Bool.and_eq_true, Bool.not_eq_true', Bool.and_eq_false_iff, beq_eq_false_iff_ne]
      at hok
    obtain rfl : value = n := Json.int.inj h
    refine ⟨hok.1, rfl, fun hneg => ?_⟩
    rcases hok.2 with hno | hne
    · rw [hneg] at hno
      cases hno
    · exact hne
  · rw [if_neg hok] at h
    exact Json.noConfusion h

/-- A number that is read as an integer is written as that integer is. -/
theorem readNumber_eq_int_iff {n : Int} : readNumber cs = some (.int n, []) ↔
    fitsInt n = true ∧ cs = (toString n).toList := by
  constructor
  · intro h
    rw [readNumber_eq] at h
    obtain ⟨⟨whole, fraction, exponent, r⟩, hparts, hpair⟩ := Option.map_eq_some_iff.1 h
    obtain ⟨hvalue, rfl⟩ := Prod.mk.inj hpair
    obtain ⟨sign, hsign, hcs, hhead, hw, hf, he⟩ := of_readParts hparts
    rw [ofParts] at hvalue
    split at hvalue
    · cases hvalue
    · split at hvalue
      · rename_i hnone
        obtain ⟨rfl, rfl⟩ : fraction = [] ∧ exponent = [] := by simpa using hnone
        obtain ⟨hfits, hn, hnonzero⟩ := ofWhole_eq_int hvalue
        refine ⟨hfits, ?_⟩
        have hdigits := toDigits_natOfDigits hw
        simp only [List.append_nil] at hcs
        rw [Numeral.toList_toString]
        simp only [List.mem_cons, List.not_mem_nil, or_false] at hsign
        rcases hsign with rfl | rfl
        · have hno : ¬ cs.head? = some '-' := by
            rw [hcs]
            obtain ⟨⟨hne, hall⟩, -⟩ := hw
            cases whole with
            | nil => exact absurd rfl hne
            | cons c whole =>
              simp only [List.nil_append, List.head?_cons, Option.some.injEq]
              rintro rfl
              cases hall '-' List.mem_cons_self
          rw [if_neg (by simpa using hno)] at hn
          subst hn
          rw [if_neg (by omega), Int.natAbs_natCast, hdigits, hcs]
          rfl
        · have hyes : cs.head? = some '-' := by rw [hcs]; rfl
          have hne := hnonzero (by simpa using hyes)
          rw [if_pos (by simpa using hyes)] at hn
          subst hn
          rw [if_pos (by omega), Int.natAbs_neg, Int.natAbs_natCast, hdigits, hcs]
          rfl
      · cases hvalue
  · rintro ⟨hfits, rfl⟩
    exact readNumber_toString hfits

/-! ## Strings -/

theorem readPieces_parts {ps : List Piece} (h : Parts cs ps) (rest : List Char) :
    readPieces (cs ++ '"' :: rest) = some (ps, rest) := by
  induction h with
  | nil => rfl
  | plain plain _ ih => rw [List.cons_append, readPieces_plain plain, ih]; rfl
  | @escape e c cs ps escape _ ih =>
    have hu : e ≠ 'u' := by
      rintro rfl
      cases escape
    simp only [List.cons_append]
    rw [readPieces_escape hu escape, ih]
    rfl
  | unit hex _ ih =>
    simp only [List.cons_append]
    rw [readPieces_unit hex, ih]
    rfl

theorem of_readPieces {ps : List Piece} (h : readPieces cs = some (ps, rest)) :
    ∃ body, cs = body ++ '"' :: rest ∧ Parts body ps := by
  fun_induction readPieces cs generalizing ps with
  | case1 => cases h
  | case2 cs =>
    cases h
    exact ⟨[], rfl, .nil⟩
  | case3 w x y z cs ih =>
    simp only [Option.bind_eq_bind, Option.bind_eq_some_iff] at h
    obtain ⟨n, hex, ⟨ps', r⟩, hread, hdone⟩ := h
    cases hdone
    obtain ⟨body, rfl, hparts⟩ := ih hread
    exact ⟨_, rfl, .unit hex hparts⟩
  | case4 e cs _ ih =>
    simp only [Option.bind_eq_bind, Option.bind_eq_some_iff] at h
    obtain ⟨c, escape, ⟨ps', r⟩, hread, hdone⟩ := h
    cases hdone
    obtain ⟨body, rfl, hparts⟩ := ih hread
    exact ⟨_, rfl, .escape escape hparts⟩
  | case5 => cases h
  | case6 c cs hquote _ _ hplain ih =>
    simp only [Option.bind_eq_bind, Option.bind_eq_some_iff] at h
    obtain ⟨⟨ps', r⟩, hread, hdone⟩ := h
    cases hdone
    obtain ⟨body, rfl, hparts⟩ := ih hread
    simp only [Bool.or_eq_true, decide_eq_true_eq, not_or] at hplain
    exact ⟨_, rfl, .plain ⟨hquote, hplain.2, hplain.1⟩ hparts⟩

/-- The characters that parts stand for are those found. -/
theorem joinPieces_eq_some_iff {ps : List Piece} : joinPieces ps = some cs ↔ Means ps cs := by
  constructor
  · intro h
    fun_induction joinPieces ps generalizing cs with
    | case1 =>
      cases h
      exact .nil
    | case2 c ps ih =>
      obtain ⟨cs', hjoin, rfl⟩ := Option.map_eq_some_iff.1 h
      exact .char (ih hjoin)
    | case3 n m ps high low ih =>
      obtain ⟨cs', hjoin, rfl⟩ := Option.map_eq_some_iff.1 h
      exact .pair high low (ih hjoin)
    | case4 => cases h
    | case5 => cases h
    | case6 n m ps high low ih =>
      obtain ⟨cs', hjoin, rfl⟩ := Option.map_eq_some_iff.1 h
      exact .unit (by simpa using high) (by simpa using low) (ih hjoin)
    | case7 => cases h
    | case8 n ps _ hsurrogate ih =>
      obtain ⟨cs', hjoin, rfl⟩ := Option.map_eq_some_iff.1 h
      simp only [Bool.or_eq_true, not_or, Bool.not_eq_true] at hsurrogate
      exact .unit hsurrogate.1 hsurrogate.2 (ih hjoin)
  · intro h
    induction h with
    | nil => rfl
    | char _ ih => rw [joinPieces, ih]; rfl
    | @unit n ps cs high low rest ih =>
      have hjoin : joinPieces (.unit n :: ps) = (joinPieces ps).map (Char.ofNat n :: ·) := by
        cases ps with
        | nil => simp [joinPieces, high, low]
        | cons p ps => cases p <;> simp [joinPieces, high, low]
      rw [hjoin, ih]
      rfl
    | pair high low _ ih => simp [joinPieces, high, low, ih]

/-- What stands between the quotes says this. -/
def Says (cs : List Char) (s : String) : Prop := ∃ ps, Parts cs ps ∧ Means ps s.toList

theorem readString_parts {ps : List Piece} (h : Parts cs ps) (rest : List Char) :
    ∃ s, readString (cs ++ '"' :: rest) = some (s, rest) ∧ ∀ t, s = some t ↔ Says cs t := by
  have hread := readPieces_parts h rest
  refine ⟨(joinPieces ps).map String.ofList, by rw [readString, hread]; rfl, fun t => ?_⟩
  constructor
  · intro ht
    obtain ⟨ds, hjoin, rfl⟩ := Option.map_eq_some_iff.1 ht
    refine ⟨ps, h, ?_⟩
    rw [String.toList_ofList]
    exact joinPieces_eq_some_iff.1 hjoin
  · rintro ⟨ps', hparts, hmeans⟩
    have hps : ps' = ps := by
      have hread' := readPieces_parts hparts rest
      rw [hread] at hread'
      cases hread'
      rfl
    rw [← hps, joinPieces_eq_some_iff.2 hmeans, Option.map_some, String.ofList_toList]

/-- Nothing says two things. -/
theorem Says.unique {s t : String} (hs : Says cs s) (ht : Says cs t) : s = t := by
  obtain ⟨ps, hparts, hmeans⟩ := hs
  obtain ⟨_, -, hsaid⟩ := readString_parts hparts []
  have h := (hsaid s).2 ⟨ps, hparts, hmeans⟩
  rw [(hsaid t).2 ht] at h
  exact (Option.some.inj h).symm

/-- What is not escaped says itself. -/
theorem says_toList {s : String} (h : ∀ c ∈ s.toList, c ≠ '"' ∧ c ≠ '\\' ∧ ¬ c.toNat < 0x20) :
    Says s.toList s := by
  refine ⟨s.toList.map .char, ?_, ?_⟩
  · generalize s.toList = cs at h
    induction cs with
    | nil => exact .nil
    | cons c cs ih =>
      exact .plain (h c List.mem_cons_self) (ih fun d hd => h d (List.mem_cons_of_mem _ hd))
  · generalize s.toList = cs
    induction cs with
    | nil => exact .nil
    | cons c cs ih => exact .char ih

theorem of_readString {s : Option String} (h : readString cs = some (s, rest)) :
    ∃ body ps, cs = body ++ '"' :: rest ∧ Parts body ps := by
  simp only [readString, Option.bind_eq_bind, Option.bind_eq_some_iff] at h
  obtain ⟨⟨ps, r⟩, hread, hdone⟩ := h
  cases hdone
  obtain ⟨body, rfl, hparts⟩ := of_readPieces hread
  exact ⟨body, ps, rfl, hparts⟩

end ProxySync.Json
