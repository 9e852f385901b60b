import ProxySync.Json.Reader
import ProxySync.Text.Quoted
/-!
# Quoted text tells what it quotes

Each character of quoted text can be told from what follows it, so no two texts are quoted alike.

## Main definitions

* `Text.unquoteChar?`: the first character of quoted text.

## Main statements

* `Text.unquoteChar?_quoteChar`: reading a character undoes writing it.
* `Text.quoted_injective`: no two texts are quoted alike.
-/
namespace ProxySync.Text

/-! ## Hexadecimal numbers -/

/-- The number that hexadecimal digits stand for. -/
def hexValue (cs : List Char) : Nat :=
  cs.foldl (fun n c => 16 * n + (Json.hexDigit? c).getD 0) 0

theorem hexDigit?_digitChar {d : Nat} (h : d < 16) :
    Json.hexDigit? d.digitChar = some d ∧ d.digitChar ≠ '\x7d' := by
  revert d
  decide

theorem hex_of_lt {n : Nat} (h : n < 16) : hex n = [n.digitChar] := Nat.toDigits_of_lt_base h

theorem hex_of_le {n : Nat} (h : 16 ≤ n) : hex n = hex (n / 16) ++ [(n % 16).digitChar] :=
  Nat.toDigits_of_base_le (by decide) h

theorem hexValue_hex (n : Nat) : hexValue (hex n) = n := by
  induction n using Nat.strongRecOn with
  | ind n ih =>
    rcases Nat.lt_or_ge n 16 with h | h
    · simp [hex_of_lt h, hexValue, (hexDigit?_digitChar h).1]
    · have hdigit := (hexDigit?_digitChar (Nat.mod_lt n (by decide : 0 < 16))).1
      have hfront := ih (n / 16) (by omega)
      rw [hexValue] at hfront
      rw [hex_of_le h, hexValue, List.foldl_append, hfront]
      simp only [List.foldl_cons, List.foldl_nil, hdigit, Option.getD_some]
      omega

theorem ne_of_mem_hex {n : Nat} {c : Char} (h : c ∈ hex n) : c ≠ '\x7d' := by
  induction n using Nat.strongRecOn with
  | ind n ih =>
    rcases Nat.lt_or_ge n 16 with hn | hn
    · rw [hex_of_lt hn, List.mem_singleton] at h
      exact h ▸ (hexDigit?_digitChar hn).2
    · rw [hex_of_le hn, List.mem_append, List.mem_singleton] at h
      rcases h with h | rfl
      · exact ih (n / 16) (by omega) h
      · exact (hexDigit?_digitChar (Nat.mod_lt n (by decide))).2

/-! ## Characters -/

/-- The first character of quoted text, with the rest. -/
def unquoteChar? : List Char → Option (Char × List Char)
  | '\\' :: 'u' :: '\x7b' :: cs =>
    some (Char.ofNat (hexValue (cs.takeWhile (· ≠ '\x7d'))), (cs.dropWhile (· ≠ '\x7d')).tail)
  | '\\' :: 't' :: cs => some ('\t', cs)
  | '\\' :: 'n' :: cs => some ('\n', cs)
  | '\\' :: 'r' :: cs => some ('\r', cs)
  | '\\' :: '0' :: cs => some ('\x00', cs)
  | c :: cs => if c = '\\' then cs.head?.map (·, cs.tail) else some (c, cs)
  | [] => none

theorem unquoteChar?_code (n : Nat) (rest : List Char) :
    unquoteChar? ('\\' :: 'u' :: '\x7b' :: (hex n ++ '\x7d' :: rest)) =
      some (Char.ofNat n, rest) := by
  have hall : ∀ c ∈ hex n, decide (c ≠ '\x7d') = true := fun c hc => by simpa using ne_of_mem_hex hc
  rw [unquoteChar?, List.takeWhile_append_of_pos hall, List.dropWhile_append_of_pos hall]
  simp [hexValue_hex]

/-- Reading a character undoes writing it. -/
theorem unquoteChar?_quoteChar (c : Char) (rest : List Char) :
    unquoteChar? (quoteChar c ++ rest) = some (c, rest) := by
  rw [quoteChar]
  split
  · rename_i h
    rcases (by simpa using h : c = '"' ∨ c = '\\') with rfl | rfl <;> rfl
  rename_i hplain
  obtain ⟨-, hslash⟩ : c ≠ '"' ∧ c ≠ '\\' := by simpa using hplain
  split
  · rename_i h
    rw [h]
    rfl
  split
  · rename_i h
    rw [h]
    rfl
  split
  · rename_i h
    rw [h]
    rfl
  split
  · rename_i h
    obtain rfl : c = '\x00' := Char.toNat_inj.1 h
    rfl
  split
  · simp [unquoteChar?, hslash]
  · have hread := unquoteChar?_code c.toNat rest
    rw [Char.ofNat_toNat] at hread
    simpa using hread

theorem quoteChar_append_inj {a b : Char} {s t : List Char}
    (h : quoteChar a ++ s = quoteChar b ++ t) : a = b ∧ s = t := by
  have hread := unquoteChar?_quoteChar a s
  rw [h, unquoteChar?_quoteChar b t] at hread
  exact ⟨congrArg Prod.fst (Option.some.inj hread).symm,
    congrArg Prod.snd (Option.some.inj hread).symm⟩

/-- No character is written as the closing quote. -/
theorem quoteChar_append_ne (c : Char) (s t : List Char) : quoteChar c ++ s ≠ '"' :: t := by
  intro h
  have hread := unquoteChar?_quoteChar c s
  rw [h] at hread
  obtain ⟨rfl, rfl⟩ : '"' = c ∧ t = s := by simpa [unquoteChar?] using hread
  have hfirst : '\\' = '"' := (List.cons.inj h).1
  exact absurd hfirst (by decide)

/-- No two texts are quoted alike. -/
theorem quoted_injective : Function.Injective quoted := by
  have hchars : ∀ l l' : List Char,
      l.flatMap quoteChar ++ ['"'] = l'.flatMap quoteChar ++ ['"'] → l = l' := by
    intro l
    induction l with
    | nil =>
      rintro (_ | ⟨c, cs⟩) h
      · rfl
      · rw [List.flatMap_cons, List.append_assoc] at h
        exact absurd h.symm (quoteChar_append_ne c _ _)
    | cons a l ih =>
      rintro (_ | ⟨c, cs⟩) h
      · rw [List.flatMap_cons, List.append_assoc] at h
        exact absurd h (quoteChar_append_ne a _ _)
      · rw [List.flatMap_cons, List.flatMap_cons, List.append_assoc, List.append_assoc] at h
        obtain ⟨rfl, hrest⟩ := quoteChar_append_inj h
        rw [ih cs hrest]
  intro s s' h
  have hlists := String.ofList_injective h
  exact String.toList_inj.1 (hchars _ _ (List.cons.inj hlists).2)

end ProxySync.Text
