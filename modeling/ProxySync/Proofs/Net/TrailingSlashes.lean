import Mathlib.Data.List.DropRight
import ProxySync.Net.Url
import ProxySync.Proofs.Json.Number
/-!
# Slashes at the end of a URL

A web URL without query and fragment may end in any number of slashes: they add empty segments at
the end of its path and change nothing else. So it can be read without them, unless white space
stands before them: at the end of a text it would be dropped, and inside of it is part of the path.

## Main definitions

* `Url.step`: what one piece of a path does to the segments read before it.
* `Url.SlashesEnd`: the slashes at the end of a text follow upon what it says.

## Main statements

* `Url.readAuthority_eq_ok_iff`: when, and as what, the part behind the scheme is read.
* `Url.parse_trimSlashes`: a URL without its trailing slashes.
-/
namespace ProxySync.Net.Url
open Json (takeWhile_append_of_stop)

/-! ## Segments -/

/-- What one piece of a path does to the segments read before it. -/
def step (done : List String) (piece : List Char) : List String :=
  let s := String.ofList (Percent.encode inPath piece)
  if isDoubleDot s then done.dropLast else if isSingleDot s then done else done ++ [s]

theorem readSegments_append (done : List String) (ps : List (List Char)) {qs : List (List Char)}
    (h : qs ≠ []) : readSegments done (ps ++ qs) = readSegments (ps.foldl step done) qs := by
  induction ps generalizing done with
  | nil => rfl
  | cons p ps ih =>
    obtain ⟨q, rest, hrest⟩ : ∃ q rest, ps ++ qs = q :: rest :=
      List.exists_cons_of_ne_nil (List.append_ne_nil_of_right_ne_nil _ h)
    rw [List.cons_append, List.foldl_cons, ← ih, hrest]
    rfl

theorem isDoubleDot_empty : isDoubleDot "" = false := by decide +kernel

theorem isSingleDot_empty : isSingleDot "" = false := by decide +kernel

theorem step_nil (done : List String) : step done [] = done ++ [""] := by
  have hstep : step done [] =
      if isDoubleDot "" then done.dropLast else if isSingleDot "" then done else done ++ [""] := rfl
  rw [hstep, isDoubleDot_empty, isSingleDot_empty]
  rfl

theorem readSegments_replicate (done : List String) (n : Nat) :
    readSegments done (List.replicate (n + 1) []) = done ++ List.replicate (n + 1) "" := by
  induction n generalizing done with
  | zero =>
    have hone : readSegments done [[]] = if isDoubleDot "" then done.dropLast ++ [""]
        else if isSingleDot "" then done ++ [""] else done ++ [""] := rfl
    rw [List.replicate_one, List.replicate_one, hone, isDoubleDot_empty, ite_self]
    rfl
  | succ n ih =>
    rw [List.replicate_succ, ← List.singleton_append, readSegments_append done [[]] (by simp),
      List.foldl_cons, List.foldl_nil, ih, step_nil, List.append_assoc,
      List.replicate_succ (n := n + 1)]
    rfl

theorem trimSegments_append (ss : List String) (n : Nat) :
    trimSegments (ss ++ List.replicate n "") = trimSegments ss := by
  rw [trimSegments, List.reverse_append, List.reverse_replicate,
    List.dropWhile_append_of_pos (by simp), trimSegments]

/-- The last piece differs from one before others by an empty segment at most. -/
theorem trimSegments_last (done : List String) (p : List Char) :
    trimSegments (readSegments done [p]) = trimSegments (step done p) := by
  have hempty (ss : List String) : trimSegments (ss ++ [""]) = trimSegments ss :=
    trimSegments_append ss 1
  simp only [readSegments, step]
  split
  · exact hempty _
  · split
    · exact hempty _
    · rfl

/-- Empty pieces at the end are trimmed. -/
theorem trimSegments_readSegments {ps : List (List Char)} (h : ps ≠ []) (n : Nat) :
    trimSegments (readSegments [] (ps ++ List.replicate n [])) =
      trimSegments (readSegments [] ps) := by
  cases n with
  | zero => rw [List.replicate_zero, List.append_nil]
  | succ n =>
    obtain ⟨init, last, rfl⟩ : ∃ init last, ps = init ++ [last] :=
      ⟨_, _, (List.dropLast_concat_getLast h).symm⟩
    rw [readSegments_append [] _ (by simp), readSegments_replicate, trimSegments_append,
      List.foldl_append, List.foldl_cons, List.foldl_nil, readSegments_append [] init (by simp),
      trimSegments_last]

theorem pieces_append_cuts {isCut : Char → Bool} (cs : List Char) {cuts : List Char}
    (h : ∀ c ∈ cuts, isCut c = true) :
    Text.pieces isCut (cs ++ cuts) =
      Text.pieces isCut cs ++ List.replicate cuts.length [] := by
  induction cs with
  | nil =>
    induction cuts with
    | nil => rfl
    | cons c cuts ih =>
      obtain ⟨hc, hrest⟩ := List.forall_mem_cons.1 h
      have hcut : Text.pieces isCut (c :: cuts) = [] :: Text.pieces isCut cuts := by
        rw [Text.pieces, if_pos hc]
      have hnext := ih hrest
      rw [List.nil_append] at hnext ⊢
      rw [hcut, hnext]
      rfl
  | cons c cs ih =>
    rw [List.cons_append]
    simp only [Text.pieces]
    rw [ih]
    split
    · rfl
    · cases hpieces : Text.pieces isCut cs with
      | nil => exact absurd hpieces Text.pieces_ne_nil
      | cons p ps => rfl

/-- Slashes behind a path add nothing but empty segments at its end. -/
theorem readPath_append (cs : List Char) {slashes : List Char} (h : ∀ c ∈ slashes, c = '/') :
    ∃ ss ss', readPath true (cs ++ slashes) = .segments ss ∧ readPath true cs = .segments ss' ∧
      trimSegments ss' = trimSegments ss := by
  have hcuts : ∀ c ∈ slashes, isSlash true c = true := fun c hc => by rw [h c hc]; rfl
  cases cs with
  | nil =>
    cases slashes with
    | nil => exact ⟨_, _, rfl, rfl, rfl⟩
    | cons c slashes =>
      obtain ⟨hc, hrest⟩ := List.forall_mem_cons.1 hcuts
      refine ⟨_, [""], rfl, rfl, ?_⟩
      have hlast : trimSegments (readSegments [] [[]]) = trimSegments [""] := by
        rw [trimSegments_last, step_nil, List.nil_append]
      have hpieces : pieces true slashes = [[]] ++ List.replicate slashes.length [] :=
        pieces_append_cuts [] hrest
      rw [if_pos hc, hpieces, trimSegments_readSegments (List.cons_ne_nil _ _), hlast]
  | cons c cs =>
    refine ⟨_, _, rfl, rfl, ?_⟩
    simp only [pieces, List.append_eq]
    split
    · rw [pieces_append_cuts cs hcuts, trimSegments_readSegments Text.pieces_ne_nil]
    · rw [pieces_append_cuts (c :: cs) hcuts, trimSegments_readSegments Text.pieces_ne_nil]

/-! ## The part behind the scheme -/

theorem bind_eq_ok {ε α β : Type} {x : Except ε α} {f : α → Except ε β} {b : β}
    (h : x.bind f = .ok b) : ∃ a, x = .ok a ∧ f a = .ok b := by
  cases x with
  | error e => cases h
  | ok a => exact ⟨a, rfl, h⟩

/-- When, and as what, the part behind a web scheme is read. -/
theorem readAuthority_eq_ok_iff {scheme : String} (hspecial : isSpecial scheme = true)
    {cs : List Char} {u : Url} :
    let authority := cs.takeWhile (! endsAuthority true ·)
    let rest := cs.dropWhile (! endsAuthority true ·)
    let split := splitUserinfo authority
    let user := (split.map fun s => userinfo s.1).getD ("", "")
    let spanned := spanHost false ((split.map (·.2)).getD authority)
    let tail := readTail true (rest.dropWhile (! beginsTail ·))
    readAuthority scheme cs = .ok u ↔ ∃ host port,
      ((split.any fun s => s.1.isEmpty && s.2.isEmpty) && !rest.isEmpty) = false ∧
      spanned.1 ≠ [] ∧ Host.domain spanned.1 = .ok host ∧
      (decide (host = "") && !(decide (user.1 = "") && decide (user.2 = "") &&
        spanned.2.isEmpty)) = false ∧
      readPort scheme spanned.2 = .ok port ∧
      u = { scheme, username := user.1, password := user.2, host := some host, port
            path := readPath true (rest.takeWhile (! beginsTail ·))
            query := tail.1, fragment := tail.2 } := by
  intro authority rest split user spanned tail
  have hread : readAuthority scheme cs =
      if (split.any fun s => s.1.isEmpty && s.2.isEmpty) && !rest.isEmpty then .error .emptyHost
      else if spanned.1.isEmpty then .error .emptyHost
      else (Host.domain spanned.1).bind fun host =>
        if decide (host = "") && !(decide (user.1 = "") && decide (user.2 = "") &&
          spanned.2.isEmpty) then .error .emptyHost
        else (readPort scheme spanned.2).bind fun port => .ok
          { scheme, username := user.1, password := user.2, host := some host, port
            path := readPath true (rest.takeWhile (! beginsTail ·))
            query := tail.1, fragment := tail.2 } := by
    simp only [readAuthority, hspecial]
    rfl
  rw [hread]
  clear_value tail user spanned split rest authority
  constructor
  · intro h
    split at h
    · cases h
    · rename_i hbare
      split at h
      · cases h
      · rename_i hnonempty
        obtain ⟨host, hhost, h⟩ := bind_eq_ok h
        split at h
        · cases h
        · rename_i hnamed
          obtain ⟨port, hport, h⟩ := bind_eq_ok h
          cases h
          exact ⟨host, port, Bool.eq_false_iff.2 hbare, by simpa using hnonempty, hhost,
            Bool.eq_false_iff.2 hnamed, hport, rfl⟩
  · rintro ⟨host, port, hbare, hnonempty, hhost, hnamed, hport, rfl⟩
    rw [if_neg (by rw [hbare]; exact Bool.false_ne_true), if_neg (by simpa using hnonempty), hhost]
    simp only [Except.bind]
    rw [if_neg (by rw [hnamed]; exact Bool.false_ne_true), hport]

/-- Where neither query nor fragment is read, nothing begins one. -/
theorem not_beginsTail {special : Bool} {cs : List Char}
    (h : readTail special (cs.dropWhile (! beginsTail ·)) = (none, none)) :
    ∀ c ∈ cs, beginsTail c = false := by
  have hdrop : cs.dropWhile (! beginsTail ·) = [] := by
    cases hcs : cs.dropWhile (! beginsTail ·) with
    | nil => rfl
    | cons c rest =>
      have hc : beginsTail c = true := by
        have hhead := List.head_dropWhile_not (! beginsTail ·) (l := cs) (by rw [hcs]; nofun)
        simpa [hcs] using hhead
      rw [hcs] at h
      simp only [beginsTail, Bool.or_eq_true, decide_eq_true_eq] at hc
      rcases hc with rfl | rfl <;> cases h
  intro c hc
  simpa using List.dropWhile_eq_nil_iff.1 hdrop c hc

/-- A URL without query and fragment is read up to its path without the slashes at its end. -/
theorem readAuthority_append {scheme : String} (hspecial : isSpecial scheme = true)
    {cs slashes : List Char} (hslashes : ∀ c ∈ slashes, c = '/') {u : Url}
    (hu : readAuthority scheme (cs ++ slashes) = .ok u) (hquery : u.query = none)
    (hfragment : u.fragment = none) :
    ∃ ss ss', u.path = .segments ss ∧
      readAuthority scheme cs = .ok { u with path := .segments ss' } ∧
      trimSegments ss' = trimSegments ss := by
  have hstop : ∀ c ∈ slashes.head?, (! endsAuthority true c) = false := fun c hc => by
    rw [hslashes c (List.mem_of_mem_head? hc)]
    rfl
  obtain ⟨htake, hdrop⟩ := takeWhile_append_of_stop cs hstop
  obtain ⟨host, port, hbare, hnonempty, hhost, hnamed, hport, rfl⟩ :=
    (readAuthority_eq_ok_iff hspecial).1 hu
  simp only [htake, hdrop] at hbare hnonempty hhost hnamed hport hquery hfragment ⊢
  have hnone := not_beginsTail (Prod.ext hquery hfragment)
  have hrest : ∀ c ∈ cs.dropWhile (! endsAuthority true ·), (! beginsTail c) = true :=
    fun c hc => by rw [hnone c (List.mem_append_left _ hc)]; rfl
  have hall : ∀ c ∈ cs.dropWhile (! endsAuthority true ·) ++ slashes, (! beginsTail c) = true :=
    fun c hc => by rw [hnone c hc]; rfl
  obtain ⟨ss, ss', hss, hss', htrim⟩ :=
    readPath_append (cs.dropWhile (! endsAuthority true ·)) hslashes
  rw [List.takeWhile_eq_self_iff.2 hall, List.dropWhile_eq_nil_iff.2 hall]
  refine ⟨ss, ss', hss, (readAuthority_eq_ok_iff hspecial).2
    ⟨host, port, ?_, hnonempty, hhost, hnamed, hport, ?_⟩, htrim⟩
  · rw [Bool.and_eq_false_iff] at hbare ⊢
    refine hbare.imp_right fun hempty => ?_
    simp_all
  · rw [List.takeWhile_eq_self_iff.2 hrest, List.dropWhile_eq_nil_iff.2 hrest, hss']

/-! ## Whole texts -/

/-- The slashes at the end follow upon what the text says: at most tabs and line ends, which do not
count, stand before them. -/
def SlashesEnd (s : String) : Prop :=
  s.toList.getLast? = some '/' →
    ∀ c ∈ (s.toList.rdropWhile (· = '/')).rtakeWhile isEdge, isDropped c = true

instance (s : String) : Decidable (SlashesEnd s) :=
  decidable_of_iff (s.toList.getLast? = some '/' →
    ((s.toList.rdropWhile (· = '/')).rtakeWhile isEdge).all isDropped = true)
    (by rw [SlashesEnd, List.all_eq_true])

/-- What counts of a text that has been freed of the white space at its ends. -/
def counted (cs : List Char) : List Char := cs.filter (! isDropped ·)

theorem counted_append (cs cs' : List Char) : counted (cs ++ cs') = counted cs ++ counted cs' :=
  List.filter_append ..

theorem rdropWhile_append_cons {p : Char → Bool} {c : Char} (hc : p c = false)
    (front cs : List Char) : (front ++ c :: cs).rdropWhile p = front ++ c :: cs.rdropWhile p := by
  induction cs using List.reverseRecOn with
  | nil => exact List.rdropWhile_concat_neg _ _ _ (by rw [hc]; exact Bool.false_ne_true)
  | append_singleton cs x ih =>
    rw [← List.cons_append, ← List.append_assoc]
    by_cases hx : p x = true
    · rw [List.rdropWhile_concat_pos _ _ _ hx, List.rdropWhile_concat_pos _ _ _ hx, ih]
    · rw [List.rdropWhile_concat_neg _ _ _ hx, List.rdropWhile_concat_neg _ _ _ hx]
      simp

theorem toList_trimSlashes (s : String) :
    (trimSlashes s).toList = s.toList.rdropWhile (· = '/') := String.toList_ofList

/-- Without the slashes at the end, what counts lacks just slashes. -/
theorem exists_slashes {s : String} (h : SlashesEnd s) : ∃ slashes, (∀ c ∈ slashes, c = '/') ∧
    counted (s.toList.rdropWhile isEdge) =
      counted ((s.toList.rdropWhile (· = '/')).rdropWhile isEdge) ++ slashes := by
  rw [SlashesEnd] at h
  generalize s.toList = cs at h
  by_cases hlast : cs.getLast? = some '/'
  · have hne : cs ≠ [] := by
      rintro rfl
      cases hlast
    have hend : cs.getLast hne = '/' := by
      rw [List.getLast?_eq_some_getLast hne] at hlast
      exact Option.some.inj hlast
    have hwhole : cs.rdropWhile isEdge = cs :=
      List.rdropWhile_eq_self_iff.2 fun _ => by rw [hend]; decide
    have hfront := List.rdropWhile_append_rtakeWhile (p := (· = '/')) (l := cs)
    have hedges := List.rdropWhile_append_rtakeWhile (p := isEdge) (l := cs.rdropWhile (· = '/'))
    refine ⟨counted (cs.rtakeWhile (· = '/')), fun c hc => ?_, ?_⟩
    · simpa using List.mem_rtakeWhile_imp (List.mem_of_mem_filter hc)
    · have hnone : counted ((cs.rdropWhile (· = '/')).rtakeWhile isEdge) = [] :=
        List.filter_eq_nil_iff.2 fun c hc => by rw [h hlast c hc]; exact Bool.false_ne_true
      rw [hwhole]
      conv => lhs; rw [← hfront, ← hedges]
      rw [counted_append, counted_append, hnone, List.append_nil]
  · have hwhole : cs.rdropWhile (· = '/') = cs := by
      refine List.rdropWhile_eq_self_iff.2 fun hne hslash => hlast ?_
      rw [List.getLast?_eq_some_getLast hne]
      exact congrArg some (by simpa using hslash)
    exact ⟨[], nofun, by rw [hwhole, List.append_nil]⟩

variable {letters : List Char}

theorem isAlpha_iff {c : Char} : c.isAlpha = true ↔
    (65 ≤ c.toNat ∧ c.toNat ≤ 90) ∨ (97 ≤ c.toNat ∧ c.toNat ≤ 122) := by
  change (decide (c.val ≥ 'A'.val ∧ c.val ≤ 'Z'.val) ||
    (decide (c.val ≥ 'a'.val) && decide (c.val ≤ 'z'.val))) = true ↔ _
  simp [UInt32.le_iff_toNat_le]

theorem isEdge_of_isAlpha {c : Char} (h : c.isAlpha = true) : isEdge c = false := by
  have hrange := isAlpha_iff.1 h
  simp only [isEdge, decide_eq_false_iff_not]
  omega

/-- A scheme of letters is read in lower case. -/
theorem scheme?_letters (hne : letters ≠ []) (halpha : ∀ c ∈ letters, c.isAlpha = true)
    (rest : List Char) :
    scheme? (letters ++ ':' :: rest) = some (String.ofList (letters.map Char.toLower), rest) := by
  have hchars : ∀ c ∈ letters, isSchemeChar c = true := fun c hc => by
    simp [isSchemeChar, Char.isAlphanum, halpha c hc]
  have hstop : ∀ c ∈ (':' :: rest).head?, isSchemeChar c = false := by
    simp [isSchemeChar, Char.isAlphanum]
  obtain ⟨htake, hdrop⟩ := takeWhile_append_of_stop letters hstop
  rw [scheme?, htake, hdrop, List.takeWhile_eq_self_iff.2 hchars,
    List.dropWhile_eq_nil_iff.2 hchars]
  cases letters with
  | nil => exact absurd rfl hne
  | cons c letters => simp [halpha c List.mem_cons_self]

theorem counted_letters (halpha : ∀ c ∈ letters, c.isAlpha = true) : counted letters = letters := by
  refine List.filter_eq_self.2 fun c hc => ?_
  have hrange := isAlpha_iff.1 (halpha c hc)
  simp only [isDropped, Bool.not_eq_true', Bool.or_eq_false_iff, decide_eq_false_iff_not]
  refine ⟨⟨?_, ?_⟩, ?_⟩ <;> (rintro rfl; revert hrange; decide)

/-- White space at the end is dropped behind a scheme, and tabs and line ends are. -/
theorem clean_letters (hne : letters ≠ []) (halpha : ∀ c ∈ letters, c.isAlpha = true)
    (rest : List Char) :
    clean (letters ++ ':' :: rest) = letters ++ ':' :: counted (rest.rdropWhile isEdge) ∧
      counted ((letters ++ ':' :: rest).rdropWhile isEdge) =
        letters ++ ':' :: counted (rest.rdropWhile isEdge) := by
  have hfront : (letters ++ ':' :: rest).dropWhile isEdge = letters ++ ':' :: rest := by
    cases letters with
    | nil => exact absurd rfl hne
    | cons c letters =>
      rw [List.cons_append, List.dropWhile_cons_of_neg]
      rw [isEdge_of_isAlpha (halpha c List.mem_cons_self)]
      exact Bool.false_ne_true
  have hkept : counted ((letters ++ ':' :: rest).rdropWhile isEdge) =
      letters ++ ':' :: counted (rest.rdropWhile isEdge) := by
    rw [rdropWhile_append_cons (by decide), counted_append, counted_letters halpha]
    rfl
  exact ⟨by rw [clean, hfront]; exact hkept, hkept⟩

/-- A web URL is read behind its scheme. -/
theorem parse_letters {s : String} {rest : List Char} (hs : s.toList = letters ++ ':' :: rest)
    (hne : letters ≠ []) (halpha : ∀ c ∈ letters, c.isAlpha = true) {scheme : String}
    (hscheme : String.ofList (letters.map Char.toLower) = scheme)
    (hweb : isSpecial scheme = true ∧ scheme ≠ "file") :
    parse s = readAuthority scheme
      ((counted (rest.rdropWhile isEdge)).dropWhile (isSlash true)) := by
  rw [parse, hs, (clean_letters hne halpha rest).1, scheme?_letters hne halpha, hscheme]
  simp only [hweb.2, if_false, hweb.1, if_true]

/-- Dropped slashes at the end of a web URL are all that it lacks, and only empty segments of its
path. -/
theorem parse_trimSlashes {s : String} {rest : List Char} (hs : s.toList = letters ++ ':' :: rest)
    (hne : letters ≠ []) (halpha : ∀ c ∈ letters, c.isAlpha = true) {scheme : String}
    (hscheme : String.ofList (letters.map Char.toLower) = scheme)
    (hweb : isSpecial scheme = true ∧ scheme ≠ "file") (hend : SlashesEnd s) {u : Url}
    (hu : parse s = .ok u) (hquery : u.query = none) (hfragment : u.fragment = none) :
    ∃ ss ss', u.path = .segments ss ∧
      parse (trimSlashes s) = .ok { u with path := .segments ss' } ∧
      trimSegments ss' = trimSegments ss := by
  have htrimmed : (trimSlashes s).toList = letters ++ ':' :: rest.rdropWhile (· = '/') := by
    rw [toList_trimSlashes, hs, rdropWhile_append_cons (by decide)]
  obtain ⟨slashes, hslashes, hkept⟩ := exists_slashes hend
  rw [hs, rdropWhile_append_cons (p := (· = '/')) (by decide), (clean_letters hne halpha _).2,
    (clean_letters hne halpha _).2, List.append_assoc, List.cons_append] at hkept
  have hrest := (List.cons.inj (List.append_cancel_left hkept)).2
  rw [parse_letters hs hne halpha hscheme hweb, hrest] at hu
  rw [parse_letters htrimmed hne halpha hscheme hweb]
  generalize counted ((rest.rdropWhile (· = '/')).rdropWhile isEdge) = text at hu ⊢
  -- Behind nothing but slashes there are none left to be dropped at the end.
  obtain ⟨left, hleft, hdrop⟩ : ∃ left, (∀ c ∈ left, c = '/') ∧
      (text ++ slashes).dropWhile (isSlash true) = text.dropWhile (isSlash true) ++ left := by
    rw [List.dropWhile_append]
    split
    · rename_i hempty
      refine ⟨[], nofun, ?_⟩
      rw [List.isEmpty_iff.1 hempty, List.append_nil, List.dropWhile_eq_nil_iff]
      intro c hc
      rw [hslashes c hc]
      rfl
    · exact ⟨slashes, hslashes, rfl⟩
  rw [hdrop] at hu
  exact readAuthority_append hweb.1 hleft hu hquery hfragment

end ProxySync.Net.Url
