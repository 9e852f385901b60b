/-!
# Pieces of a text

Cutting a text at every occurrence of some characters. There is one piece more than there are
cuts, so even an empty text has a piece, and the pieces hold everything but the cuts.
-/
namespace ProxySync.Text

/-- The pieces between the characters at which a text is cut. -/
def pieces (isCut : Char → Bool) : List Char → List (List Char)
  | [] => [[]]
  | c :: cs =>
    if isCut c then [] :: pieces isCut cs
    else match pieces isCut cs with
      | [] => [[c]]
      | p :: ps => (c :: p) :: ps

variable {isCut : Char → Bool} {cs : List Char}

theorem pieces_ne_nil : pieces isCut cs ≠ [] := by
  cases cs with
  | nil => simp [pieces]
  | cons c cs =>
    simp only [pieces]
    split
    · simp
    · split <;> simp

/-- The pieces hold everything but the cuts. -/
theorem flatten_pieces : (pieces isCut cs).flatten = cs.filter (! isCut ·) := by
  induction cs with
  | nil => rfl
  | cons c cs ih =>
    by_cases h : isCut c = true
    · simp [pieces, h, ih]
    · cases hp : pieces isCut cs with
      | nil => exact absurd hp pieces_ne_nil
      | cons p ps =>
        rw [hp] at ih
        simpa [pieces, h, hp] using ih

/-- What holds no cut is one piece. -/
theorem pieces_of_uncut (h : ∀ c ∈ cs, isCut c = false) : pieces isCut cs = [cs] := by
  induction cs with
  | nil => rfl
  | cons c cs ih =>
    rw [pieces, h c List.mem_cons_self, ih fun x hx => h x (List.mem_cons_of_mem _ hx)]
    rfl

/-- The first piece reaches up to the first cut. -/
theorem pieces_append_cons {front : List Char} {c : Char} (h : ∀ x ∈ front, isCut x = false)
    (hc : isCut c = true) : pieces isCut (front ++ c :: cs) = front :: pieces isCut cs := by
  induction front with
  | nil => rw [List.nil_append, pieces, if_pos hc]
  | cons x front ih =>
    rw [List.cons_append, pieces, h x List.mem_cons_self,
      ih fun y hy => h y (List.mem_cons_of_mem _ hy)]
    rfl

end ProxySync.Text
