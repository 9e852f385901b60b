import Mathlib.Data.List.Nodup
import ProxySync.Proofs.Wire.RoundTrip
import ProxySync.Wire.Same
/-!
# Objects agree where their canonical forms are equal

In its canonical form an object has a text in every optional field, the empty one where it is unset,
and a server has its check mode in lower case. The id of a server and the name of a bind are left
out. All else stays: the steps of a check list in their order, and the headers of a step with what
is unset in them. So agreement is an equivalence, an object that comes back from its text agrees
with the one that was written, and no check list agrees with one of another length or order.

## Main definitions

* `Backend.canonical`, `Server.canonical`, `Frontend.canonical`, `Bind.canonical`,
  `HttpCheck.canonical`: canonical forms.
* `ComparesBy`: the values of a type are compared by canonical forms.
* `HttpCheck.DifferInOrder`: check lists of different length or order.

## Main statements

* `Backend.same_iff`, `Server.same_iff`, `Frontend.same_iff`, `Bind.same_iff`, `HttpCheck.same_iff`,
  `HttpCheck.sameList_iff`: objects agree just if their canonical forms are equal.
* `HttpCheck.sameList_eq_false_iff`: check lists agree unless they differ in length or order.
* `objects_compared`: how backend sections, servers, frontend sections, binds and check lists are
  compared.
-/
namespace ProxySync.Wire

/-! ## Texts -/

/-- An optional text that is set, to the empty text where the given one is unset. -/
def filled (value : Option String) : Option String := some (value.getD "")

theorem filled_inj {v w : Option String} : filled v = filled w ↔ textOr v = textOr w := by
  rw [filled, filled, Option.some.injEq, textOr, textOr]

theorem foldCase_eq_map (s : String) : foldCase s = s.map Char.toLower := by
  rw [← String.toList_inj, foldCase, String.toList_ofList, String.toList_map]

theorem toLower_toLower (c : Char) : c.toLower.toLower = c.toLower := by
  delta Char.toLower
  grind

/-! ## Canonical forms -/

/-- A backend section with all its texts set, its algorithm among them. -/
def Backend.canonical (b : Backend) : Backend :=
  { b with
    mode := filled b.mode
    balance := some { algorithm := filled (b.balance.bind (·.algorithm)) }
    advCheck := filled b.advCheck
    description := filled b.description }

/-- A server without its id, with its check mode set and in lower case. -/
def Server.canonical (s : Server) : Server :=
  { s with id := none, check := some ((s.check.getD "").map Char.toLower) }

/-- A frontend section with all its texts set. -/
def Frontend.canonical (f : Frontend) : Frontend :=
  { f with
    mode := filled f.mode
    defaultBackend := filled f.defaultBackend
    description := filled f.description }

/-- A bind without its name, with its address set. -/
def Bind.canonical (b : Bind) : Bind := { b with name := none, address := filled b.address }

/-- A step with its method and path set; its headers stay as they are. -/
def HttpCheck.canonical (c : HttpCheck) : HttpCheck :=
  { c with method := filled c.method, uri := filled c.uri }

/-! ## Agreement -/

theorem Backend.same_iff (a b : Backend) : a.same b = true ↔ a.canonical = b.canonical := by
  simp only [same, algorithmText, canonical, Bool.and_eq_true, beq_iff_eq, Backend.mk.injEq,
    Option.some.injEq, Balance.mk.injEq, filled_inj]
  constructor
  · rintro ⟨⟨⟨⟨hname, halgorithm⟩, hcheck⟩, hmode⟩, hdescription⟩
    exact ⟨hname, hmode, halgorithm, hcheck, hdescription⟩
  · rintro ⟨hname, hmode, halgorithm, hcheck, hdescription⟩
    exact ⟨⟨⟨⟨hname, halgorithm⟩, hcheck⟩, hmode⟩, hdescription⟩

theorem Backend.same_self (b : Backend) : b.same b = true := (same_iff b b).2 rfl

theorem Server.same_iff (a b : Server) : a.same b = true ↔ a.canonical = b.canonical := by
  simp only [same, foldCase_eq_map, textOr, canonical, Bool.and_eq_true, beq_iff_eq,
    Server.mk.injEq, Option.some.injEq, true_and, and_assoc]

theorem Server.same_self (s : Server) : s.same s = true := (same_iff s s).2 rfl

theorem Server.name_of_same {a b : Server} (h : a.same b = true) : a.name = b.name := by
  have hname : a.canonical.name = b.canonical.name := congrArg name ((same_iff a b).1 h)
  exact hname

theorem Server.canonical_canonical (s : Server) : s.canonical.canonical = s.canonical := by
  have htwice : Char.toLower ∘ Char.toLower = Char.toLower := funext toLower_toLower
  simp only [canonical, Option.getD_some, String.map_map, htwice]

theorem Frontend.same_iff (a b : Frontend) : a.same b = true ↔ a.canonical = b.canonical := by
  simp only [same, canonical, Bool.and_eq_true, beq_iff_eq, Frontend.mk.injEq, filled_inj,
    and_assoc]

theorem Bind.same_iff (a b : Bind) : a.same b = true ↔ a.canonical = b.canonical := by
  simp only [same, canonical, Bool.and_eq_true, beq_iff_eq, Bind.mk.injEq, filled_inj, true_and]

theorem CheckHeader.same_iff (a b : CheckHeader) : a.same b = true ↔ a = b := by
  obtain ⟨name, fmt⟩ := a
  obtain ⟨name', fmt'⟩ := b
  simp only [same, Bool.and_eq_true, beq_iff_eq, CheckHeader.mk.injEq]

/-- Lists agree at every position just if what they are compared by makes equal lists. -/
theorem samePositions_iff {α β : Type} {agree : α → α → Bool} {key : α → β}
    (hagree : ∀ a b, agree a b = true ↔ key a = key b) (as bs : List α) :
    samePositions agree as bs = true ↔ as.map key = bs.map key := by
  induction as generalizing bs with
  | nil =>
    cases bs with
    | nil => exact iff_of_true rfl rfl
    | cons b bs => exact iff_of_false Bool.false_ne_true (List.cons_ne_nil _ _).symm
  | cons a as ih =>
    cases bs with
    | nil => exact iff_of_false Bool.false_ne_true (List.cons_ne_nil _ _)
    | cons b bs =>
      rw [samePositions, Bool.and_eq_true, hagree, ih, List.map_cons, List.map_cons,
        List.cons.injEq]

theorem HttpCheck.same_iff (a b : HttpCheck) : a.same b = true ↔ a.canonical = b.canonical := by
  have hheaders : samePositions CheckHeader.same a.headers b.headers = true ↔
      a.headers.map id = b.headers.map id :=
    samePositions_iff CheckHeader.same_iff _ _
  rw [List.map_id, List.map_id] at hheaders
  simp only [same, canonical, Bool.and_eq_true, beq_iff_eq, HttpCheck.mk.injEq, filled_inj,
    hheaders, and_assoc]

theorem HttpCheck.sameList_iff (as bs : List HttpCheck) :
    sameList as bs = true ↔ as.map canonical = bs.map canonical :=
  samePositions_iff same_iff as bs

theorem HttpCheck.sameList_self (cs : List HttpCheck) : sameList cs cs = true :=
  (sameList_iff cs cs).2 rfl

example : HttpCheck.same ⟨"send", none, none, []⟩ ⟨"send", some "", none, []⟩ = true ∧
    HttpCheck.same ⟨"send", none, none, [⟨none, none⟩]⟩ ⟨"send", none, none, [⟨some "", none⟩]⟩ =
      false := by
  decide

/-! ## Comparing by canonical forms -/

/-- The values of a type are compared by canonical forms. -/
structure ComparesBy {α : Type} (same : α → α → Bool) (canonical : α → α) (write : α → Json)
    (read : Json → Option α) : Prop where
  /-- Values agree just if their canonical forms are equal. -/
  same_iff : ∀ a b, same a b = true ↔ canonical a = canonical b
  /-- A value agrees with its canonical form. -/
  same_canonical : ∀ a, same a (canonical a) = true
  /-- Agreement is an equivalence. -/
  equivalence : Equivalence fun a b => same a b = true
  /-- What is read back of a text agrees with what was written. -/
  written : ∀ a, ∃ b, (Json.parse? (write a).print).bind read = some b ∧ same a b = true
  /-- So it does where the fields of all objects were sorted. -/
  sorted : ∀ a, ∃ b, (Json.parse? (write a).sorted.print).bind read = some b ∧ same a b = true

/-- It is enough that canonical forms tell what agrees, and are their own canonical forms. -/
theorem comparesBy {α : Type} {same : α → α → Bool} {canonical : α → α} {write : α → Json}
    {read : Json → Option α} (hsame : ∀ a b, same a b = true ↔ canonical a = canonical b)
    (hcanonical : ∀ a, canonical (canonical a) = canonical a)
    (hround : Json.RoundTrips write read) : ComparesBy same canonical write read where
  same_iff := hsame
  same_canonical a := (hsame a _).2 (hcanonical a).symm
  equivalence := {
    refl a := (hsame a a).2 rfl
    symm h := (hsame _ _).2 ((hsame _ _).1 h).symm
    trans h h' := (hsame _ _).2 (((hsame _ _).1 h).trans ((hsame _ _).1 h')) }
  written a := ⟨a, hround.written a, (hsame a a).2 rfl⟩
  sorted a := ⟨a, hround.sorted a, (hsame a a).2 rfl⟩

namespace HttpCheck
variable {as bs : List HttpCheck}

/-- The ways in which check lists differ: in how many steps they have, in the step at some position,
or in the order of steps no two of which agree. -/
inductive DifferInOrder (as bs : List HttpCheck) : Prop
  | length (counts : as.length ≠ bs.length)
  | position (i : Nat) (steps : as[i]?.map canonical ≠ bs[i]?.map canonical)
  | rearranged (all : as.Perm bs) (moved : as ≠ bs) (distinct : (as.map canonical).Nodup)

/-- Steps no two of which agree cannot be moved without a change of the canonical list. -/
theorem eq_of_perm (hperm : as.Perm bs) (hmap : as.map canonical = bs.map canonical)
    (hdistinct : (as.map canonical).Nodup) : as = bs := by
  induction as generalizing bs with
  | nil => exact hperm.nil_eq
  | cons a as ih =>
    cases bs with
    | nil => exact absurd hmap (List.cons_ne_nil _ _)
    | cons b bs =>
      have hb : b ∈ a :: as := hperm.mem_iff.2 List.mem_cons_self
      rw [List.map_cons, List.map_cons, List.cons.injEq] at hmap
      obtain rfl : a = b := List.inj_on_of_nodup_map hdistinct List.mem_cons_self hb hmap.1
      rw [ih ((List.perm_cons a).1 hperm) hmap.2 (List.nodup_cons.1 hdistinct).2]

/-- Check lists agree unless they differ in length or order. -/
theorem sameList_eq_false_iff : sameList as bs = false ↔ DifferInOrder as bs := by
  rw [← Bool.not_eq_true, sameList_iff]
  constructor
  · intro hmap
    rw [List.ext_getElem?_iff, not_forall] at hmap
    obtain ⟨i, hsteps⟩ := hmap
    rw [List.getElem?_map, List.getElem?_map] at hsteps
    exact .position i hsteps
  · intro hdiffer hmap
    cases hdiffer with
    | length counts =>
      have hlength := congrArg List.length hmap
      rw [List.length_map, List.length_map] at hlength
      exact counts hlength
    | position i steps =>
      have hsteps := congrArg (·[i]?) hmap
      simp only [List.getElem?_map] at hsteps
      exact steps hsteps
    | rearranged all moved distinct => exact moved (eq_of_perm all hmap distinct)

end HttpCheck

/-- Objects of the Data Plane are compared by their canonical forms, and check lists agree with none
of another length or order. -/
theorem objects_compared :
    ComparesBy Backend.same Backend.canonical Backend.toJson Backend.ofJson? ∧
    ComparesBy Server.same Server.canonical Server.toJson Server.ofJson? ∧
    ComparesBy Frontend.same Frontend.canonical Frontend.toJson Frontend.ofJson? ∧
    ComparesBy Bind.same Bind.canonical Bind.toJson Bind.ofJson? ∧
    ComparesBy HttpCheck.sameList (List.map HttpCheck.canonical)
      (fun cs => .arr (cs.map (·.toJson))) (Json.list? HttpCheck.ofJson?) ∧
    ∀ as bs, HttpCheck.sameList as bs = false ↔ HttpCheck.DifferInOrder as bs := by
  refine ⟨?_, ?_, ?_, ?_, ?_, fun as bs => HttpCheck.sameList_eq_false_iff⟩
  · refine comparesBy Backend.same_iff (fun _ => rfl) ?_
    exact Json.roundTrips isValue_backend fun _ h room => backend?_toJson h (room + 3)
  · refine comparesBy Server.same_iff Server.canonical_canonical ?_
    exact Json.roundTrips isValue_server fun _ h room => server?_toJson h (room + 4)
  · refine comparesBy Frontend.same_iff (fun _ => rfl) ?_
    exact Json.roundTrips isValue_frontend fun _ h room => frontend?_toJson h (room + 4)
  · refine comparesBy Bind.same_iff (fun _ => rfl) ?_
    exact Json.roundTrips isValue_bind fun _ h room => bind?_toJson h (room + 4)
  · refine comparesBy HttpCheck.sameList_iff (fun cs => ?_) ?_
    · rw [List.map_map]
      rfl
    · exact Json.roundTrips (fun cs => Json.isValue_list.2 fun c _ => isValue_check c)
        fun _ h room => h.list (check?_toJson h (room + 1))

end ProxySync.Wire
