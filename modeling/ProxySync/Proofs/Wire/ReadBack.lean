import Mathlib.Data.List.Forall2
import ProxySync.DataPlane.Memory
import ProxySync.DataPlane.Version
import ProxySync.Proofs.Text.Numeral
import ProxySync.Proofs.Wire.Codec
/-!
# Objects can be read back

A Data Plane answers with the values it keeps, the fields of every object sorted by name. What a
client reads of that answer is the object that was written.

## Main definitions

* `told?`: what a client reads of an answer with a value.

## Main statements

* `told?_backend`, `told?_checks`, `isKept_toJson`, `told?_transactionJson`: objects that were
  written.
* `told?_servers`: a list of servers tells what its items tell.
* `version?_versionJson`: the version of a Data Plane.
-/
namespace ProxySync
open Json

/-- What a client reads of an answer with this value. -/
def told? {α : Type} (read : Json → Option α) (j : Json) : Option α :=
  (Json.parse? j.sorted.print).bind read

theorem told?_eq {α : Type} {read : Json → Option α} {j : Json} (h : IsValue j) :
    told? read j = read (answered (126 + 1) j) := by
  rw [told?, parse?_print (IsValue.sorted j h), Option.bind_some]
  rfl

/-! ## Servers -/

/-- What a record tells of a server. -/
def Wire.Server.ofRecord? (r : Record) : Option Wire.Server := do
  return {
    name := ← r.required "name" text?
    address := ← r.defaulted "address" "" text?
    port := ← r.optional "port" int64?
    id := ← r.optional "id" int64?
    check := ← r.optional "check" text? }

/-- However deep it is nested, an object tells the server that it holds. -/
theorem server?_answered (room : Nat) (fields : List (String × Json)) :
    Wire.Server.ofJson? (answered (room + 1) (.obj fields)) =
      Wire.Server.ofRecord? (heldBy fields) := by
  rw [Wire.Server.ofJson?, record?_answered]
  simp [Wire.Server.ofRecord?]

/-- The name that is told of a server is the one by which it is found. -/
theorem field?_of_server {fields : List (String × Json)} {s : Wire.Server}
    (h : Wire.Server.ofRecord? (heldBy fields) = some s) :
    ((Json.obj fields).field? "name").bind text? = some s.name := by
  rw [Wire.Server.ofRecord?, Option.bind_eq_bind] at h
  obtain ⟨name, hname, h⟩ := Option.bind_eq_some_iff.1 h
  have hs : s.name = name := by
    simp only [Option.bind_eq_bind, Option.bind_eq_some_iff, Option.pure_def,
      Option.some.injEq] at h
    obtain ⟨_, _, _, _, _, _, _, _, rfl⟩ := h
    rfl
  rw [hs, ← hname, Record.required, heldBy]
  cases (Json.obj fields).field? "name" <;> rfl

/-- A value that is kept for a server and tells that server. -/
structure Wire.Server.IsKept (j : Json) (s : Wire.Server) : Prop where
  value : IsValue j
  object : ∃ fields, j = .obj fields
  told : told? Wire.Server.ofJson? j = some s

theorem isKept_toJson (s : Wire.Server) : s.IsKept s.toJson where
  value := isValue_server s
  object := ⟨_, rfl⟩
  told := by rw [told?_eq (isValue_server s), server?_toJson arrival_answered]

/-- What is kept for a server arrives as that server, however deep it is nested. -/
theorem Wire.Server.IsKept.answered {j : Json} {s : Wire.Server} (h : s.IsKept j) (room : Nat) :
    Wire.Server.ofJson? (Json.answered (room + 1) j) = some s := by
  obtain ⟨hvalue, ⟨fields, rfl⟩, htold⟩ := h
  rwa [told?_eq hvalue, server?_answered, ← server?_answered room] at htold

/-- The name that is told of it is the one by which it is found. -/
theorem Wire.Server.IsKept.isNamed {j : Json} {s : Wire.Server} (h : s.IsKept j) (name : String) :
    DataPlane.Memory.isNamed name j = (s.name == name) := by
  obtain ⟨hvalue, ⟨fields, rfl⟩, htold⟩ := h
  rw [told?_eq hvalue, server?_answered] at htold
  rw [DataPlane.Memory.isNamed, field?_of_server htold]
  rfl

/-- A list of what is kept for servers tells these servers. -/
theorem told?_servers {js : List Json} {ss : List Wire.Server}
    (h : List.Forall₂ (fun j s => Wire.Server.IsKept j s) js ss) :
    told? (Json.list? Wire.Server.ofJson?) (.arr js) = some ss := by
  have hvalue : IsValue (.arr js) := by
    rw [IsValue, areValues_iff]
    intro j hj
    induction h with
    | nil => cases hj
    | cons hkept _ ih =>
      rcases List.mem_cons.1 hj with rfl | hj
      · exact hkept.value
      · exact ih hj
  rw [told?_eq hvalue, list?_answered]
  clear hvalue
  induction h with
  | nil => rfl
  | cons hkept _ ih => rw [List.mapM_cons, hkept.answered 125, ih]; rfl

/-! ## Backend sections -/

/-- A backend section that was written is read back. -/
theorem told?_backend (b : Wire.Backend) : told? Wire.Backend.ofJson? b.toJson = some b := by
  rw [told?_eq (isValue_backend b)]
  exact backend?_toJson arrival_answered 125 b

/-! ## Check lists -/

/-- A check list that was written is read back. -/
theorem told?_checks (cs : List Wire.HttpCheck) :
    told? (Json.list? Wire.HttpCheck.ofJson?) (.arr (cs.map (·.toJson))) = some cs := by
  rw [told?_eq (isValue_list.2 fun c _ => isValue_check c)]
  exact arrival_answered.list (check?_toJson arrival_answered 123) cs

/-! ## Transactions and versions -/

/-- A transaction that is answered is read as that transaction. -/
theorem told?_transactionJson (id : String) {v : Int}
    (hv : -0x8000000000000000 ≤ v ∧ v < 0x8000000000000000) (status : String) :
    told? Wire.Transaction.ofJson? (DataPlane.Memory.transactionJson id v status) =
      some { id, version := Int64.ofInt v, status } := by
  have hversion : (Int64.ofInt v).toInt = v := Int64.toInt_ofInt_of_le hv.1 hv.2
  have hjson : DataPlane.Memory.transactionJson id v status =
      Wire.Transaction.toJson { id, version := Int64.ofInt v, status } := by
    rw [DataPlane.Memory.transactionJson, Wire.Transaction.toJson, ofInt64, hversion]
  rw [hjson, told?_eq (isValue_transaction _)]
  exact transaction?_toJson arrival_answered 126 _

/-- White space that is not there is not dropped. -/
theorem trim_eq {s : String} (hhead : ∀ c ∈ s.toList.head?, Text.isBlank c = false)
    (hlast : ∀ c ∈ s.toList.reverse.head?, Text.isBlank c = false) : Text.trim s = s := by
  have hdrop {cs : List Char} (h : ∀ c ∈ cs.head?, Text.isBlank c = false) :
      cs.dropWhile Text.isBlank = cs := by
    cases cs with
    | nil => rfl
    | cons c cs => rw [List.dropWhile_cons, h c rfl]; rfl
  rw [Text.trim, Text.trimChars, hdrop hhead, hdrop hlast, List.reverse_reverse,
    String.ofList_toList]

/-- There is no white space in a numeral. -/
theorem isBlank_of_mem_toString {n : Int} {c : Char} (h : c ∈ (toString n).toList) :
    Text.isBlank c = false := by
  have hdigit (hc : c.isDigit = true) : Text.isBlank c = false := by
    simp only [Char.isDigit, Bool.and_eq_true, decide_eq_true_eq, UInt32.le_iff_toNat_le] at hc
    have hlo : 48 ≤ c.toNat := hc.1
    have hhi : c.toNat ≤ 57 := hc.2
    simp only [Text.isBlank, Bool.or_eq_false_iff, Bool.and_eq_false_iff, decide_eq_false_iff_not,
      beq_eq_false_iff_ne]
    omega
  rw [Numeral.toList_toString] at h
  split at h
  · rcases List.mem_cons.1 h with rfl | h
    · rfl
    · exact hdigit (Numeral.isDigit_of_mem_toDigits h)
  · exact hdigit (Numeral.isDigit_of_mem_toDigits h)

theorem told?_versionJson {v : Int} (hv : -0x8000000000000000 ≤ v ∧ v < 0x8000000000000000) :
    told? DataPlane.versionOfJson? (.obj [("_version", .int v)]) = some (Int64.ofInt v) := by
  have hvalue : IsValue (.obj [("_version", .int v)]) := by
    simp [IsValue, HaveValues, fitsInt]
    omega
  have hint : Json.int64? (.int v) = some (Int64.ofInt v) := if_pos hv
  rw [told?_eq hvalue, DataPlane.versionOfJson?, record?_answered]
  simp only [Option.bind_eq_bind, Option.bind_some, Record.required_map, int64?_answered]
  simp [Record.required, heldBy, field?, Slot.ofOption, hint]

/-- A version is read back from its text. -/
theorem version?_toString {v : Int} (h : -0x8000000000000000 ≤ v ∧ v < 0x8000000000000000) :
    DataPlane.version? (toString v) = some (Int64.ofInt v) := by
  have htrim : Text.trim (toString v) = toString v :=
    trim_eq (fun c hc => isBlank_of_mem_toString (List.mem_of_mem_head? hc))
      fun c hc => isBlank_of_mem_toString (List.mem_reverse.1 (List.mem_of_mem_head? hc))
  rw [DataPlane.version?, htrim, Numeral.int64?_toString h]
  rfl

/-- The version that is answered, in either form, is read back. -/
theorem version?_versionJson {m : DataPlane.Memory}
    (h : -0x8000000000000000 ≤ m.version ∧ m.version < 0x8000000000000000) :
    DataPlane.version? m.versionJson.sorted.print = some (Int64.ofInt m.version) := by
  rw [DataPlane.Memory.versionJson]
  cases m.versionAsRecord with
  | false =>
    have hprint : (Json.int m.version).sorted.print = toString m.version := by
      simp [sorted, print, chars]
    rw [if_neg Bool.false_ne_true, hprint]
    exact version?_toString h
  | true =>
    have hprint : (Json.obj [("_version", .int m.version)]).sorted.print.toList =
        '{' :: (stringChars "_version" ++ ':' :: (toString m.version).toList) ++ ['}'] := by
      simp [sorted, print, chars, sortedFields, putField, fieldChars]
    have htrim := trim_eq (s := (Json.obj [("_version", .int m.version)]).sorted.print)
      (by rw [hprint]; rintro c ⟨⟩; rfl)
      (by rw [hprint, List.reverse_append]; rintro c ⟨⟩; rfl)
    have hno : Numeral.int64? (Json.obj [("_version", .int m.version)]).sorted.print = none := by
      rw [Numeral.int64?, hprint]
      rfl
    rw [if_pos rfl, DataPlane.version?]
    simp only [htrim]
    rw [hno, Option.none_or]
    exact told?_versionJson h

end ProxySync
