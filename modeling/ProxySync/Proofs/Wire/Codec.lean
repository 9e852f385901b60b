import ProxySync.Proofs.Json.Arrival
import ProxySync.Wire.Codec
/-!
# Objects of the Data Plane are read back

Whichever way an object arrives that was written, what is read of it is the object.

## Main statements

* `backend?_toJson`, `check?_toJson`, `server?_toJson`: backend sections, their checks and servers.
* `frontend?_toJson`, `bind?_toJson`, `rule?_toJson`: frontend sections and their parts.
* `transaction?_toJson`: transactions.
-/
namespace ProxySync
open Json

/-! ## What is written are values -/

theorem isValue_server (s : Wire.Server) : IsValue s.toJson := by
  simp +contextual [Wire.Server.toJson, isValue_ofFields]

theorem isValue_balance (b : Wire.Balance) : IsValue b.toJson := by
  simp +contextual [Wire.Balance.toJson, isValue_ofFields]

theorem isValue_backend (b : Wire.Backend) : IsValue b.toJson := by
  simp +contextual [Wire.Backend.toJson, isValue_ofFields, isValue_balance]

theorem isValue_header (c : Wire.CheckHeader) : IsValue c.toJson := by
  rw [Wire.CheckHeader.toJson]
  cases c.name <;> cases c.fmt <;> simp [IsValue, HaveValues]

theorem isValue_check (c : Wire.HttpCheck) : IsValue c.toJson := by
  simp +contextual [Wire.HttpCheck.toJson, isValue_ofFields, isValue_list, isValue_header]

theorem isValue_frontend (f : Wire.Frontend) : IsValue f.toJson := by
  simp +contextual [Wire.Frontend.toJson, isValue_ofFields]

theorem isValue_bind (b : Wire.Bind) : IsValue b.toJson := by
  simp +contextual [Wire.Bind.toJson, isValue_ofFields]

theorem isValue_rule (s : Wire.SwitchingRule) : IsValue s.toJson := by
  simp +contextual [Wire.SwitchingRule.toJson, isValue_ofFields]

theorem isValue_transaction (t : Wire.Transaction) : IsValue t.toJson := by
  simp only [Wire.Transaction.toJson, IsValue, HaveValues, true_and, and_true]
  exact isValue_ofInt64 t.version

/-! ## What is read of them -/

variable {arrive : Nat → Json → Json} (h : Arrival arrive) (room : Nat)
include h

theorem server?_toJson (s : Wire.Server) :
    Wire.Server.ofJson? (arrive (room + 1) s.toJson) = some s := by
  rw [Wire.Server.toJson, Wire.Server.ofJson?, h.record (by simp)]
  generalize hr : written _ = r
  have hheld (name : String) := (congrFun hr name).symm
  have hname : (r.map (arrive room)).required "name" text? = some s.name :=
    Record.required_written (hheld _) (h.text room _)
  have haddress : (r.map (arrive room)).defaulted "address" "" text? = some s.address :=
    Record.defaulted_written (hheld _) (h.text room _)
  have hport : (r.map (arrive room)).optional "port" int64? = some s.port :=
    Record.optional_written (hheld _) rfl (h.int64 room)
  have hid : (r.map (arrive room)).optional "id" int64? = some s.id :=
    Record.optional_written (hheld _) rfl (h.int64 room)
  have hcheck : (r.map (arrive room)).optional "check" text? = some s.check :=
    Record.optional_written (hheld _) rfl (h.text room)
  simp only [Option.bind_eq_bind, Option.bind_some, Option.pure_def, hname, haddress, hport, hid,
    hcheck]

theorem balance?_toJson (b : Wire.Balance) :
    Wire.Balance.ofJson? (arrive (room + 1) b.toJson) = some b := by
  rw [Wire.Balance.toJson, Wire.Balance.ofJson?, h.record (by simp)]
  generalize hr : written _ = r
  have halgorithm : (r.map (arrive room)).optional "algorithm" text? = some b.algorithm :=
    Record.optional_written (congrFun hr _).symm rfl (h.text room)
  simp only [Option.bind_eq_bind, Option.bind_some, Option.pure_def, halgorithm]

theorem backend?_toJson (b : Wire.Backend) :
    Wire.Backend.ofJson? (arrive (room + 2) b.toJson) = some b := by
  rw [Wire.Backend.toJson, Wire.Backend.ofJson?, h.record (by simp)]
  generalize hr : written _ = r
  have hheld (name : String) := (congrFun hr name).symm
  have hname : (r.map (arrive (room + 1))).required "name" text? = some b.name :=
    Record.required_written (hheld _) (h.text _ _)
  have hmode : (r.map (arrive (room + 1))).optional "mode" text? = some b.mode :=
    Record.optional_written (hheld _) rfl (h.text _)
  have hbalance : (r.map (arrive (room + 1))).optional "balance" Wire.Balance.ofJson? =
      some b.balance :=
    Record.optional_written (hheld _) rfl (balance?_toJson h room)
  have hcheck : (r.map (arrive (room + 1))).optional "adv_check" text? = some b.advCheck :=
    Record.optional_written (hheld _) rfl (h.text _)
  have hdescription : (r.map (arrive (room + 1))).optional "description" text? =
      some b.description :=
    Record.optional_written (hheld _) rfl (h.text _)
  simp only [Option.bind_eq_bind, Option.bind_some, Option.pure_def, hname, hmode, hbalance, hcheck,
    hdescription]

/-- A header is written with both its fields. -/
theorem header?_toJson (c : Wire.CheckHeader) :
    Wire.CheckHeader.ofJson? (arrive (room + 1) c.toJson) = some c := by
  have hfields : c.toJson = ofFields [("name", some ((c.name.map Json.str).getD .null)),
      ("fmt", some ((c.fmt.map Json.str).getD .null))] := rfl
  rw [hfields, Wire.CheckHeader.ofJson?, h.record (by simp)]
  generalize hr : written _ = r
  have hname : (r.map (arrive room)).optional "name" text? = some c.name :=
    Record.optional_nullable_written (congrFun hr _).symm rfl (h.null room) (h.text room)
  have hfmt : (r.map (arrive room)).optional "fmt" text? = some c.fmt :=
    Record.optional_nullable_written (congrFun hr _).symm rfl (h.null room) (h.text room)
  simp only [Option.bind_eq_bind, Option.bind_some, Option.pure_def, hname, hfmt]

theorem check?_toJson (c : Wire.HttpCheck) :
    Wire.HttpCheck.ofJson? (arrive (room + 3) c.toJson) = some c := by
  rw [Wire.HttpCheck.toJson, Wire.HttpCheck.ofJson?, h.record (by simp)]
  generalize hr : written _ = r
  have hheld (name : String) := (congrFun hr name).symm
  have hkind : (r.map (arrive (room + 2))).required "type" text? = some c.kind :=
    Record.required_written (hheld _) (h.text _ _)
  have hmethod : (r.map (arrive (room + 2))).optional "method" text? = some c.method :=
    Record.optional_written (hheld _) rfl (h.text _)
  have huri : (r.map (arrive (room + 2))).optional "uri" text? = some c.uri :=
    Record.optional_written (hheld _) rfl (h.text _)
  have hheaders : (r.map (arrive (room + 2))).defaulted "headers" []
      (Json.list? Wire.CheckHeader.ofJson?) = some c.headers :=
    Record.defaulted_list_written (hheld _) (h.list (header?_toJson h room) c.headers)
  simp only [Option.bind_eq_bind, Option.bind_some, Option.pure_def, hkind, hmethod, huri, hheaders]

theorem frontend?_toJson (f : Wire.Frontend) :
    Wire.Frontend.ofJson? (arrive (room + 1) f.toJson) = some f := by
  rw [Wire.Frontend.toJson, Wire.Frontend.ofJson?, h.record (by simp)]
  generalize hr : written _ = r
  have hheld (name : String) := (congrFun hr name).symm
  have hname : (r.map (arrive room)).required "name" text? = some f.name :=
    Record.required_written (hheld _) (h.text room _)
  have hmode : (r.map (arrive room)).optional "mode" text? = some f.mode :=
    Record.optional_written (hheld _) rfl (h.text room)
  have hbackend : (r.map (arrive room)).optional "default_backend" text? =
      some f.defaultBackend :=
    Record.optional_written (hheld _) rfl (h.text room)
  have hdescription : (r.map (arrive room)).optional "description" text? = some f.description :=
    Record.optional_written (hheld _) rfl (h.text room)
  simp only [Option.bind_eq_bind, Option.bind_some, Option.pure_def, hname, hmode, hbackend,
    hdescription]

theorem bind?_toJson (b : Wire.Bind) :
    Wire.Bind.ofJson? (arrive (room + 1) b.toJson) = some b := by
  rw [Wire.Bind.toJson, Wire.Bind.ofJson?, h.record (by simp)]
  generalize hr : written _ = r
  have hheld (name : String) := (congrFun hr name).symm
  have hname : (r.map (arrive room)).optional "name" text? = some b.name :=
    Record.optional_written (hheld _) rfl (h.text room)
  have haddress : (r.map (arrive room)).optional "address" text? = some b.address :=
    Record.optional_written (hheld _) rfl (h.text room)
  have hport : (r.map (arrive room)).optional "port" int64? = some b.port :=
    Record.optional_written (hheld _) rfl (h.int64 room)
  simp only [Option.bind_eq_bind, Option.bind_some, Option.pure_def, hname, haddress, hport]

theorem rule?_toJson (s : Wire.SwitchingRule) :
    Wire.SwitchingRule.ofJson? (arrive (room + 1) s.toJson) = some s := by
  rw [Wire.SwitchingRule.toJson, Wire.SwitchingRule.ofJson?, h.record (by simp)]
  generalize hr : written _ = r
  have hheld (name : String) := (congrFun hr name).symm
  have hname : (r.map (arrive room)).required "name" text? = some s.name :=
    Record.required_written (hheld _) (h.text room _)
  have hcond : (r.map (arrive room)).optional "cond" text? = some s.cond :=
    Record.optional_written (hheld _) rfl (h.text room)
  have htest : (r.map (arrive room)).optional "cond_test" text? = some s.condTest :=
    Record.optional_written (hheld _) rfl (h.text room)
  simp only [Option.bind_eq_bind, Option.bind_some, Option.pure_def, hname, hcond, htest]

theorem transaction?_toJson (x : Wire.Transaction) :
    Wire.Transaction.ofJson? (arrive (room + 1) x.toJson) = some x := by
  have hfields : x.toJson = ofFields [("id", some (.str x.id)),
      ("_version", some (ofInt64 x.version)), ("status", some (.str x.status))] := rfl
  rw [hfields, Wire.Transaction.ofJson?, h.record (by simp)]
  generalize hr : written _ = r
  have hheld (name : String) := (congrFun hr name).symm
  have hid : (r.map (arrive room)).required "id" text? = some x.id :=
    Record.required_written (hheld _) (h.text room _)
  have hversion : (r.map (arrive room)).defaulted "_version" 0 int64? = some x.version :=
    Record.defaulted_written (hheld _) (h.int64 room _)
  have hstatus : (r.map (arrive room)).defaulted "status" "" text? = some x.status :=
    Record.defaulted_written (hheld _) (h.text room _)
  simp only [Option.bind_eq_bind, Option.bind_some, Option.pure_def, hid, hversion, hstatus]

end ProxySync
