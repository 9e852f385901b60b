import ProxySync.Proofs.Json.Arrival
import ProxySync.Resource.Condition
import ProxySync.Resource.Spec
/-!
# Specifications and statuses are read back

Whichever way a specification or a status arrives that was written, what is read of it is the
specification or the status.

## Main statements

* `spec?_toJson`, `serverSpec?_toJson`, `checkSpec?_toJson`: specifications and their parts.
* `status?_toJson`, `condition?_toJson`: statuses.
-/
namespace ProxySync
open Json Resource

/-! ## What is written are values -/

theorem isValue_serviceRef (s : ServiceRef) : IsValue s.toJson := by
  simp +contextual [ServiceRef.toJson, isValue_ofFields]

theorem isValue_valueFrom (v : ValueFrom) : IsValue v.toJson := by
  simp +contextual [ValueFrom.toJson, isValue_ofFields, isValue_serviceRef]

theorem isValue_serverSpec (s : ServerSpec) : IsValue s.toJson := by
  simp +contextual [ServerSpec.toJson, isValue_ofFields, isValue_valueFrom]

theorem isValue_headerSpec (c : HeaderSpec) : IsValue c.toJson := by
  simp [HeaderSpec.toJson, IsValue, HaveValues]

theorem isValue_checkSpec (c : CheckSpec) : IsValue c.toJson := by
  simp +contextual [CheckSpec.toJson, isValue_ofFields, isValue_list, isValue_headerSpec]

theorem isValue_spec (s : Spec) : IsValue s.toJson := by
  have hbalance (a : Algorithm) : IsValue (Spec.balanceToJson a) := by
    simp [Spec.balanceToJson, IsValue, HaveValues]
  simp +contextual [Spec.toJson, isValue_ofFields, isValue_list, isValue_serverSpec,
    isValue_checkSpec, hbalance]

theorem isValue_condition (c : Condition) : IsValue c.toJson := by
  simp +contextual [Condition.toJson, isValue_ofFields]

theorem isValue_status (s : Status) : IsValue s.toJson := by
  simp +contextual [Status.toJson, isValue_ofFields, isValue_list, isValue_condition]

/-! ## What is read of them -/

variable {arrive : Nat → Json → Json} (h : Arrival arrive) (room : Nat)
include h

theorem serviceRef?_toJson (s : ServiceRef) :
    ServiceRef.ofJson? (arrive (room + 1) s.toJson) = some s := by
  rw [ServiceRef.toJson, ServiceRef.ofJson?, h.record (by simp)]
  generalize hr : written _ = r
  have hheld (name : String) := (congrFun hr name).symm
  have hns : (r.map (arrive room)).optional "namespace" text? = some s.ns :=
    Record.optional_written (hheld _) rfl (h.text room)
  have hname : (r.map (arrive room)).required "name" text? = some s.name :=
    Record.required_written (hheld _) (h.text room _)
  have hport : (r.map (arrive room)).optional "port" text? = some s.port :=
    Record.optional_written (hheld _) rfl (h.text room)
  simp only [Option.bind_eq_bind, Option.bind_some, Option.pure_def, hns, hname, hport]

theorem valueFrom?_toJson (v : ValueFrom) :
    ValueFrom.ofJson? (arrive (room + 2) v.toJson) = some v := by
  rw [ValueFrom.toJson, ValueFrom.ofJson?, h.record (by simp)]
  generalize hr : written _ = r
  have hservice : (r.map (arrive (room + 1))).optional "serviceRef" ServiceRef.ofJson? =
      some v.serviceRef :=
    Record.optional_written (congrFun hr _).symm rfl (serviceRef?_toJson h room)
  simp only [Option.bind_eq_bind, Option.bind_some, Option.pure_def, hservice]

theorem serverSpec?_toJson (s : ServerSpec) :
    ServerSpec.ofJson? (arrive (room + 3) s.toJson) = some s := by
  rw [ServerSpec.toJson, ServerSpec.ofJson?, h.record (by simp)]
  generalize hr : written _ = r
  have hheld (name : String) := (congrFun hr name).symm
  have hname : (r.map (arrive (room + 2))).optional "name" text? = some s.name :=
    Record.optional_written (hheld _) rfl (h.text _)
  have haddress : (r.map (arrive (room + 2))).optional "address" text? = some s.address :=
    Record.optional_written (hheld _) rfl (h.text _)
  have hport : (r.map (arrive (room + 2))).optional "port" int64? = some s.port :=
    Record.optional_written (hheld _) rfl (h.int64 _)
  have hid : (r.map (arrive (room + 2))).optional "id" int64? = some s.id :=
    Record.optional_written (hheld _) rfl (h.int64 _)
  have hcheck : (r.map (arrive (room + 2))).optional "check" (Json.word? CheckMode.ofText?) =
      some s.check :=
    Record.optional_written (hheld _) rfl (h.word CheckMode.ofText?_text _)
  have hsource : (r.map (arrive (room + 2))).optional "valueFrom" ValueFrom.ofJson? =
      some s.valueFrom :=
    Record.optional_written (hheld _) rfl (valueFrom?_toJson h room)
  simp only [Option.bind_eq_bind, Option.bind_some, Option.pure_def, hname, haddress, hport, hid,
    hcheck, hsource]

theorem headerSpec?_toJson (c : HeaderSpec) :
    HeaderSpec.ofJson? (arrive (room + 1) c.toJson) = some c := by
  have hfields : c.toJson = ofFields [("name", some (.str c.name)), ("fmt", some (.str c.fmt))] :=
    rfl
  rw [hfields, HeaderSpec.ofJson?, h.record (by simp)]
  generalize hr : written _ = r
  have hname : (r.map (arrive room)).required "name" text? = some c.name :=
    Record.required_written (congrFun hr _).symm (h.text room _)
  have hfmt : (r.map (arrive room)).required "fmt" text? = some c.fmt :=
    Record.required_written (congrFun hr _).symm (h.text room _)
  simp only [Option.bind_eq_bind, Option.bind_some, Option.pure_def, hname, hfmt]

theorem checkSpec?_toJson (c : CheckSpec) :
    CheckSpec.ofJson? (arrive (room + 3) c.toJson) = some c := by
  rw [CheckSpec.toJson, CheckSpec.ofJson?, h.record (by simp)]
  generalize hr : written _ = r
  have hheld (name : String) := (congrFun hr name).symm
  have hkind : (r.map (arrive (room + 2))).required "type" (Json.word? StepKind.ofText?) =
      some c.kind :=
    Record.required_written (hheld _) (h.word StepKind.ofText?_text _ _)
  have hmethod : (r.map (arrive (room + 2))).optional "method" (Json.word? HttpVerb.ofText?) =
      some c.method :=
    Record.optional_written (hheld _) rfl (h.word HttpVerb.ofText?_text _)
  have huri : (r.map (arrive (room + 2))).optional "uri" text? = some c.uri :=
    Record.optional_written (hheld _) rfl (h.text _)
  have hheaders : (r.map (arrive (room + 2))).defaulted "headers" []
      (Json.list? HeaderSpec.ofJson?) = some c.headers :=
    Record.defaulted_list_written (hheld _) (h.list (headerSpec?_toJson h room) c.headers)
  simp only [Option.bind_eq_bind, Option.bind_some, Option.pure_def, hkind, hmethod, huri, hheaders]

theorem balanceSpec?_toJson (a : Algorithm) :
    Spec.balanceOfJson? (arrive (room + 1) (Spec.balanceToJson a)) = some a := by
  have hfields : Spec.balanceToJson a = ofFields [("algorithm", some (.str a.text))] := rfl
  rw [hfields, Spec.balanceOfJson?, h.record (by simp)]
  simp only [Option.bind_eq_bind, Option.bind_some]
  exact Record.required_written rfl (h.word Algorithm.ofText?_text room _)

theorem spec?_toJson (s : Spec) : Spec.ofJson? (arrive (room + 5) s.toJson) = some s := by
  rw [Spec.toJson, Spec.ofJson?, h.record (by simp)]
  generalize hr : written _ = r
  have hheld (name : String) := (congrFun hr name).symm
  have hname : (r.map (arrive (room + 4))).required "name" text? = some s.name :=
    Record.required_written (hheld _) (h.text _ _)
  have hmode : (r.map (arrive (room + 4))).optional "mode" (Json.word? ProxyMode.ofText?) =
      some s.mode :=
    Record.optional_written (hheld _) rfl (h.word ProxyMode.ofText?_text _)
  have hbalance : (r.map (arrive (room + 4))).optional "balance" Spec.balanceOfJson? =
      some s.balance :=
    Record.optional_written (hheld _) rfl (balanceSpec?_toJson h (room + 3))
  have hadvanced : (r.map (arrive (room + 4))).optional "advCheck"
      (Json.word? AdvancedCheck.ofText?) = some s.advCheck :=
    Record.optional_written (hheld _) rfl (h.word AdvancedCheck.ofText?_text _)
  have hservers : (r.map (arrive (room + 4))).defaulted "servers" []
      (Json.list? ServerSpec.ofJson?) = some s.servers :=
    Record.defaulted_written (hheld _) (h.list (serverSpec?_toJson h room) s.servers)
  have hchecks : (r.map (arrive (room + 4))).defaulted "httpCheckList" []
      (Json.list? CheckSpec.ofJson?) = some s.httpChecks :=
    Record.defaulted_written (hheld _) (h.list (checkSpec?_toJson h room) s.httpChecks)
  simp only [Option.bind_eq_bind, Option.bind_some, Option.pure_def, hname, hmode, hbalance,
    hadvanced, hservers, hchecks]

theorem condition?_toJson (c : Condition) :
    Condition.ofJson? (arrive (room + 1) c.toJson) = some c := by
  rw [Condition.toJson, Condition.ofJson?, h.record (by simp)]
  generalize hr : written _ = r
  have hheld (name : String) := (congrFun hr name).symm
  have hkind : (r.map (arrive room)).required "type" text? = some c.kind :=
    Record.required_written (hheld _) (h.text room _)
  have hstatus : (r.map (arrive room)).required "status" text? = some c.status :=
    Record.required_written (hheld _) (h.text room _)
  have hreason : (r.map (arrive room)).optionalReached "reason" text? = some c.reason :=
    Record.optionalReached_written (hheld _) rfl (h.text room)
  have hmessage : (r.map (arrive room)).optionalReached "message" text? = some c.message :=
    Record.optionalReached_written (hheld _) rfl (h.text room)
  have htime : (r.map (arrive room)).optionalReached "lastTransitionTime" text? =
      some c.lastTransitionTime :=
    Record.optionalReached_written (hheld _) rfl (h.text room)
  simp only [Option.bind_eq_bind, Option.bind_some, Option.pure_def, hkind, hstatus, hreason,
    hmessage, htime]

theorem status?_toJson (s : Status) : Status.ofJson? (arrive (room + 3) s.toJson) = some s := by
  rw [Status.toJson, Status.ofJson?, h.record (by simp)]
  generalize hr : written _ = r
  have hheld (name : String) := (congrFun hr name).symm
  have hconditions : (r.map (arrive (room + 2))).defaulted "conditions" []
      (Json.list? Condition.ofJson?) = some s.conditions :=
    Record.defaulted_written (hheld _) (h.list (condition?_toJson h room) s.conditions)
  have hgeneration : (r.map (arrive (room + 2))).optionalReached "observedGeneration" int64? =
      some s.observedGeneration :=
    Record.optionalReached_written (hheld _) rfl (h.int64 _)
  simp only [Option.bind_eq_bind, Option.bind_some, Option.pure_def, hconditions, hgeneration]

end ProxySync
