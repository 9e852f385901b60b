import ProxySync.Proofs.Resource.Codec
import ProxySync.Proofs.Wire.Codec
/-!
# The texts of objects and resources

An object of the Data Plane, a specification and a status are written as texts from which they are
read back as they were: a field that is unset, one that is empty and a list without items stay
three different things, and lists keep their order.

## Main definitions

* `Json.RoundTrips`: the values of a type are read back from their texts.

## Main statements

* `Json.roundTrips`: so they are, if they are read back in whichever way they arrive.
* `objects_round_trip`: objects of the Data Plane, specifications and statuses.
-/
namespace ProxySync

namespace Json
variable {α : Type}

/-- The values of a type are read back from their texts. -/
structure RoundTrips (write : α → Json) (read : Json → Option α) : Prop where
  /-- What is written is read back. -/
  written : ∀ a, (Json.parse? (write a).print).bind read = some a
  /-- So it is where the fields of all objects were sorted. -/
  sorted : ∀ a, (Json.parse? (write a).sorted.print).bind read = some a
  /-- What is read of any text is read again of what is written of it. -/
  again : ∀ text a, (Json.parse? text).bind read = some a →
    (Json.parse? (write a).print).bind read = some a
  /-- Different values have different texts. -/
  apart : ∀ a b, (write a).print = (write b).print → a = b

/-- Values that are read back in whichever way they arrive are read back from their texts. -/
theorem roundTrips {write : α → Json} {read : Json → Option α} (hvalue : ∀ a, IsValue (write a))
    (hread : ∀ arrive, Arrival arrive → ∀ room a, read (arrive (room + 5) (write a)) = some a) :
    RoundTrips write read := by
  have hwritten (a : α) : (Json.parse? (write a).print).bind read = some a := by
    rw [parse?_print (hvalue a)]
    exact hread within arrival_within 122 a
  refine ⟨hwritten, fun a => ?_, fun _ a _ => hwritten a, fun a b htext => ?_⟩
  · rw [parse?_print (IsValue.sorted _ (hvalue a))]
    exact hread answered arrival_answered 122 a
  · have ha := hwritten a
    rw [htext, hwritten b] at ha
    exact (Option.some.inj ha).symm

end Json

/-- The objects of the Data Plane, specifications and statuses are read back from their texts. -/
theorem objects_round_trip :
    Json.RoundTrips Wire.Backend.toJson Wire.Backend.ofJson? ∧
    Json.RoundTrips Wire.Server.toJson Wire.Server.ofJson? ∧
    Json.RoundTrips Wire.HttpCheck.toJson Wire.HttpCheck.ofJson? ∧
    Json.RoundTrips Wire.Frontend.toJson Wire.Frontend.ofJson? ∧
    Json.RoundTrips Wire.Bind.toJson Wire.Bind.ofJson? ∧
    Json.RoundTrips Wire.SwitchingRule.toJson Wire.SwitchingRule.ofJson? ∧
    Json.RoundTrips Wire.Transaction.toJson Wire.Transaction.ofJson? ∧
    Json.RoundTrips Resource.Spec.toJson Resource.Spec.ofJson? ∧
    Json.RoundTrips Resource.Status.toJson Resource.Status.ofJson? := by
  refine ⟨?_, ?_, ?_, ?_, ?_, ?_, ?_, ?_, ?_⟩
  · exact Json.roundTrips isValue_backend fun _ h room => backend?_toJson h (room + 3)
  · exact Json.roundTrips isValue_server fun _ h room => server?_toJson h (room + 4)
  · exact Json.roundTrips isValue_check fun _ h room => check?_toJson h (room + 2)
  · exact Json.roundTrips isValue_frontend fun _ h room => frontend?_toJson h (room + 4)
  · exact Json.roundTrips isValue_bind fun _ h room => bind?_toJson h (room + 4)
  · exact Json.roundTrips isValue_rule fun _ h room => rule?_toJson h (room + 4)
  · exact Json.roundTrips isValue_transaction fun _ h room => transaction?_toJson h (room + 4)
  · exact Json.roundTrips isValue_spec fun _ h room => spec?_toJson h room
  · exact Json.roundTrips isValue_status fun _ h room => status?_toJson h (room + 2)

end ProxySync
