import ProxySync.Decimal.Shortest
import ProxySync.Table
/-!
# Metrics

What the program counts: failures of the exchange with the Data Plane by category, writes by
resource and operation, and reconcile passes by outcome, with a histogram of their durations.
`Metrics.exposition` is the text in which a collector reads them: families by name, series by
label values, no family without a series.
-/
namespace ProxySync

/-- One thing worth counting during an exchange with the Data Plane. -/
inductive Measurement where
  | failure (category : String)
  | write (resource operation : String)
deriving DecidableEq

/-- The durations seen, sorted into buckets by their upper bounds. -/
structure Histogram where
  /-- How many durations fell into each bucket and no lower one. -/
  buckets : List Nat
  sum : Float
  count : Nat

/-- All counters. -/
structure Metrics where
  clientErrors : Table String Nat
  /-- By operation and resource. -/
  remoteWrites : Table (String × String) Nat
  passes : Table String Nat
  durations : Table String Histogram

namespace Histogram

/-- Upper bounds of the buckets, in seconds. -/
def bounds : List Float := [0.001, 0.01, 0.1, 0.5, 1.0, 2.0, 5.0, 10.0, 30.0, 60.0]

/-- No duration seen. -/
def empty : Histogram := { buckets := bounds.map fun _ => 0, sum := 0, count := 0 }

/-- Counts a duration in the first bucket that holds it. -/
def bump (seconds : Float) : List Float → List Nat → List Nat
  | b :: bs, n :: ns => if seconds ≤ b then (n + 1) :: ns else n :: bump seconds bs ns
  | _, ns => ns

/-- Adds a duration. -/
def observe (seconds : Float) (h : Histogram) : Histogram :=
  { buckets := bump seconds bounds h.buckets, sum := h.sum + seconds, count := h.count + 1 }

/-- Running totals. -/
def totals (acc : Nat) : List Nat → List Nat
  | [] => []
  | n :: ns => (acc + n) :: totals (acc + n) ns

end Histogram

namespace Metrics

/-- Nothing counted. -/
def empty : Metrics :=
  { clientErrors := .empty, remoteWrites := .empty, passes := .empty, durations := .empty }

/-- Adds one under a key. -/
def increment {κ : Type} [KeyOrder κ] [DecidableEq κ] (k : κ) (t : Table κ Nat) : Table κ Nat :=
  t.insert k ((t.get? k).getD 0 + 1)

/-- Counts a measurement. -/
def record (m : Metrics) : Measurement → Metrics
  | .failure category => { m with clientErrors := increment category m.clientErrors }
  | .write resource operation =>
    { m with remoteWrites := increment (operation, resource) m.remoteWrites }

/-- Seconds of a number of milliseconds. -/
def secondsOfMillis (millis : Nat) : Float :=
  Float.ofNat (millis / 1000) + Float.ofNat (millis % 1000 * 1000000) / 1000000000.0

/-- Counts a pass. -/
def recordPass (m : Metrics) (outcome : String) (millis : Nat) : Metrics :=
  let h := (m.durations.get? outcome).getD .empty
  { m with
    passes := increment outcome m.passes
    durations := m.durations.insert outcome (h.observe (secondsOfMillis millis)) }

/-- A label value between its quotes. -/
def labelText (s : String) : String :=
  String.ofList (s.toList.flatMap fun c =>
    if c = '\\' then ['\\', '\\'] else if c = '\n' then ['\\', 'n']
    else if c = '"' then ['\\', '"'] else [c])

/-- The labels of a series. -/
def labels (ls : List (String × String)) : String :=
  "\x7b" ++ ",".intercalate (ls.map fun l => l.1 ++ "=\"" ++ labelText l.2 ++ "\"") ++ "\x7d"

/-- One line of the exposition. -/
def sample (name : String) (ls : List (String × String)) (value : String) : String :=
  name ++ labels ls ++ " " ++ value ++ "\n"

/-- A family of series with its explanation and type; empty without a series. -/
def family (name help type : String) (series : List String) : String :=
  if series.isEmpty then ""
  else s!"# HELP {name} {help}\n# TYPE {name} {type}\n" ++ String.join series

/-- The lines of one histogram. -/
def histogramLines (name outcome : String) (h : Histogram) : String :=
  let bounds := Histogram.bounds.map Decimal.positional ++ ["+Inf"]
  let totals := Histogram.totals 0 h.buckets ++ [h.count]
  String.join ((bounds.zip totals).map fun (b, n) =>
      sample (name ++ "_bucket") [("outcome", outcome), ("le", b)] (toString n)) ++
    sample (name ++ "_sum") [("outcome", outcome)] (Decimal.positional h.sum) ++
    sample (name ++ "_count") [("outcome", outcome)] (toString h.count)

/-- The text that a collector reads. -/
def exposition (m : Metrics) : String :=
  let errors := "haproxy_operator_client_errors_total"
  let durations := "haproxy_operator_reconciliation_duration_seconds"
  let passes := "haproxy_operator_reconciliations_total"
  let writes := "haproxy_operator_remote_writes_total"
  family errors "Total number of Data Plane API client errors by category" "counter"
      (m.clientErrors.entries.map fun (c, n) => sample errors [("category", c)] (toString n)) ++
    family durations "Duration of Backend reconciliations in seconds" "histogram"
      (m.durations.entries.map fun (o, h) => histogramLines durations o h) ++
    family passes "Total number of Backend reconciliations by outcome" "counter"
      (m.passes.entries.map fun (o, n) => sample passes [("outcome", o)] (toString n)) ++
    family writes "Total number of writes issued to the Data Plane API" "counter"
      (m.remoteWrites.entries.map fun (k, n) =>
        sample writes [("operation", k.1), ("resource", k.2)] (toString n))

end Metrics
end ProxySync
