import ProxySync.Json.Yaml
import ProxySync.Resource.Backend
import ProxySync.Resource.Schema
/-!
# The definition of `Backend` resources

What a cluster has to be told before it keeps `Backend` resources: their names, their schema and
the columns in which they are listed. The choices in the schema are the vocabularies of the
specification.

* `definition`: the definition as a value.
* `manifest`: the text of the file from which a cluster reads it.
-/
namespace ProxySync.Resource.Definition

/-- A description of several lines. -/
def lines (ls : List String) : String := "\n".intercalate ls

/-- A text without blanks. -/
def solid : Option String := some "^[^\\s]+$"

/-- Reference to a Service. -/
def serviceRef : Schema :=
  .record (note "Reference to a `Service` whose ready endpoints become servers." .optional)
    [("namespace",
        .text (note
          "Namespace of the Service. Defaults to the namespace of the Backend." .optional) none),
      ("name", .text (note "Name of the Service." .required) none),
      ("port",
        .text (note (lines
          ["Port number or port name of the Service. Used when the server entry has no",
            "port of its own."]) .optional) none)]

/-- One entry of the server list. -/
def serverSpec : Schema :=
  .record
    (note (lines
      ["One entry of `spec.servers`.",
        "",
        "Either `name` and `address` are set (a static server) or `valueFrom` is set",
        "(servers resolved from a Service). Setting both, or neither, is rejected."]) .required)
    [("name", .text (note "Server name, unique within the backend." .optional) solid),
      ("address", .text (note "IP address or hostname." .optional) solid),
      ("port", .integer (note "Port HAProxy connects to." .optional) (some (1, 65535))),
      ("id", .integer (note "Numeric server id." .optional) none),
      ("check", .choice (note "Health-check mode." .optional) (CheckMode.all.map (·.text))),
      ("valueFrom",
        .record (note "Resolve servers from a Service instead." .optional)
          [("serviceRef", serviceRef)])]

/-- One http-check step. -/
def checkSpec : Schema :=
  .record
    (note "One `http-check` step. Steps run in the order they are listed." .required)
    [("type", .choice (note "Type of an `http-check` step." .required) (StepKind.all.map (·.text))),
      ("method",
        .choice (note "HTTP verb of an `http-check send` step." .optional)
          (HttpVerb.all.map (·.text))),
      ("uri", .text (bare .optional) none),
      ("headers",
        .list (bare .omittable)
          (.record (note "Header sent by an `http-check send` step." .required)
            [("name", .text (bare .required) none),
              ("fmt",
                .text (note "Log-format string producing the header value." .required) none)]))]

/-- The specification. -/
def spec : Schema :=
  .record
    (note (lines
      ["`Backend` declares one HAProxy backend section.",
        "",
        "The operator creates the backend through the Data Plane API, stamps it as",
        "managed, and keeps its balance settings, health checks and server set in sync.",
        "A backend that already exists on HAProxy without the managed description is",
        "never modified."]) .required)
    [("name",
        .text (note "Name of the backend section on HAProxy." .required)
          (some "^[A-Za-z0-9-_.:]+$")),
      ("mode", .choice (note "Proxy mode." .optional) (ProxyMode.all.map (·.text))),
      ("balance",
        .record (note "Load-balancing settings." .optional)
          [("algorithm",
            .choice (note "Algorithm used to pick a server." .required)
              (Algorithm.all.map (·.text)))]),
      ("advCheck",
        .choice (note "Protocol-specific health check." .optional)
          (AdvancedCheck.all.map (·.text))),
      ("servers",
        .list (note "Member servers, static or resolved from a Service." .emptyByDefault)
          serverSpec),
      ("httpCheckList",
        .list (note "Ordered `http-check` steps." .emptyByDefault) checkSpec)]

/-- One condition. -/
def condition : Schema :=
  .record
    (note "Condition represents an observation of a resource's current state." .required)
    [("type", .text (note "Type of condition." .required) none),
      ("status", .text (note "Status of the condition: True, False, or Unknown." .required) none),
      ("reason",
        .text (note "Brief CamelCase reason for the condition's last transition." .optional) none),
      ("message",
        .text (note
          "Human-readable message indicating details about the transition." .optional) none),
      ("lastTransitionTime",
        .text (note
          "Last time the condition transitioned from one status to another (RFC3339 format)."
          .optional) none)]

/-- The status. -/
def status : Schema :=
  .record (note "`Backend` status" .optional)
    [("conditions", .list (bare .emptyByDefault) condition),
      ("observedGeneration", .integer (bare .optional) none)]

/-- A resource. -/
def resource : Schema :=
  .record
    (note
      ("Backend declares an HAProxy backend section whose servers are listed statically or " ++
        "resolved from the ready endpoints of a Kubernetes Service.") .required)
    [("spec", spec), ("status", status)]

/-- A column of a listing. -/
def column (name type path : String) : Json :=
  .obj [("jsonPath", .str path), ("name", .str name), ("type", .str type)]

/-- The JSON form of the schema of a resource, under its title. -/
def titled : Json :=
  match resource.toJson with
  | .obj fields => .obj (("title", .str "Backend") :: fields)
  | j => j

/-- The only version of the resource. -/
def version : Json :=
  .obj [("name", .str "v1alpha1"), ("served", .bool true), ("storage", .bool true),
    ("subresources", .obj [("status", .obj [])]),
    ("additionalPrinterColumns",
      .arr [column "HAProxy Name" "string" ".spec.name",
        column "Ready" "string" ".status.conditions[?(@.type=='ReconcilingComplete')].status",
        column "Age" "date" ".metadata.creationTimestamp"]),
    ("schema", .obj [("openAPIV3Schema", titled)])]

/-- The group of the resource. -/
def group : String := "haproxy.firestoned.io"

end Definition

/-- The definition of `Backend` resources. -/
def definition : Json :=
  .obj [("apiVersion", .str "apiextensions.k8s.io/v1"),
    ("kind", .str "CustomResourceDefinition"),
    ("metadata", .obj [("name", .str ("backends." ++ Definition.group))]),
    ("spec",
      .obj [("group", .str Definition.group),
        ("names",
          .obj [("categories", .arr []), ("kind", .str "Backend"), ("plural", .str "backends"),
            ("shortNames", .arr []), ("singular", .str "backend")]),
        ("scope", .str "Namespaced"), ("versions", .arr [Definition.version])])]

namespace Definition

/-- The name of the file. -/
def fileName : String := "backends.crd.yaml"

/-- The year and the holder of the rights in the file. -/
def rights : Nat × String := (2025, "Erick Bourgeois, firestoned")

/-- The comment at the top of the file. -/
def heading : List String :=
  [s!"Copyright (c) {rights.1} {rights.2}", "SPDX-License-Identifier: MIT", "",
    "This file is AUTO-GENERATED from src/crd.rs",
    "DO NOT EDIT MANUALLY - Run `cargo run --bin crdgen` to regenerate", ""]

/-- A comment line. -/
def commented (line : String) : String := if line = "" then "#\n" else "# " ++ line ++ "\n"

/-- The text of the file. -/
def manifest : String :=
  String.join (heading.map commented) ++ Json.Yaml.print definition.sorted

end Definition
end ProxySync.Resource
