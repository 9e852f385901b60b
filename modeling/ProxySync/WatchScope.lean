import ProxySync.Text.Blank
import ProxySync.Text.Pieces
/-!
# Watch scopes

Which `Backend` resources are managed: those of the listed namespaces, or of all, and of these the
ones that carry a label. One controller runs per listed namespace.

* `WatchScope.controllers`: the controllers of a scope, each by the namespace it owns.
-/
namespace ProxySync

/-- What is watched. -/
structure WatchScope where
  /-- The namespaces; none listed means all. -/
  namespaces : List String
  /-- A label selector of the form `key=value`. -/
  label : Option String
deriving DecidableEq

namespace WatchScope

/-- The namespaces of a comma-separated list; white space around a name and empty names do not
count. -/
def namespacesOf (s : String) : List String :=
  (((Text.pieces (· == ',') s.toList).map Text.trimChars).filter (· ≠ [])).map String.ofList

/-- The controllers of a scope: one that owns every namespace, or one per listed namespace. -/
def controllers (w : WatchScope) : List (Option String) :=
  if w.namespaces.isEmpty then [none] else w.namespaces.map some

end WatchScope
end ProxySync
