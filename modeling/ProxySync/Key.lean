/-!
# Keys of namespaced objects

A namespaced object is known by its namespace and its name, written with a slash between them.
Keys are ordered by namespace first.
-/
namespace ProxySync

/-- Namespace and name of an object. -/
structure Key where
  ns : String
  name : String
deriving DecidableEq

namespace Key

/-- The written form of a key. -/
def text (k : Key) : String := k.ns ++ "/" ++ k.name

/-- The key of a written form: the namespace ends at the first slash, and is empty without one. -/
def ofText (s : String) : Key :=
  let cs := s.toList
  if '/' ∈ cs then
    { ns := String.ofList (cs.takeWhile (· ≠ '/'))
      name := String.ofList ((cs.dropWhile (· ≠ '/')).drop 1) }
  else { ns := "", name := s }

end Key
end ProxySync
