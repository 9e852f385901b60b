/-!
# Finalizer lists

Adding and removing one entry of a list that others share. Both say nothing where there is nothing
to change.
-/
namespace ProxySync.Finalizers

/-- The list with the finalizer at its end, unless it is there already. -/
def adding? (current : List String) (finalizer : String) : Option (List String) :=
  if finalizer ∈ current then none else some (current ++ [finalizer])

/-- The list without the finalizer, if it is there. -/
def removing? (current : List String) (finalizer : String) : Option (List String) :=
  if finalizer ∈ current then some (current.filter (· ≠ finalizer)) else none

end ProxySync.Finalizers
