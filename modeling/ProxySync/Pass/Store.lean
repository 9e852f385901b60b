import ProxySync.Dialogue
import ProxySync.Kube.Event
/-!
# The store of `Backend` resources

What a reconcile pass asks of Kubernetes about the resource it works on. Every call may fail with a
text, apart from publishing an event, whose failure nobody hears of.
-/
namespace ProxySync.Store

/-- What can be asked of the store. -/
inductive Call where
  | get (key : Key)
  | addFinalizer (b : Resource.Backend)
  | removeFinalizer (b : Resource.Backend)
  | patchStatus (b : Resource.Backend) (status : Resource.Status)
  | publish (b : Resource.Backend) (remark : Remark)

/-- The store. -/
def interface : Interface where
  Call := Call
  Answer
    | .get _ => Except String (Option Resource.Backend)
    | .addFinalizer _ => Except String Unit
    | .removeFinalizer _ => Except String Unit
    | .patchStatus .. => Except String Unit
    | .publish .. => Unit

end ProxySync.Store
