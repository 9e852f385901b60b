import ProxySync.Wire.Objects
/-!
# When an object needs no update

A remote object is left alone if it agrees with the wanted one on the fields this program manages.
Unset and empty texts agree, the case of a server's check mode does not matter, and a server's id
and a bind's name are not managed. Check lists are compared position by position, and there the
fields of a header agree only if they are equal as they stand.
-/
namespace ProxySync.Wire

/-- A text with its ASCII letters in lower case. -/
def foldCase (s : String) : String := String.ofList (s.toList.map Char.toLower)

namespace Backend

/-- The algorithm of a backend; without balance settings it is empty. -/
def algorithmText (b : Backend) : String := textOr (b.balance.bind (·.algorithm))

/-- Whether two backend sections agree. -/
def same (a b : Backend) : Bool :=
  a.name == b.name && a.algorithmText == b.algorithmText &&
    textOr a.advCheck == textOr b.advCheck && textOr a.mode == textOr b.mode &&
    textOr a.description == textOr b.description

end Backend

/-- Whether two servers agree. -/
def Server.same (a b : Server) : Bool :=
  a.name == b.name && a.address == b.address && a.port == b.port &&
    foldCase (textOr a.check) == foldCase (textOr b.check)

/-- Whether two frontend sections agree. -/
def Frontend.same (a b : Frontend) : Bool :=
  a.name == b.name && textOr a.mode == textOr b.mode &&
    textOr a.defaultBackend == textOr b.defaultBackend &&
    textOr a.description == textOr b.description

/-- Whether two binds are the same address and port. -/
def Bind.same (a b : Bind) : Bool :=
  textOr a.address == textOr b.address && a.port == b.port

/-- Whether two rules pick the same backend on the same condition text. -/
def SwitchingRule.same (a b : SwitchingRule) : Bool :=
  a.name == b.name && textOr a.condTest == textOr b.condTest

/-- Whether two headers are equal. -/
def CheckHeader.same (a b : CheckHeader) : Bool := a.name == b.name && a.fmt == b.fmt

/-- Whether two lists have equal length and agree position by position. -/
def samePositions {α : Type} (agree : α → α → Bool) : List α → List α → Bool
  | [], [] => true
  | a :: as, b :: bs => agree a b && samePositions agree as bs
  | _, _ => false

namespace HttpCheck

/-- Whether two steps agree. -/
def same (a b : HttpCheck) : Bool :=
  a.kind == b.kind && textOr a.method == textOr b.method && textOr a.uri == textOr b.uri &&
    samePositions CheckHeader.same a.headers b.headers

/-- Whether two check lists agree. -/
def sameList (as bs : List HttpCheck) : Bool := samePositions same as bs

end HttpCheck
end ProxySync.Wire
