/-!
# Objects of the Data Plane

The configuration objects that the Data Plane API exchanges, with the fields this program reads or
writes. An optional field may be unset, which is not the same as empty.
-/
namespace ProxySync.Wire

/-- Load-balancing settings of a backend section. -/
structure Balance where
  algorithm : Option String
deriving DecidableEq

/-- A backend section. -/
structure Backend where
  name : String
  mode : Option String
  balance : Option Balance
  advCheck : Option String
  description : Option String
deriving DecidableEq

/-- A header sent by an http-check step. -/
structure CheckHeader where
  name : Option String
  fmt : Option String
deriving DecidableEq

/-- One http-check step of a backend. -/
structure HttpCheck where
  kind : String
  method : Option String
  uri : Option String
  headers : List CheckHeader
deriving DecidableEq

/-- A server of a backend. -/
structure Server where
  name : String
  address : String
  port : Option Int64
  id : Option Int64
  check : Option String
deriving DecidableEq

/-- A frontend section. -/
structure Frontend where
  name : String
  mode : Option String
  defaultBackend : Option String
  description : Option String
deriving DecidableEq

/-- A listening address of a frontend. -/
structure Bind where
  name : Option String
  address : Option String
  port : Option Int64
deriving DecidableEq

/-- A rule of a frontend that picks a backend: its target, `if` or `unless`, and the condition. -/
structure SwitchingRule where
  name : String
  cond : Option String
  condTest : Option String
deriving DecidableEq

/-- A configuration transaction. -/
structure Transaction where
  id : String
  version : Int64
  status : String
deriving DecidableEq

/-- The text of an optional field; unset reads as empty. -/
def textOr (value : Option String) : String := value.getD ""

@[simp] theorem textOr_none : textOr none = "" := rfl
@[simp] theorem textOr_some (s : String) : textOr (some s) = s := rfl

end ProxySync.Wire
