/-!
# Vocabularies

The fixed words of a `Backend` resource. Each vocabulary has its words in the order in which the
schema lists them, and reading a word undoes writing it.
-/
namespace ProxySync

/-- Proxy mode of a backend. -/
inductive ProxyMode where
  | http | tcp
deriving DecidableEq, Repr

namespace ProxyMode

/-- The word for it. -/
def text : ProxyMode → String
  | .http => "http"
  | .tcp => "tcp"

/-- All of them, in the order of the schema. -/
def all : List ProxyMode :=
  [.http, .tcp]

/-- The one written with that word. -/
def ofText? (s : String) : Option ProxyMode := all.find? (·.text == s)

theorem mem_all (x : ProxyMode) : x ∈ all := by cases x <;> simp [all]

@[simp] theorem ofText?_text (x : ProxyMode) : ofText? x.text = some x := by cases x <;> rfl

end ProxyMode

/-- Load-balancing algorithm. -/
inductive Algorithm where
  | first | hash | hdr | leastConn | random | rdpCookie | roundRobin | source
  | staticRoundRobin | uri | urlParam
deriving DecidableEq, Repr

namespace Algorithm

/-- The word for it. -/
def text : Algorithm → String
  | .first => "first"
  | .hash => "hash"
  | .hdr => "hdr"
  | .leastConn => "leastconn"
  | .random => "random"
  | .rdpCookie => "rdp-cookie"
  | .roundRobin => "roundrobin"
  | .source => "source"
  | .staticRoundRobin => "static-rr"
  | .uri => "uri"
  | .urlParam => "url_param"

/-- All of them, in the order of the schema. -/
def all : List Algorithm :=
  [.first, .hash, .hdr, .leastConn, .random, .rdpCookie, .roundRobin, .source,
    .staticRoundRobin, .uri, .urlParam]

/-- The one written with that word. -/
def ofText? (s : String) : Option Algorithm := all.find? (·.text == s)

theorem mem_all (x : Algorithm) : x ∈ all := by cases x <;> simp [all]

@[simp] theorem ofText?_text (x : Algorithm) : ofText? x.text = some x := by cases x <;> rfl

end Algorithm

/-- Protocol-specific health check of a backend. -/
inductive AdvancedCheck where
  | http | ldap | mysql | pgsql | redis | smtp | sslHello | tcp
deriving DecidableEq, Repr

namespace AdvancedCheck

/-- The word for it. -/
def text : AdvancedCheck → String
  | .http => "httpchk"
  | .ldap => "ldap-check"
  | .mysql => "mysql-check"
  | .pgsql => "pgsql-check"
  | .redis => "redis-check"
  | .smtp => "smtpchk"
  | .sslHello => "ssl-hello-chk"
  | .tcp => "tcp-check"

/-- All of them, in the order of the schema. -/
def all : List AdvancedCheck :=
  [.http, .ldap, .mysql, .pgsql, .redis, .smtp, .sslHello, .tcp]

/-- The one written with that word. -/
def ofText? (s : String) : Option AdvancedCheck := all.find? (·.text == s)

theorem mem_all (x : AdvancedCheck) : x ∈ all := by cases x <;> simp [all]

@[simp] theorem ofText?_text (x : AdvancedCheck) : ofText? x.text = some x := by cases x <;> rfl

end AdvancedCheck

/-- Whether a server is health-checked. -/
inductive CheckMode where
  | enabled | disabled
deriving DecidableEq, Repr

namespace CheckMode

/-- The word for it. -/
def text : CheckMode → String
  | .enabled => "enabled"
  | .disabled => "disabled"

/-- All of them, in the order of the schema. -/
def all : List CheckMode :=
  [.enabled, .disabled]

/-- The one written with that word. -/
def ofText? (s : String) : Option CheckMode := all.find? (·.text == s)

theorem mem_all (x : CheckMode) : x ∈ all := by cases x <;> simp [all]

@[simp] theorem ofText?_text (x : CheckMode) : ofText? x.text = some x := by cases x <;> rfl

end CheckMode

/-- Type of an http-check step. -/
inductive StepKind where
  | comment | connect | disableOn404 | expect | send | sendState | setVar | setVarFmt
  | unsetVar
deriving DecidableEq, Repr

namespace StepKind

/-- The word for it. -/
def text : StepKind → String
  | .comment => "comment"
  | .connect => "connect"
  | .disableOn404 => "disable-on-404"
  | .expect => "expect"
  | .send => "send"
  | .sendState => "send-state"
  | .setVar => "set-var"
  | .setVarFmt => "set-var-fmt"
  | .unsetVar => "unset-var"

/-- All of them, in the order of the schema. -/
def all : List StepKind :=
  [.comment, .connect, .disableOn404, .expect, .send, .sendState, .setVar, .setVarFmt,
    .unsetVar]

/-- The one written with that word. -/
def ofText? (s : String) : Option StepKind := all.find? (·.text == s)

theorem mem_all (x : StepKind) : x ∈ all := by cases x <;> simp [all]

@[simp] theorem ofText?_text (x : StepKind) : ofText? x.text = some x := by cases x <;> rfl

end StepKind

/-- HTTP verb of an http-check step that sends a request. -/
inductive HttpVerb where
  | head | put | post | get | trace | patch | delete | connect | options
deriving DecidableEq, Repr

namespace HttpVerb

/-- The word for it. -/
def text : HttpVerb → String
  | .head => "HEAD"
  | .put => "PUT"
  | .post => "POST"
  | .get => "GET"
  | .trace => "TRACE"
  | .patch => "PATCH"
  | .delete => "DELETE"
  | .connect => "CONNECT"
  | .options => "OPTIONS"

/-- All of them, in the order of the schema. -/
def all : List HttpVerb :=
  [.head, .put, .post, .get, .trace, .patch, .delete, .connect, .options]

/-- The one written with that word. -/
def ofText? (s : String) : Option HttpVerb := all.find? (·.text == s)

theorem mem_all (x : HttpVerb) : x ∈ all := by cases x <;> simp [all]

@[simp] theorem ofText?_text (x : HttpVerb) : ofText? x.text = some x := by cases x <;> rfl

end HttpVerb

end ProxySync
