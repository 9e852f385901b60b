import ProxySync.Net.SocketAddress
/-!
# Settings

What can be configured. Each setting has an option on the command line and a variable in the
environment; some have a default and some must be given. One setting is a switch, which takes no
value on the command line.
-/
namespace ProxySync.Config

/-- The settings. -/
inductive Setting where
  | apiUrl | apiUser | apiPassword | apiTimeout | forceReload | watchNamespace | watchLabel
  | metricsAddress
deriving DecidableEq

/-- Why a command line or an environment is refused. -/
inductive UsageError where
  /-- A setting that must be given is not. -/
  | missingRequiredArgument (s : Setting)
  /-- An argument that is no option, or a value that no option asks for. -/
  | unknownArgument (text : String)
  /-- An option without its value, or a word outside a fixed choice. -/
  | invalidValue (s : Setting)
  /-- A value that cannot be read as what the setting holds. -/
  | valueValidation (s : Setting)
  /-- An option that is given twice. -/
  | argumentConflict (s : Setting)
  /-- A value for an option that takes none. -/
  | tooManyValues (text : String)
deriving DecidableEq

namespace Setting

/-- All of them, in the order in which they are described. -/
def all : List Setting :=
  [.apiUrl, .apiUser, .apiPassword, .apiTimeout, .forceReload, .watchNamespace, .watchLabel,
    .metricsAddress]

theorem mem_all (s : Setting) : s ∈ all := by cases s <;> simp [all]

/-- The name of the option, without its dashes. -/
def option : Setting → String
  | .apiUrl => "haproxy-api-url"
  | .apiUser => "haproxy-api-user"
  | .apiPassword => "haproxy-api-pass"
  | .apiTimeout => "haproxy-api-timeout-secs"
  | .forceReload => "force-reload"
  | .watchNamespace => "watch-namespace"
  | .watchLabel => "watch-label"
  | .metricsAddress => "metrics-bind-address"

/-- The variable in the environment. -/
def envVar : Setting → String
  | .apiUrl => "HAPROXY_API_URL"
  | .apiUser => "HAPROXY_API_USER"
  | .apiPassword => "HAPROXY_API_PASS"
  | .apiTimeout => "HAPROXY_API_TIMEOUT_SECS"
  | .forceReload => "HAPROXY_FORCE_RELOAD"
  | .watchNamespace => "WATCH_NAMESPACE"
  | .watchLabel => "WATCH_LABEL"
  | .metricsAddress => "METRICS_BIND_ADDRESS"

/-- The setting of an option. -/
def ofOption? (name : String) : Option Setting := all.find? (·.option == name)

@[simp] theorem ofOption?_option (s : Setting) : ofOption? s.option = some s := by cases s <;> rfl

/-- Whether the option takes no value. -/
def isSwitch (s : Setting) : Bool := s == .forceReload

/-- Whether the setting must be given. -/
def isRequired : Setting → Bool
  | .apiUrl | .apiUser | .apiPassword => true
  | _ => false

/-- What holds where the setting is not given. -/
def defaultText? : Setting → Option String
  | .apiTimeout => some "30"
  | .watchNamespace => some ""
  | .metricsAddress => some "0.0.0.0:8080"
  | _ => none

/-- What the setting is for. -/
def about : Setting → String
  | .apiUrl => "Data Plane API base URL, e.g. `http://haproxy:5555`"
  | .apiUser => "Data Plane API basic-auth user"
  | .apiPassword => "Data Plane API basic-auth password"
  | .apiTimeout => "Timeout for every Data Plane API request, in seconds"
  | .forceReload => "Ask HAProxy to reload on every commit"
  | .watchNamespace => "Comma-separated namespaces to watch. Empty watches all namespaces"
  | .watchLabel => "Only manage Backends carrying this `key=value` label"
  | .metricsAddress => "Address of the metrics and health server"

/-- Whether the value in the environment is not to be shown. -/
def isSecret (s : Setting) : Bool := s == .apiPassword

/-- A number of seconds: 64 bits without a sign. -/
def seconds? (text : String) : Option Nat := Numeral.natUpTo? 0xffffffffffffffff text

/-- A truth value by its word. -/
def truth? : String → Option Bool
  | "true" => some true
  | "false" => some false
  | _ => none

/-- Refuses a text that is no value of the setting. -/
def check (s : Setting) (text : String) : Except UsageError Unit :=
  match s with
  | .apiTimeout => if (seconds? text).isSome then .ok () else .error (.valueValidation s)
  | .metricsAddress =>
    if (Net.SocketAddress.parse? text).isSome then .ok () else .error (.valueValidation s)
  | .forceReload => if (truth? text).isSome then .ok () else .error (.invalidValue s)
  | _ => .ok ()

end Setting
end ProxySync.Config
