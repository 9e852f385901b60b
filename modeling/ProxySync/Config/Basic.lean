import ProxySync.Config.Arguments
import ProxySync.DataPlane.Client
import ProxySync.WatchScope
/-!
# The configuration

The settings in use. A setting comes from the command line, else from the environment, else from
its default; a setting that is empty is given. Reading refuses values of the wrong form;
`Config.validate` refuses values that have the right form and still make no sense.

* `Config.read`: the configuration of a command line and an environment.
* `Config.validate`: the first value that makes no sense.
-/
namespace ProxySync

/-- A configuration. -/
structure Config where
  apiUrl : String
  apiUser : String
  apiPassword : String
  apiTimeoutSecs : Nat
  forceReload : Bool
  watchNamespace : String
  watchLabel : Option String
  metricsAddress : Net.SocketAddress
deriving DecidableEq

/-- A value that makes no sense. -/
inductive ConfigError where
  | invalidUrl (url cause : String)
  | zeroTimeout
  | invalidWatchLabel (label : String)
deriving DecidableEq

namespace ConfigError

/-- What is wrong. -/
def message : ConfigError → String
  | .invalidUrl url cause => "invalid HAProxy API URL " ++ Text.quoted url ++ ": " ++ cause
  | .zeroTimeout => "HAProxy API timeout must be greater than zero"
  | .invalidWatchLabel label =>
    "watch label " ++ Text.quoted label ++ " must have the form key=value"

/-- What brought it about, where that is an error of its own. -/
def cause? : ConfigError → Option String
  | .invalidUrl _ cause => some cause
  | _ => none

end ConfigError

namespace Config

/-- The values that the environment adds to those of the command line. -/
def withVariables (envValue? : String → Option String) (a : Arguments) :
    Except UsageError (List (Setting × String)) :=
  Setting.all.foldlM (fun given s =>
    match a.value? s, envValue? s.envVar with
    | none, some value => (s.check value).map fun _ => (s, value) :: given
    | _, _ => .ok given) a.given

/-- The first setting that must be given and is not. -/
def missing? (given : List (Setting × String)) : Option Setting :=
  Setting.all.find? fun s => s.isRequired && (given.lookup s).isNone

/-- The configuration of checked values. -/
def ofValues (given : List (Setting × String)) : Except UsageError Config :=
  let value? := fun s : Setting => (given.lookup s).or s.defaultText?
  let read {α : Type} (s : Setting) (ofText? : String → Option α) : Except UsageError α :=
    match (value? s).bind ofText? with
    | some a => .ok a
    | none => .error (.valueValidation s)
  do
    return {
      apiUrl := (value? .apiUrl).getD ""
      apiUser := (value? .apiUser).getD ""
      apiPassword := (value? .apiPassword).getD ""
      apiTimeoutSecs := ← read .apiTimeout Setting.seconds?
      forceReload := ((value? .forceReload).bind Setting.truth?).getD false
      watchNamespace := (value? .watchNamespace).getD ""
      watchLabel := value? .watchLabel
      metricsAddress := ← read .metricsAddress Net.SocketAddress.parse? }

/-- The configuration of an environment and a command line that has been read. -/
def ofArguments (envValue? : String → Option String) (a : Arguments) : Except UsageError Config :=
  do
    let given ← withVariables envValue? a
    match missing? given with
    | some s => .error (.missingRequiredArgument s)
    | none => ofValues given

/-- Reads a configuration. -/
def read (envValue? : String → Option String) (arguments : List String) : Except Stop Config := do
  let a ← Arguments.read arguments
  match ofArguments envValue? a with
  | .ok c => .ok c
  | .error e => .error (.usage e)

/-- Whether a label selector has a key and a value. -/
def isLabel (label : String) : Bool :=
  let cs := label.toList
  let key := cs.takeWhile (· ≠ '=')
  match cs.dropWhile (· ≠ '=') with
  | [] => false
  | _ :: value => !(Text.trimChars key).isEmpty && !(Text.trimChars value).isEmpty

/-- Refuses the first value that makes no sense: the URL, the timeout, the label. -/
def validate (c : Config) : Except ConfigError Unit :=
  match Net.Url.parse c.apiUrl with
  | .error e => .error (.invalidUrl c.apiUrl e.message)
  | .ok _ =>
    if c.apiTimeoutSecs = 0 then .error .zeroTimeout
    else match c.watchLabel with
      | none => .ok ()
      | some label => if isLabel label then .ok () else .error (.invalidWatchLabel label)

/-- What the controllers watch. -/
def watchScope (c : Config) : WatchScope :=
  { namespaces := WatchScope.namespacesOf c.watchNamespace, label := c.watchLabel }

/-- The client of the Data Plane. -/
def client (c : Config) : Except ClientError DataPlane.Client :=
  DataPlane.Client.ofAddress c.apiUrl c.apiUser c.apiPassword (c.apiTimeoutSecs * 1000)
    c.forceReload

end Config
end ProxySync
