import ProxySync.Config.Setting
import ProxySync.Text.Blank
import ProxySync.Text.Pieces
import ProxySync.Text.Quoted
import ProxySync.Text.Terminal
/-!
# The help text

What the program says of itself: every setting with its option, what it is for, its variable with
the value it has, and its default. A value may bring along whatever the environment holds: its
lines are indented like the first, and what would steer a terminal is left out.
-/
namespace ProxySync.Config

/-- The name of the program. -/
def programName : String := "haproxy-operator"

/-- The version of the program. -/
def programVersion : String := "0.1.0"

namespace Setting

/-- The word that stands for the value of an option. -/
def placeholder (s : Setting) : String :=
  String.ofList (s.option.toList.map fun c => if c = '-' then '_' else c.toUpper)

/-- How the option is written. -/
def usage (s : Setting) : String :=
  "--" ++ s.option ++ if s.isSwitch then "" else " <" ++ s.placeholder ++ ">"

/-- The variable with its value, unless that is secret. -/
def variableNote (envValue? : String → Option String) (s : Setting) : String :=
  let shown := if s.isSecret then "" else "=" ++ (envValue? s.envVar).getD ""
  " [env: " ++ s.envVar ++ shown ++ "]"

/-- The default, in quotes where its limits would not be seen. -/
def defaultNote (s : Setting) : String :=
  match s.defaultText? with
  | some text =>
    let shown := if text = "" || text.toList.any Text.isBlank then Text.quoted text else text
    " [default: " ++ shown ++ "]"
  | none => ""

/-- The lines on a setting. -/
def helpLines (envValue? : String → Option String) (s : Setting) : List String :=
  let note := s.about ++ s.variableNote envValue? ++ s.defaultNote
  ("      " ++ s.usage) ::
    (Text.pieces (· == '\n') note.toList).map fun line => "          " ++ String.ofList line

end Setting

/-- The line on how the program is called. -/
def usageLine : String :=
  let required := (Setting.all.filter (·.isRequired)).map (·.usage)
  "Usage: " ++ " ".intercalate (programName :: "[OPTIONS]" :: required)

/-- The help text. -/
def helpText (envValue? : String → Option String) : String :=
  let lines :=
    ["Kubernetes operator for the HAProxy Data Plane API", "", usageLine, "", "Options:"] ++
      Setting.all.flatMap (·.helpLines envValue?) ++
      ["  -h, --help", "          Print help", "  -V, --version", "          Print version"]
  Text.Terminal.plain (String.join (lines.map (· ++ "\n")))

/-- The text that names the version. -/
def versionText : String := programName ++ " " ++ programVersion ++ "\n"

end ProxySync.Config
