import ProxySync.Config.Basic
import ProxySync.Config.Help
import ProxySync.Resource.Definition
/-!
# Commands

What the two programs do from their arguments and their environment: the operator, as far as it
comes without a cluster, and the writer of the resource definition.
-/
namespace ProxySync

/-- What a run shows. -/
structure Outcome where
  code : Nat
  stdout : String
  stderr : String
  /-- The text of the definition file, if it is written. -/
  manifest : Option String
deriving DecidableEq

namespace Config.UsageError

/-- What is wrong with a call. -/
def message : UsageError → String
  | .missingRequiredArgument s => "missing required argument --" ++ s.option
  | .unknownArgument text => "unexpected argument " ++ Text.quoted text
  | .invalidValue s => "--" ++ s.option ++ " needs a value it accepts"
  | .valueValidation s => "the value of --" ++ s.option ++ " cannot be read"
  | .argumentConflict s => "--" ++ s.option ++ " cannot be used multiple times"
  | .tooManyValues text => text ++ " takes no value"

end Config.UsageError

namespace Command

/-- A run that only prints. -/
def printing (text : String) : Outcome :=
  { code := 0, stdout := text, stderr := "", manifest := none }

/-- A run that fails. -/
def failing (code : Nat) (text : String) : Outcome :=
  { code, stdout := "", stderr := text, manifest := none }

/-- What is printed of a configuration that makes no sense: the error, and below it its cause. -/
def complaint (e : ConfigError) : String :=
  "Error: " ++ e.message ++ "\n" ++
    match e.cause? with
    | some cause => "\nCaused by:\n    " ++ cause ++ "\n"
    | none => ""

/-- A run of the operator. With a configuration that makes sense it would go on to watch a cluster,
for which it has no client. -/
def operator (envValue? : String → Option String) (arguments : List String) : Outcome :=
  match Config.read envValue? arguments with
  | .error .help => printing (Config.helpText envValue?)
  | .error .version => printing Config.versionText
  | .error (.usage e) => failing 2 ("error: " ++ e.message ++ "\n\n" ++ Config.usageLine ++ "\n")
  | .ok c =>
    match c.validate with
    | .error e => failing 1 (complaint e)
    | .ok _ => failing 101 "no client for a cluster\n"

/-- The folder of the definition file. -/
def definitionFolder : String := "deploy/crds"

/-- The path of the definition file. -/
def definitionPath : String := definitionFolder ++ "/" ++ Resource.Definition.fileName

/-- A run that writes the definition of the resource. Arguments do not matter. -/
def writeDefinition : Outcome :=
  { code := 0
    stdout :=
      "Generating CRD YAML files from src/crd.rs...\n" ++
        "  ✓ Generated " ++ definitionPath ++ "\n\n" ++
        "CRD YAML files generated successfully in " ++ definitionFolder ++ "/\n"
    stderr := ""
    manifest := some Resource.Definition.manifest }

/-- A run of a program by its name. -/
def run? (program : String) (envValue? : String → Option String) (arguments : List String) :
    Option Outcome :=
  if program = Config.programName then some (operator envValue? arguments)
  else if program = "crdgen" then some writeDefinition
  else none

end Command
end ProxySync
