import ProxySync.Command
/-!
# The command line

Runs one of the programs, whose name is the first argument.
-/
namespace ProxySync.Command

/-- The values of the variables that are settings. -/
def readSettings : IO (List (String × String)) := do
  let mut found := []
  for s in Config.Setting.all do
    if let some value ← IO.getEnv s.envVar then
      found := (s.envVar, value) :: found
  return found

/-- Shows what a run has to show. -/
def present (o : Outcome) : IO UInt32 := do
  if let some text := o.manifest then
    IO.FS.createDirAll definitionFolder
    IO.FS.writeFile definitionPath text
  (← IO.getStdout).putStr o.stdout
  (← IO.getStderr).putStr o.stderr
  return UInt32.ofNat o.code

end ProxySync.Command

open ProxySync.Command in
/-- Runs a program. -/
def main (arguments : List String) : IO UInt32 := do
  let values ← readSettings
  match arguments with
  | program :: rest =>
    match run? program (values.lookup ·) rest with
    | some o => present o
    | none => present (failing 2 "unknown program\n")
  | [] => present (failing 2 "no program named\n")
