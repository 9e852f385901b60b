import ProxySync.Config.Setting
/-!
# Command lines

An option is written `--name value` or `--name=value`, a switch `--name`. The value of an option is
the argument behind it, unless that begins with a dash; whether it is there, is the only one and
can be read is looked at when the next option comes or the line ends. A mistake that is seen in an
argument itself therefore wins over one in the option before it.

* `Arguments.read`: the settings that a command line gives.
-/
namespace ProxySync.Config

/-- Why a command line is not followed. -/
inductive Stop where
  /-- It asks for the help text. -/
  | help
  /-- It asks for the version. -/
  | version
  | usage (e : UsageError)
deriving DecidableEq

/-- The parts of an argument. -/
inductive Word where
  /-- Two dashes alone: no options behind it. -/
  | separator
  /-- Two dashes, a name, and maybe a value behind an equals sign. -/
  | long (name : String) (value : Option String)
  /-- One dash and letters. -/
  | short (letters : List Char)
  /-- Anything else, also a dash alone. -/
  | plain (text : String)
deriving DecidableEq

/-- Takes an argument apart. -/
def Word.ofText (text : String) : Word :=
  match text.toList with
  | ['-', '-'] => .separator
  | '-' :: '-' :: cs =>
    match cs.dropWhile (· ≠ '=') with
    | [] => .long (String.ofList cs) none
    | _ :: value => .long (String.ofList (cs.takeWhile (· ≠ '='))) (some (String.ofList value))
  | '-' :: c :: cs => .short (c :: cs)
  | _ => .plain text

/-- A command line read so far. -/
structure Arguments where
  /-- The settings given, each once. -/
  given : List (Setting × String)
  /-- The last option, with its value if that has been seen. -/
  pending : Option (Setting × Option String)
  /-- Whether the separator has been seen. -/
  separated : Bool

namespace Arguments

/-- The line before its first argument. -/
def empty : Arguments := { given := [], pending := none, separated := false }

/-- The value given for a setting. -/
def value? (a : Arguments) (s : Setting) : Option String := a.given.lookup s

/-- Gives a setting a value, once. -/
def give (a : Arguments) (s : Setting) (value : String) : Except Stop Arguments :=
  if (a.value? s).isSome then .error (.usage (.argumentConflict s))
  else match s.check value with
    | .ok _ => .ok { a with given := (s, value) :: a.given }
    | .error e => .error (.usage e)

/-- Looks at the last option. -/
def settle (a : Arguments) : Except Stop Arguments :=
  match a.pending with
  | none => .ok a
  | some (s, none) => .error (.usage (.invalidValue s))
  | some (s, some value) => { a with pending := none }.give s value

/-- Takes an option or a switch. -/
def takeLong (a : Arguments) (name : String) (value : Option String) : Except Stop Arguments :=
  let text := "--" ++ name
  match Setting.ofOption? name, value with
  | some s, none =>
    if s.isSwitch then do (← a.settle).give s "true"
    else do return { ← a.settle with pending := some (s, none) }
  | some s, some v =>
    if s.isSwitch then .error (.usage (.tooManyValues text))
    else do (← a.settle).give s v
  | none, value =>
    if name = "help" || name = "version" then
      match value with
      | some _ => .error (.usage (.tooManyValues text))
      | none => do
        let _ ← a.settle
        .error (if name = "help" then .help else .version)
    else .error (.usage (.unknownArgument text))

/-- Takes one word. -/
def take (a : Arguments) (text : String) : Except Stop Arguments :=
  if a.separated then .error (.usage (.unknownArgument text))
  else match Word.ofText text with
    | .separator => .ok { a with separated := true }
    | .long name value => a.takeLong name value
    | .short ('h' :: _) => do
      let _ ← a.settle
      .error .help
    | .short ('V' :: _) => do
      let _ ← a.settle
      .error .version
    | .short _ => .error (.usage (.unknownArgument text))
    | .plain value =>
      match a.pending with
      | some (s, none) => .ok { a with pending := some (s, some value) }
      | _ => .error (.usage (.unknownArgument text))

/-- Reads a command line without the name of the program. -/
def read (texts : List String) : Except Stop Arguments := do (← texts.foldlM take empty).settle

end Arguments
end ProxySync.Config
