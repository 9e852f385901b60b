import ProxySync.Json.Printer
import ProxySync.Text.Pieces
/-!
# Block YAML

A JSON value as YAML in block style: one entry a line, nested values indented by two, the items of
a list as far in as the key above them. A text of several lines is a literal block without a final
line break; a text that would read as something else stands in single quotes.
-/
namespace ProxySync.Json.Yaml

/-- Whether a plain text must not begin with this character. -/
def isIndicator (c : Char) : Bool :=
  c ∈ ['-', '?', ':', ',', '[', ']', '\x7b', '\x7d', '#', '&', '*', '!', '|', '>', '\'', '"', '%',
    '@', '\x60', ' ']

/-- Whether a text holds a colon or a sharp that would end it. -/
def hasBreak : List Char → Bool
  | [':'] => true
  | ':' :: ' ' :: _ => true
  | ' ' :: '#' :: _ => true
  | _ :: cs => hasBreak cs
  | [] => false

/-- Texts that would read as another kind of value. -/
def isReserved (s : String) : Bool :=
  ["", "~", "null", "Null", "NULL", "true", "True", "TRUE", "false", "False", "FALSE"].contains s

/-- Whether a text begins like a number. -/
def isNumberLike : List Char → Bool
  | '+' :: _ => true
  | '.' :: c :: _ => c.isDigit
  | c :: _ => c.isDigit
  | [] => false

/-- Whether a text needs no quotes. -/
def isPlain (s : String) : Bool :=
  let cs := s.toList
  !isReserved s && !isNumberLike cs && !(cs.head?.any isIndicator) && !hasBreak cs

/-- A text on one line. -/
def scalar (s : String) : String :=
  if isPlain s then s
  else
    let quoted := s.toList.flatMap fun c => if c = '\'' then ['\'', '\''] else [c]
    String.ofList ('\'' :: quoted ++ ['\''])

/-- A value as it stands in an entry: behind the key, or below it. -/
inductive Block where
  /-- On the line of the key. -/
  | inline (text : String)
  /-- A literal text. -/
  | literal (lines : List String)
  /-- The entries of an object. -/
  | entries (lines : List String)
  /-- The items of a list. -/
  | items (lines : List String)

/-- A line further in; empty lines stay empty. -/
def indent (line : String) : String := if line = "" then "" else "  " ++ line

/-- An entry of an object. -/
def entry (key : String) : Block → List String
  | .inline text => [key ++ ": " ++ text]
  | .literal lines => (key ++ ": |-") :: lines.map indent
  | .entries lines => (key ++ ":") :: lines.map indent
  | .items lines => (key ++ ":") :: lines

/-- The lines of an item, the first behind its dash. -/
def hanging : List String → List String
  | [] => []
  | l :: ls => ("- " ++ l) :: ls.map indent

/-- An item of a list. -/
def item : Block → List String
  | .inline text => ["- " ++ text]
  | .literal lines => "- |-" :: lines.map indent
  | .entries lines => hanging lines
  | .items lines => hanging lines

mutual

/-- A value as a block. -/
def block : Json → Block
  | .null => .inline "null"
  | .bool b => .inline (if b then "true" else "false")
  | .int n => .inline (toString n)
  | .decimal digits => .inline digits
  | .str s =>
    match Text.pieces (· == '\n') s.toList with
    | [_] => .inline (scalar s)
    | lines => .literal (lines.map String.ofList)
  | .arr [] => .inline "[]"
  | .arr (j :: js) => .items (item (block j) ++ items js)
  | .obj [] => .inline "\x7b\x7d"
  | .obj ((k, j) :: fields) => .entries (entry (scalar k) (block j) ++ entries fields)
  | .illFormed => .inline "null"

/-- The lines of a list of items. -/
def items : List Json → List String
  | [] => []
  | j :: js => item (block j) ++ items js

/-- The lines of a list of entries. -/
def entries : List (String × Json) → List String
  | [] => []
  | (k, j) :: fields => entry (scalar k) (block j) ++ entries fields

end

/-- The lines of a document. -/
def documentLines (j : Json) : List String :=
  match block j with
  | .inline text => [text]
  | .literal lines => "|-" :: lines.map indent
  | .entries lines => lines
  | .items lines => lines

/-- A document. -/
def print (j : Json) : String := String.join ((documentLines j).map (· ++ "\n"))

end ProxySync.Json.Yaml
