import ProxySync.Json.Basic
/-!
# Writing JSON

The compact form: no white space, fields in the order in which they are held. `Json.sorted` puts
the fields of every object into the order of their names, the last of equal names winning, which
is how bodies are written by a server that keeps objects as maps.
-/
namespace ProxySync.Json

/-- The digit of a value below sixteen, in lower case. -/
private def lowerHex (n : Nat) : Char := Char.ofNat (if n < 10 then 48 + n else 87 + n)

/-- One character inside a string. -/
def stringChar (c : Char) : List Char :=
  if c = '"' || c = '\\' then ['\\', c]
  else if c.toNat = 8 then ['\\', 'b']
  else if c = '\t' then ['\\', 't']
  else if c = '\n' then ['\\', 'n']
  else if c.toNat = 12 then ['\\', 'f']
  else if c = '\r' then ['\\', 'r']
  else if c.toNat < 0x20 then
    ['\\', 'u', '0', '0', lowerHex (c.toNat / 16), lowerHex (c.toNat % 16)]
  else [c]

/-- A string with its quotes. -/
def stringChars (s : String) : List Char := '"' :: s.toList.flatMap stringChar ++ ['"']

mutual

/-- The compact form of a value. -/
def chars : Json → List Char
  | .null => "null".toList
  | .bool true => "true".toList
  | .bool false => "false".toList
  | .int n => (toString n).toList
  | .decimal digits => digits.toList
  | .str s => stringChars s
  | .arr items => '[' :: itemChars items ++ [']']
  | .obj fields => '{' :: fieldChars fields ++ ['}']
  | .illFormed => "null".toList

/-- Items with commas between them. -/
def itemChars : List Json → List Char
  | [] => []
  | [j] => chars j
  | j :: js => chars j ++ ',' :: itemChars js

/-- Fields with commas between them. -/
def fieldChars : List (String × Json) → List Char
  | [] => []
  | [(k, v)] => stringChars k ++ ':' :: chars v
  | (k, v) :: fs => stringChars k ++ ':' :: chars v ++ ',' :: fieldChars fs

end

/-- The compact form of a value. -/
def print (j : Json) : String := String.ofList j.chars

/-- Puts a field into fields sorted by name; an equal name is replaced. -/
def putField (name : String) (value : Json) : List (String × Json) → List (String × Json)
  | [] => [(name, value)]
  | f :: fs =>
    if name < f.1 then (name, value) :: f :: fs
    else if name = f.1 then (name, value) :: fs
    else f :: putField name value fs

mutual

/-- The same value with the fields of every object sorted by name; of fields of one name the last
is kept. -/
def sorted : Json → Json
  | .arr items => .arr (sortedItems items)
  | .obj fields => .obj ((sortedFields fields).foldl (fun acc f => putField f.1 f.2 acc) [])
  | j => j

/-- Sorts below every item. -/
def sortedItems : List Json → List Json
  | [] => []
  | j :: js => sorted j :: sortedItems js

/-- Sorts below every field. -/
def sortedFields : List (String × Json) → List (String × Json)
  | [] => []
  | (k, v) :: fs => (k, sorted v) :: sortedFields fs

end

end ProxySync.Json
