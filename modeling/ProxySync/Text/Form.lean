import ProxySync.Text.Percent
/-!
# Form-encoded parameters

The query format of name and value pairs: pairs are joined by `&`, name and value by `=`, a space
is written `+`, and all but letters, digits and `*-._` is percent-encoded.
-/
namespace ProxySync.Form

/-- The ASCII characters that are escaped; a space is written in a form of its own. -/
def isEscaped (c : Char) : Bool :=
  !(c.isAlphanum || c == '*' || c == '-' || c == '.' || c == '_')

/-- One name or value. -/
def encode (s : String) : List Char :=
  s.toList.flatMap fun c => if c = ' ' then ['+'] else Percent.encodeChar isEscaped c

/-- One pair. -/
def encodePair (pair : String × String) : List Char :=
  encode pair.1 ++ '=' :: encode pair.2

/-- Appends pairs to what a query already holds. -/
def append (query : List Char) : List (String × String) → List Char
  | [] => query
  | pair :: pairs => append (if query.isEmpty then encodePair pair
      else query ++ '&' :: encodePair pair) pairs

/-- Undoes `encode`. -/
def decode (cs : List Char) : String :=
  Percent.decode (cs.map fun c => if c = '+' then ' ' else c)

/-- The pieces of a text between the given separators. -/
def splitChars (sep : Char) : List Char → List (List Char)
  | [] => [[]]
  | c :: cs =>
    match splitChars sep cs with
    | [] => [[]]
    | piece :: pieces => if c = sep then [] :: piece :: pieces else (c :: piece) :: pieces

/-- One pair of a query; without `=` the value is empty. -/
def decodePair (cs : List Char) : String × String :=
  (decode (cs.takeWhile (· ≠ '=')), decode ((cs.dropWhile (· ≠ '=')).drop 1))

/-- The pairs of a query; empty pieces are no pairs. -/
def decodeAll (query : List Char) : List (String × String) :=
  ((splitChars '&' query).filter (! ·.isEmpty)).map decodePair

end ProxySync.Form
