import ProxySync.Net.Domain.Composition
import ProxySync.Net.Domain.Direction
import ProxySync.Net.Domain.Joining
import ProxySync.Net.Domain.Mapping
import ProxySync.Net.Domain.Punycode
/-!
# Domain names

The form in which a domain name is looked up: ASCII in lower case, labels with other characters in
their ASCII encoding behind the mark `xn--`. Such a label is checked, whether it was given as it is
read or in its encoding. A name in plain ASCII needs no table.

* `Name.ascii?`: the form of a name, with its labels apart.
-/
namespace ProxySync.Net.Domain.Name

/-- A character that no domain name may hold. -/
def isForbidden (c : Char) : Bool :=
  c.toNat ≤ 0x20 || c.toNat = 0x7f ||
    c ∈ ['%', '#', '/', ':', '<', '>', '?', '@', '[', '\\', ']', '^', '|']

/-- Whether a character is one of ASCII. -/
def isAscii (c : Char) : Bool := c.toNat < 0x80

/-- The labels of a name. -/
def labels : List Char → List (List Char) := Text.pieces (· == '.')

/-- The mark of a label that is encoded. -/
def mark : List Char := ['x', 'n', '-', '-']

/-- Whether a label is encoded. -/
def isEncoded (label : List Char) : Bool := mark.isPrefixOf label

/-- The most characters of a label that is encoded. -/
def maxLabel : Nat := 1000

/-- The most characters of an encoding. -/
def maxEncoding : Nat := 2000

/-- A label in the form in which it is read, and as it is looked up. -/
structure Label where
  plain : List Char
  ascii : List Char

/-- Whether a label as it is read keeps the rules for its length, its marks and its joiners. -/
def isSound (label : List Char) : Bool :=
  label.length ≤ maxLabel && !(label.head?.any Marks.isMark) && Joining.isVisible label

/-- Whether a decoded label is one that it could have been encoded from. -/
def isSettled (label : List Char) : Bool :=
  label.all (fun c => Mapping.isKept c && !isForbidden c) &&
    Composition.normalize label = label && isSound label

/-- A label of a mapped name. -/
def label? (label : List Char) : Option Label :=
  if isEncoded label then
    let encoding := label.drop mark.length
    if encoding.getLast?.all (· = '-') || maxEncoding < encoding.length then none
    else
      match Punycode.decode? encoding with
      | some plain => if isSettled plain then some { plain, ascii := label } else none
      | none => none
  else if label.all isAscii then some { plain := label, ascii := label }
  else if isSound label then
    some { plain := label, ascii := mark ++ Punycode.encode label }
  else none

/-- The mapped name: every character replaced by its image, and all in composed form. -/
def mapped? (name : List Char) : Option (List Char) := do
  let images ← name.mapM Mapping.image?
  return Composition.normalize images.flatten

/-- The labels of a name of which some may be encoded or hold other characters than ASCII. -/
def international? (name : List Char) : Option (List (List Char)) := do
  let name ← mapped? name
  let found ← (labels name).mapM label?
  if name.any isForbidden || !Direction.areReadable (found.map (·.plain)) then none
  else return found.map (·.ascii)

/-- The labels of a name as it is looked up. None if it is not a domain name. -/
def ascii? (name : List Char) : Option (List (List Char)) :=
  let lower := labels (name.map Char.toLower)
  if name.all isAscii && !lower.any isEncoded then
    if name.any isForbidden then none else some lower
  else international? name

end ProxySync.Net.Domain.Name
