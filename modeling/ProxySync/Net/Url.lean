import ProxySync.Net.Host
import ProxySync.Text.Form
/-!
# URLs

The parts of a URL in their written form, read by the rules that browsers share: white space and
control characters at the ends are dropped, tabs and line ends everywhere; the web schemes treat
backslashes as slashes, have a host and an absolute path, and leave out their default port.

* `Url.parse`, `Url.text`: reading and writing.
* `Url.withSegments`: extends the path by names, each of which stays inside one segment.
* `Url.withPairs`: extends the query.
-/
namespace ProxySync.Net

/-- The path of a URL. -/
inductive UrlPath where
  /-- Segments below the root, none for an empty path. -/
  | segments (ss : List String)
  /-- A path without structure. -/
  | flat (text : String)
deriving DecidableEq

/-- A URL; every part is in its written form. -/
structure Url where
  scheme : String
  username : String
  password : String
  /-- None if there is no authority. -/
  host : Option String
  port : Option Nat
  path : UrlPath
  query : Option String
  fragment : Option String
deriving DecidableEq

namespace Url

/-- The port that a scheme implies. -/
def defaultPort : String → Option Nat
  | "http" | "ws" => some 80
  | "https" | "wss" => some 443
  | "ftp" => some 21
  | _ => none

/-- Whether the scheme is one of the web. -/
def isSpecial (scheme : String) : Bool := (defaultPort scheme).isSome || scheme == "file"

/-- The ASCII characters escaped in a fragment. -/
def inFragment (c : Char) : Bool := c ∈ [' ', '"', '<', '>', '\x60']

/-- The ASCII characters escaped in a path. -/
def inPath (c : Char) : Bool := inFragment c || c ∈ ['#', '?', '\x7b', '\x7d']

/-- The ASCII characters escaped in a name that is to be one segment. -/
def inSegment (c : Char) : Bool := inPath c || c ∈ ['/', '%', '\\']

/-- The ASCII characters escaped in user and password. -/
def inUserinfo (c : Char) : Bool :=
  inPath c || c ∈ ['/', ':', ';', '=', '@', '[', '\\', ']', '^', '|']

/-- The ASCII characters escaped in a query. -/
def inQuery (special : Bool) (c : Char) : Bool :=
  c ∈ [' ', '"', '#', '<', '>'] || (special && c = '\x27')

/-- A tab or line end, which is dropped wherever it stands. -/
def isDropped (c : Char) : Bool := c = '\t' || c = '\n' || c = '\r'

/-- A character dropped at the ends. -/
def isEdge (c : Char) : Bool := c.toNat ≤ 0x20

/-- The text that counts. -/
def clean (cs : List Char) : List Char :=
  ((cs.dropWhile isEdge).reverse.dropWhile isEdge).reverse.filter (! isDropped ·)

/-- A character inside a scheme. -/
def isSchemeChar (c : Char) : Bool := c.isAlphanum || c = '+' || c = '-' || c = '.'

/-- The scheme in lower case, and what follows its colon. -/
def scheme? (cs : List Char) : Option (String × List Char) :=
  let front := cs.takeWhile isSchemeChar
  match front, cs.dropWhile isSchemeChar with
  | c :: _, ':' :: rest =>
    if c.isAlpha then some (String.ofList (front.map Char.toLower), rest) else none
  | _, _ => none

/-- A character that separates segments. -/
def isSlash (special : Bool) (c : Char) : Bool := c = '/' || (special && c = '\\')

/-- A character that ends the authority. -/
def endsAuthority (special : Bool) (c : Char) : Bool := isSlash special c || c = '?' || c = '#'

/-- The host of an authority, and what follows it; colons inside brackets belong to the host. -/
def spanHost (inside : Bool) : List Char → List Char × List Char
  | [] => ([], [])
  | c :: cs =>
    if c = ':' && !inside then ([], c :: cs)
    else
      let (host, rest) := spanHost (if c = '[' then true else if c = ']' then false else inside) cs
      (c :: host, rest)

/-- What stands before and after the last at sign. -/
def splitUserinfo (cs : List Char) : Option (List Char × List Char) :=
  if '@' ∈ cs then
    some ((cs.reverse.dropWhile (· ≠ '@')).reverse.dropLast,
      (cs.reverse.takeWhile (· ≠ '@')).reverse)
  else none

/-- User and password. -/
def userinfo (cs : List Char) : String × String :=
  let encode cs := String.ofList (Percent.encode inUserinfo cs)
  (encode (cs.takeWhile (· ≠ ':')), encode ((cs.dropWhile (· ≠ ':')).drop 1))

/-- The port after the host: none if it is left out, empty or the default. -/
def readPort (scheme : String) : List Char → Except UrlError (Option Nat)
  | [] => .ok none
  | ':' :: [] => .ok none
  | ':' :: digits =>
    match Numeral.digits? digits with
    | some n =>
      if n ≤ 65535 then .ok (if defaultPort scheme = some n then none else some n)
      else .error .port
    | none => .error .port
  | _ => .error .port

/-- A segment that stands for the one above. -/
def isDoubleDot (s : String) : Bool :=
  s.map Char.toLower ∈ ["..", "%2e%2e", "%2e.", ".%2e"]

/-- A segment that stands for itself. -/
def isSingleDot (s : String) : Bool := s.map Char.toLower ∈ [".", "%2e"]

/-- Reads segments on top of those read so far. -/
def readSegments (done : List String) : List (List Char) → List String
  | [] => done
  | [last] =>
    let s := String.ofList (Percent.encode inPath last)
    if isDoubleDot s then done.dropLast ++ [""]
    else if isSingleDot s then done ++ [""]
    else done ++ [s]
  | piece :: pieces =>
    let s := String.ofList (Percent.encode inPath piece)
    let done :=
      if isDoubleDot s then done.dropLast else if isSingleDot s then done else done ++ [s]
    readSegments done pieces

/-- The pieces between slashes. -/
def pieces (special : Bool) : List Char → List (List Char) := Text.pieces (isSlash special)

/-- The path of a URL with an authority. -/
def readPath (special : Bool) (cs : List Char) : UrlPath :=
  match cs with
  | [] => .segments (if special then [""] else [])
  | c :: rest =>
    .segments (readSegments [] (pieces special (if isSlash special c then rest else cs)))

/-- The query and the fragment at the end of a URL. -/
def readTail (special : Bool) (cs : List Char) : Option String × Option String :=
  let fragment cs := String.ofList (Percent.encode inFragment cs)
  let query cs := String.ofList (Percent.encode (inQuery special) cs)
  match cs with
  | '?' :: rest =>
    let q := rest.takeWhile (· ≠ '#')
    (some (query q), match rest.dropWhile (· ≠ '#') with
      | '#' :: f => some (fragment f)
      | _ => none)
  | '#' :: f => (none, some (fragment f))
  | _ => (none, none)

/-- Whether a character begins the query or the fragment. -/
def beginsTail (c : Char) : Bool := c = '?' || c = '#'

/-- Reads what follows the two slashes of a scheme with an authority. -/
def readAuthority (scheme : String) (cs : List Char) : Except UrlError Url := do
  let special := isSpecial scheme
  let authority := cs.takeWhile (! endsAuthority special ·)
  let rest := cs.dropWhile (! endsAuthority special ·)
  let split := splitUserinfo authority
  if (split.any fun s => s.1.isEmpty && s.2.isEmpty) && !rest.isEmpty then throw .emptyHost
  let (username, password) := (split.map fun s => userinfo s.1).getD ("", "")
  let (hostText, portText) := spanHost false ((split.map (·.2)).getD authority)
  if special && hostText.isEmpty then throw .emptyHost
  let host ← if special then Host.domain hostText else Host.plain hostText
  if host = "" && !(username = "" && password = "" && portText.isEmpty) then throw .emptyHost
  let port ← readPort scheme portText
  let (query, fragment) := readTail special (rest.dropWhile (! beginsTail ·))
  return {
    scheme, username, password, host := some host, port
    path := readPath special (rest.takeWhile (! beginsTail ·)), query, fragment }

/-- Whether a text is a drive letter, which is no host. -/
def isDriveLetter : List Char → Bool
  | [c, d] => c.isAlpha && (d = ':' || d = '|')
  | _ => false

/-- Reads what follows the scheme of a file. -/
def readFile (cs : List Char) : Except UrlError Url := do
  let (hostText, rest) := match cs with
    | a :: b :: after =>
      if isSlash true a && isSlash true b then
        let h := after.takeWhile (! endsAuthority true ·)
        if isDriveLetter h then ([], after) else (h, after.dropWhile (! endsAuthority true ·))
      else ([], cs)
    | _ => ([], cs)
  let host ← if hostText.isEmpty then pure "" else Host.domain hostText
  let (query, fragment) := readTail true (rest.dropWhile (! beginsTail ·))
  return {
    scheme := "file", username := "", password := ""
    host := some (if host = "localhost" then "" else host), port := none
    path := readPath true (rest.takeWhile (! beginsTail ·)), query, fragment }

/-- Reads what follows the scheme where there is no authority. -/
def readPlain (scheme : String) (cs : List Char) : Url :=
  let (query, fragment) := readTail false (cs.dropWhile (! beginsTail ·))
  let path := cs.takeWhile (! beginsTail ·)
  { scheme, username := "", password := "", host := none, port := none
    path := match path with
      | '/' :: rest => .segments (readSegments [] (pieces false rest))
      | _ => .flat (String.ofList (Percent.encode (fun _ => false) path))
    query, fragment }

/-- Reads a URL. -/
def parse (s : String) : Except UrlError Url :=
  match scheme? (clean s.toList) with
  | none => .error .withoutBase
  | some (scheme, rest) =>
    if scheme = "file" then readFile rest
    else if isSpecial scheme then readAuthority scheme (rest.dropWhile (isSlash true))
    else match rest with
      | '/' :: '/' :: after => readAuthority scheme after
      | _ => .ok (readPlain scheme rest)

/-- Writes a path. -/
def pathText : UrlPath → String
  | .flat text => text
  | .segments ss => String.join (ss.map ("/" ++ ·))

/-- Writes user and password with the at sign. -/
def credentials (u : Url) : String :=
  if u.username = "" && u.password = "" then ""
  else u.username ++ (if u.password = "" then "" else ":" ++ u.password) ++ "@"

/-- Writes the authority. -/
def authority (u : Url) : String :=
  match u.host with
  | none => ""
  | some h => "//" ++ credentials u ++ h ++ ((u.port.map fun n => ":" ++ toString n).getD "")

/-- Writes a URL. -/
def text (u : Url) : String :=
  u.scheme ++ ":" ++ authority u ++ pathText u.path ++ ((u.query.map ("?" ++ ·)).getD "") ++
    ((u.fragment.map ("#" ++ ·)).getD "")

/-- A list of segments without empty ones at its end. -/
def trimSegments (ss : List String) : List String := (ss.reverse.dropWhile (· = "")).reverse

/-- A text without slashes at its end. -/
def trimSlashes (s : String) : String :=
  String.ofList (s.toList.reverse.dropWhile (· = '/')).reverse

/-- Appends the segments of a fixed path at the end of the written form, whose trailing slashes go.
They land in the fragment or in the query if the URL has one. -/
def appendPath (u : Url) (api : List String) : Url :=
  let apiText := String.join (api.map ("/" ++ ·))
  match u.fragment, u.query, u.path with
  | some f, _, _ => { u with fragment := some (trimSlashes f ++ apiText) }
  | none, some q, _ => { u with query := some (trimSlashes q ++ apiText) }
  | none, none, .segments ss => { u with path := .segments (trimSegments ss ++ api) }
  | none, none, .flat t => { u with path := .flat (trimSlashes t ++ apiText) }

/-- A name as it stands in one segment; tabs and line ends are dropped. -/
def encodeSegment (name : List Char) : String :=
  String.ofList (Percent.encode inSegment (name.filter (! isDropped ·)))

/-- Extends segments by a name. The names `.` and `..` are skipped. A name that only becomes one of
them when tabs and line ends are dropped acts as a step in the hierarchy. -/
def pushSegment (ss : List String) (name : String) : List String :=
  if name = "." || name = ".." then ss
  else
    let base := if ss = [""] then [] else ss
    let s := encodeSegment name.toList
    if s = ".." then base.dropLast ++ [""]
    else if s = "." then base ++ [""]
    else base ++ [s]

/-- Segments without an empty one at their end, unless they are the root. -/
def popEmpty (ss : List String) : List String :=
  if 1 < ss.length && ss.getLast? = some "" then ss.dropLast else ss

/-- Extends the path by names. -/
def withSegments (u : Url) (names : List String) : Url :=
  match u.path, names with
  | _, [] => u
  | .segments ss, _ => { u with path := .segments (names.foldl pushSegment (popEmpty ss)) }
  | .flat _, _ => u

/-- Extends the query by pairs. -/
def withPairs (u : Url) (pairs : List (String × String)) : Url :=
  if pairs.isEmpty then u
  else { u with query := some (String.ofList (Form.append ((u.query.getD "").toList) pairs)) }

/-- The URL without its query. -/
def withoutQuery (u : Url) : Url := { u with query := none }

end Url
end ProxySync.Net
