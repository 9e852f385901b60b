import ProxySync.Net.Domain.Name
import ProxySync.Text.Percent
/-!
# Hosts of URLs

How the host of a URL is read and written. Hosts of the web schemes are domain names in lower case,
non-ASCII labels in their ASCII encoding, unless their last label is a number, which makes them
version 4 addresses in one of several spellings. Other schemes have hosts without structure.
Version 6 addresses stand in brackets.
-/
namespace ProxySync.Net

/-- Why a text is not a URL. -/
inductive UrlError where
  | emptyHost | domainName | port | ipv4 | ipv6 | domainCharacter | withoutBase
deriving DecidableEq

/-- What is wrong with the text. -/
def UrlError.message : UrlError → String
  | .emptyHost => "empty host"
  | .domainName => "invalid international domain name"
  | .port => "invalid port number"
  | .ipv4 => "invalid IPv4 address"
  | .ipv6 => "invalid IPv6 address"
  | .domainCharacter => "invalid domain character"
  | .withoutBase => "relative URL without a base"

namespace Host

/-- A character that no host may hold. -/
def isForbidden (c : Char) : Bool :=
  c.toNat = 0 || c ∈
    ['\t', '\n', '\r', ' ', '#', '/', ':', '<', '>', '?', '@', '[', '\\', ']', '^', '|']

/-- A version 6 address as URLs write it, where a version 4 address may stand at the end. -/
def bracketed (inner : List Char) : Except UrlError String :=
  match v6? (String.ofList inner) with
  | some gs => .ok ("[" ++ colons gs ++ "]")
  | none => .error .ipv6

/-- A number of a version 4 address: hexadecimal after `0x`, octal after `0`, decimal otherwise. -/
def number? (cs : List Char) : Option Nat :=
  match cs with
  | [] => none
  | '0' :: x :: rest =>
    if x = 'x' || x = 'X' then hexNumber? rest
    else if (x :: rest).all fun c => '0' ≤ c && c ≤ '7' then
      some ((x :: rest).foldl (fun n c => 8 * n + (c.toNat - 48)) 0)
    else none
  | _ => Numeral.digits? cs

/-- Whether the last label, an empty one at the end aside, is a number. -/
def endsInNumber (labels : List (List Char)) : Bool :=
  let ls := if labels.getLast? = some [] && 1 < labels.length then labels.dropLast else labels
  match ls.getLast? with
  | none => false
  | some last =>
    (!last.isEmpty && last.all Char.isDigit) ||
      (match last with
        | '0' :: x :: rest => (x = 'x' || x = 'X') && rest.all fun c => (hexValue? c).isSome
        | _ => false)

/-- A version 4 address of one to four numbers; the last fills what the others leave. -/
def v4? (labels : List (List Char)) : Option Nat := do
  let ls := if labels.getLast? = some [] && 1 < labels.length then labels.dropLast else labels
  if 4 < ls.length then none
  let ns ← ls.mapM number?
  let last ← ns.getLast?
  let front := ns.dropLast
  if front.any (255 < ·) || Nat.pow 256 (4 - front.length) ≤ last then none
  else return front.zipIdx.foldl (fun sum (n, i) => sum + n * Nat.pow 256 (3 - i)) last

/-- The host of a URL with a web scheme. -/
def domain (cs : List Char) : Except UrlError String :=
  match cs with
  | '[' :: rest =>
    if rest.getLast? = some ']' then bracketed rest.dropLast else .error .ipv6
  | _ =>
    match (Percent.decode? cs).bind fun s => Domain.Name.ascii? s.toList with
    | none => .error .domainName
    | some [[]] => .error .emptyHost
    | some ls =>
      if endsInNumber ls then
        match v4? ls with
        | some n => .ok (dotted n)
        | none => .error .ipv4
      else .ok (".".intercalate (ls.map String.ofList))

/-- The host of a URL with another scheme. -/
def plain (cs : List Char) : Except UrlError String :=
  match cs with
  | '[' :: rest =>
    if rest.getLast? = some ']' then bracketed rest.dropLast else .error .ipv6
  | _ =>
    if cs.any isForbidden then .error .domainCharacter
    else .ok (String.ofList (Percent.encode (fun _ => false) cs))

end Host
end ProxySync.Net
