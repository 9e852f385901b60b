import ProxySync.Net.Ip
/-!
# Socket addresses

An IP address with a port, as one listens on. A version 6 address stands in brackets and may carry
a numeric scope; the version 4 addresses inside version 6 are written dotted.
-/
namespace ProxySync.Net

/-- An IP address with a port. -/
inductive SocketAddress where
  | v4 (address port : Nat)
  | v6 (groups : List Nat) (scope port : Nat)
deriving DecidableEq

namespace SocketAddress

/-- A decimal number of digits only, not above the limit. -/
def number? (limit : Nat) (cs : List Char) : Option Nat :=
  (Numeral.digits? cs).filter (· ≤ limit)

/-- What stands before and after the last occurrence of a character. -/
def splitLast? (c : Char) (cs : List Char) : Option (List Char × List Char) :=
  if c ∈ cs then
    some ((cs.reverse.dropWhile (· ≠ c)).reverse.dropLast, (cs.reverse.takeWhile (· ≠ c)).reverse)
  else none

/-- Reads a version 6 address in brackets and its port. -/
def readBracketed? (cs : List Char) : Option SocketAddress := do
  let (inner, after) ← splitLast? ']' cs
  let port ← match after with
    | ':' :: p => number? 65535 p
    | _ => none
  match splitLast? '%' inner with
  | some (address, scope) =>
    return .v6 (← v6? (String.ofList address)) (← number? 0xffffffff scope) port
  | none => return .v6 (← v6? (String.ofList inner)) 0 port

/-- Reads a socket address. -/
def parse? (s : String) : Option SocketAddress :=
  match s.toList with
  | '[' :: cs => readBracketed? cs
  | cs => do
    let (address, port) ← splitLast? ':' cs
    return .v4 (← strictDotted? (String.ofList address)) (← number? 65535 port)

/-- A version 6 address, dotted where it stands for one of version 4. -/
def v6Text (gs : List Nat) : String :=
  match gs with
  | [0, 0, 0, 0, 0, 0xffff, a, b] => "::ffff:" ++ dotted (a * 0x10000 + b)
  | _ => colons gs

/-- Writes a socket address. -/
def text : SocketAddress → String
  | .v4 address port => dotted address ++ ":" ++ toString port
  | .v6 gs scope port =>
    "[" ++ v6Text gs ++ (if scope = 0 then "" else "%" ++ toString scope) ++ "]:" ++ toString port

end SocketAddress
end ProxySync.Net
