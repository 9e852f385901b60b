import ProxySync.Text.Shown
/-!
# Quoted text

The form in which messages show a name or a body whose limits must be visible: in double quotes,
with a backslash before quotes and backslashes, short escapes for tab, line feed, carriage return
and NUL, and the code point in braces for every other character that `isShown` refuses.
-/
namespace ProxySync.Text

/-- A number in hexadecimal without leading zeros. -/
def hex (n : Nat) : List Char := Nat.toDigits 16 n

/-- One character of quoted text. -/
def quoteChar (c : Char) : List Char :=
  if c = '"' || c = '\\' then ['\\', c]
  else if c = '\t' then ['\\', 't']
  else if c = '\n' then ['\\', 'n']
  else if c = '\r' then ['\\', 'r']
  else if c.toNat = 0 then ['\\', '0']
  else if isShown c then [c]
  else ['\\', 'u', '\x7b'] ++ hex c.toNat ++ ['\x7d']

/-- A text in double quotes. -/
def quoted (s : String) : String :=
  String.ofList ('"' :: s.toList.flatMap quoteChar ++ ['"'])

end ProxySync.Text
