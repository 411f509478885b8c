import Transports.Text.Unprintable
/-!
# Quoted text

A quoted text stands between double quotes on one line. The quote, the backslash and four controls
are written with a backslash and one more character, every other unprintable character as `\u` with
its code point in braces, in hexadecimal without leading zeros; all else stands for itself.
-/

namespace Transports.Text

/-- One character as it stands inside the quotes. -/
def quoteChar (c : Char) : List Char :=
  match c with
  | '\x00' => ['\\', '0']
  | '\t' => ['\\', 't']
  | '\n' => ['\\', 'n']
  | '\r' => ['\\', 'r']
  | '\\' => ['\\', '\\']
  | '"' => ['\\', '"']
  | c =>
    if isUnprintable c then ['\\', 'u', '\x7b'] ++ Nat.toDigits 16 c.toNat ++ ['\x7d'] else [c]

def quoted (s : String) : String :=
  String.ofList ('"' :: (s.toList.flatMap quoteChar ++ ['"']))

end Transports.Text
