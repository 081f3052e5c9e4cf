import OperatorPeg.Unicode.Printable

/-!
# Escaped text

Texts appear in dumps and traces between double quotes, on one line and with
every character visible: quotes and backslashes follow a backslash, tabs and
line ends are written by name, and other characters that do not print by
themselves by number.
-/

namespace OperatorPeg.Text

/-- How a character is written between double quotes. -/
def escapeChar (c : Char) : List Char :=
  match c with
  | '"' => ['\\', '"']
  | '\\' => ['\\', '\\']
  | '\t' => ['\\', 't']
  | '\r' => ['\\', 'r']
  | '\n' => ['\\', 'n']
  | '\x00' => ['\\', '0']
  | c =>
      if Unicode.isPrintable c then [c]
      else '\\' :: 'u' :: '{' :: (Nat.toDigits 16 c.toNat ++ ['}'])

/-- The text between double quotes. -/
def escaped (text : String) : String :=
  String.ofList ('"' :: (text.toList.flatMap escapeChar ++ ['"']))

end OperatorPeg.Text
