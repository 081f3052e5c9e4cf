import OperatorPeg.Unicode.Blank
import OperatorPeg.Unicode.Width

/-!
# Text on a terminal

Before a source line is shown, characters that would move the cursor or reorder
the line are replaced: a tab by four blanks, other control characters by their
symbols, and the characters that change the direction of writing by the
replacement character. Columns are counted on the text as shown.
-/

namespace OperatorPeg.Text

/-- Whether a character changes the direction of what follows. -/
def changesDirection (c : Char) : Bool :=
  (0x202A ≤ c.toNat && c.toNat ≤ 0x202E) || (0x2066 ≤ c.toNat && c.toNat ≤ 0x2069)

/-- What is shown for a character. Line feeds are left to end lines. -/
def visibleChar (c : Char) : List Char :=
  if c = '\t' then [' ', ' ', ' ', ' ']
  else if c = '\n' then [c]
  else if c.toNat < 0x20 then [Char.ofNat (0x2400 + c.toNat)]
  else if c = '\x7f' then ['\u2421']
  else if c = '\u200d' then []
  else if changesDirection c then ['\ufffd']
  else [c]

def visible (cs : List Char) : List Char := cs.flatMap visibleChar

/-- The columns that a text takes as it stands. -/
def columns (cs : List Char) : Nat := cs.foldl (fun n c => n + Unicode.columns c) 0

/-- The columns that a text takes when it is shown. -/
def visibleColumns (cs : List Char) : Nat := columns (visible cs)

/-- Split a text after its longest beginning that takes at most `n` columns. -/
def cutColumns : Nat → List Char → List Char × List Char
  | _, [] => ([], [])
  | n, c :: cs =>
      if Unicode.columns c ≤ n then
        let (taken, rest) := cutColumns (n - Unicode.columns c) cs
        (c :: taken, rest)
      else
        ([], c :: cs)

/-- The text without the white space at its end. -/
def trimEnd (cs : List Char) : List Char := (cs.reverse.dropWhile Unicode.isWhiteSpace).reverse

/-- The text without the white space at both ends. -/
def trim (cs : List Char) : List Char := trimEnd (cs.dropWhile Unicode.isWhiteSpace)

/-- The pieces of a text between line feeds. -/
def pieces : List Char → List (List Char)
  | [] => [[]]
  | '\n' :: cs => [] :: pieces cs
  | c :: cs =>
      match pieces cs with
      | [] => [[c]]
      | first :: rest => (c :: first) :: rest

end OperatorPeg.Text
