import OperatorPeg.Unicode.CharSet

/-!
# Tables written as text

The larger character tables are written as numbers in base 36, separated by
blanks. A set is written range by range: how many code points are left out
since the range before, and how many follow the first one of the range.
-/

namespace OperatorPeg.Unicode

/-- Value of a digit of base 36, `none` for a blank. -/
def digit? (c : Char) : Option Nat :=
  if c.isDigit then some (c.toNat - 48)
  else if c.isLower then some (c.toNat - 87)
  else none

/-- The numbers of a text; `current` is the one being read. -/
def numbersFrom (current : Option Nat) : List Char → List Nat
  | [] => current.toList
  | c :: cs =>
      match digit? c with
      | some d => numbersFrom (some (current.getD 0 * 36 + d)) cs
      | none => current.toList ++ numbersFrom none cs

def numbers (text : String) : List Nat := numbersFrom none text.toList

/-- The ranges that a list of numbers describes, from code point `next` on. -/
def rangesFrom (next : Nat) : List Nat → List CodeRange
  | gap :: more :: rest =>
      ⟨next + gap, next + gap + more⟩ :: rangesFrom (next + gap + more + 1) rest
  | _ => []

/-- The set that a table describes. -/
def decode (text : String) : CharSet := ⟨rangesFrom 0 (numbers text)⟩

end OperatorPeg.Unicode
