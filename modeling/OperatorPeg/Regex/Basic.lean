import OperatorPeg.Unicode.CharSet

/-!
# Regular expressions

What a regex means once its flags, classes and escapes are resolved. Captures
leave no trace here, since only the extent of a match is ever used.
-/

namespace OperatorPeg

/-- Conditions on the two characters around a position. Words are ASCII words:
letters, digits and the underscore. -/
inductive Assertion where
  | textStart
  | textEnd
  | lineStart
  | lineEnd
  /-- Start of a line where `\r\n`, `\r` and `\n` all end lines. -/
  | lineStartAnyEnding
  /-- End of a line where `\r\n`, `\r` and `\n` all end lines. -/
  | lineEndAnyEnding
  | wordEdge
  | notWordEdge
  | wordStart
  | wordEnd
  /-- No word character before. -/
  | wordStartHalf
  /-- No word character after. -/
  | wordEndHalf
  deriving DecidableEq, Repr

/-- A regular expression over characters. -/
inductive Regex where
  | empty
  | oneOf (set : CharSet)
  | look (condition : Assertion)
  | seq (first second : Regex)
  | alt (first second : Regex)
  /-- From `least` to `most` rounds, `none` being no upper bound. A greedy
  repetition prefers more rounds, the other kind fewer. -/
  | rounds (body : Regex) (least : Nat) (most : Option Nat) (greedy : Bool)
  deriving DecidableEq, Repr

namespace Assertion

/-- ASCII letters, digits and the underscore. -/
def isWordChar (c : Char) : Bool := c.isAlphanum || c == '_'

def isWord : Option Char → Bool
  | none => false
  | some c => isWordChar c

/-- Whether the condition holds between `before` and `after`. -/
def holds (before after : Option Char) : Assertion → Bool
  | textStart => before.isNone
  | textEnd => after.isNone
  | lineStart => before.isNone || before == some '\n'
  | lineEnd => after.isNone || after == some '\n'
  | lineStartAnyEnding =>
      before.isNone || before == some '\n' || (before == some '\r' && after != some '\n')
  | lineEndAnyEnding =>
      after.isNone || after == some '\r' || (after == some '\n' && before != some '\r')
  | wordEdge => isWord before != isWord after
  | notWordEdge => isWord before == isWord after
  | wordStart => !isWord before && isWord after
  | wordEnd => isWord before && !isWord after
  | wordStartHalf => !isWord before
  | wordEndHalf => !isWord after

end Assertion

end OperatorPeg
