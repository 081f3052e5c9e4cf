import OperatorPeg.Unicode.CharSet

/-!
# White space

The property White_Space of Unicode.
-/

namespace OperatorPeg.Unicode

/-- All white space: the blank, the control characters from tab to carriage
return, and the other spaces and line separators. -/
def whiteSpace : CharSet := CharSet.ofPairs
  [(0x9, 0xD), (0x20, 0x20), (0x85, 0x85), (0xA0, 0xA0), (0x1680, 0x1680), (0x2000, 0x200A),
   (0x2028, 0x2029), (0x202F, 0x202F), (0x205F, 0x205F), (0x3000, 0x3000)]

def isWhiteSpace (c : Char) : Bool := whiteSpace.contains c

end OperatorPeg.Unicode
