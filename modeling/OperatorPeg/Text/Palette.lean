/-!
# Terminal colours

Dumps and traces paint three roles of text. The plain palette paints nothing,
the other one uses the terminal's sixteen colours.
-/

namespace OperatorPeg

/-- Whether dumps and traces are coloured. -/
inductive Palette where
  | plain
  | ansi
  deriving DecidableEq, Repr

namespace Palette

def ofBool (enabled : Bool) : Palette := if enabled then ansi else plain

def isEnabled : Palette → Bool
  | plain => false
  | ansi => true

/-- The escape sequence that ends every painted piece. -/
def reset : String := "\x1b[0m"

def paint (code text : String) : Palette → String
  | plain => text
  | ansi => code ++ text ++ reset

/-- Names of rules, labels and operators. -/
def name (p : Palette) (text : String) : String := p.paint "\x1b[34m" text

/-- Matched text and descriptions of terminals. -/
def text (p : Palette) (text : String) : String := p.paint "\x1b[32m" text

/-- Offsets and marks of structure. -/
def mark (p : Palette) (text : String) : String := p.paint "\x1b[2m" text

end Palette

end OperatorPeg
