import OperatorPeg.Pattern.Basic
import OperatorPeg.Text.Bytes

/-!
# Patterns as grammar text

Patterns are written in the grammar language, with parentheses where a part
binds weaker than its place asks for. Bounds of a repetition that the language
has no sign for are written in braces.
-/

namespace OperatorPeg

namespace Pattern

/-- How strong the outermost connection of a pattern binds, weakest first. -/
inductive Level where
  | choice
  | sequence
  | label
  | lookahead
  | quantifier
  | atom
  deriving DecidableEq, Repr

/-- The rank of a level: a stronger one has a greater rank. -/
def Level.rank : Level → Nat
  | choice => 0
  | sequence => 1
  | label => 2
  | lookahead => 3
  | quantifier => 4
  | atom => 5

def level : Pattern → Level
  | choice _ => .choice
  | sequence _ => .sequence
  | label _ _ => .label
  | lookahead _ _ => .lookahead
  | quantifier _ _ _ => .quantifier
  | terminal _ | lookup _ | table _ => .atom

/-- The sign for the bounds of a repetition. -/
def boundsSign : Nat → Option Nat → String
  | 0, some 1 => "?"
  | 0, none => "*"
  | 1, none => "+"
  | least, some most => "\x7b" ++ toString least ++ "," ++ toString most ++ "\x7d"
  | least, none => "\x7b" ++ toString least ++ ",\x7d"

def precedenceSign : Option Nat → String
  | some p => toString p
  | none => "none"

def parenthesize (p : Pattern) (slot : Level) (text : String) : String :=
  if p.level.rank < slot.rank then "(" ++ text ++ ")" else text

mutual
/-- The pattern as grammar text. -/
def display : Pattern → String
  | terminal t => t.description
  | lookup key => key
  | sequence steps => Text.joinWith " " (displaySteps steps)
  | choice alternatives => Text.joinWith " / " (displayAlternatives alternatives)
  | label name inner =>
      Text.quote '\'' name ++ ":" ++ parenthesize inner .lookahead inner.display
  | lookahead inner wanted =>
      (if wanted then "&" else "!") ++ parenthesize inner .quantifier inner.display
  | quantifier inner least most =>
      parenthesize inner .atom inner.display ++ boundsSign least most
  | table operators => "[" ++ Text.joinWith ", " (displayOperators operators) ++ "]"

def displaySteps : List Step → List String
  | [] => []
  | ⟨_, p⟩ :: steps => parenthesize p .label p.display :: displaySteps steps

def displayAlternatives : List Pattern → List String
  | [] => []
  | p :: ps => parenthesize p .sequence p.display :: displayAlternatives ps

def displayOperators : List Operator → List String
  | [] => []
  | ⟨name, left, right, p⟩ :: ops =>
      (Text.quote '\'' name ++ " " ++ precedenceSign left ++ " " ++ precedenceSign right ++
        " " ++ p.display) :: displayOperators ops
end

end Pattern

end OperatorPeg
