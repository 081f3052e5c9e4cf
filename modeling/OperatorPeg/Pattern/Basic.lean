import OperatorPeg.Regex.Basic
import OperatorPeg.Text.Quoted

/-!
# Patterns

A pattern says what to match. Patterns refer to rules by name, so that rules may
refer to each other and to themselves. An operator table is a pattern too: it
matches one expression, and the precedences of its operators say how that is
put together.
-/

namespace OperatorPeg

/-- What matches text itself. -/
inductive Terminal where
  | literal (text : String)
  /-- A regex as written, and what it means. -/
  | regex (source : String) (meaning : Regex)
  deriving DecidableEq, Repr

namespace Terminal

/-- The terminal as it is written in a grammar. -/
def description : Terminal → String
  | literal text => Text.quote '\'' text
  | regex source _ => Text.quote '`' source

def isLiteral : Terminal → Bool
  | literal _ => true
  | regex _ _ => false

/-- The literal text, or the regex as written. -/
def text : Terminal → String
  | literal text => text
  | regex source _ => source

end Terminal

mutual
/-- What to match. -/
inductive Pattern where
  | terminal (terminal : Terminal)
  /-- All steps, one after the other. -/
  | sequence (steps : List Step)
  /-- The first alternative that matches. -/
  | choice (alternatives : List Pattern)
  /-- As many rounds as match, from `least` to `most`. -/
  | quantifier (inner : Pattern) (least : Nat) (most : Option Nat)
  /-- What the rule of this name matches. -/
  | lookup (key : String)
  | label (name : String) (inner : Pattern)
  /-- Nothing, provided that matching the inner pattern here would succeed as
  `wanted` says. -/
  | lookahead (inner : Pattern) (wanted : Bool)
  /-- An expression of the operators of a table. -/
  | table (operators : List Operator)

/-- An element of a sequence. One that is not kept leaves no node in the tree. -/
structure Step where
  keep : Bool
  pattern : Pattern

/-- A row of an operator table. `pattern` matches the operator itself, without
its operands; a smaller precedence binds tighter. -/
structure Operator where
  name : String
  left : Option Nat
  right : Option Nat
  pattern : Pattern
end

/-- Which operands an operator takes. -/
inductive Fixity where
  | nullary
  | prefixed
  | postfixed
  | between
  deriving DecidableEq, Repr

namespace Fixity

def takesLeft : Fixity → Bool
  | postfixed | between => true
  | nullary | prefixed => false

def takesRight : Fixity → Bool
  | prefixed | between => true
  | nullary | postfixed => false

end Fixity

namespace Operator

/-- An operator takes an operand on each side that it has a precedence for. -/
def fixity (op : Operator) : Fixity :=
  match op.left, op.right with
  | none, none => .nullary
  | none, some _ => .prefixed
  | some _, none => .postfixed
  | some _, some _ => .between

/-- Whether `op`, which waits for its right operand, takes the operand at hand
before `next` does: it binds at least as tight. Equal precedences group to the
left. -/
def isEvaluatedBefore (op next : Operator) : Bool :=
  match op.right, next.left with
  | some right, some left => decide (right ≤ left)
  | _, _ => true

end Operator

namespace Pattern

mutual
/-- The rule names that a pattern refers to, in order. -/
def references : Pattern → List String
  | terminal _ => []
  | sequence steps => referencesOfSteps steps
  | choice alternatives => referencesOfAll alternatives
  | quantifier inner _ _ => inner.references
  | lookup key => [key]
  | label _ inner => inner.references
  | lookahead inner _ => inner.references
  | table operators => referencesOfOperators operators

def referencesOfSteps : List Step → List String
  | [] => []
  | ⟨_, p⟩ :: steps => p.references ++ referencesOfSteps steps

def referencesOfAll : List Pattern → List String
  | [] => []
  | p :: ps => p.references ++ referencesOfAll ps

def referencesOfOperators : List Operator → List String
  | [] => []
  | ⟨_, _, _, p⟩ :: ops => p.references ++ referencesOfOperators ops
end

mutual
/-- How deep patterns nest in a pattern, without what lookups lead to. -/
def height : Pattern → Nat
  | terminal _ | lookup _ => 1
  | sequence steps => heightOfSteps steps + 1
  | choice alternatives => heightOfAll alternatives + 1
  | quantifier inner _ _ | label _ inner | lookahead inner _ => inner.height + 1
  | table operators => heightOfOperators operators + 1

def heightOfSteps : List Step → Nat
  | [] => 0
  | ⟨_, p⟩ :: steps => max p.height (heightOfSteps steps)

def heightOfAll : List Pattern → Nat
  | [] => 0
  | p :: ps => max p.height (heightOfAll ps)

def heightOfOperators : List Operator → Nat
  | [] => 0
  | ⟨_, _, _, p⟩ :: ops => max p.height (heightOfOperators ops)
end

def isLookahead : Pattern → Bool
  | lookahead _ _ => true
  | _ => false

end Pattern

end OperatorPeg
