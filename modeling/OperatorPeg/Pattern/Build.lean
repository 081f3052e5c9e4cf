import OperatorPeg.Pattern.Basic
import OperatorPeg.Regex.Resolve

/-!
# Building patterns

Not every combination of parts is a pattern: a sequence keeps a step, a choice
has an alternative, a table has an operator, a repetition's bounds are in order,
and a regex means something.
-/

namespace OperatorPeg

/-- Why parts make no pattern. -/
inductive PatternError where
  | invalidRegex (source : String) (cause : Regex.BuildError)
  | allStepsDiscarded
  | emptyChoice
  | invalidRepetition (least most : Nat)
  | emptyOperatorTable
  deriving DecidableEq, Repr

/-- The wording of a pattern error. -/
def PatternError.message : PatternError → String
  | invalidRegex source cause => "invalid regex `" ++ source ++ "`: " ++ cause.message
  | allStepsDiscarded => "sequence discards every step"
  | emptyChoice => "choice has no alternatives"
  | invalidRepetition least most =>
      "repetition minimum " ++ toString least ++ " exceeds maximum " ++ toString most
  | emptyOperatorTable => "operator table has no operators"

namespace Pattern

def ofLiteral (text : String) : Pattern := .terminal (.literal text)

def ofRegex? (source : String) : Except PatternError Pattern :=
  match Regex.build source.toList with
  | .ok meaning => .ok (.terminal (.regex source meaning))
  | .error cause => .error (.invalidRegex source cause)

def sequence? (steps : List Step) : Except PatternError Pattern :=
  if steps.any (·.keep) then .ok (.sequence steps) else .error .allStepsDiscarded

def choice? (alternatives : List Pattern) : Except PatternError Pattern :=
  if alternatives.isEmpty then .error .emptyChoice else .ok (.choice alternatives)

def quantifier? (inner : Pattern) (least : Nat) (most : Option Nat) :
    Except PatternError Pattern :=
  match most with
  | some most =>
      if least ≤ most then .ok (.quantifier inner least (some most))
      else .error (.invalidRepetition least most)
  | none => .ok (.quantifier inner least none)

def table? (operators : List Operator) : Except PatternError Pattern :=
  if operators.isEmpty then .error .emptyOperatorTable else .ok (.table operators)

/-- At most once. -/
def optional (p : Pattern) : Pattern := .quantifier p 0 (some 1)

/-- Any number of times. -/
def star (p : Pattern) : Pattern := .quantifier p 0 none

/-- Once or more. -/
def plus (p : Pattern) : Pattern := .quantifier p 1 none

end Pattern

/-- A step that leaves its node in the tree. -/
def Step.kept (p : Pattern) : Step := ⟨true, p⟩

/-- A step that leaves no node. -/
def Step.skipped (p : Pattern) : Step := ⟨false, p⟩

end OperatorPeg
