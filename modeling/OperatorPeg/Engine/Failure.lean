import OperatorPeg.Text.Bytes

/-!
# Failures and errors

While a parse runs, patterns fail; the failure that got furthest is what is
reported if the parse comes to nothing. Some faults, of the grammar or of its
limits, end a parse at once.
-/

namespace OperatorPeg

/-- Which of two failures at one offset is reported: the one of higher priority. -/
inductive Priority where
  /-- No operator continues an expression, which is how every expression ends. -/
  | probe
  /-- A terminal did not match. -/
  | token
  /-- An operand was required and none matched. -/
  | term
  deriving DecidableEq, Repr

/-- The order of priorities. -/
def Priority.rank : Priority → Int
  | probe => -1
  | token => 0
  | term => 1

/-- What was looked for in vain. -/
inductive Missing where
  /-- A terminal of this description. -/
  | token (description : String)
  /-- An operand of an expression. -/
  | term
  deriving DecidableEq, Repr

/-- A failed attempt. -/
structure Failure where
  offset : Nat
  priority : Priority
  missing : Missing
  deriving DecidableEq, Repr

/-- What ends a parse at once. -/
inductive Abort where
  /-- An unbounded repetition matched the empty text. -/
  | zeroLengthMatch
  | undefinedRule (name : String)
  | fuelExhausted
  | recursionLimitExceeded
  deriving DecidableEq, Repr

/-- Why a parse gave no tree. -/
inductive ParseError where
  | unexpectedToken (offset : Nat) (expected : List String)
  | expressionTerm (offset : Nat)
  | aborted (offset : Nat) (cause : Abort)
  deriving DecidableEq, Repr

namespace ParseError

def offset : ParseError → Nat
  | unexpectedToken o _ | expressionTerm o | aborted o _ => o

/-- Whether the parse ended at once. -/
def isFatal : ParseError → Bool
  | aborted _ _ => true
  | _ => false

/-- A list of alternatives in words. -/
def alternatives : List String → String
  | [] => "more input"
  | [one] => one
  | many => Text.joinWith ", " many.dropLast ++ " or " ++ many.getLastD ""

/-- The wording, to be shown next to the place. -/
def message : ParseError → String
  | unexpectedToken _ expected => "expected " ++ alternatives expected
  | expressionTerm _ => "expected an expression term"
  | aborted _ .zeroLengthMatch => "unbounded repetition matched empty input"
  | aborted _ (.undefinedRule name) => "reference to undefined rule `" ++ name ++ "`"
  | aborted _ .fuelExhausted => "execution limit exceeded"
  | aborted _ .recursionLimitExceeded => "recursion limit exceeded"

/-- The wording with the offset in it. -/
def display : ParseError → String
  | unexpectedToken o expected =>
      "unexpected input at " ++ toString o ++ ": expected " ++ alternatives expected
  | e => e.message ++ " at " ++ toString e.offset

end ParseError

/-! ## The reported failure -/

namespace Failure

/-- Whether `f` is reported rather than `g`: it is further, or as far and of higher
priority. -/
def improvesOn (f g : Failure) : Bool :=
  g.offset < f.offset || (f.offset == g.offset && g.priority.rank < f.priority.rank)

/-- Whether neither is reported rather than the other. -/
def tiesWith (f g : Failure) : Bool := f.offset == g.offset && f.priority == g.priority

/-- The best failure so far, and all terminals missed there. -/
structure Best where
  failure : Failure
  /-- In order of their first failure. -/
  expected : List String
  deriving DecidableEq, Repr

/-- The terminals that a failure names. -/
def expectations (f : Failure) : List String :=
  match f.missing with
  | .token description => [description]
  | .term => []

/-- Take another failure into account. -/
def Best.record (best : Option Best) (f : Failure) : Option Best :=
  match best with
  | none => some ⟨f, f.expectations⟩
  | some b =>
      if f.improvesOn b.failure then some ⟨f, f.expectations⟩
      else if f.tiesWith b.failure then
        match f.missing, b.failure.missing with
        | .token description, .token _ =>
            if b.expected.contains description then some b
            else some { b with expected := b.expected ++ [description] }
        | _, _ => some b
      else some b

/-- The best of a list of failures in the order in which they happened. -/
def best (failures : List Failure) : Option Best := failures.foldl Best.record none

/-- The error that reports a failure. -/
def Best.error (b : Best) : ParseError :=
  match b.failure.missing with
  | .token _ => .unexpectedToken b.failure.offset b.expected
  | .term => .expressionTerm b.failure.offset

end Failure

end OperatorPeg
