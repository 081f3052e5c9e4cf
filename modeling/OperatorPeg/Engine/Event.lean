import OperatorPeg.Engine.Failure

/-!
# Events

What happens in the course of a parse. The list of events is all that a parse
leaves behind besides its result: traces and the reported failure are read off
it.
-/

namespace OperatorPeg

/-- Something that happened during a parse. -/
inductive Event where
  | entered (rule : String) (offset : Nat)
  /-- A rule was left, at `stop` if it matched. -/
  | left (rule : String) (stop : Option Nat)
  /-- A terminal outside trivia was tried, and matched some text or not. -/
  | tried (description : String) (offset : Nat) (matched : Option String)
  /-- The pattern of an operator matched. -/
  | operator (name : String) (offset : Nat)
  /-- An operator got all its operands. -/
  | reduced (name : String)
  /-- An alternative of a choice did not match. -/
  | backtracked (alternative : Nat) (offset : Nat)
  | failed (failure : Failure)
  deriving DecidableEq, Repr

/-- The failures among events, in their order. -/
def Event.failures (events : List Event) : List Failure :=
  events.filterMap fun
    | .failed f => some f
    | _ => none

end OperatorPeg
