import OperatorPeg.Engine.Event
import OperatorPeg.Pattern.Rules
import OperatorPeg.Text.Cursor
import OperatorPeg.Tree.Basic

/-!
# The state of a parse

What a parse changes is a `State`. What only holds while some pattern is being
matched is a `Frame` and ends with it: there is nothing to restore.
-/

namespace OperatorPeg

/-- Limits on a parse; `none` is no limit. -/
structure Limits where
  /-- How many patterns may be tried. -/
  fuel : Option Nat
  /-- How deep rules may nest. -/
  depth : Option Nat
  deriving DecidableEq, Repr

def Limits.unlimited : Limits := ⟨none, none⟩

/-- What does not change during a parse. -/
structure Setting where
  rules : Rules
  /-- What follows the parsed range. -/
  beyond : List Char
  depthLimit : Option Nat

/-- What holds while a pattern is being matched. -/
structure Frame where
  inTrivia : Bool
  /-- Failures are not recorded in lookaheads and trivia. -/
  quiet : Bool
  /-- How many rules are entered and not left. -/
  depth : Nat
  /-- Where the innermost expression looks for an operator to continue with. -/
  probe : Option Nat
  deriving DecidableEq, Repr

def Frame.outermost : Frame := ⟨false, false, 0, none⟩

/-- What a parse changes as it goes. -/
structure State where
  cursor : Cursor
  fuel : Option Nat
  /-- What ended the parse, and where. Patterns are not tried any more. -/
  aborted : Option (Nat × Abort)
  /-- Latest first. -/
  events : List Event
  deriving Repr

namespace State

def start (cursor : Cursor) (fuel : Option Nat) : State := ⟨cursor, fuel, none, []⟩

def isAborted (s : State) : Bool := s.aborted.isSome

def add (s : State) (event : Event) : State := { s with events := event :: s.events }

/-- End the parse. The first cause stands. -/
def abort (s : State) (offset : Nat) (cause : Abort) : State :=
  match s.aborted with
  | some _ => s
  | none => { s with aborted := some (offset, cause) }

/-- Pay for trying a pattern, if that is still possible. -/
def charge (s : State) : Bool × State :=
  if s.isAborted then (false, s)
  else
    match s.fuel with
    | none => (true, s)
    | some 0 => (false, s.abort s.cursor.offset .fuelExhausted)
    | some (n + 1) => (true, { s with fuel := some n })

/-- Record a failure. -/
def fail (s : State) (frame : Frame) (failure : Failure) : State :=
  if frame.quiet then s else s.add (.failed failure)

/-- A terminal was missed here. -/
def missToken (s : State) (frame : Frame) (offset : Nat) (description : String) : State :=
  let priority := if frame.probe = some offset then Priority.probe else .token
  s.fail frame ⟨offset, priority, .token description⟩

/-- An operand was missed here. -/
def missTerm (s : State) (frame : Frame) (offset : Nat) : State :=
  s.fail frame ⟨offset, .term, .term⟩

end State

end OperatorPeg
