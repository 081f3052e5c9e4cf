import OperatorPeg.Engine.State

/-!
# Expressions by precedence climbing

An expression is matched operator by operator: one that needs no left operand
where an operand is wanted, one that takes a left operand where one is at hand.
Operators that wait for their right operand are stacked; before another one
takes the operand at hand, those that bind at least as tight are completed with
it.

The matcher of patterns is a parameter, so that expressions may nest.
-/

namespace OperatorPeg

/-- The result of matching a pattern: a tree or none, and the state after. -/
structure Outcome where
  tree? : Option Tree
  state : State
  deriving Repr

/-- A way to match patterns. `none` means that the nesting allowed to it did not
suffice, which says nothing about the pattern. -/
abbrev Matcher := Frame → Pattern → State → Option Outcome

/-- An operator that waits for its right operand. -/
structure Pending where
  operator : Operator
  mid : Tree
  left : Option Tree

/-- The expression with its right operand, if it takes one. It starts where its
first part starts. -/
def Pending.complete (p : Pending) (right : Option Tree) : Tree :=
  let offset := match p.left with
    | some left => left.offset
    | none => p.mid.offset
  .expression offset p.operator.name p.left p.mid right

/-- Complete the stacked operators that are evaluated before `next`, each with
the operand at hand. -/
def completeBefore (next : Operator) : List Pending → Tree → State → (List Pending × Tree) × State
  | [], operand, s => (([], operand), s)
  | top :: stack, operand, s =>
      if top.operator.isEvaluatedBefore next then
        completeBefore next stack (top.complete (some operand))
          (s.add (.reduced top.operator.name))
      else ((top :: stack, operand), s)

/-- Complete all stacked operators. -/
def completeAll : List Pending → Tree → State → Tree × State
  | [], operand, s => (operand, s)
  | top :: stack, operand, s =>
      completeAll stack (top.complete (some operand)) (s.add (.reduced top.operator.name))

/-- The first operator of the wanted kind whose pattern matches. -/
def matchOperator (m : Pattern → State → Option Outcome) (wantOperand : Bool) :
    List Operator → State → Option (Option (Operator × Tree) × State)
  | [], s => some (none, s)
  | op :: ops, s =>
      if op.fixity.takesLeft == wantOperand then matchOperator m wantOperand ops s
      else
        match m op.pattern s with
        | none => none
        | some ⟨some mid, s⟩ => some (some (op, mid), s)
        | some ⟨none, s⟩ => matchOperator m wantOperand ops s

/-- What surrounds the matching of an expression. -/
structure Climbing where
  matcher : Matcher
  /-- The first offset that is not trivia, and the state after looking for it. -/
  peek : State → Option (Nat × State)
  frame : Frame
  operators : List Operator

/-- No operator matches here. With an operand at hand the expression is complete,
otherwise one is missing. -/
def finishExpression (c : Climbing) (stack : List Pending) (operand : Option Tree) (s : State) :
    Option Outcome :=
  match operand with
  | some operand =>
      let (tree, s) := completeAll stack operand s
      some ⟨some tree, s⟩
  | none =>
      match c.peek s with
      | none => none
      | some (offset, s) => some ⟨none, s.missTerm c.frame offset⟩

/-- Whether an empty match of `op` at `offset` would leave the loop where it was: it
does for an operator that keeps the loop wanting the same kind of operator, and
for the second of two empty matches in a row. -/
def repeatsState (op : Operator) (lastEmpty : Option Nat) (offset : Nat) : Bool :=
  op.fixity == .prefixed || op.fixity == .postfixed || lastEmpty == some offset

/-- Match operators from here on. Two rounds in a row consume something, so twice
the number of characters bounds the rounds. -/
def climb (c : Climbing) :
    Nat → List Pending → Option Tree → Option Nat → State → Option Outcome
  | 0, _, _, _, _ => none
  | rounds + 1, stack, operand, lastEmpty, s => do
      let wantOperand := operand.isNone
      let (probe, s) ←
        if wantOperand then some (none, s)
        else (c.peek s).map fun (offset, s) => (some offset, s)
      let before := s.cursor.offset
      let m := c.matcher { c.frame with probe }
      let (matched, s) ← matchOperator m wantOperand c.operators s
      if s.isAborted then some ⟨none, s⟩
      else
        match matched with
        | none => finishExpression c stack operand s
        | some (op, mid) =>
            let empty := s.cursor.offset == before
            if empty && repeatsState op lastEmpty before then
              some ⟨none, s.abort before .zeroLengthMatch⟩
            else
              let lastEmpty := if empty then some before else none
              let s := s.add (.operator op.name mid.offset)
              let ((stack, left), s) :=
                match operand with
                | none => ((stack, none), s)
                | some current =>
                    let ((stack, current), s) := completeBefore op stack current s
                    ((stack, some current), s)
              let pending : Pending := ⟨op, mid, left⟩
              if op.fixity.takesRight then
                climb c rounds (pending :: stack) none lastEmpty s
              else
                climb c rounds stack (some (pending.complete none)) lastEmpty
                  (s.add (.reduced op.name))

/-- Match one expression. A nested expression looks for its own continuation. -/
def matchExpression (c : Climbing) (s : State) : Option Outcome :=
  climb { c with frame := { c.frame with probe := none } }
    (2 * s.cursor.ahead.length + 3) [] none none s

end OperatorPeg
