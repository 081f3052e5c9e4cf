import OperatorPeg.Tree.Basic

/-!
# Walking a tree

A walk meets the nodes of a tree in source order, each before what is below it.
It does not enter lookaheads.
-/

namespace OperatorPeg.Tree

/-- What a walk sees of a node when it meets it. -/
inductive Visit where
  | value (offset : Nat) (text : String)
  | sequence (offset : Nat) (count : Nat)
  | choice (offset : Nat) (chosen : Nat)
  | quantifier (offset : Nat) (count : Nat)
  | label (offset : Nat) (name : String)
  | lookup (offset : Nat) (key : String)
  | lookahead (offset : Nat) (occupied : Bool)
  | expression (offset : Nat) (operator : String) (leaf : Bool)
  deriving DecidableEq, Repr

mutual
/-- The nodes that a walk meets, in order. -/
def visits : Tree → List Visit
  | value o t => [.value o t]
  | sequence o cs => .sequence o cs.length :: visitsOfAll cs
  | choice o i c => .choice o i :: c.visits
  | quantifier o cs => .quantifier o cs.length :: visitsOfAll cs
  | label o n c => .label o n :: c.visits
  | lookup o k c => .lookup o k :: c.visits
  | lookahead o c => [.lookahead o c.isSome]
  | expression o op l m r =>
      .expression o op (l.isNone && r.isNone) :: (visitsOfSide l ++ m.visits ++ visitsOfSide r)

def visitsOfAll : List Tree → List Visit
  | [] => []
  | t :: ts => t.visits ++ visitsOfAll ts

def visitsOfSide : Option Tree → List Visit
  | none => []
  | some t => t.visits
end

/-- The values that a walk meets. -/
def visitedValues (t : Tree) : List (Nat × String) :=
  t.visits.filterMap fun
    | .value o text => some (o, text)
    | _ => none

end OperatorPeg.Tree
