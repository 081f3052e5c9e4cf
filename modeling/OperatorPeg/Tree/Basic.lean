import OperatorPeg.Text.Span

/-!
# Parse trees

A node says which kind of pattern matched and at which byte offset. The
contents of a lookahead were looked at but not consumed: values and extents
leave them out.
-/

namespace OperatorPeg

/-- What a pattern matched. -/
inductive Tree where
  /-- Text that a terminal matched. -/
  | value (offset : Nat) (text : String)
  /-- What the kept steps of a sequence matched. -/
  | sequence (offset : Nat) (children : List Tree)
  /-- What the first matching alternative matched, and which one that was. -/
  | choice (offset : Nat) (chosen : Nat) (child : Tree)
  /-- The rounds of a repetition. -/
  | quantifier (offset : Nat) (children : List Tree)
  /-- A match with a name of its own. -/
  | label (offset : Nat) (name : String) (child : Tree)
  /-- What a rule matched. -/
  | lookup (offset : Nat) (key : String) (child : Tree)
  /-- What was seen ahead, if anything. -/
  | lookahead (offset : Nat) (child : Option Tree)
  /-- An operator with its operands; `mid` is what its own pattern matched. -/
  | expression (offset : Nat) (operator : String) (left : Option Tree) (mid : Tree)
      (right : Option Tree)
  deriving BEq, Repr, Inhabited

namespace Tree

/-- Where the match starts. -/
def offset : Tree → Nat
  | value o _ | sequence o _ | choice o _ _ | quantifier o _ | label o _ _ | lookup o _ _
  | lookahead o _ | expression o _ _ _ _ => o

/-- The name of the kind of node. -/
def kind : Tree → String
  | value _ _ => "Value"
  | sequence _ _ => "Sequence"
  | choice _ _ _ => "Choice"
  | quantifier _ _ => "Quantifier"
  | label _ _ _ => "Label"
  | lookup _ _ _ => "Lookup"
  | lookahead _ _ => "Lookahead"
  | expression _ _ _ _ _ => "Expression"

/-- The nodes right below, in source order. -/
def children : Tree → List Tree
  | value _ _ => []
  | sequence _ cs | quantifier _ cs => cs
  | choice _ _ c | label _ _ c | lookup _ _ c => [c]
  | lookahead _ c => c.toList
  | expression _ _ l m r => l.toList ++ m :: r.toList

/-- The text of a value. -/
def text? : Tree → Option String
  | value _ t => some t
  | _ => none

/-- The node below any number of rule matches. -/
def unwrapLookup : Tree → Tree
  | lookup _ _ c => c.unwrapLookup
  | t => t

mutual
/-- The node below the first label of this name. Only sequences are searched:
labels below other nodes belong to another level. -/
def findLabel? (name : String) : Tree → Option Tree
  | label _ n c => if n = name then some c else none
  | sequence _ cs => findLabelIn? name cs
  | _ => none

def findLabelIn? (name : String) : List Tree → Option Tree
  | [] => none
  | t :: ts => t.findLabel? name <|> findLabelIn? name ts
end

mutual
/-- The consumed texts with their offsets, in source order. -/
def leaves : Tree → List (Nat × String)
  | value o t => [(o, t)]
  | sequence _ cs | quantifier _ cs => leavesOfAll cs
  | choice _ _ c | label _ _ c | lookup _ _ c => c.leaves
  | lookahead _ _ => []
  | expression _ _ l m r => leavesOfSide l ++ m.leaves ++ leavesOfSide r

def leavesOfAll : List Tree → List (Nat × String)
  | [] => []
  | t :: ts => t.leaves ++ leavesOfAll ts

def leavesOfSide : Option Tree → List (Nat × String)
  | none => []
  | some t => t.leaves
end

mutual
/-- The consumed texts, in source order. -/
def values : Tree → List String
  | value _ t => [t]
  | sequence _ cs | quantifier _ cs => valuesOfAll cs
  | choice _ _ c | label _ _ c | lookup _ _ c => c.values
  | lookahead _ _ => []
  | expression _ _ l m r => valuesOfSide l ++ m.values ++ valuesOfSide r

def valuesOfAll : List Tree → List String
  | [] => []
  | t :: ts => t.values ++ valuesOfAll ts

def valuesOfSide : Option Tree → List String
  | none => []
  | some t => t.values
end

mutual
/-- Where the last consumed text ends, and 0 if there is none. -/
def lastEnd : Tree → Nat
  | value o t => o + t.utf8ByteSize
  | sequence _ cs | quantifier _ cs => lastEndOfAll cs
  | choice _ _ c | label _ _ c | lookup _ _ c => c.lastEnd
  | lookahead _ _ => 0
  | expression _ _ l m r => max (lastEndOfSide l) (max m.lastEnd (lastEndOfSide r))

def lastEndOfAll : List Tree → Nat
  | [] => 0
  | t :: ts => max t.lastEnd (lastEndOfAll ts)

def lastEndOfSide : Option Tree → Nat
  | none => 0
  | some t => t.lastEnd
end

mutual
/-- How deep nodes nest in a tree. -/
def height : Tree → Nat
  | value _ _ => 1
  | sequence _ cs | quantifier _ cs => heightOfAll cs + 1
  | choice _ _ c | label _ _ c | lookup _ _ c => c.height + 1
  | lookahead _ c => heightOfSide c + 1
  | expression _ _ l m r => max (heightOfSide l) (max m.height (heightOfSide r)) + 1

def heightOfAll : List Tree → Nat
  | [] => 0
  | t :: ts => max t.height (heightOfAll ts)

def heightOfSide : Option Tree → Nat
  | none => 0
  | some t => t.height
end

/-- From where the match starts to where its last consumed text ends. Empty
matches at the end leave no mark, so more may have been consumed. -/
def extent (t : Tree) : Span := ⟨t.offset, max t.offset t.lastEnd⟩

end Tree

end OperatorPeg
