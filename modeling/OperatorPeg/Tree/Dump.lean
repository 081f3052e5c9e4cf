import OperatorPeg.Text.Escaped
import OperatorPeg.Text.Palette
import OperatorPeg.Text.Bytes
import OperatorPeg.Tree.Basic

/-!
# Dumps

One line for each node: its kind and offset, then what belongs to the kind.
Nodes below are indented by two more blanks, and the parts of an expression say
which part they are.
-/

namespace OperatorPeg.Tree

/-- The start of a node's line. -/
def dumpHead (p : Palette) (depth : Nat) (role : String) (t : Tree) : String :=
  Text.repeated depth "  " ++ role ++ p.mark (t.kind ++ "@" ++ toString t.offset)

mutual
/-- The lines of a node and of what is below it; each ends with a line feed. -/
def dumpAt (p : Palette) (depth : Nat) (role : String) : Tree → String
  | value o t =>
      dumpHead p depth role (value o t) ++ " " ++ p.text (Text.escaped t) ++ "\n"
  | sequence o cs =>
      dumpHead p depth role (sequence o cs) ++ "\n" ++ dumpAll p (depth + 1) cs
  | quantifier o cs =>
      dumpHead p depth role (quantifier o cs) ++ "\n" ++ dumpAll p (depth + 1) cs
  | choice o i c =>
      dumpHead p depth role (choice o i c) ++ " #" ++ toString i ++ "\n" ++
        c.dumpAt p (depth + 1) ""
  | label o n c =>
      dumpHead p depth role (label o n c) ++ " " ++ p.name n ++ "\n" ++
        c.dumpAt p (depth + 1) ""
  | lookup o k c =>
      dumpHead p depth role (lookup o k c) ++ " " ++ p.name k ++ "\n" ++
        c.dumpAt p (depth + 1) ""
  | lookahead o c =>
      dumpHead p depth role (lookahead o c) ++ "\n" ++ dumpSide p (depth + 1) "" c
  | expression o op l m r =>
      dumpHead p depth role (expression o op l m r) ++ " " ++ p.name op ++ "\n" ++
        dumpSide p (depth + 1) "left: " l ++ m.dumpAt p (depth + 1) "mid: " ++
        dumpSide p (depth + 1) "right: " r

def dumpAll (p : Palette) (depth : Nat) : List Tree → String
  | [] => ""
  | t :: ts => t.dumpAt p depth "" ++ dumpAll p depth ts

def dumpSide (p : Palette) (depth : Nat) (role : String) : Option Tree → String
  | none => ""
  | some t => t.dumpAt p depth role
end

def dumpWith (p : Palette) (t : Tree) : String := t.dumpAt p 0 ""

/-- The dump without colours. -/
def dump (t : Tree) : String := t.dumpWith .plain

end OperatorPeg.Tree
