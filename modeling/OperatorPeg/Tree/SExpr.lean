import OperatorPeg.Text.Bytes
import OperatorPeg.Tree.Basic

/-!
# S-expressions

An expression with operands is written `(op left inner… right)`, where the
inner ones are the expressions that its own pattern matched. An expression
without any is written as the text of its value, or else as its name. A tree
without expressions is written as its values.
-/

namespace OperatorPeg.Tree

/-- How an expression is written, from its written parts. -/
def sexprOf (operator : String) (mid : Tree) (parts : List String) : String :=
  match parts with
  | [] => (mid.text?).getD operator
  | parts => "(" ++ operator ++ " " ++ Text.joinWith " " parts ++ ")"

mutual
/-- The outermost expressions of a tree, written. -/
def innerSexprs : Tree → List String
  | value _ _ => []
  | sequence _ cs | quantifier _ cs => innerSexprsOfAll cs
  | choice _ _ c | label _ _ c | lookup _ _ c => c.innerSexprs
  | lookahead _ _ => []
  | expression _ op l m r => [sexprOf op m (sideSexpr l ++ m.innerSexprs ++ sideSexpr r)]

def innerSexprsOfAll : List Tree → List String
  | [] => []
  | t :: ts => t.innerSexprs ++ innerSexprsOfAll ts

/-- An operand, written. -/
def sideSexpr : Option Tree → List String
  | none => []
  | some t =>
      match t.innerSexprs with
      | [] => [Text.joinWith " " t.values]
      | parts => [Text.joinWith " " parts]
end

/-- The tree as an s-expression. -/
def sexpr (t : Tree) : String :=
  match t.innerSexprs with
  | [] => Text.joinWith " " t.values
  | parts => Text.joinWith " " parts

end OperatorPeg.Tree
