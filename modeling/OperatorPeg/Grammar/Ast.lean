import OperatorPeg.Text.Bytes
import OperatorPeg.Text.Quoted
import OperatorPeg.Text.Span

/-!
# Grammars, parsed

What a grammar looks like as written. Tokens keep their text as written and
where it stands, so that findings can point at it.
-/

namespace OperatorPeg.Grammar

/-- A piece of a grammar text. -/
structure Token where
  text : String
  span : Span
  deriving DecidableEq, Repr

namespace Token

/-- What is between the first and the last byte; `none` if one of them is a part
of a character only. -/
def content? (t : Token) : Option String :=
  let cs := t.text.toList
  if t.text.utf8ByteSize < 2 then some ""
  else if cs.head?.all (·.utf8Size == 1) && cs.getLast?.all (·.utf8Size == 1) then
    some (String.ofList (Text.content cs))
  else none

/-- The text that the token quotes, the first character being the delimiter;
`none` if the token has no content. -/
def unescaped? (t : Token) : Option String :=
  match t.text.toList with
  | [] => some ""
  | delimiter :: _ =>
      t.content?.map fun content => String.ofList (Text.collapse delimiter content.toList)

end Token

/-- What stands before an atom. -/
inductive Prefix where
  | not
  | and
  deriving DecidableEq, Repr

/-- What stands after an atom. -/
inductive Suffix where
  | optional
  | star
  | plus
  deriving DecidableEq, Repr

mutual
inductive Atom where
  | regex (token : Token)
  | literal (token : Token)
  | group (choice : Choice)
  | rule (token : Token)
  deriving Repr

structure Term where
  /-- The quoted name. -/
  label : Option Token
  lead : Option Prefix
  atom : Atom
  suffix : Option Suffix
  deriving Repr

structure Sequence where
  terms : List Term
  deriving Repr

structure Choice where
  alternatives : List Sequence
  deriving Repr
end

namespace Term

/-- Literals and lookaheads without a label add nothing to a tree. -/
def isDiscardable (t : Term) : Bool :=
  t.label.isNone && (t.lead.isSome || match t.atom with
    | .literal _ => true
    | _ => false)

end Term

/-- A row of an operator table. -/
structure OperatorDef where
  /-- The quoted name. -/
  name : Token
  left : Option Token
  right : Option Token
  pattern : Choice
  deriving Repr

/-- An operator table and its place. -/
structure TableDef where
  span : Span
  operators : List OperatorDef
  deriving Repr

inductive Body where
  | choice (choice : Choice)
  | table (table : TableDef)
  deriving Repr

structure RuleDef where
  name : Token
  body : Body
  deriving Repr

/-- A whole grammar. -/
structure Ast where
  rules : List RuleDef
  deriving Repr

end OperatorPeg.Grammar
