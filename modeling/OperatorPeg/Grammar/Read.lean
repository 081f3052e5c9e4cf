import OperatorPeg.Grammar.Ast
import OperatorPeg.Tree.Basic

/-!
# Reading a grammar off its tree

The tree of a grammar text becomes an `Ast`. A tree that rules other than the
language's own have made may lack what is looked for; the error then says what
that was and where.
-/

namespace OperatorPeg.Grammar

/-- Something that a tree lacks. -/
structure Malformed where
  expected : String
  offset : Nat
  deriving DecidableEq, Repr

/-- The error that `t` lacks what is expected. -/
def malformed {α : Type} (expected : String) (t : Tree) : Except Malformed α :=
  .error ⟨expected, t.offset⟩

/-- What a label of this name holds. -/
def labelled (name : String) (t : Tree) : Except Malformed Tree :=
  match t.findLabel? name with
  | some child => .ok child
  | none => malformed name t

/-- The rounds of a repetition, whichever rules matched it. -/
def rounds (what : String) (t : Tree) : Except Malformed (List Tree) :=
  match t.unwrapLookup with
  | .quantifier _ children => .ok children
  | other => malformed what other

/-- The first node below, whichever rules matched it. -/
def firstBelow (what : String) (t : Tree) : Except Malformed Tree :=
  match t.unwrapLookup.children with
  | child :: _ => .ok child
  | [] => malformed what t

/-- The text that a terminal matched and where it stands. -/
def readToken (what : String) (t : Tree) : Except Malformed Token :=
  match t.unwrapLookup with
  | .value offset text => .ok ⟨text, ⟨offset, offset + text.utf8ByteSize⟩⟩
  | other => malformed what other

/-- A precedence: digits, or none at all. -/
def readPrecedence (t : Tree) : Except Malformed (Option Token) := do
  let token ← readToken "precedence" (← firstBelow "precedence" t)
  pure (if token.text == "none" then none else some token)

/-- The text of a symbol that may be missing. -/
def readSymbol? (t : Tree) : Except Malformed (Option String) := do
  match ← rounds "symbol" t with
  | [] => pure none
  | choice :: _ =>
      let symbol ← firstBelow "symbol" choice
      match symbol.text? with
      | some text => pure (some text)
      | none => malformed "symbol" symbol

/-- The lookahead that a term begins with, if it does. -/
def readLead? (t : Tree) : Except Malformed (Option Prefix) := do
  pure ((← readSymbol? t).map fun text => if text == "!" then .not else .and)

/-- The sign of repetition that a term ends with, if it does. -/
def readSuffix? (t : Tree) : Except Malformed (Option Suffix) := do
  pure ((← readSymbol? t).map fun text =>
    if text == "?" then .optional else if text == "*" then .star else .plus)

/-- The label of a term, if it has one. -/
def readLabel? (t : Tree) : Except Malformed (Option Token) := do
  match ← rounds "label" (← labelled "label" t) with
  | [] => pure none
  | entry :: _ => return some (← readToken "label name" (← firstBelow "label name" entry))

/-- What reading a choice may do one level further down. -/
abbrev ChoiceReader := Tree → Except Malformed Choice

/-- Read an atom by the rule that matched it; a group is a sequence. -/
def readAtom (readChoice : ChoiceReader) (t : Tree) : Except Malformed Atom := do
  let atom ← firstBelow "atom" t
  match atom with
  | .lookup _ key _ =>
      match key with
      | "regex" => return .regex (← readToken "regex" atom)
      | "literal" => return .literal (← readToken "literal" atom)
      | "ident" => return .rule (← readToken "rule name" atom)
      | _ => malformed "atom" atom
  | .sequence _ _ => return .group (← readChoice (← firstBelow "group" atom))
  | other => malformed "atom" other

/-- Read a term with all its parts. -/
def readTerm (readChoice : ChoiceReader) (t : Tree) : Except Malformed Term := do
  let t := t.unwrapLookup
  let label ← readLabel? t
  let lead ← readLead? (← labelled "prefix" t)
  let suffix ← readSuffix? (← labelled "suffix" t)
  let atom ← readAtom readChoice (← labelled "atom" t)
  pure ⟨label, lead, atom, suffix⟩

/-- Read the terms of a sequence; the lookahead before each one is dropped. -/
def readSequence (readChoice : ChoiceReader) (t : Tree) : Except Malformed Sequence := do
  let steps ← rounds "terms" t
  let terms ← steps.mapM fun step => do readTerm readChoice (← firstBelow "term" step)
  pure ⟨terms⟩

/-- Read a choice in which at most `levels` groups are inside one another. -/
def readChoice : Nat → Tree → Except Malformed Choice
  | 0, t => malformed "sequence" t
  | levels + 1, t => do
      let t := t.unwrapLookup
      match t.children with
      | [] => malformed "sequence" t
      | head :: rest =>
          let head ← readSequence (readChoice levels) head
          let others ←
            match rest with
            | [] => pure []
            | tail :: _ => do
                let alternatives ← rounds "alternatives" tail
                alternatives.mapM fun alternative => do
                  readSequence (readChoice levels) (← firstBelow "sequence" alternative)
          pure ⟨head :: others⟩

/-- Read a row of an operator table. -/
def readOperator (levels : Nat) (t : Tree) : Except Malformed OperatorDef := do
  let t := t.unwrapLookup
  let name ← readToken "operator name" (← labelled "name" t)
  let left ← readPrecedence (← labelled "left" t)
  let right ← readPrecedence (← labelled "right" t)
  let pattern ← readChoice levels (← labelled "pattern" t)
  pure ⟨name, left, right, pattern⟩

/-- Read an operator table with its place. -/
def readTable (levels : Nat) (t : Tree) : Except Malformed TableDef := do
  let t := t.unwrapLookup
  let entries ← rounds "operators" (← labelled "operators" t)
  let operators ← entries.mapM fun entry => do
    readOperator levels (← firstBelow "operator" entry)
  pure ⟨t.extent, operators⟩

/-- Read a rule. -/
def readRule (levels : Nat) (t : Tree) : Except Malformed RuleDef := do
  let t := t.unwrapLookup
  let name ← readToken "rule name" (← labelled "name" t)
  let body ← firstBelow "rule body" (← labelled "body" t)
  match body with
  | .lookup _ "table" _ => return ⟨name, .table (← readTable levels body)⟩
  | _ => return ⟨name, .choice (← readChoice levels body)⟩

/-- Read the tree of a whole grammar. Groups nest no deeper than nodes do. -/
def Ast.ofTree (t : Tree) : Except Malformed Ast := do
  let rules ← t.unwrapLookup.children.mapM (readRule t.height)
  pure ⟨rules⟩

end OperatorPeg.Grammar
