import OperatorPeg.Grammar.Validate
import OperatorPeg.Pattern.Build
import OperatorPeg.Pattern.Rules

/-!
# From a grammar to its rules

A term becomes its atom, repeated, looked ahead at and labelled in this order. In
a sequence the terms that add nothing to a tree are not kept, unless that would
keep none.
-/

namespace OperatorPeg.Grammar

/-- Why a grammar has no rules. -/
inductive LowerError where
  | pattern (cause : PatternError)
  | unquotable (cause : Unquotable)
  deriving DecidableEq, Repr

/-- The text that a token quotes. -/
def quotedText (t : Token) : Except LowerError String :=
  t.unescaped.mapError .unquotable

/-- A pattern, provided that its parts make one. -/
def checkedPattern (p : Except PatternError Pattern) : Except LowerError Pattern :=
  p.mapError .pattern

/-- Repetition by suffix. -/
def Suffix.apply (s : Option Suffix) (p : Pattern) : Pattern :=
  match s with
  | none => p
  | some .optional => p.optional
  | some .star => p.star
  | some .plus => p.plus

/-- Lookahead by prefix. -/
def Prefix.apply (l : Option Prefix) (p : Pattern) : Pattern :=
  match l with
  | none => p
  | some .not => .lookahead p false
  | some .and => .lookahead p true

mutual
/-- A choice of one alternative is that alternative. -/
def lowerChoice : Choice → Except LowerError Pattern
  | ⟨alternatives⟩ => do
      match ← lowerAlternatives alternatives with
      | [single] => pure single
      | several => checkedPattern (Pattern.choice? several)

def lowerAlternatives : List Sequence → Except LowerError (List Pattern)
  | [] => .ok []
  | ⟨terms⟩ :: rest => do
      let p ← lowerSequence terms
      let ps ← lowerAlternatives rest
      pure (p :: ps)

/-- A sequence of one term is that term. -/
def lowerSequence : List Term → Except LowerError Pattern
  | [term] => lowerTerm term
  | terms => do
      let steps ← lowerSteps (terms.all Term.isDiscardable) terms
      checkedPattern (Pattern.sequence? steps)

def lowerSteps (keepAll : Bool) : List Term → Except LowerError (List Step)
  | [] => .ok []
  | term :: terms => do
      let p ← lowerTerm term
      let steps ← lowerSteps keepAll terms
      pure (⟨keepAll || !term.isDiscardable, p⟩ :: steps)

def lowerTerm : Term → Except LowerError Pattern
  | ⟨label, lead, atom, suffix⟩ => do
      let p ← lowerAtom atom
      let p := Prefix.apply lead (Suffix.apply suffix p)
      match label with
      | none => pure p
      | some token => return .label (← quotedText token) p

def lowerAtom : Atom → Except LowerError Pattern
  | .regex token => do checkedPattern (Pattern.ofRegex? (← quotedText token))
  | .literal token => return .ofLiteral (← quotedText token)
  | .group choice => lowerChoice choice
  | .rule token => .ok (.lookup token.text)
end

/-- Checks have made sure that every precedence has a value. -/
def precedenceOf (token : Option Token) : Option Nat :=
  token.bind fun t => precedenceValue? t.text

def lowerOperator (op : OperatorDef) : Except LowerError Operator := do
  let name ← quotedText op.name
  let p ← lowerChoice op.pattern
  pure ⟨name, precedenceOf op.left, precedenceOf op.right, p⟩

def lowerBody : Body → Except LowerError Pattern
  | .choice choice => lowerChoice choice
  | .table table => do
      let operators ← table.operators.mapM lowerOperator
      checkedPattern (Pattern.table? operators)

/-- The rules of a grammar. -/
def lower (g : Ast) : Except LowerError Rules := do
  let entries ← g.rules.mapM fun r => do
    let p ← lowerBody r.body
    pure (r.name.text, p)
  pure (Rules.ofList entries)

end OperatorPeg.Grammar
