import OperatorPeg.Diagnostics.Basic
import OperatorPeg.Grammar.Ast
import OperatorPeg.Regex.Resolve

/-!
# Checks on a grammar

Before a grammar is used, its rules must have names of their own and refer to
rules that there are, its regexes must be readable and buildable, and its tables
must have operators with names of their own and precedences that fit.
-/

namespace OperatorPeg.Grammar

open Diagnostics

/-- A token that quotes nothing, since one of its ends is a part of a character. -/
structure Unquotable where
  token : Token
  deriving DecidableEq, Repr

/-- The text that a token quotes. -/
def Token.unescaped (t : Token) : Except Unquotable String :=
  match t.unescaped? with
  | some text => .ok text
  | none => .error ⟨t⟩

/-! ## Places in a quoted regex -/

/-- How many bytes of a token's content make up the first `offset` bytes of the
text it quotes: a doubled backtick counts twice. -/
def contentBytes : Nat → List Char → Nat
  | 0, _ => 0
  | _ + 1, [] => 0
  | _ + 1, [c] => c.utf8Size
  | n + 1, c :: d :: cs =>
      if c = '`' ∧ d = '`' then 2 + contentBytes n cs
      else c.utf8Size + contentBytes (n + 1 - c.utf8Size) (d :: cs)

/-- Where byte `offset` of the quoted text is in the grammar text. -/
def Token.sourceOffset (t : Token) (offset : Nat) : Nat :=
  t.span.start + 1 + contentBytes offset ((t.content?).getD "").toList

/-- Where a part of the quoted text is in the grammar text. -/
def Token.sourceSpan (t : Token) (s : Span) : Span :=
  let start := t.sourceOffset s.start
  ⟨start, max start (t.sourceOffset s.stop)⟩

/-! ## Numbers -/

/-- Precedences have 32 bits. -/
def precedenceLimit : Nat := 0x100000000

/-- The value of a digit string that fits in 32 bits; a plus sign may stand first. -/
def precedenceValue? (text : String) : Option Nat :=
  let digits := match text.toList with
    | '+' :: rest => rest
    | all => all
  if digits.isEmpty || !digits.all Char.isDigit then none
  else
    let value := digits.foldl (fun n c => n * 10 + (c.toNat - '0'.toNat)) 0
    if value < precedenceLimit then some value else none

/-! ## Findings -/

/-- The finding about a regex that cannot be read. -/
def regexFinding (token : Token) (e : Regex.SyntaxError) : Finding :=
  let span := token.sourceSpan e.span
  match e.fault with
  | .backreference => .make .regexBackreference span none []
  | .lookAround => .make .regexLookaround ⟨min (span.start + 1) span.stop, span.stop⟩ none []
  | fault => .make .regexSyntaxError span (some fault.message) []

/-- What is wrong with a regex. -/
def checkRegex (token : Token) : Except Unquotable (List Finding) := do
  let source ← token.unescaped
  match Regex.Ast.read source.toList with
  | .error e => pure [regexFinding token e]
  | .ok _ =>
      match Regex.build source.toList with
      | .error e => pure [.make .regexCompile token.span (some e.message) []]
      | .ok _ => pure []

def definedNote (first : Token) : Note := ⟨first.span, "first defined here"⟩

/-- One finding for each rule whose name an earlier rule has. -/
def checkNames (earlier : List Token) : List RuleDef → List Finding
  | [] => []
  | r :: rs =>
      match earlier.find? (·.text == r.name.text) with
      | some first =>
          .make .duplicateRule r.name.span (some r.name.text) [definedNote first] ::
            checkNames earlier rs
      | none => checkNames (earlier ++ [r.name]) rs

mutual
/-- What is wrong in a choice, given the names of all rules. -/
def checkChoice (defined : List String) : Choice → Except Unquotable (List Finding)
  | ⟨alternatives⟩ => checkAlternatives defined alternatives

def checkAlternatives (defined : List String) : List Sequence → Except Unquotable (List Finding)
  | [] => .ok []
  | ⟨terms⟩ :: rest => do
      let here ← checkTerms defined terms
      let there ← checkAlternatives defined rest
      pure (here ++ there)

def checkTerms (defined : List String) : List Term → Except Unquotable (List Finding)
  | [] => .ok []
  | ⟨_, _, atom, _⟩ :: rest => do
      let here ← checkAtom defined atom
      let there ← checkTerms defined rest
      pure (here ++ there)

def checkAtom (defined : List String) : Atom → Except Unquotable (List Finding)
  | .regex token => checkRegex token
  | .literal _ => .ok []
  | .group choice => checkChoice defined choice
  | .rule token =>
      if defined.contains token.text then .ok []
      else .ok [.make .undefinedRule token.span (some token.text) []]
end

def checkPrecedence (token : Option Token) : List Finding :=
  match token with
  | none => []
  | some t =>
      match precedenceValue? t.text with
      | some _ => []
      | none => [.make .precedenceOutOfRange t.span (some t.text) []]

/-- What is wrong with the operators of a table; `earlier` holds the first operator
of each name. -/
def checkOperators (defined : List String) (earlier : List (String × Token)) :
    List OperatorDef → Except Unquotable (List Finding)
  | [] => .ok []
  | op :: ops => do
      let name ← op.name.unescaped
      let (doubled, earlier) :=
        match earlier.lookup name with
        | some first =>
            ([.make .duplicateOperator op.name.span (some name) [definedNote first]], earlier)
        | none => ([], earlier ++ [(name, op.name)])
      let inside ← checkChoice defined op.pattern
      let rest ← checkOperators defined earlier ops
      pure (doubled ++ checkPrecedence op.left ++ checkPrecedence op.right ++ inside ++ rest)

/-- What is wrong with a table. -/
def checkTable (defined : List String) (table : TableDef) :
    Except Unquotable (List Finding) :=
  if table.operators.isEmpty then .ok [.make .emptyOperatorTable table.span none []]
  else do
    let findings ← checkOperators defined [] table.operators
    if table.operators.any fun op => op.left.isNone && op.right.isNone then pure findings
    else pure (findings ++ [.make .noNullaryOperator table.span none []])

def checkBody (defined : List String) : Body → Except Unquotable (List Finding)
  | .choice choice => checkChoice defined choice
  | .table table => checkTable defined table

def checkBodies (defined : List String) : List RuleDef → Except Unquotable (List Finding)
  | [] => .ok []
  | r :: rs => do
      let here ← checkBody defined r.body
      let there ← checkBodies defined rs
      pure (here ++ there)

/-- All findings about a grammar, sorted. -/
def validate (g : Ast) : Except Unquotable (List Finding) := do
  let defined := g.rules.map (·.name.text)
  let inside ← checkBodies defined g.rules
  pure (Finding.sort (checkNames [] g.rules ++ inside))

end OperatorPeg.Grammar
