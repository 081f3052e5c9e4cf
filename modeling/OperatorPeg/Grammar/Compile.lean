import OperatorPeg.Engine.Parse
import OperatorPeg.Grammar.Language
import OperatorPeg.Grammar.Lower
import OperatorPeg.Grammar.Read

/-!
# Compiling grammars

A grammar text is parsed with the rules of a grammar language, read off its tree,
checked and lowered to rules. The language's rules are the base rules, or those
that compiling a grammar of the language has given.
-/

namespace OperatorPeg

open Diagnostics

/-- A compiled grammar. -/
structure Grammar where
  rules : Rules
  /-- Warnings. -/
  findings : List Finding

namespace Grammar

/-- Why a text gives no grammar. -/
inductive CompileError where
  /-- It is not in the grammar language. -/
  | notParsed (cause : ParseError)
  /-- Checks have found faults. -/
  | invalid (findings : List Finding)
  | pattern (cause : PatternError)
  /-- The language's rules have made a tree that is no grammar's. -/
  | malformed (cause : Malformed)
  /-- The language's rules have made a token that quotes nothing. -/
  | unquotable (cause : Unquotable)
  /-- The language's rules call themselves without end. -/
  | endless
  deriving DecidableEq, Repr

/-- The wording of a compile error. -/
def CompileError.message : CompileError → String
  | notParsed cause => "grammar syntax error: " ++ cause.display
  | invalid findings =>
      "grammar validation failed with " ++ toString (Finding.errorCount findings) ++ " errors"
  | pattern cause => cause.message
  | malformed cause =>
      "malformed grammar tree: expected " ++ cause.expected ++ " at " ++ toString cause.offset
  | unquotable cause => "token without content at " ++ toString cause.token.span.start
  | endless => "endless recursion"

/-- The tree of a grammar text. -/
def parseTree (language : Rules) (text : String) : Except CompileError Tree :=
  match parse language .unlimited (.rule startRule) text with
  | none => .error .endless
  | some report => report.result.mapError .notParsed

/-- The grammar as written. -/
def readAst (language : Rules) (text : String) : Except CompileError Ast := do
  let tree ← parseTree language text
  (Ast.ofTree tree).mapError .malformed

def LowerError.asCompileError : LowerError → CompileError
  | .pattern cause => .pattern cause
  | .unquotable cause => .unquotable cause

/-- Check a grammar as written and turn it into rules. -/
def ofAst (ast : Ast) : Except CompileError Grammar := do
  let findings ← (validate ast).mapError .unquotable
  if Finding.hasErrors findings then
    throw (.invalid findings)
  let rules ← (lower ast).mapError LowerError.asCompileError
  pure ⟨rules, findings⟩

/-- Compile a text with the rules of a grammar language. -/
def compileWith (language : Rules) (text : String) : Except CompileError Grammar := do
  ofAst (← readAst language text)

/-- The base rules of the grammar language. -/
def baseLanguage : Except CompileError Rules := baseRules.mapError .pattern

/-- The rules that the base rules make of the language's own grammar. -/
def selfHostedLanguage : Except CompileError Rules := do
  let grammar ← compileWith (← baseLanguage) languageText
  pure grammar.rules

/-- Compile a text with the base rules. -/
def compile (text : String) : Except CompileError Grammar := do
  compileWith (← baseLanguage) text

end Grammar

end OperatorPeg
