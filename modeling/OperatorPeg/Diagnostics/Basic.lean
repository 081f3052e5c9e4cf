import OperatorPeg.Text.Bytes
import OperatorPeg.Text.Span

/-!
# Findings

What a check has to say about a grammar: a kind, a place, a text, and notes about
other places. A collection of findings keeps them in the order in which they were
reported until it is sorted.
-/

namespace OperatorPeg.Diagnostics

/-- What a finding is about. At one place, findings are sorted in this order:
what is wrong with rules comes first, since it makes for wrong findings
elsewhere. -/
inductive Kind where
  | duplicateRule
  | undefinedRule
  | regexSyntaxError
  | regexLookaround
  | regexBackreference
  | regexCompile
  | emptyOperatorTable
  | duplicateOperator
  | precedenceOutOfRange
  | noNullaryOperator
  deriving DecidableEq, Repr

inductive Severity where
  | error
  | warning
  deriving DecidableEq, Repr

def Severity.name : Severity → String
  | error => "error"
  | warning => "warning"

namespace Kind

/-- All kinds, in their order. -/
def all : List Kind :=
  [duplicateRule, undefinedRule, regexSyntaxError, regexLookaround, regexBackreference,
    regexCompile, emptyOperatorTable, duplicateOperator, precedenceOutOfRange,
    noNullaryOperator]

/-- The place of a kind in the order. -/
def rank (k : Kind) : Nat := all.idxOf k

/-- Only a table without operands is no reason to refuse a grammar. -/
def severity (k : Kind) : Severity := if k = noNullaryOperator then .warning else .error

/-- The text of a finding without a detail. -/
def title : Kind → String
  | duplicateRule => "duplicate rule"
  | undefinedRule => "undefined rule"
  | regexSyntaxError => "invalid regex syntax"
  | regexLookaround => "lookahead/lookbehind is not supported"
  | regexBackreference => "backreferences are not supported"
  | regexCompile => "regex cannot be compiled"
  | emptyOperatorTable => "operator table is empty"
  | duplicateOperator => "duplicate operator"
  | precedenceOutOfRange => "precedence out of range"
  | noNullaryOperator => "operator table has no operand"

/-- The text of a finding with a detail. -/
def describe (k : Kind) (detail : String) : String :=
  match k with
  | duplicateRule => "rule `" ++ detail ++ "` is already defined"
  | undefinedRule => "rule `" ++ detail ++ "` is not defined"
  | duplicateOperator => "operator `" ++ detail ++ "` is already in this table"
  | precedenceOutOfRange => "precedence `" ++ detail ++ "` does not fit in 32 bits"
  | k => k.title ++ ": " ++ detail

end Kind

/-- Another place that a finding points at. -/
structure Note where
  span : Span
  text : String
  deriving DecidableEq, Repr

structure Finding where
  kind : Kind
  span : Span
  text : String
  notes : List Note
  deriving DecidableEq, Repr

namespace Finding

/-- A finding with a detail, if there is one. -/
def make (kind : Kind) (span : Span) (detail : Option String) (notes : List Note) : Finding :=
  ⟨kind, span, detail.elim kind.title kind.describe, notes⟩

def severity (f : Finding) : Severity := f.kind.severity

/-- A span as text. -/
def placeText (s : Span) : String := toString s.start ++ ".." ++ toString s.stop

/-- The finding in one line. -/
def line (f : Finding) : String :=
  f.severity.name ++ " at " ++ placeText f.span ++ ": " ++ f.text ++
    String.join (f.notes.map fun n => " (related: " ++ n.text ++ " at " ++ placeText n.span ++ ")")

/-- Whether `f` is sorted before or with `g`: by where they start, then by kind,
then by where they stop. -/
def precedes (f g : Finding) : Bool :=
  f.span.start < g.span.start || (f.span.start == g.span.start &&
    (f.kind.rank < g.kind.rank || (f.kind.rank == g.kind.rank && f.span.stop ≤ g.span.stop)))

/-- Put a finding before the first one that must come after it. -/
def insertSorted (f : Finding) : List Finding → List Finding
  | [] => [f]
  | g :: gs => if f.precedes g then f :: g :: gs else g :: insertSorted f gs

/-- The findings in order; those that tie keep theirs. -/
def sort : List Finding → List Finding
  | [] => []
  | f :: fs => insertSorted f (sort fs)

def countOf (severity : Severity) (fs : List Finding) : Nat :=
  fs.countP (·.severity == severity)

def errorCount (fs : List Finding) : Nat := countOf .error fs

def warningCount (fs : List Finding) : Nat := countOf .warning fs

def hasErrors (fs : List Finding) : Bool := errorCount fs > 0

def hasWarnings (fs : List Finding) : Bool := warningCount fs > 0

/-- The findings, one in a line. -/
def lines (fs : List Finding) : String := Text.joinWith "\n" (fs.map line)

end Finding

end OperatorPeg.Diagnostics
