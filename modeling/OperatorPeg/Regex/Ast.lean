import OperatorPeg.Text.Span

/-!
# Regex notation, parsed

What a regex looks like as written, before flags and classes are resolved.
Every node knows the bytes of the regex that it was read from.
-/

namespace OperatorPeg.Regex

/-- Flags of a group or of the rest of one. -/
inductive Flag where
  | ignoreCase
  | multiLine
  | dotMatchesNewline
  | swapGreed
  | unicode
  | anyLineEnding
  | verbose
  deriving DecidableEq, Repr

/-- Flags that a group head or a `(?flags)` item sets, in order: `(?i-s)` turns
one flag on and another one off. -/
structure FlagChanges where
  changes : List (Flag × Bool)
  deriving Repr

/-- The change to `flag`, if there is one. -/
def FlagChanges.value? (f : FlagChanges) (flag : Flag) : Option Bool :=
  (f.changes.find? (·.1 == flag)).map (·.2)

/-- A character, written as itself or as an escape. `byte` holds for the form
`\xNN`, which means a byte where Unicode is off. -/
structure Literal where
  char : Char
  byte : Bool
  deriving DecidableEq, Repr

inductive Anchor where
  | lineStart
  | lineEnd
  | textStart
  | textEnd
  | wordEdge
  | notWordEdge
  | wordStart
  | wordEnd
  | wordStartHalf
  | wordEndHalf
  deriving DecidableEq, Repr

inductive PerlClass where
  | digit
  | space
  | word
  deriving DecidableEq, Repr

/-- Classes such as `[:alpha:]`. -/
inductive AsciiClass where
  | alnum
  | alpha
  | ascii
  | blank
  | cntrl
  | digit
  | graph
  | lower
  | print
  | punct
  | space
  | upper
  | word
  | xdigit
  deriving DecidableEq, Repr

/-- What stands after `\p`. -/
inductive PropertyQuery where
  /-- A property or a value of a well-known property. -/
  | named (name : List Char)
  /-- A property and one of its values. -/
  | valued (name value : List Char)
  deriving DecidableEq, Repr

inductive SetOperator where
  | intersection
  | difference
  | symmetricDifference
  deriving DecidableEq, Repr

/-- What stands inside brackets. -/
inductive ClassSet where
  | empty (span : Span)
  | single (span : Span) (literal : Literal)
  | range (span : Span) (first last : Literal)
  | ascii (span : Span) (kind : AsciiClass) (negated : Bool)
  | property (span : Span) (query : PropertyQuery) (negated : Bool)
  | perl (span : Span) (kind : PerlClass) (negated : Bool)
  | bracketed (span : Span) (negated : Bool) (inner : ClassSet)
  | union (span : Span) (items : List ClassSet)
  | binary (span : Span) (operator : SetOperator) (left right : ClassSet)
  deriving Repr

def ClassSet.span : ClassSet → Span
  | empty s | single s _ | range s _ _ | ascii s _ _ | property s _ _ | perl s _ _
  | bracketed s _ _ | union s _ | binary s _ _ _ => s

/-- A regex as written. -/
inductive Ast where
  | empty (span : Span)
  | flags (span : Span) (changes : FlagChanges)
  | literal (span : Span) (literal : Literal)
  | dot (span : Span)
  | anchor (span : Span) (kind : Anchor)
  | property (span : Span) (query : PropertyQuery) (negated : Bool)
  | perl (span : Span) (kind : PerlClass) (negated : Bool)
  | bracketed (span : Span) (negated : Bool) (inner : ClassSet)
  | repetition (span : Span) (body : Ast) (least : Nat) (most : Option Nat) (greedy : Bool)
  /-- A group, with the flags that its head sets. -/
  | group (span : Span) (changes : FlagChanges) (body : Ast)
  | alternation (span : Span) (branches : List Ast)
  | concat (span : Span) (items : List Ast)
  deriving Repr

def Ast.span : Ast → Span
  | empty s | flags s _ | literal s _ | dot s | anchor s _ | property s _ _ | perl s _ _
  | bracketed s _ _ | repetition s _ _ _ _ | group s _ _ | alternation s _ | concat s _ => s

/-- Items in a row; a single one stands for itself. -/
def Ast.ofItems (span : Span) : List Ast → Ast
  | [] => .empty span
  | [item] => item
  | items => .concat span items

/-- Class items side by side; a single one stands for itself. -/
def ClassSet.ofItems (span : Span) : List ClassSet → ClassSet
  | [] => .empty span
  | [item] => item
  | items => .union span items

end OperatorPeg.Regex
