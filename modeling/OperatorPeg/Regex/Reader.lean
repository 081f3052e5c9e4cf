import OperatorPeg.Regex.Bracket
import OperatorPeg.Regex.Group

/-!
# Reading regex notation

`Ast.read` reads a whole regex. Groups nest by recursion; flags that a
`(?flags)` item sets hold to the end of the group around it, and the one for
verbose mode changes how the rest is read.
-/

namespace OperatorPeg.Regex

/-- The branch of a group being read. -/
structure OpenBranch where
  /-- The opening parenthesis, if there is one. -/
  opening : Option Span
  /-- Where the first branch of the group starts. -/
  start : Nat
  /-- The finished branches, latest first. -/
  branches : List Ast
  /-- Where this branch starts. -/
  origin : Nat
  /-- The items of this branch, latest first. -/
  items : List Ast
  deriving Repr

namespace OpenBranch

def atStart (opening : Option Span) (offset : Nat) : OpenBranch :=
  ⟨opening, offset, [], offset, []⟩

def push (b : OpenBranch) (item : Ast) : OpenBranch := { b with items := item :: b.items }

/-- The branch ends at `stop`. -/
def finish (b : OpenBranch) (stop : Nat) : Ast := .ofItems ⟨b.origin, stop⟩ b.items.reverse

/-- The branch ends at `stop` and another one begins at `origin`. -/
def nextBranch (b : OpenBranch) (stop origin : Nat) : OpenBranch :=
  { b with branches := b.finish stop :: b.branches, origin, items := [] }

/-- All branches, the last one ending at `stop`. -/
def close (b : OpenBranch) (stop : Nat) : Ast :=
  match b.branches with
  | [] => b.finish stop
  | branches => .alternation ⟨b.start, stop⟩ (b.finish stop :: branches).reverse

end OpenBranch

/-- The item that a repetition operator applies to: the latest one, unless that
matches no text. -/
def operand (s : Scanner) (b : OpenBranch) : Except SyntaxError (Ast × OpenBranch) :=
  match b.items with
  | [] => failAt s.here .repetitionMissing
  | .empty _ :: _ => failAt s.here .repetitionMissing
  | .flags _ _ :: _ => failAt s.here .repetitionMissing
  | item :: items => .ok (item, { b with items })

/-- `?`, `*` or `+`. -/
def readRepetition (least : Nat) (most : Option Nat) (s : Scanner) (b : OpenBranch) :
    Except SyntaxError (OpenBranch × Scanner) := do
  let (body, b) ← operand s b
  let after := s.bump
  let greedy := after.peek? != some '?'
  let after := if greedy then after else after.bump
  .ok (b.push (.repetition ⟨body.span.start, after.offset⟩ body least most greedy), after)

/-- Decimal digits; verbose mode skips what stands between them. -/
def digitsFrom : Nat → List Nat → Scanner → List Nat × Scanner
  | 0, digits, s => (digits.reverse, s)
  | fuel + 1, digits, s =>
      match s.peek? with
      | some c =>
          if c.isDigit then digitsFrom fuel ((c.toNat - '0'.toNat) :: digits) s.bumpSpace
          else (digits.reverse, s)
      | none => (digits.reverse, s)

/-- Counts fit in 32 bits. -/
def countLimit : Nat := 0x100000000

/-- A count ahead with the white space around it: what is wrong with it, or its
value, and the position after it. -/
def readCount (s : Scanner) : Except SyntaxError Nat × Scanner :=
  let s := s.skipBlanks
  let start := s.offset
  let (digits, after) := digitsFrom s.rest.length [] s
  let span := after.since start
  let value := digits.foldl (· * 10 + ·) 0
  let result : Except SyntaxError Nat :=
    if digits.isEmpty then failAt span .repetitionCountDecimalEmpty
    else if value < countLimit then .ok value
    else failAt span .decimalInvalid
  (result, after.skipBlanks.skipSpace)

/-- A counted repetition from its opening brace on. -/
def readCounted (s : Scanner) (b : OpenBranch) :
    Except SyntaxError (OpenBranch × Scanner) := do
  let start := s.offset
  let (body, b) ← operand s b
  let s := s.bumpSpace
  if s.atEnd then
    failAt (s.since start) .repetitionCountUnclosed
  let (least, s) := readCount s
  if s.atEnd then
    failAt (s.since start) .repetitionCountUnclosed
  let ((least, most), s) ←
    if s.peek? == some ',' then do
      let s := s.bumpSpace
      if s.atEnd then
        failAt (s.since start) .repetitionCountUnclosed
      if s.peek? == some '}' then
        pure ((← least, none), s)
      else
        let least ← least
        let (most, s) := readCount s
        pure ((least, some (← most)), s)
    else do
      let count ← least
      pure ((count, some count), s)
  if s.peek? != some '}' then
    failAt (s.since start) .repetitionCountUnclosed
  let s := s.bumpSpace
  let greedy := s.peek? != some '?'
  let s := if greedy then s else s.bump
  if most.any (· < least) then
    failAt (s.since start) .repetitionCountInvalid
  .ok (b.push (.repetition ⟨body.span.start, s.offset⟩ body least most greedy), s)

/-- One item that takes no operand. -/
def readPrimitive (c : Char) (s : Scanner) : Except SyntaxError (Ast × Scanner) :=
  match c with
  | '.' => .ok (.dot s.charSpan, s.bump)
  | '^' => .ok (.anchor s.charSpan .lineStart, s.bump)
  | '$' => .ok (.anchor s.charSpan .lineEnd, s.bump)
  | '\\' => do
      let (part, s) ← readEscape s
      match part.primitive with
      | .literal l => .ok (.literal part.span l, s)
      | .anchor kind => .ok (.anchor part.span kind, s)
      | .dot => .ok (.dot part.span, s)
      | .perl kind negated => .ok (.perl part.span kind negated, s)
      | .property query negated => .ok (.property part.span query negated, s)
  | c => .ok (.literal s.charSpan ⟨c, false⟩, s.bump)

/-- The rest of a group up to its closing parenthesis, which is left standing, or
of the whole regex up to its end. -/
def readBranches : Nat → OpenBranch → Scanner → Except SyntaxError (Ast × Scanner)
  | 0, b, s => .ok (b.close s.offset, s)
  | fuel + 1, b, s => do
      let s := s.skipSpace
      match s.peek? with
      | none =>
          match b.opening with
          | some opening => failAt opening .groupUnclosed
          | none => .ok (b.close s.offset, s)
      | some ')' =>
          match b.opening with
          | some _ => .ok (b.close s.offset, s)
          | none => failAt s.charSpan .groupUnopened
      | some '(' =>
          let opening := s.charSpan
          let verbose := s.verbose
          let (head, s) ← readGroupHead s
          match head with
          | .flags changes =>
              let item := Ast.flags (s.since opening.start) changes
              let verbose := (changes.value? .verbose).getD verbose
              readBranches fuel (b.push item) { s with verbose }
          | .group changes =>
              let inner := { s with verbose := (changes.value? .verbose).getD verbose }
              let (body, s) ← readBranches fuel (.atStart (some opening) s.offset) inner
              let s := { s.bump with verbose }
              readBranches fuel (b.push (.group (s.since opening.start) changes body)) s
      | some '|' => readBranches fuel (b.nextBranch s.offset s.bump.offset) s.bump
      | some '[' =>
          let (item, s) ← readBracketed s
          readBranches fuel (b.push item) s
      | some '?' =>
          let (b, s) ← readRepetition 0 (some 1) s b
          readBranches fuel b s
      | some '*' =>
          let (b, s) ← readRepetition 0 none s b
          readBranches fuel b s
      | some '+' =>
          let (b, s) ← readRepetition 1 none s b
          readBranches fuel b s
      | some '{' =>
          let (b, s) ← readCounted s b
          readBranches fuel b s
      | some c =>
          let (item, s) ← readPrimitive c s
          readBranches fuel (b.push item) s

/-- Groups and classes may nest this deep. -/
def nestLimit : Nat := 250

mutual
/-- The first part that lies deeper than the limit, when `depth` parts are
around this one. -/
def ClassSet.tooDeep? (depth : Nat) : ClassSet → Option Span
  | .bracketed span _ inner =>
      if depth < nestLimit then inner.tooDeep? (depth + 1) else some span
  | .union span items =>
      if depth < nestLimit then ClassSet.firstTooDeep? (depth + 1) items else some span
  | .binary span _ left right =>
      if depth < nestLimit then left.tooDeep? (depth + 1) <|> right.tooDeep? (depth + 1)
      else some span
  | .empty _ | .single _ _ | .range _ _ _ | .ascii _ _ _ | .property _ _ _ | .perl _ _ _ => none

def ClassSet.firstTooDeep? (depth : Nat) : List ClassSet → Option Span
  | [] => none
  | item :: items => item.tooDeep? depth <|> ClassSet.firstTooDeep? depth items
end

mutual
/-- The first part that lies deeper than the limit, when `depth` parts are
around this one. -/
def Ast.tooDeep? (depth : Nat) : Ast → Option Span
  | .bracketed span _ inner =>
      if depth < nestLimit then inner.tooDeep? (depth + 1) else some span
  | .repetition span body _ _ _ =>
      if depth < nestLimit then body.tooDeep? (depth + 1) else some span
  | .group span _ body =>
      if depth < nestLimit then body.tooDeep? (depth + 1) else some span
  | .alternation span branches =>
      if depth < nestLimit then Ast.firstTooDeep? (depth + 1) branches else some span
  | .concat span items =>
      if depth < nestLimit then Ast.firstTooDeep? (depth + 1) items else some span
  | .empty _ | .flags _ _ | .literal _ _ | .dot _ | .anchor _ _ | .property _ _ _
  | .perl _ _ _ => none

def Ast.firstTooDeep? (depth : Nat) : List Ast → Option Span
  | [] => none
  | item :: items => item.tooDeep? depth <|> Ast.firstTooDeep? depth items
end

/-- Read a whole regex. Only then is its nesting measured. -/
def Ast.read (source : List Char) : Except SyntaxError Ast := do
  let s := Scanner.atStart source
  let (ast, _) ← readBranches (source.length + 1) (.atStart none 0) s
  match ast.tooDeep? 0 with
  | some span => failAt span (.nestLimitExceeded nestLimit)
  | none => .ok ast

end OperatorPeg.Regex
