import OperatorPeg.Regex.Escape

/-!
# Bracketed classes

Classes in brackets hold characters, ranges, other classes, and further classes
in brackets. The operators `&&`, `--` and `~~` join what stands around them
from left to right with the same strength. An unclosed class is reported at its
innermost open bracket.
-/

namespace OperatorPeg.Regex

def AsciiClass.ofName? (name : String) : Option AsciiClass :=
  match name with
  | "alnum" => some .alnum
  | "alpha" => some .alpha
  | "ascii" => some .ascii
  | "blank" => some .blank
  | "cntrl" => some .cntrl
  | "digit" => some .digit
  | "graph" => some .graph
  | "lower" => some .lower
  | "print" => some .print
  | "punct" => some .punct
  | "space" => some .space
  | "upper" => some .upper
  | "word" => some .word
  | "xdigit" => some .xdigit
  | _ => none

/-- A class such as `[:alpha:]` or `[:^alpha:]` ahead. -/
def readAsciiClass? (s : Scanner) : Option (ClassSet × Scanner) := do
  let inside ← s.bumpIf? "[:"
  let negated := inside.peek? == some '^'
  let inside := if negated then inside.bump else inside
  let name := inside.rest.takeWhile (· != ':')
  let after ← (inside.bumpBy name.length).bumpIf? ":]"
  let kind ← AsciiClass.ofName? (String.ofList name)
  pure (.ascii (after.since s.offset) kind negated, after)

/-- A character or an escape ahead. -/
def readClassPart (s : Scanner) : Except SyntaxError (Placed × Scanner) :=
  match s.peek? with
  | some '\\' => readEscape s
  | some c => .ok (⟨.literal ⟨c, false⟩, s.charSpan⟩, s.bump)
  | none => failAt s.here .classUnclosed

/-- The part as an item of a class. -/
def Placed.toItem (p : Placed) : Except SyntaxError ClassSet :=
  match p.primitive with
  | .literal l => .ok (.single p.span l)
  | .perl kind negated => .ok (.perl p.span kind negated)
  | .property query negated => .ok (.property p.span query negated)
  | .anchor _ | .dot => failAt p.span .classEscapeInvalid

/-- The part as an end of a range. -/
def Placed.toBound (p : Placed) : Except SyntaxError Literal :=
  match p.primitive with
  | .literal l => .ok l
  | _ => failAt p.span .classRangeLiteral

/-- A character, a class or a range ahead. `unclosed` is where an unclosed class
is reported. A hyphen before a bracket or another hyphen makes no range. -/
def readClassItem (unclosed : Span) (s : Scanner) : Except SyntaxError (ClassSet × Scanner) := do
  let (first, s) ← readClassPart s
  let s := s.skipSpace
  match s.peek? with
  | none => failAt unclosed .classUnclosed
  | some c =>
      if c != '-' || s.second? == some ']' || s.second? == some '-' then
        .ok (← first.toItem, s)
      else
        let s := s.bumpSpace
        if s.atEnd then
          failAt unclosed .classUnclosed
        let (last, s) ← readClassPart s
        let span : Span := ⟨first.span.start, last.span.stop⟩
        let low ← first.toBound
        let high ← last.toBound
        if low.char ≤ high.char then .ok (.range span low high, s)
        else failAt span .classRangeInvalid

/-- A class being read: the operator and its left side, if there was one, and the
items after it, latest first. -/
structure OpenClass where
  /-- Where an unclosed class is reported. -/
  unclosed : Span
  left : Option (SetOperator × ClassSet)
  items : List ClassSet
  /-- The span of the items as long as there are none. -/
  origin : Span
  deriving Repr

namespace OpenClass

def push (c : OpenClass) (item : ClassSet) : OpenClass := { c with items := item :: c.items }

/-- All that was read so far. -/
def close (c : OpenClass) : ClassSet :=
  let span : Span :=
    match c.items, c.items.getLast? with
    | last :: _, some first => ⟨first.span.start, last.span.stop⟩
    | _, _ => c.origin
  let right := ClassSet.ofItems span c.items.reverse
  match c.left with
  | none => right
  | some (operator, left) => .binary ⟨left.span.start, right.span.stop⟩ operator left right

/-- What was read so far becomes the left side of an operator. -/
def applyOperator (c : OpenClass) (operator : SetOperator) (origin : Span) : OpenClass :=
  { c with left := some (operator, c.close), items := [], origin }

end OpenClass

/-- Hyphens at the start of a class stand for themselves. -/
def leadingHyphens (start : Nat) :
    Nat → List ClassSet → Scanner → Except SyntaxError (List ClassSet × Scanner)
  | 0, items, s => .ok (items, s)
  | fuel + 1, items, s =>
      if s.peek? == some '-' then
        let item := ClassSet.single s.charSpan ⟨'-', false⟩
        let s := s.bumpSpace
        if s.atEnd then failAt ⟨start, start⟩ .classUnclosed
        else leadingHyphens start fuel (item :: items) s
      else .ok (items, s)

/-- The opening bracket ahead with what is special after it: a caret negates, and
hyphens or one closing bracket stand for themselves. -/
def readOpening (s : Scanner) : Except SyntaxError ((Bool × OpenClass) × Scanner) := do
  let start := s.offset
  let s := s.bumpSpace
  if s.atEnd then
    failAt (s.since start) .classUnclosed
  let negated := s.peek? == some '^'
  let s := if negated then s.bumpSpace else s
  if s.atEnd then
    failAt (s.since start) .classUnclosed
  let origin := s.here
  let (items, s) ← leadingHyphens start s.rest.length [] s
  if items.isEmpty && s.peek? == some ']' then
    let item := ClassSet.single s.charSpan ⟨']', false⟩
    let s := s.bumpSpace
    if s.atEnd then
      failAt (s.since start) .classUnclosed
    .ok ((negated, ⟨s.since start, none, [item], origin⟩), s)
  else
    .ok ((negated, ⟨s.since start, none, items, origin⟩), s)

/-- The rest of a class up to and with its closing bracket. -/
def readClassRest : Nat → OpenClass → Scanner → Except SyntaxError (ClassSet × Scanner)
  | 0, c, _ => failAt c.unclosed .classUnclosed
  | fuel + 1, c, s => do
      let s := s.skipSpace
      match s.peek? with
      | none => failAt c.unclosed .classUnclosed
      | some ']' => .ok (c.close, s.bump)
      | some '[' =>
          match readAsciiClass? s with
          | some (item, s) => readClassRest fuel (c.push item) s
          | none =>
              let start := s.offset
              let ((negated, inner), s) ← readOpening s
              let (set, s) ← readClassRest fuel inner s
              readClassRest fuel (c.push (.bracketed (s.since start) negated set)) s
      | some _ =>
          let afterOperator := fun (operator : SetOperator) (s : Scanner) =>
            readClassRest fuel (c.applyOperator operator s.here) s
          match s.bumpIf? "&&", s.bumpIf? "--", s.bumpIf? "~~" with
          | some s, _, _ => afterOperator .intersection s
          | _, some s, _ => afterOperator .difference s
          | _, _, some s => afterOperator .symmetricDifference s
          | none, none, none =>
              let (item, s) ← readClassItem c.unclosed s
              readClassRest fuel (c.push item) s

/-- The class in brackets ahead. -/
def readBracketed (s : Scanner) : Except SyntaxError (Ast × Scanner) := do
  let start := s.offset
  let ((negated, inner), s) ← readOpening s
  let (set, s) ← readClassRest (s.rest.length + 1) inner s
  .ok (.bracketed (s.since start) negated set, s)

end OperatorPeg.Regex
