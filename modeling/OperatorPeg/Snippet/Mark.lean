import OperatorPeg.Snippet.SourceLine

/-!
# Marks

What a snippet points at are highlights, each a span with a label. On the lines of
the source a highlight becomes marks: a single one if the span is on one line,
otherwise one where the span opens, one where it closes, and one on each line
shown in between. Such a long span has a bar at the left of the code; long spans
that overlap have their bars at different depths.
-/

namespace OperatorPeg.Snippet

/-- A span to point at. -/
structure Highlight where
  span : Span
  /-- Written next to the mark, if it is not empty. -/
  label : String
  /-- Whether the notice is about this span. -/
  isPrimary : Bool
  deriving DecidableEq, Repr

/-- Which part of a highlight a mark is. -/
inductive Form where
  | single
  | opening (depth : Nat)
  | passing (depth : Nat)
  | closing (depth : Nat)
  deriving DecidableEq, Repr

/-- A mark on a line. -/
structure Mark where
  form : Form
  /-- Characters of the line before the mark. -/
  charsBefore : Nat
  /-- First column. -/
  start : Nat
  /-- The column after the last one. -/
  stop : Nat
  label : String
  isPrimary : Bool
  deriving DecidableEq, Repr

namespace Mark

def hasLabel (m : Mark) : Bool := !m.label.isEmpty

/-- Whether the mark needs a line from the bar at the left to it. -/
def takesSpace (m : Mark) : Bool :=
  match m.form with
  | .opening _ | .closing _ => true
  | .single | .passing _ => false

def isOpening (m : Mark) : Bool :=
  match m.form with
  | .opening _ => true
  | _ => false

/-- Columns of the mark. -/
def width (m : Mark) : Nat := max (m.stop - m.start) (m.start - m.stop)

/-- Whether two ranges of columns share one. -/
def rangesMeet (start stop start' stop' : Nat) : Bool :=
  (start' ≤ start && start < stop') || (start ≤ start' && start' < stop)

/-- Whether `m`, made longer by some columns, meets `n`. -/
def meets (m n : Mark) (padding : Nat) : Bool :=
  rangesMeet m.start (m.stop + padding) n.start n.stop

end Mark

/-- A highlight that stops on another line than it starts on. -/
structure LongSpan where
  start : Place
  stop : Place
  label : String
  isPrimary : Bool
  /-- Where its bar is. -/
  depth : Nat
  /-- Another long span starts and stops at the same places. -/
  isDoubled : Bool
  deriving DecidableEq, Repr

namespace LongSpan

def samePlaces (s t : LongSpan) : Bool := s.start == t.start && s.stop == t.stop

/-- Whether some line is part of both. -/
def sharesLine (s t : LongSpan) : Bool :=
  Mark.rangesMeet s.start.line (s.stop.line + 1) t.start.line (t.stop.line + 1)

/-- Add a long span to those that come before it: they make room for its bar, from
the first one on up to one that need not. `primaries` are the long spans so far
that notices are about. -/
def makeRoom (primaries : List LongSpan) (new : LongSpan) : List LongSpan → List LongSpan
  | [] => [{ new with isPrimary := new.isPrimary || primaries.any new.samePlaces }]
  | s :: rest =>
      if !new.samePlaces s && new.sharesLine s then
        { s with depth := s.depth + 1 } :: makeRoom primaries new rest
      else if new.samePlaces s && new != s then
        { s with isDoubled := true } :: makeRoom primaries new rest
      else
        { s with isPrimary := s.isPrimary || primaries.any s.samePlaces } :: rest ++ [new]

/-- Whether `s` comes before or with `t`: by first line, then the one that ends later. -/
def precedes (s t : LongSpan) : Bool :=
  s.start.line < t.start.line || (s.start.line == t.start.line && t.stop.line ≤ s.stop.line)

/-- Give each long span its depth. -/
def arrange (spans : List LongSpan) : List LongSpan :=
  let arranged := (spans.mergeSort precedes).foldl (fun (arranged, primaries) new =>
      let primaries := if new.isPrimary then primaries ++ [new] else primaries
      (makeRoom primaries new arranged, primaries)) (([], []) : List LongSpan × List LongSpan)
  let deepest := arranged.1.foldl (fun d s => max d s.depth) 0
  arranged.1.map fun s => { s with depth := deepest - s.depth + 1 }

/-- The mark where the span opens. -/
def opening (s : LongSpan) : Mark :=
  ⟨.opening s.depth, s.start.char, s.start.column, s.start.column + 1, "", s.isPrimary⟩

/-- The mark on a line in between. -/
def passing (s : LongSpan) : Mark := ⟨.passing s.depth, 0, 0, 0, "", s.isPrimary⟩

/-- The mark where the span closes, on the last column before its end. -/
def closing (s : LongSpan) (form : Form) : Mark :=
  ⟨form, s.stop.char - 1, s.stop.column - 1, s.stop.column, s.label, s.isPrimary⟩

/-- The lines between the first and the last one that are shown: some after the
first, as far as there is something on them, and the one before the last. -/
def linesBetween (lines : List SourceLine) (s : LongSpan) : List Nat :=
  let isMeagre := fun number =>
    ((lines.find? (·.number == number)).map (·.isMeagre)).getD true
  let middle := min (s.start.line + 4) s.stop.line
  let first := List.range' s.start.line (middle - s.start.line)
  let shownTo := match first.reverse.find? fun number => !isMeagre number with
    | some number => number + 1
    | none => s.start.line
  let tail := s.stop.line - 1
  List.range' (s.start.line + 1) (shownTo - (s.start.line + 1)) ++
    (if middle < tail && !isMeagre tail then [tail] else [])

/-- The marks of a long span, each with the number of its line. -/
def marks (lines : List SourceLine) (s : LongSpan) : List (Nat × Mark) :=
  if s.isDoubled then [(s.stop.line, s.closing .single)]
  else
    (s.start.line, s.opening) :: (s.linesBetween lines).map (fun number => (number, s.passing)) ++
      [(s.stop.line, s.closing (.closing s.depth))]

end LongSpan

/-- A line and the marks on it. -/
structure MarkedLine where
  line : SourceLine
  marks : List Mark

/-- The mark of a highlight on one line, or the long span that it is. An empty
mark takes one column. -/
def Highlight.place (lines : List SourceLine) (a : Highlight) : Sum (Nat × Mark) LongSpan :=
  let (start, stop) := placesOf lines a.span
  if start.line = stop.line then
    let last := if start.column = stop.column then stop.column + 1 else stop.column
    .inl (start.line, ⟨.single, start.char, start.column, last, a.label, a.isPrimary⟩)
  else .inr ⟨start, stop, a.label, a.isPrimary, 1, false⟩

/-- The lines that highlights put marks on, and the depth of the deepest bar. -/
def markedLines (lines : List SourceLine) (highlights : List Highlight) :
    List MarkedLine × Nat :=
  let placed := highlights.map (Highlight.place lines)
  let single := placed.filterMap fun
    | .inl mark => some mark
    | .inr _ => none
  let long := LongSpan.arrange <| placed.filterMap fun
    | .inl _ => none
    | .inr s => some s
  let marks := single ++ long.flatMap (LongSpan.marks lines)
  let marked := lines.filterMap fun line =>
    match marks.filter (·.1 == line.number) with
    | [] => none
    | here => some ⟨line, here.map (·.2)⟩
  (marked, long.foldl (fun d s => max d s.depth) 0)

end OperatorPeg.Snippet
