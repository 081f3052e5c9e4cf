import OperatorPeg.Snippet.Canvas
import OperatorPeg.Snippet.Layout
import OperatorPeg.Snippet.Margin

/-!
# Drawing a snippet

From left to right a row has the line number, a bar, the bars of long spans and the
code. Below a marked line come the marks, and rows for the labels that do not fit
next to them. What is drawn later covers what was drawn before.
-/

namespace OperatorPeg.Snippet

/-- Where the columns of a snippet are. -/
structure Columns where
  /-- Digits of the largest line number. -/
  digits : Nat
  /-- Bars of long spans. -/
  bars : Nat
  margin : Margin

namespace Columns

/-- The column of the bar after the line numbers. -/
def border (c : Columns) : Nat := c.digits + 1

/-- The first column after the border. -/
def inner (c : Columns) : Nat := c.digits + 3

/-- The column of the bar of a long span. -/
def bar (c : Columns) (depth : Nat) : Nat := c.inner + depth - 1

/-- The first column of the code. -/
def code (c : Columns) : Nat := if c.bars = 0 then c.inner else c.inner + c.bars + 1

end Columns

/-- The character that underlines. -/
def Mark.sign (m : Mark) : Char := if m.isPrimary then '^' else '-'

def Mark.ink (m : Mark) : Ink := if m.isPrimary then .accent else .side

/-- A bar that is drawn at the left of all lines of a long span. -/
structure Bar where
  depth : Nat
  ink : Ink

/-- The bar that a mark begins or ends. -/
def Mark.bar? (m : Mark) : Option Bar :=
  match m.form with
  | .opening depth | .closing depth => some ⟨depth, m.ink⟩
  | .single | .passing _ => none

/-- Draw bars on the rows from `first` up to and without `last`. -/
def drawBars (c : Columns) (first last : Nat) (bars : List Bar) (canvas : Canvas) : Canvas :=
  bars.foldl (fun canvas b => canvas.writeDown first last (c.bar b.depth) '|' b.ink) canvas

/-- The beginning of a text up to the character that makes it as wide as an ellipsis:
its columns and its characters. -/
def ellipsisPlace (columns chars : Nat) : List Char → Nat × Nat
  | [] => (columns, chars)
  | c :: cs =>
      let columns := columns + Unicode.columns c
      if ellipsis.length ≤ columns then (columns, chars + 1)
      else ellipsisPlace columns (chars + 1) cs

/-- Draw a line of code with its number. -/
def drawLine (c : Columns) (row number : Nat) (text : List Char) (canvas : Canvas) : Canvas :=
  let width := Text.columns text
  let left := c.margin.leftOf width
  let right := c.margin.rightOf width
  let shown := (Text.cutColumns (right - left) (Text.cutColumns left text).2).1
  let isCutLeft := 0 < c.margin.left
  let isCutRight := right < width
  let (skippedColumns, skippedChars) := if isCutLeft then ellipsisPlace 0 0 shown else (0, 0)
  let rest := shown.drop skippedChars
  let restColumn := c.code + skippedColumns
  let canvas := if isCutLeft then canvas.write row c.code ellipsis .side else canvas
  let canvas := canvas.write row restColumn (if isCutRight then rest else Text.trimEnd rest) .none
  let canvas :=
    if isCutRight then
      let column := restColumn + rest.length - (ellipsisPlace 0 0 shown.reverse).2
      canvas.write row column ellipsis .side
    else canvas
  let digits := (toString number).toList
  let canvas := canvas.write row 0 (List.replicate (c.digits - digits.length) ' ' ++ digits) .side
  canvas.put row c.border '|' .side

/-- What is known when the marks of a line are drawn. -/
structure Scene where
  columns : Columns
  /-- The row of the line. -/
  top : Nat
  /-- Rows below the row of the marks. -/
  rows : Nat
  /-- Columns of the code that are left out. -/
  left : Nat

/-- The column on the canvas of a column of the code. -/
def Scene.at (s : Scene) (column : Nat) : Nat := s.columns.code + column - s.left

/-- The line from the bar of a long span to its mark. -/
def drawReach (s : Scene) (canvas : Canvas) (p : PlacedMark) : Canvas :=
  match p.mark.bar? with
  | none => canvas
  | some b =>
      canvas.writeAcross (s.top + p.drop + 1) (s.columns.bar b.depth + 1) (s.at p.mark.start) '_'
        b.ink

/-- What hangs from a mark, and the piece of the bar next to it. -/
def drawHanging (s : Scene) (canvas : Canvas) (p : PlacedMark) : Canvas :=
  let row := s.top + p.drop + 1
  let ink := p.mark.ink
  let canvas :=
    if 0 < p.drop && (p.mark.hasLabel || p.mark.takesSpace) then
      canvas.writeDown (s.top + 1) (row + 1) (s.at p.mark.start) '|' ink
    else canvas
  match p.mark.form with
  | .opening depth =>
      (canvas.put row (s.columns.bar depth) ' ' ink).writeDown (row + 1) (s.top + s.rows + 2)
        (s.columns.bar depth) '|' ink
  | .closing depth => canvas.writeDown s.top (row + 1) (s.columns.bar depth) '|' ink
  | .single | .passing _ => canvas

/-- The label, next to the mark or where it hangs. -/
def drawLabel (s : Scene) (canvas : Canvas) (p : PlacedMark) : Canvas :=
  let (row, column) :=
    if p.drop = 0 then
      (s.top + 1, if p.mark.stop = 0 then 2 - s.left else p.mark.stop + 1 - s.left)
    else (s.top + p.drop + 2, p.mark.start - s.left)
  canvas.write row (s.columns.code + column) (Text.visible p.mark.label.toList) p.mark.ink

/-- The mark itself. -/
def drawSign (s : Scene) (canvas : Canvas) (p : PlacedMark) : Canvas :=
  let m := p.mark
  let canvas :=
    (List.range' m.start (m.stop - m.start)).foldl
      (fun canvas column => canvas.put (s.top + 1) (s.at column) m.sign m.ink) canvas
  if m.takesSpace || (0 < p.drop && m.hasLabel) then
    canvas.put (s.top + 1) (s.at m.start) m.sign m.ink
  else canvas

/-- Shorten a mark that is much wider than the terminal, and the code above it. -/
def shortenMark (s : Scene) (canvas : Canvas) (p : PlacedMark) : Canvas :=
  let room := s.columns.margin.room
  let width := p.mark.stop - p.mark.start
  if p.isCrowded || p.mark.form != .single || width ≤ room * 2 || width ≤ 10 then canvas
  else
    let kept := max (room / 3) 5
    let first := p.mark.start + kept
    let last := p.mark.stop - kept
    (canvas.shorten s.top first last ellipsis .side).shorten (s.top + 1) first last ellipsis .side

/-- Whether `p` is drawn before or with `q`: wider marks first, and of equal ones those
that a notice is not about. -/
def isDrawnBefore (p q : PlacedMark) : Bool :=
  q.mark.width < p.mark.width ||
    (p.mark.width == q.mark.width && (!p.mark.isPrimary || q.mark.isPrimary))

/-- The bars of marks that need no row of their own: every long span opens where
nothing but blanks is before it, so that its bar can begin next to the line. -/
def shortOpenings? (text : List Char) : List Mark → Option (List Bar)
  | [] => some []
  | m :: ms =>
      match m.form with
      | .passing _ => shortOpenings? text ms
      | .opening depth =>
          if (text.take m.charsBefore).all Unicode.isWhiteSpace then
            (shortOpenings? text ms).map (⟨depth, m.ink⟩ :: ·)
          else none
      | .single | .closing _ => none

/-- Draw a line with its marks. Also gives the bars that begin or end on it. -/
def drawMarked (c : Columns) (l : MarkedLine) (canvas : Canvas) : Canvas × List Bar :=
  let top := canvas.height
  let text := Text.visible l.line.text
  let canvas := drawLine c top l.line.number text canvas
  match shortOpenings? text l.marks with
  | some bars =>
      (bars.foldl (fun canvas b => canvas.put top (c.bar b.depth) '/' b.ink) canvas, bars)
  | none =>
      let (placed, rows) := layout l.marks
      let s : Scene := ⟨c, top, rows, c.margin.leftOf (Text.columns text)⟩
      let canvas := canvas.writeDown (top + 1) (top + rows + 2) c.border '|' .side
      let canvas := placed.foldl (drawReach s) canvas
      let canvas := placed.foldl (drawHanging s) canvas
      let canvas := placed.foldl (drawLabel s) canvas
      let placed := placed.mergeSort isDrawnBefore
      let canvas := placed.foldl (drawSign s) canvas
      (placed.foldl (shortenMark s) canvas, placed.filterMap (·.mark.bar?))

/-- The bars after a line: those that ended on it are gone, those that began are new. -/
def continueBars (current onLine : List Bar) : List Bar × List Bar :=
  onLine.foldl (fun (current, new) b =>
    if current.any (·.depth == b.depth) then (current.filter (·.depth != b.depth), new)
    else (current, new ++ [b])) (current, [])

/-- Draw what is between a marked line and the next one: nothing, the one line that
is there, or an ellipsis. -/
def drawGap (c : Columns) (lines : List SourceLine) (bars : List Bar) (number next : Nat)
    (canvas : Canvas) : Canvas :=
  let row := canvas.height
  if next = number + 2 then
    let text := (lines.find? (·.number == number + 1)).elim [] (·.text)
    drawBars c row (row + 1) bars (drawLine c row (number + 1) (Text.visible text) canvas)
  else if number + 2 < next then
    drawBars c row (row + 1) bars (canvas.write row 0 ellipsis .side)
  else canvas

/-- Draw marked lines, one after the other. -/
def drawLines (c : Columns) (lines : List SourceLine) (bars : List Bar) :
    List MarkedLine → Canvas → Canvas
  | [], canvas => canvas
  | l :: rest, canvas =>
      let top := canvas.height
      let (canvas, onLine) := drawMarked c l canvas
      let (current, new) := continueBars bars onLine
      let canvas := drawBars c top canvas.height current canvas
      let canvas := match rest with
        | [] => canvas
        | next :: _ =>
            let opened := (l.marks.filter (·.isOpening)).filterMap (·.bar?)
            drawGap c lines (current ++ opened) l.line.number next.line.number canvas
      drawLines c lines (current ++ new) rest canvas

end OperatorPeg.Snippet
