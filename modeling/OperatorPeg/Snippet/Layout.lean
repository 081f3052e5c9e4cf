import OperatorPeg.Snippet.Mark

/-!
# Which row a label is on

Marks are drawn on the row below a line, and labels next to them where there is
room. A label that would run into another mark hangs on a row further down. Marks
are placed from right to left, so that what hangs from one does not cross what is
written next to another.
-/

namespace OperatorPeg.Snippet

/-- A mark, and how many rows below the marks its label or its line to the bar is. -/
structure PlacedMark where
  mark : Mark
  drop : Nat
  /-- Whether another mark shares columns with it. -/
  isCrowded : Bool

/-- Whether `m` and `n` are drawn over each other so that `m` needs a row for its
label. A mark without label that covers the same columns is no hindrance. -/
def Mark.isHinderedBy (m n : Mark) : Bool :=
  n.meets m 0 && !(n.start == m.start && n.stop == m.stop && !n.hasLabel)

/-- Whether what is placed after `m`, `n` among it, must be on a row further down.
`isFirst` says that `m` is next to the marks. -/
def Mark.pushesDown (m n : Mark) (isFirst : Bool) : Bool :=
  let reach := if n.label.isEmpty then 0 else n.label.utf8ByteSize + 2
  let touches := n.meets m reach
  (touches && m.hasLabel && n.hasLabel) || (m.takesSpace && n.hasLabel) ||
    (m.hasLabel && n.takesSpace) || (m.takesSpace && n.takesSpace) ||
    (touches && n.stop ≤ m.stop && n.hasLabel && isFirst)

/-- Place marks from right to left, from row `drop` on. Also says how many rows are
needed. -/
def placeMarks (before : List Mark) (drop : Nat) : List Mark → List PlacedMark × Nat
  | [] => ([], 0)
  | m :: rest =>
      let drop := if drop = 0 && m.hasLabel && rest.any m.isHinderedBy then 1 else drop
      let isCrowded := rest.any (·.meets m 0) || before.any (m.meets · 0)
      let next := if rest.any (m.pushesDown · (drop == 0)) then drop + 1 else drop
      let (placed, rows) := placeMarks (m :: before) next rest
      (⟨m, drop, isCrowded⟩ :: placed, max next rows)

/-- Whether `m` is placed before or with `n`: it starts further right. -/
def Mark.isRightOf (m n : Mark) : Bool :=
  n.start < m.start || (n.start == m.start && n.charsBefore ≤ m.charsBefore)

/-- The marks of a line, placed, and the number of rows below the marks. -/
def layout (marks : List Mark) : List PlacedMark × Nat :=
  let (placed, rows) := placeMarks [] 0 (marks.mergeSort Mark.isRightOf)
  let rows := if rows = 0 then 0 else rows + 1
  if !placed.isEmpty && placed.all (·.mark.isOpening) then
    -- Lines that only open long spans: the innermost bar is drawn first.
    let deepest := placed.foldl (fun d p => max d p.drop) 0
    (placed.map fun p => { p with drop := deepest - p.drop }, rows - 1)
  else (placed, rows)

end OperatorPeg.Snippet
