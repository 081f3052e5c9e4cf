import OperatorPeg.Snippet.Mark

/-!
# Margins

Lines that are too wide for the terminal are cut at both sides. All lines of a
snippet are cut at the same columns, chosen so that the marks and, if possible,
their labels stay in view.
-/

namespace OperatorPeg.Snippet

/-- The columns of the terminal. -/
def terminalWidth : Nat := 140

/-- What stands for code that is left out. -/
def ellipsis : List Char := ['.', '.', '.']

/-- Which columns of the code are shown. -/
structure Margin where
  /-- Columns left out at the left. -/
  left : Nat
  /-- The column after the last one shown. -/
  right : Nat
  /-- Columns that there are for code. -/
  room : Nat
  deriving DecidableEq, Repr

/-- What margins are chosen by: how far lines, marks and labels reach. -/
structure Reach where
  /-- Blank columns that all lines begin with. -/
  indentation : Nat
  marksFrom : Nat
  marksTo : Nat
  labelsTo : Nat
  linesTo : Nat

def least (numbers : List Nat) : Nat :=
  match numbers with
  | [] => 0
  | n :: ns => ns.foldl min n

def greatest (numbers : List Nat) : Nat := numbers.foldl max 0

/-- How far the marked lines reach. -/
def Reach.ofLines (lines : List MarkedLine) : Reach :=
  let marks := lines.flatMap (·.marks)
  let ends := marks.flatMap fun m => [m.start, m.stop]
  let isBlank := fun (l : MarkedLine) => l.line.text.all Unicode.isWhiteSpace
  { indentation := least ((lines.filter (!isBlank ·)).map (·.line.indentation))
    marksFrom := least ends
    marksTo := greatest ends
    labelsTo := greatest (marks.map fun m =>
      m.stop + if m.hasLabel then Text.columns m.label.toList + 1 else 0)
    linesTo := greatest (lines.map fun l => Text.visibleColumns l.line.text) }

/-- Choose margins. Deep indentation is left out in any case, and if that does not
do, as much as the marks with their labels, or the marks alone, allow. -/
def Margin.choose (room : Nat) (r : Reach) : Margin :=
  let padding := 6
  let blank := r.indentation - padding
  let first := r.marksFrom - padding
  let last := r.marksTo + padding
  let labelsEnd := r.labelsTo + padding
  let left := if 20 < blank then blank - 16 else 0
  let right := max r.linesTo left
  if right - left ≤ room then ⟨left, right, room⟩
  else if labelsEnd - blank ≤ room then ⟨blank, blank + room, room⟩
  else if labelsEnd - first ≤ room then
    let left := first - (room - (labelsEnd - first)) / 2
    ⟨left, left + room, room⟩
  else if last - first ≤ room then
    let left := first - (room - (last - first)) / 5 * 2
    ⟨left, left + room, room⟩
  else ⟨first, last, room⟩

/-- Columns left out at the left of a line of this width. -/
def Margin.leftOf (m : Margin) (width : Nat) : Nat := min m.left width

/-- The column after the last one shown of a line of this width. -/
def Margin.rightOf (m : Margin) (width : Nat) : Nat :=
  if width - m.left ≤ m.room then width else min width m.right

end OperatorPeg.Snippet
