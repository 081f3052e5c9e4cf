import OperatorPeg.Snippet.Draw
import OperatorPeg.Text.Range

/-!
# Notices

A notice is a message of some severity with a snippet of the source below it. There is
no column to begin or end a mark at inside a character: a notice with such a highlight
is not printed.
-/

namespace OperatorPeg.Snippet

/-- A message about some places of a source text. -/
structure Notice where
  /-- The word that the notice begins with. -/
  severity : String
  /-- The escape sequence for the colour of the severity. -/
  accent : String
  title : String
  source : String
  highlights : List Highlight

/-- A highlight that cannot be marked, since one of its ends is inside a character. -/
structure Undrawable where
  highlight : Highlight
  deriving DecidableEq, Repr

/-- Whether neither end is inside a character of the text. -/
def Highlight.isDrawable (text : List Char) (a : Highlight) : Bool :=
  !Text.isInside text a.span.start && !Text.isInside text a.span.stop

namespace Notice

/-- Draw the title. Further lines of it are indented by the width of the severity. -/
def drawTitle (n : Notice) : Canvas :=
  let lead := n.severity ++ ": "
  let start := (Canvas.empty.append 0 n.severity.toList .accent).append 0 [':', ' '] .title
  match Text.pieces (Text.visible n.title.toList) with
  | [] => start
  | first :: rest =>
      rest.foldl (fun canvas piece =>
        canvas.append canvas.height (List.replicate lead.length ' ' ++ piece) .title)
        (start.append 0 first .title)

/-- Draw the notice. -/
def draw (n : Notice) : Canvas :=
  let lines := SourceLine.linesOf n.source.toList
  let (marked, bars) := markedLines lines n.highlights
  let largest := marked.foldl (fun top l => max top l.line.number) 1
  let digits := (toString largest).length
  let frame : Columns := ⟨digits, bars, ⟨0, 0, 0⟩⟩
  let margin := Margin.choose (terminalWidth - frame.code) (Reach.ofLines marked)
  let columns : Columns := { frame with margin }
  let canvas := n.drawTitle
  drawLines columns lines [] marked (canvas.put canvas.height columns.border '|' .side)

/-- The notice as text. -/
def print (palette : Palette) (n : Notice) : Except Undrawable String :=
  match n.highlights.find? (!·.isDrawable n.source.toList) with
  | some highlight => .error ⟨highlight⟩
  | none => .ok (n.draw.print palette n.accent)

end Notice

end OperatorPeg.Snippet
