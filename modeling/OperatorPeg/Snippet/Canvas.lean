import OperatorPeg.Text.Bytes
import OperatorPeg.Text.Palette

/-!
# Canvases

A snippet is drawn on a grid of cells, each with a character and the ink it is
written in. Writing over a cell replaces it; cells that nothing was written on are
blank. Inks become escape sequences only when the canvas is printed.
-/

namespace OperatorPeg.Snippet

/-- What a cell is written in. -/
inductive Ink where
  | none
  /-- The severity, and the mark and label of what a notice is about. -/
  | accent
  | title
  /-- Line numbers, bars, and the marks and labels of everything else. -/
  | side
  deriving DecidableEq, Repr

structure Cell where
  char : Char
  ink : Ink
  deriving DecidableEq, Repr

def Cell.blank : Cell := ⟨' ', .none⟩

/-- The cells of a text in one ink. -/
def Ink.cells (ink : Ink) (text : List Char) : List Cell := text.map (⟨·, ink⟩)

/-- Rows of cells. A row ends with the last cell that was written. -/
structure Canvas where
  rows : List (List Cell)
  deriving Repr

namespace Canvas

def empty : Canvas := ⟨[]⟩

def height (c : Canvas) : Nat := c.rows.length

/-- Write cells over a row, from column `column` on. -/
def overlay (column : Nat) (cells row : List Cell) : List Cell :=
  let before := row.take column
  before ++ List.replicate (column - before.length) .blank ++ cells ++
    row.drop (column + cells.length)

/-- Change one row; rows before it come into being. -/
def changeRow (f : List Cell → List Cell) : Nat → List (List Cell) → List (List Cell)
  | 0, [] => [f []]
  | 0, row :: rows => f row :: rows
  | n + 1, [] => [] :: changeRow f n []
  | n + 1, row :: rows => row :: changeRow f n rows

/-- Write a text at a row and column. -/
def write (row column : Nat) (text : List Char) (ink : Ink) (c : Canvas) : Canvas :=
  if text.isEmpty then c else ⟨changeRow (overlay column (ink.cells text)) row c.rows⟩

/-- Write one character. -/
def put (row column : Nat) (char : Char) (ink : Ink) (c : Canvas) : Canvas :=
  c.write row column [char] ink

/-- Write a text after the last cell of a row. -/
def append (row : Nat) (text : List Char) (ink : Ink) (c : Canvas) : Canvas :=
  ⟨changeRow (· ++ ink.cells text) row c.rows⟩

/-- Write one character into every column from `first` up to and without `last`. -/
def writeAcross (row first last : Nat) (char : Char) (ink : Ink) (c : Canvas) : Canvas :=
  c.write row first (List.replicate (last - first) char) ink

/-- Write one character into every row from `first` up to and without `last`. -/
def writeDown (first last column : Nat) (char : Char) (ink : Ink) (c : Canvas) : Canvas :=
  (List.range' first (last - first)).foldl (fun c row => c.put row column char ink) c

/-- Take out what is between two columns of a row and write a text in its place, as
far as the row reaches. -/
def shorten (row first last : Nat) (text : List Char) (ink : Ink) (c : Canvas) : Canvas :=
  let replace := fun (cells : List Cell) =>
    if first = last || cells.length < first || cells.length < last then cells
    else cells.take first ++ ink.cells text ++ cells.drop last
  ⟨changeRow replace row c.rows⟩

/-- The escape sequence that begins a run of cells, given the one for accents. -/
def code (accent : String) : Ink → String
  | .none => ""
  | .accent => accent
  | .title => "\x1b[1m"
  | .side => "\x1b[1m\x1b[94m"

/-- The text of a row in colours: each run of one ink is closed. -/
def printCells (accent : String) (current : Ink) : List Cell → String
  | [] => if current = .none then "" else Palette.reset
  | cell :: cells =>
      if cell.ink = current then cell.char.toString ++ printCells accent current cells
      else
        (if current = .none then "" else Palette.reset) ++ code accent cell.ink ++
          cell.char.toString ++ printCells accent cell.ink cells

/-- The canvas as text, in colours if the palette has any. -/
def print (palette : Palette) (accent : String) (c : Canvas) : String :=
  Text.joinWith "\n" <| c.rows.map fun row =>
    match palette with
    | .plain => String.ofList (row.map (·.char))
    | .ansi => printCells accent .none row

end Canvas

end OperatorPeg.Snippet
