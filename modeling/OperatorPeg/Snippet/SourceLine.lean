import OperatorPeg.Text.Bytes
import OperatorPeg.Text.Span
import OperatorPeg.Text.Visible

/-!
# Source lines

A source text is shown line by line. A line knows its number and its bytes; a place
is a byte offset with the line it is on and how far into the line that is. An
offset at the end of a line, or after the last one, still has a place: one
character after the end of the line's text.
-/

namespace OperatorPeg.Snippet

/-- A line of a source text. -/
structure SourceLine where
  /-- Counted from one. -/
  number : Nat
  /-- Byte offset of the first character. -/
  start : Nat
  /-- The line without what ends it. -/
  text : List Char
  /-- Bytes of the line feed at the end, and of a carriage return before it. -/
  ending : Nat
  deriving DecidableEq, Repr

namespace SourceLine

/-- Byte offset of the end of the text. -/
def textEnd (l : SourceLine) : Nat := l.start + Text.byteLength l.text

/-- Byte offset of the end of the line. -/
def stop (l : SourceLine) : Nat := l.textEnd + l.ending

/-- The line of a text whose characters are given last first, and which ends with a
line feed. -/
def closed (number start : Nat) : List Char → SourceLine
  | '\r' :: reversed => ⟨number, start, reversed.reverse, 2⟩
  | reversed => ⟨number, start, reversed.reverse, 1⟩

/-- The lines of a text; `reversed` holds what the current one has so far. -/
def linesFrom (number start : Nat) (reversed : List Char) : List Char → List SourceLine
  | [] => if reversed.isEmpty then [] else [⟨number, start, reversed.reverse, 0⟩]
  | '\n' :: cs =>
      let line := closed number start reversed
      line :: linesFrom (number + 1) line.stop [] cs
  | c :: cs => linesFrom number start (c :: reversed) cs

/-- The lines of a text. An empty text has one. -/
def linesOf (text : List Char) : List SourceLine :=
  match linesFrom 1 0 [] text with
  | [] => [⟨1, 0, [], 0⟩]
  | lines => lines

/-- The line that an offset is on; the last one if the offset is after all of them. -/
def at? (lines : List SourceLine) (offset : Nat) : Option SourceLine :=
  match lines.find? fun l => l.start ≤ offset && offset < l.stop with
  | some line => some line
  | none => lines.getLast?

/-- Columns of blanks at the start of the text. -/
def indentation (l : SourceLine) : Nat :=
  (l.text.takeWhile Unicode.isWhiteSpace).foldl (fun n c => n + if c = '\t' then 4 else 1) 0

/-- Whether the line says so little that it need not be shown: it is blank, holds
one bracket or a plain comment. -/
def isMeagre (l : SourceLine) : Bool :=
  let text := String.ofList (Text.trim l.text)
  (text.startsWith "//" && !text.startsWith "///" && !text.startsWith "//!") ||
    ["", "\x7b", "\x7d", "(", ")", "[", "]"].contains text

end SourceLine

/-- A byte offset and where on a line it is. -/
structure Place where
  line : Nat
  /-- Characters before it on its line. -/
  char : Nat
  /-- Columns before it on its line. -/
  column : Nat
  offset : Nat
  deriving DecidableEq, Repr

/-- The place of an offset on a line. -/
def SourceLine.placeOf (l : SourceLine) (offset : Nat) : Place :=
  let before := (Text.cut (offset - l.start) l.text).1
  let past := if l.textEnd < offset then 1 else 0
  ⟨l.number, before.length + past, Text.visibleColumns before, offset⟩

/-- The place of an offset. -/
def placeIn (lines : List SourceLine) (offset : Nat) : Place :=
  match SourceLine.at? lines offset with
  | some line => line.placeOf offset
  | none => ⟨1, 0, 0, offset⟩

/-- The places of the two ends of a span. If it stops on another line than it starts
on, inside that line's ending, it stops after one more column. -/
def placesOf (lines : List SourceLine) (s : Span) : Place × Place :=
  let start := placeIn lines s.start
  if s.isEmpty then (start, start)
  else
    let stop := placeIn lines s.stop
    let inEnding := (SourceLine.at? lines s.stop).any (·.textEnd < s.stop)
    if start.line ≠ stop.line && inEnding then
      (start, { stop with char := stop.char + 1, column := stop.column + 1 })
    else (start, stop)

end OperatorPeg.Snippet
