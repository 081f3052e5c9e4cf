import OperatorPeg.Text.Bytes

/-!
# Cursors

A cursor is a position in a source text, held as the two sides of the text: the
characters it has passed, nearest first, and the ones ahead up to the end of
the parsed range. What lies beyond the range is fixed during a parse and not
part of the cursor. `offset` is the byte offset of the position in the whole
source.
-/

namespace OperatorPeg

/-- A position between two characters of a source text. -/
structure Cursor where
  /-- Passed characters, nearest first, back to the start of the source. -/
  passed : List Char
  /-- Characters ahead, up to the end of the parsed range. -/
  ahead : List Char
  /-- Bytes passed. -/
  offset : Nat
  deriving DecidableEq, Repr

namespace Cursor

/-- The cursor at the start of a text that is parsed as a whole. -/
def atStart (source : List Char) : Cursor := ⟨[], source, 0⟩

def previous? (c : Cursor) : Option Char := c.passed.head?

/-- The character ahead, and the cursor after it. -/
def step? (c : Cursor) : Option (Char × Cursor) :=
  match c.ahead with
  | [] => none
  | ch :: rest => some (ch, ⟨ch :: c.passed, rest, c.offset + ch.utf8Size⟩)

/-- The cursor after `text`, if `text` is ahead. -/
def after? : List Char → Cursor → Option Cursor
  | [], c => some c
  | t :: text, c =>
      match c.step? with
      | some (ch, next) => if ch = t then after? text next else none
      | none => none

/-- The characters between `c` and a cursor that was reached from it. -/
def textUpTo (c stop : Cursor) : List Char :=
  (Text.cut (stop.offset - c.offset) c.ahead).1

end Cursor

/-- A range of a source text, ready to be parsed: the cursor at its start and
what follows its end. -/
structure Window where
  start : Cursor
  beyond : List Char
  deriving Repr

/-- The part of `source` from byte `start` to byte `stop`. Both bounds are
clamped to the text, the first one also to the second, and move back to the
nearest position between two characters. -/
def Window.ofRange (source : List Char) (start stop : Nat) : Window :=
  let (inside, beyond) := Text.cut stop source
  let (before, ahead) := Text.cut start inside
  ⟨⟨before.reverse, ahead, Text.byteLength before⟩, beyond⟩

end OperatorPeg
