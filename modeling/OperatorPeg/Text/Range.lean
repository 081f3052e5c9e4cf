import OperatorPeg.Text.Bytes
import OperatorPeg.Text.Span

/-!
# Ranges to point at

A span may come from anywhere. Before a source text is pointed at, the span is
fitted to it: moved back to where a character starts, cut off at the end of the
text, and made one character long if there is nothing in it.
-/

namespace OperatorPeg.Text

/-- The greatest position between two characters that is not after `offset`. -/
def floorOffset (text : List Char) (offset : Nat) : Nat := byteLength (cut offset text).1

/-- Bytes of the character at `offset`, and 0 at the end. -/
def widthAt (text : List Char) (offset : Nat) : Nat :=
  match (cut offset text).2 with
  | [] => 0
  | c :: _ => c.utf8Size

/-- Whether an offset is inside a character, and so no position of the text. -/
def isInside (text : List Char) (offset : Nat) : Bool :=
  floorOffset text offset < min offset (byteLength text)

/-- The span that covers the character at `offset`. -/
def pointRange (offset : Nat) (text : List Char) : Span :=
  let start := floorOffset text offset
  ⟨start, start + widthAt text start⟩

/-- The part of the text that a span covers, or the character at its start. -/
def coveredRange (s : Span) (text : List Char) : Span :=
  let start := floorOffset text s.start
  let stop := max start (min s.stop (byteLength text))
  if start < stop then ⟨start, stop⟩ else pointRange start text

theorem floorOffset_le (text : List Char) (offset : Nat) : floorOffset text offset ≤ offset :=
  byteLength_cut_le offset text

theorem floorOffset_le_byteLength (text : List Char) (offset : Nat) :
    floorOffset text offset ≤ byteLength text := by
  have h := congrArg byteLength (cut_append offset text)
  rw [byteLength_append] at h
  unfold floorOffset
  omega

end OperatorPeg.Text
