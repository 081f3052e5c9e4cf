/-!
# Spans

A span is a half-open range of byte offsets into a text.
-/

namespace OperatorPeg

/-- The bytes from `start` up to and without `stop`. -/
structure Span where
  start : Nat
  stop : Nat
  deriving DecidableEq, Repr

namespace Span

/-- The span without bytes at `offset`. -/
def empty (offset : Nat) : Span := ⟨offset, offset⟩

/-- Number of bytes. -/
def length (s : Span) : Nat := s.stop - s.start

def isEmpty (s : Span) : Bool := s.start == s.stop

/-- The smallest span that holds both. -/
def cover (s t : Span) : Span := ⟨min s.start t.start, max s.stop t.stop⟩

/-- Spans are ordered by where they start, then by where they stop. -/
def compare (s t : Span) : Ordering :=
  (Ord.compare s.start t.start).then (Ord.compare s.stop t.stop)

end Span

end OperatorPeg
