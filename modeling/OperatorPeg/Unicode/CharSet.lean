/-!
# Sets of characters

A set is an ascending list of closed ranges of code points with a gap after
each, so that equal sets have equal lists. Union inserts range by range; the
other operations come from union and complement.
-/

namespace OperatorPeg

/-- The code points from `first` to `last`, both included. -/
structure CodeRange where
  first : Nat
  last : Nat
  deriving DecidableEq, Repr

/-- A set of code points. -/
structure CharSet where
  /-- Ascending, with at least one code point missing between two ranges. -/
  ranges : List CodeRange
  deriving DecidableEq, Repr

namespace CharSet

/-- The greatest code point. -/
def maxCode : Nat := 0x10FFFF

def empty : CharSet := ⟨[]⟩

/-- Put a range into an ascending list, joining what it touches. -/
def insertRange (first last : Nat) : List CodeRange → List CodeRange
  | [] => [⟨first, last⟩]
  | r :: rs =>
      if last + 1 < r.first then ⟨first, last⟩ :: r :: rs
      else if r.last + 1 < first then r :: insertRange first last rs
      else insertRange (min first r.first) (max last r.last) rs

def insert (s : CharSet) (first last : Nat) : CharSet := ⟨insertRange first last s.ranges⟩

def range (first last : Nat) : CharSet := ⟨[⟨first, last⟩]⟩

def singleton (c : Char) : CharSet := range c.toNat c.toNat

def ofPairs (pairs : List (Nat × Nat)) : CharSet :=
  pairs.foldl (fun s p => s.insert p.1 p.2) empty

def containsCode (code : Nat) : List CodeRange → Bool
  | [] => false
  | r :: rs => if code < r.first then false else code ≤ r.last || containsCode code rs

def contains (s : CharSet) (c : Char) : Bool := containsCode c.toNat s.ranges

def union (s t : CharSet) : CharSet :=
  t.ranges.foldl (fun acc r => acc.insert r.first r.last) s

/-- The gaps of an ascending list, from `next` up to `last`. -/
def gaps (next last : Nat) : List CodeRange → List CodeRange
  | [] => if next ≤ last then [⟨next, last⟩] else []
  | r :: rs =>
      if next < r.first then ⟨next, r.first - 1⟩ :: gaps (r.last + 1) last rs
      else gaps (r.last + 1) last rs

/-- What is missing up to `last`. -/
def complementTo (last : Nat) (s : CharSet) : CharSet := ⟨gaps 0 last s.ranges⟩

/-- All other code points. -/
def complement (s : CharSet) : CharSet := s.complementTo maxCode

def inter (s t : CharSet) : CharSet := (s.complement.union t.complement).complement

def diff (s t : CharSet) : CharSet := s.inter t.complement

/-- What is in exactly one of the two. -/
def symmDiff (s t : CharSet) : CharSet := (s.union t).diff (s.inter t)

/-- Whether no code point above `last` is in the set. -/
def isWithin (last : Nat) (s : CharSet) : Bool := s.ranges.all (·.last ≤ last)

end CharSet

end OperatorPeg
