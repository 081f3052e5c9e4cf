import OperatorPeg.Regex.Basic
import OperatorPeg.Text.Cursor

/-!
# Where a match can end

`Regex.ends` lists the positions where an anchored match can end, the most
preferred first and each position once; the match taken is the first of them.
Preference is that of a backtracking search: the left alternative before the
right one, and in a greedy repetition another round before stopping.

A round of an unbounded repetition that consumes nothing ends the repetition
if it is the first round and is not tried again later. A position is explored
once within a repetition, since a second visit finds no new end; this also
keeps the search polynomial.
-/

namespace OperatorPeg

namespace Regex

/-- Whether some cursor of the list stands where `c` stands. -/
def reaches (c : Cursor) (found : List Cursor) : Bool := found.any (·.offset == c.offset)

/-- The cursors at positions that do not occur earlier, in the list or in `found`. -/
def distinctFrom (found : List Cursor) : List Cursor → List Cursor
  | [] => []
  | c :: cs =>
      if reaches c found then distinctFrom found cs else c :: distinctFrom (c :: found) cs

/-- Two preference lists, one after the other. -/
def orElse : List Cursor → List Cursor → List Cursor
  | [], ys => ys
  | xs, [] => xs
  | xs, ys => distinctFrom [] (xs ++ ys)

/-- Go on from every end found so far. -/
def thenEnds (next : Cursor → List Cursor) : List Cursor → List Cursor
  | [] => []
  | [c] => next c
  | cs => distinctFrom [] (cs.flatMap next)

/-- Exactly `n` rounds. -/
def exactly (body : Cursor → List Cursor) : Nat → List Cursor → List Cursor
  | 0, cs => cs
  | _ + 1, [] => []
  | n + 1, c :: cs => exactly body n (thenEnds body (c :: cs))

/-- Positions visited with a number of rounds left, and ends found, latest first. -/
structure Visits where
  seen : List (Nat × Nat)
  found : List Cursor

/-- At most `n` more rounds from `c`. -/
def atMost (body : Cursor → List Cursor) (greedy : Bool) : Nat → Cursor → Visits → Visits
  | 0, c, v => if reaches c v.found then v else { v with found := c :: v.found }
  | n + 1, c, v =>
      let stop := fun v : Visits =>
        if reaches c v.found then v else { v with found := c :: v.found }
      let round := fun (v : Visits) (next : Cursor) =>
        if v.seen.contains (n, next.offset) then v
        else atMost body greedy n next { v with seen := (n, next.offset) :: v.seen }
      if greedy then stop ((body c).foldl round v) else (body c).foldl round (stop v)

/-- Any number of further rounds from `c`, each consuming something; `found`
holds the ends so far, latest first. The characters ahead bound the rounds. -/
def further (body : Cursor → List Cursor) (greedy : Bool) :
    List Char → Cursor → List Cursor → List Cursor
  | [], c, found => c :: found
  | _ :: budget, c, found =>
      let round := fun (found : List Cursor) (next : Cursor) =>
        if next.offset == c.offset || reaches next found then found
        else further body greedy budget next found
      if greedy then c :: (body c).foldl round found else (body c).foldl round (c :: found)

/-- A first round from `c`, then any number of further ones. -/
def firstRound (body : Cursor → List Cursor) (greedy : Bool) (c : Cursor)
    (found : List Cursor) : List Cursor :=
  (body c).foldl (fun found next =>
    if next.offset == c.offset then (if reaches c found then found else c :: found)
    else if reaches next found then found
    else further body greedy next.ahead next found) found

/-- One round or more. -/
def oneOrMore (body : Cursor → List Cursor) (greedy : Bool) (c : Cursor) : List Cursor :=
  (firstRound body greedy c []).reverse

/-- Any number of rounds. -/
def zeroOrMore (body : Cursor → List Cursor) (greedy : Bool) (c : Cursor) : List Cursor :=
  if greedy then
    let found := firstRound body greedy c []
    (if reaches c found then found else c :: found).reverse
  else
    (firstRound body greedy c [c]).reverse

/-- From `least` to `most` rounds. -/
def repeatEnds (body : Cursor → List Cursor) (greedy : Bool) (least : Nat)
    (most : Option Nat) (c : Cursor) : List Cursor :=
  match most, least with
  | none, 0 => zeroOrMore body greedy c
  | none, n + 1 => thenEnds (oneOrMore body greedy) (exactly body n [c])
  | some m, n =>
      thenEnds (fun d => (atMost body greedy (m - n) d ⟨[], []⟩).found.reverse)
        (exactly body n [c])

/-- Where a match that starts at `c` can end, most preferred first. `beyond` is
what follows the range that the cursor moves in: a match does not enter it,
but assertions see it. -/
def ends (beyond : List Char) : Regex → Cursor → List Cursor
  | .empty, c => [c]
  | .oneOf set, c =>
      match c.step? with
      | some (ch, next) => if set.contains ch then [next] else []
      | none => []
  | .look condition, c =>
      if condition.holds c.previous? (c.ahead.head? <|> beyond.head?) then [c] else []
  | .seq a b, c => thenEnds (ends beyond b) (ends beyond a c)
  | .alt a b, c => orElse (ends beyond a c) (ends beyond b c)
  | .rounds body least most greedy, c => repeatEnds (ends beyond body) greedy least most c

/-- The end of the match at `c`, if there is one. -/
def matchEnd? (r : Regex) (beyond : List Char) (c : Cursor) : Option Cursor :=
  (r.ends beyond c).head?

end Regex

end OperatorPeg
