import OperatorPeg.Proofs.ParseRuns
import OperatorPeg.Proofs.References
import OperatorPeg.Proofs.Shift.States
import OperatorPeg.Proofs.Termination

/-!
# Terminals that do not look around

A regex without conditions on what is around a position sees nothing but what is ahead
of it, up to the end of the range. So where its match ends does not depend on what
stands before the range or behind it.
-/

namespace OperatorPeg

namespace Regex

/-- Whether the regex has a condition on the characters around a position. -/
def looksAround : Regex → Bool
  | .empty | .oneOf _ => false
  | .look _ => true
  | .seq a b | .alt a b => a.looksAround || b.looksAround
  | .rounds body _ _ _ => body.looksAround

variable {before : List Char}

/-! ## Lists of ends -/

theorem reaches_shift (c : Cursor) (found : List Cursor) :
    reaches (c.shift before) (found.map (Cursor.shift before)) = reaches c found := by
  simp only [reaches, List.any_map, Function.comp_def, Cursor.beq_offset_shift]

theorem distinctFrom_shift (found cs : List Cursor) :
    distinctFrom (found.map (Cursor.shift before)) (cs.map (Cursor.shift before))
      = (distinctFrom found cs).map (Cursor.shift before) := by
  induction cs generalizing found with
  | nil => rfl
  | cons c cs ih =>
      simp only [List.map_cons, distinctFrom, reaches_shift]
      split
      · exact ih found
      · rw [List.map_cons, ← ih]
        rfl

theorem orElse_shift (xs ys : List Cursor) :
    orElse (xs.map (Cursor.shift before)) (ys.map (Cursor.shift before))
      = (orElse xs ys).map (Cursor.shift before) := by
  match xs, ys with
  | [], ys => rfl
  | x :: xs, [] => rfl
  | x :: xs, y :: ys =>
      show distinctFrom [] ((x :: xs).map _ ++ (y :: ys).map _) = _
      rw [← List.map_append]
      exact distinctFrom_shift [] _

/-- The ends of `f` further on are those of `g`. -/
def EndsShift (before : List Char) (g f : Cursor → List Cursor) : Prop :=
  ∀ c, g (c.shift before) = (f c).map (Cursor.shift before)

variable {g f : Cursor → List Cursor}

theorem thenEnds_shift (hgf : EndsShift before g f) (cs : List Cursor) :
    thenEnds g (cs.map (Cursor.shift before)) = (thenEnds f cs).map (Cursor.shift before) := by
  match cs with
  | [] => rfl
  | [c] => exact hgf c
  | c :: d :: cs =>
      have hflat : ((c :: d :: cs).map (Cursor.shift before)).flatMap g
          = ((c :: d :: cs).flatMap f).map (Cursor.shift before) := by
        rw [List.flatMap_map, List.map_flatMap, funext hgf]
      show distinctFrom [] (((c :: d :: cs).map (Cursor.shift before)).flatMap g) = _
      rw [hflat]
      exact distinctFrom_shift [] _

/-! ## Rounds of a repetition -/

section Rounds

variable (hgf : EndsShift before g f) (greedy : Bool)

include hgf

theorem exactly_shift (n : Nat) (cs : List Cursor) :
    exactly g n (cs.map (Cursor.shift before))
      = (exactly f n cs).map (Cursor.shift before) := by
  induction n generalizing cs with
  | zero => rfl
  | succ n ih =>
      cases cs with
      | nil => rfl
      | cons c cs =>
          simp only [List.map_cons, exactly]
          rw [← List.map_cons, thenEnds_shift hgf, ih]

/-- Going through the ends of a body, further on or not. -/
theorem foldl_shift {α : Type} (move : α → α) {step' step : α → Cursor → α}
    (hstep : ∀ a d, step' (move a) (d.shift before) = move (step a d)) (c : Cursor) (a : α) :
    (g (c.shift before)).foldl step' (move a) = move ((f c).foldl step a) := by
  rw [hgf c, List.foldl_map]
  exact List.foldl_hom move fun a d => hstep a d

omit hgf in
/-- What was visited and found, further on. -/
def Visits.shift (before : List Char) (v : Visits) : Visits where
  seen := v.seen.map fun (n, o) => (n, o + Text.byteLength before)
  found := v.found.map (Cursor.shift before)

omit hgf in
theorem contains_seen_shift (seen : List (Nat × Nat)) (n o by' : Nat) :
    (seen.map fun (n, o) => (n, o + by')).contains (n, o + by') = seen.contains (n, o) := by
  rw [Bool.eq_iff_iff]
  simp only [List.contains_iff_mem, List.mem_map, Prod.mk.injEq, Prod.exists]
  constructor
  · rintro ⟨_, _, hmem, rfl, ho⟩
    rwa [← Nat.add_right_cancel ho]
  · exact fun hmem => ⟨n, o, hmem, rfl, rfl⟩

theorem atMost_shift (n : Nat) (c : Cursor) (v : Visits) :
    atMost g greedy n (c.shift before) (v.shift before)
      = (atMost f greedy n c v).shift before := by
  induction n generalizing c v with
  | zero =>
      simp only [atMost, Visits.shift, reaches_shift]
      split <;> rfl
  | succ n ih =>
      have hstop (v : Visits) :
          (if reaches (c.shift before) (v.shift before).found then v.shift before
            else { v.shift before with found := c.shift before :: (v.shift before).found })
          = (if reaches c v.found then v else { v with found := c :: v.found }).shift before := by
        simp only [Visits.shift, reaches_shift]
        split <;> rfl
      have hround (v : Visits) (next : Cursor) :
          (if (v.shift before).seen.contains (n, (next.shift before).offset) then v.shift before
            else atMost g greedy n (next.shift before)
              { v.shift before with
                seen := (n, (next.shift before).offset) :: (v.shift before).seen })
          = (if v.seen.contains (n, next.offset) then v
              else atMost f greedy n next
                { v with seen := (n, next.offset) :: v.seen }).shift before := by
        have hseen : (v.shift before).seen.contains (n, (next.shift before).offset)
            = v.seen.contains (n, next.offset) := contains_seen_shift _ _ _ _
        rw [hseen]
        split
        · rfl
        · exact ih next { v with seen := (n, next.offset) :: v.seen }
      simp only [atMost, hstop]
      split
      · rw [foldl_shift hgf (Visits.shift before) hround, hstop]
      · exact foldl_shift hgf (Visits.shift before) hround c _

theorem further_shift (budget : List Char) (c : Cursor) (found : List Cursor) :
    further g greedy budget (c.shift before) (found.map (Cursor.shift before))
      = (further f greedy budget c found).map (Cursor.shift before) := by
  induction budget generalizing c found with
  | nil => rfl
  | cons b budget ih =>
      have hround (found : List Cursor) (next : Cursor) :
          (if (next.shift before).offset == (c.shift before).offset ||
              reaches (next.shift before) (found.map (Cursor.shift before)) then
            found.map (Cursor.shift before)
          else further g greedy budget (next.shift before) (found.map (Cursor.shift before)))
          = (if next.offset == c.offset || reaches next found then found
              else further f greedy budget next found).map (Cursor.shift before) := by
        rw [reaches_shift, Cursor.beq_offset_shift]
        split
        · rfl
        · exact ih next found
      simp only [further]
      split
      · rw [List.map_cons, foldl_shift hgf (List.map (Cursor.shift before)) hround]
      · exact foldl_shift hgf (List.map (Cursor.shift before)) hround c (c :: found)

theorem firstRound_shift (c : Cursor) (found : List Cursor) :
    firstRound g greedy (c.shift before) (found.map (Cursor.shift before))
      = (firstRound f greedy c found).map (Cursor.shift before) := by
  refine foldl_shift hgf (List.map (Cursor.shift before)) (fun found next => ?_) c found
  rw [Cursor.beq_offset_shift, reaches_shift, reaches_shift]
  split
  · split <;> rfl
  · split
    · rfl
    · exact further_shift hgf greedy next.ahead next found

theorem oneOrMore_shift : EndsShift before (oneOrMore g greedy) (oneOrMore f greedy) := by
  intro c
  rw [oneOrMore, oneOrMore, List.map_reverse, ← firstRound_shift hgf greedy c []]
  rfl

theorem zeroOrMore_shift : EndsShift before (zeroOrMore g greedy) (zeroOrMore f greedy) := by
  intro c
  have hnone := firstRound_shift hgf greedy c []
  have hself := firstRound_shift hgf greedy c [c]
  rw [List.map_nil] at hnone
  simp only [zeroOrMore, hnone, reaches_shift]
  split
  · split <;> simp only [List.map_reverse, List.map_cons]
  · rw [List.map_reverse, ← hself]
    rfl

theorem repeatEnds_shift (least : Nat) (most : Option Nat) :
    EndsShift before (repeatEnds g greedy least most) (repeatEnds f greedy least most) := by
  intro c
  have hexactly (n : Nat) := exactly_shift hgf n [c]
  simp only [List.map_singleton] at hexactly
  match most, least with
  | none, 0 => exact zeroOrMore_shift hgf greedy c
  | none, n + 1 =>
      simp only [repeatEnds, hexactly]
      exact thenEnds_shift (oneOrMore_shift hgf greedy) _
  | some m, n =>
      simp only [repeatEnds, hexactly]
      refine thenEnds_shift (fun d => ?_) _
      rw [List.map_reverse]
      exact congrArg (fun v => v.found.reverse) (atMost_shift hgf greedy (m - n) d ⟨[], []⟩)

end Rounds

/-- **A regex that does not look around ends at the same texts**, whatever is before the range
and behind it. -/
theorem ends_shift (beyond beyond' : List Char) {r : Regex} (hr : r.looksAround = false) :
    EndsShift before (r.ends beyond') (r.ends beyond) := by
  induction r with
  | empty => exact fun c => rfl
  | oneOf set =>
      intro c
      simp only [ends, Cursor.step?_shift]
      rcases c.step? with _ | ⟨ch, next⟩
      · rfl
      · simp only [Option.map_some]
        split <;> rfl
  | look condition => cases hr
  | seq a b iha ihb =>
      rw [looksAround, Bool.or_eq_false_iff] at hr
      intro c
      simp only [ends]
      rw [iha hr.1 c]
      exact thenEnds_shift (ihb hr.2) _
  | alt a b iha ihb =>
      rw [looksAround, Bool.or_eq_false_iff] at hr
      intro c
      simp only [ends]
      rw [iha hr.1 c, ihb hr.2 c]
      exact orElse_shift _ _
  | rounds body least most greedy ih => exact repeatEnds_shift (ih hr) greedy least most

end Regex

/-! ## Terminals -/

/-- Whether a terminal is a regex that looks around. -/
def Terminal.looksAround : Terminal → Bool
  | .literal _ => false
  | .regex _ meaning => meaning.looksAround

theorem Terminal.matchEnd?_shift {t : Terminal} (ht : t.looksAround = false)
    (before beyond beyond' : List Char) (c : Cursor) :
    t.matchEnd? beyond' (c.shift before) = (t.matchEnd? beyond c).map (Cursor.shift before) := by
  cases t with
  | literal text => exact c.after?_shift before text.toList
  | regex source meaning =>
      simp only [matchEnd?, Regex.matchEnd?, Regex.ends_shift beyond beyond' ht c, List.head?_map]

/-! ## Patterns -/

namespace Pattern

mutual
/-- Whether a terminal in the pattern looks around. -/
def looksAround : Pattern → Bool
  | terminal t => t.looksAround
  | lookup _ => false
  | sequence steps => anyStepLooksAround steps
  | choice alternatives => anyLooksAround alternatives
  | quantifier inner _ _ | label _ inner | lookahead inner _ => inner.looksAround
  | table operators => anyOperatorLooksAround operators

def anyStepLooksAround : List Step → Bool
  | [] => false
  | ⟨_, p⟩ :: steps => p.looksAround || anyStepLooksAround steps

def anyLooksAround : List Pattern → Bool
  | [] => false
  | p :: ps => p.looksAround || anyLooksAround ps

def anyOperatorLooksAround : List Operator → Bool
  | [] => false
  | ⟨_, _, _, p⟩ :: ops => p.looksAround || anyOperatorLooksAround ops
end

theorem anyStepLooksAround_eq_any (steps : List Step) :
    anyStepLooksAround steps = (steps.map (·.pattern)).any looksAround := by
  induction steps with
  | nil => rfl
  | cons step steps ih =>
      obtain ⟨keep, p⟩ := step
      rw [anyStepLooksAround, ih, List.map_cons, List.any_cons]

theorem anyLooksAround_eq_any (ps : List Pattern) : anyLooksAround ps = ps.any looksAround := by
  induction ps with
  | nil => rfl
  | cons p ps ih => rw [anyLooksAround, ih, List.any_cons]

theorem anyOperatorLooksAround_eq_any (ops : List Operator) :
    anyOperatorLooksAround ops = (ops.map (·.pattern)).any looksAround := by
  induction ops with
  | nil => rfl
  | cons op ops ih =>
      obtain ⟨name, left, right, p⟩ := op
      rw [anyOperatorLooksAround, ih, List.map_cons, List.any_cons]

/-- If a pattern does not look around, none of its parts does. -/
theorem looksAround_of_mem_parts {p inner : Pattern} (hp : p.looksAround = false)
    (h : inner ∈ p.parts) : inner.looksAround = false := by
  cases p with
  | terminal | lookup => cases h
  | sequence steps =>
      rw [looksAround, anyStepLooksAround_eq_any, List.any_eq_false] at hp
      simpa using hp inner h
  | choice alternatives =>
      rw [looksAround, anyLooksAround_eq_any, List.any_eq_false] at hp
      simpa using hp inner h
  | quantifier | label | lookahead => exact List.mem_singleton.mp h ▸ hp
  | table operators =>
      rw [looksAround, anyOperatorLooksAround_eq_any, List.any_eq_false] at hp
      simpa using hp inner h

end Pattern

/-- Whether a terminal of the rules looks around. -/
def Rules.looksAround (rules : Rules) : Bool := rules.entries.any (·.2.looksAround)

theorem Rules.looksAround_of_get? {rules : Rules} (h : rules.looksAround = false) {key : String}
    {p : Pattern} (hget : rules.get? key = some p) : p.looksAround = false := by
  rw [looksAround, List.any_eq_false] at h
  simpa using h _ (mem_entries_of_get? hget)

/-- Whether a terminal of the pattern looks around that a parse begins with. -/
def Start.looksAround : Start → Bool
  | .rule _ => false
  | .pattern p => p.looksAround

theorem Start.looksAround_of_pattern? {rules : Rules} (hrules : rules.looksAround = false)
    {start : Start} (hstart : start.looksAround = false) {p : Pattern}
    (hp : start.pattern? rules = some p) : p.looksAround = false := by
  cases start with
  | rule name => exact Rules.looksAround_of_get? hrules hp
  | pattern q =>
      cases hp
      exact hstart

end OperatorPeg
