import OperatorPeg.Proofs.History
import OperatorPeg.Proofs.Onward
import OperatorPeg.Proofs.Precedence

/-!
# Empty matches that end a parse

An unbounded repetition ends the parse when a round of it matches the empty text, and an
expression when an operator does, unless that leads on to the other kind of operator for
the first time. Neither check ends a loop that would have come to an end by itself: without
the check the loop is back after one iteration or two where it was, with an operand wanted
there or not as before, and so it goes round for ever.

The loops are taken apart into their iterations, each of which can be made with the check
or without. What a pattern matches at a cursor does not depend on what came before, so an
iteration that has not moved repeats itself. An operator that takes both operands or none
changes what is wanted; the check lets one such empty match pass, and the next one leads
back.
-/

namespace OperatorPeg

/-! ## Loops and their iterations -/

/-- What an iteration of a loop comes to. -/
inductive Turn (σ ω : Type) where
  | again (next : σ)
  | ended (result : ω)

namespace Turn

variable {σ ω : Type}

def result? : Turn σ ω → Option ω
  | again _ => none
  | ended result => some result

/-- The first `n` iterations, or fewer if the loop ends before. -/
def iterate (turn : σ → Option (Turn σ ω)) : Nat → σ → Option (Turn σ ω)
  | 0, r => some (again r)
  | n + 1, r =>
      match turn r with
      | some (again next) => iterate turn n next
      | other => other

/-- After `n` iterations the loop goes on, with `next`. -/
def Goes (turn : σ → Option (Turn σ ω)) (n : Nat) (r next : σ) : Prop :=
  iterate turn n r = some (again next)

/-- The loop never ends. -/
def Endless (turn : σ → Option (Turn σ ω)) (r : σ) : Prop := ∀ n, ∃ next, Goes turn n r next

variable {turn : σ → Option (Turn σ ω)}

theorem goes_zero_iff {r next : σ} : Goes turn 0 r next ↔ r = next := by
  simp [Goes, iterate]

theorem iterate_succ_of_again {r between : σ} (h : turn r = some (again between)) (n : Nat) :
    iterate turn (n + 1) r = iterate turn n between := by
  simp only [iterate, h]

theorem goes_succ_iff {n : Nat} {r next : σ} :
    Goes turn (n + 1) r next ↔ ∃ between, turn r = some (again between) ∧
      Goes turn n between next := by
  constructor
  · intro h
    simp only [Goes, iterate] at h
    split at h
    · next between hturn => exact ⟨between, hturn, h⟩
    · next hended => exact absurd h (hended next)
  · rintro ⟨between, hturn, h⟩
    exact (iterate_succ_of_again hturn n).trans h

/-- Another way to make iterations that agrees where the loop goes on leads to the same. -/
theorem Goes.mono {other : σ → Option (Turn σ ω)}
    (hother : ∀ r next, turn r = some (again next) → other r = some (again next)) {n : Nat}
    {r next : σ} (h : Goes turn n r next) : Goes other n r next := by
  induction n generalizing r with
  | zero => exact goes_zero_iff.mpr (goes_zero_iff.mp h)
  | succ n ih =>
      obtain ⟨between, hturn, hrest⟩ := goes_succ_iff.mp h
      exact goes_succ_iff.mpr ⟨between, hother r between hturn, ih hrest⟩

/-- What every iteration keeps holds as long as the loop goes on. -/
theorem Goes.invariant {P : σ → Prop}
    (hturn : ∀ r next, P r → turn r = some (again next) → P next) {n : Nat} {r next : σ}
    (hr : P r) (h : Goes turn n r next) : P next := by
  induction n generalizing r with
  | zero => exact goes_zero_iff.mp h ▸ hr
  | succ n ih =>
      obtain ⟨between, hstep, hrest⟩ := goes_succ_iff.mp h
      exact ih (hturn r between hr hstep) hrest

/-- **What always goes on never ends.** -/
theorem endless_of_invariant {P : σ → Prop}
    (hturn : ∀ r, P r → ∃ next, turn r = some (again next) ∧ P next) {r : σ} (hr : P r) :
    Endless turn r := by
  intro n
  induction n generalizing r with
  | zero => exact ⟨r, goes_zero_iff.mpr rfl⟩
  | succ n ih =>
      obtain ⟨between, hstep, hbetween⟩ := hturn r hr
      obtain ⟨next, hnext⟩ := ih hbetween
      exact ⟨next, goes_succ_iff.mpr ⟨between, hstep, hnext⟩⟩

/-- What leads to an endless loop is one. -/
theorem Goes.endless {n : Nat} {r next : σ} (h : Goes turn n r next)
    (hnext : Endless turn next) : Endless turn r := by
  induction n generalizing r with
  | zero => exact goes_zero_iff.mp h ▸ hnext
  | succ n ih =>
      obtain ⟨between, hstep, hrest⟩ := goes_succ_iff.mp h
      intro k
      cases k with
      | zero => exact ⟨r, goes_zero_iff.mpr rfl⟩
      | succ k =>
          obtain ⟨last, hlast⟩ := ih hrest k
          exact ⟨last, goes_succ_iff.mpr ⟨between, hstep, hlast⟩⟩

end Turn

/-- A loop of the matcher, each of whose iterations can be made with the check for empty
matches or without. -/
structure CheckedLoop (σ ω : Type) where
  turn (checked : Bool) : σ → Option (Turn σ ω)
  /-- The state of the parse between two iterations. -/
  state : σ → State
  /-- The state of the parse after the loop. -/
  final : ω → State
  /-- What kind of operator is looked for; always the same in a repetition. -/
  wantsOperand : σ → Bool

namespace CheckedLoop

variable {σ ω : Type} (loop : CheckedLoop σ ω)

/-- In the iteration from `r` the check ends the parse, at `p`: the loop would go on without
it, in a parse that nothing has ended. -/
structure EndsByCheck (r : σ) (p : Nat) : Prop where
  checked : ∃ result, loop.turn true r = some (.ended result) ∧
    (loop.final result).aborted = some (p, .zeroLengthMatch)
  unchecked : ∃ next, loop.turn false r = some (.again next) ∧ (loop.state next).aborted = none

/-- Without the check the loop is back at `p` after one iteration or two, looking for what it
looked for, and never ends. -/
structure Circles (r : σ) (p : Nat) : Prop where
  back : ∃ n again, 1 ≤ n ∧ n ≤ 2 ∧ Turn.Goes (loop.turn false) n r again ∧
    (loop.state again).cursor.offset = p ∧ loop.wantsOperand again = loop.wantsOperand r
  endless : Turn.Endless (loop.turn false) r

/-- Wherever a loop that begins with `start` gets to, its check ends the parse only if the
loop would go round in a circle otherwise, and so would not end from its start either. -/
def CutsOnlyCircles (start : σ) : Prop :=
  ∀ n r p, Turn.Goes (loop.turn true) n start r → loop.EndsByCheck r p →
    loop.Circles r p ∧ Turn.Endless (loop.turn false) start

end CheckedLoop

/-! ## Standing still -/

/-- A parse at `place` that goes on and has no limit on fuel. -/
structure State.FreeAt (place : Cursor) (s : State) : Prop where
  cursor : s.cursor = place
  running : s.aborted = none
  unlimited : s.fuel = none

namespace State.FreeAt

variable {place : Cursor} {s t : State}

theorem alike (hs : s.FreeAt place) (ht : t.FreeAt place) : s.Alike t :=
  ⟨hs.cursor.trans ht.cursor.symm, hs.running.trans ht.running.symm, hs.unlimited, ht.unlimited⟩

theorem of_alike (hs : s.FreeAt place) (h : s.Alike t) : t.FreeAt place :=
  ⟨h.cursor.symm.trans hs.cursor, h.aborted.symm.trans hs.running, h.unlimited'⟩

end State.FreeAt

/-! ## Repetitions -/

/-- One round of an unbounded repetition. -/
def Rounds.turn (m : State → Option Outcome) (checked : Bool) (r : Rounds) :
    Option (Turn Rounds Rounds) :=
  match m r.state with
  | none => none
  | some ⟨none, s⟩ => some (.ended { r with state := s })
  | some ⟨some node, s⟩ =>
      if checked && s.cursor.offset == r.state.cursor.offset then
        some (.ended { r with state := s.abort s.cursor.offset .zeroLengthMatch })
      else some (.again ⟨r.count + 1, node :: r.nodes, s⟩)

/-- The loop of an unbounded repetition of what `m` matches. -/
def repetition (m : State → Option Outcome) : CheckedLoop Rounds Rounds where
  turn := Rounds.turn m
  state := Rounds.state
  final := Rounds.state
  wantsOperand := fun _ => false

/-- An unbounded repetition is its rounds with the check. -/
theorem matchWhile_eq_iterate (m : State → Option Outcome) (budget : List Char) (r : Rounds) :
    matchWhile m budget r =
      (Turn.iterate ((repetition m).turn true) (budget.length + 1) r).bind Turn.result? := by
  fun_induction matchWhile m budget r with
  | case1 budget r hm => simp [Turn.iterate, repetition, Rounds.turn, hm]
  | case2 budget r s hm => simp [Turn.iterate, repetition, Rounds.turn, hm, Turn.result?]
  | case3 budget r node s hm hstuck =>
      simp [Turn.iterate, repetition, Rounds.turn, hm, beq_iff_eq.mp hstuck, Turn.result?]
  | case4 r node s hm hmoved =>
      simp only [beq_iff_eq] at hmoved
      simp [Turn.iterate, repetition, Rounds.turn, hm, hmoved, Turn.result?]
  | case5 r node s hm hmoved c budget ih =>
      have hturn : (repetition m).turn true r
          = some (.again ⟨r.count + 1, node :: r.nodes, s⟩) := by
        simp only [beq_iff_eq] at hmoved
        simp [repetition, Rounds.turn, hm, hmoved]
      rw [ih, List.length_cons, Turn.iterate_succ_of_again hturn]

section Repetition

variable {m : State → Option Outcome}

/-- A round that goes on has matched. -/
theorem Rounds.turn_eq_again {checked : Bool} {r next : Rounds}
    (h : Rounds.turn m checked r = some (.again next)) :
    ∃ node s, m r.state = some ⟨some node, s⟩ ∧ next = ⟨r.count + 1, node :: r.nodes, s⟩ := by
  unfold Rounds.turn at h
  split at h
  · cases h
  · cases h
  · next node s hm =>
      split at h <;> cases h
      exact ⟨node, s, hm, rfl⟩

theorem Rounds.turn_unchecked {r : Rounds} {node : Tree} {s : State}
    (h : m r.state = some ⟨some node, s⟩) :
    Rounds.turn m false r = some (.again ⟨r.count + 1, node :: r.nodes, s⟩) := by
  simp [Rounds.turn, h]

/-- The check ends only rounds that match the empty text. -/
theorem repetition_endsByCheck {r : Rounds} {p : Nat} (h : (repetition m).EndsByCheck r p) :
    ∃ node s, m r.state = some ⟨some node, s⟩ ∧ s.aborted = none ∧
      s.cursor.offset = r.state.cursor.offset ∧ p = r.state.cursor.offset := by
  obtain ⟨⟨result, hended, hcause⟩, next, hagain, hrunning⟩ := h
  obtain ⟨node, s, hm, rfl⟩ := Rounds.turn_eq_again hagain
  have hrunning : s.aborted = none := hrunning
  simp only [repetition, Rounds.turn, hm, Bool.true_and, beq_iff_eq] at hended
  split at hended
  · next hstill =>
      cases hended
      simp only [repetition, State.aborted_abort, hrunning, Option.getD_none, Option.some.injEq,
        Prod.mk.injEq, and_true] at hcause
      exact ⟨node, s, hm, hrunning, hstill, hcause.symm.trans hstill⟩
  · cases hended

/-- **A round that matches the empty text is repeated for ever.** -/
theorem repetition_circles (hm : Simulates m m) (honward : RunsAlong State.Onward m)
    {r : Rounds} {p : Nat} (hfuel : r.state.fuel = none)
    (h : (repetition m).EndsByCheck r p) : (repetition m).Circles r p := by
  obtain ⟨node, s, hmatch, hrunning, hstill, rfl⟩ := repetition_endsByCheck h
  have hcourse := honward _ _ hmatch
  have hplace : r.state.FreeAt r.state.cursor := ⟨rfl, hcourse.running hrunning, hfuel⟩
  have hafter : s.FreeAt r.state.cursor :=
    ⟨hcourse.cursor.eq_of_offset hstill, hrunning, hcourse.unlimited hfuel⟩
  -- from every round at this place the next one is at this place
  have hturn : ∀ q : Rounds, q.state.FreeAt r.state.cursor →
      ∃ next, (repetition m).turn false q = some (.again next) ∧
        next.state.FreeAt r.state.cursor := by
    intro q hq
    obtain ⟨⟨_, t⟩, ht, rfl, halike⟩ := hm (hplace.alike hq) hmatch
    exact ⟨_, Rounds.turn_unchecked ht, hafter.of_alike halike⟩
  obtain ⟨next, hnext, hback⟩ := hturn r hplace
  refine ⟨⟨1, next, Nat.le_refl 1, Nat.le_succ 1, ?_, congrArg Cursor.offset hback.cursor, rfl⟩,
    Turn.endless_of_invariant hturn hplace⟩
  exact Turn.goes_succ_iff.mpr ⟨next, hnext, Turn.goes_zero_iff.mpr rfl⟩

theorem repetition_cutsOnlyCircles (hm : Simulates m m) (honward : RunsAlong State.Onward m)
    {s : State} (hfuel : s.fuel = none) : (repetition m).CutsOnlyCircles ⟨0, [], s⟩ := by
  intro n r p hgoes hends
  have hfree : r.state.fuel = none := by
    refine hgoes.invariant (P := fun r => r.state.fuel = none) ?_ hfuel
    intro q next hq hturn
    obtain ⟨node, t, ht, rfl⟩ := Rounds.turn_eq_again hturn
    exact (honward _ _ ht).unlimited hq
  have hcircles := repetition_circles hm honward hfree hends
  refine ⟨hcircles, Turn.Goes.endless (hgoes.mono ?_) hcircles.endless⟩
  intro q next hturn
  obtain ⟨node, t, ht, rfl⟩ := Rounds.turn_eq_again hturn
  exact Rounds.turn_unchecked ht

end Repetition

/-! ## Expressions -/

/-- What the climbing loop carries from one iteration to the next. -/
structure Climbing.Round where
  stack : List Pending
  operand : Option Tree
  /-- Where the last iteration matched the empty text, if it did. -/
  lastEmpty : Option Nat
  state : State

/-- The next iteration, after `op` has matched. -/
def Climbing.Round.advance (r : Climbing.Round) (op : Operator) (mid : Tree)
    (before after : State) : Climbing.Round :=
  let taken := takeOperand op r.stack r.operand (after.add (.operator op.name mid.offset))
  if op.fixity.takesRight then
    ⟨⟨op, mid, taken.1.2⟩ :: taken.1.1, none, emptyAt before after, taken.2⟩
  else
    ⟨taken.1.1, some (Pending.complete ⟨op, mid, taken.1.2⟩ none), emptyAt before after,
      taken.2.add (.reduced op.name)⟩

/-- One iteration of the climbing loop. -/
def Climbing.turn (c : Climbing) (checked : Bool) (r : Climbing.Round) :
    Option (Turn Climbing.Round Outcome) :=
  match c.find r.operand r.state with
  | none => none
  | some (before, found, after) =>
      if after.isAborted then some (.ended ⟨none, after⟩)
      else
        match found with
        | none => (finishExpression c r.stack r.operand after).map .ended
        | some (op, mid) =>
            if checked && after.cursor.offset == before.cursor.offset &&
                repeatsState op r.lastEmpty before.cursor.offset then
              some (.ended ⟨none, after.abort before.cursor.offset .zeroLengthMatch⟩)
            else some (.again (r.advance op mid before after))

def Climbing.loop (c : Climbing) : CheckedLoop Climbing.Round Outcome where
  turn := c.turn
  state := Climbing.Round.state
  final := Outcome.state
  wantsOperand := fun r => r.operand.isNone

/-- The climbing loop is its iterations with the check. -/
theorem climb_eq_iterate (c : Climbing) (rounds : Nat) (r : Climbing.Round) :
    climb c rounds r.stack r.operand r.lastEmpty r.state =
      (Turn.iterate (c.loop.turn true) rounds r).bind Turn.result? := by
  induction rounds generalizing r with
  | zero => rfl
  | succ rounds ih =>
      rw [climb_succ_find, Turn.iterate]
      simp only [Climbing.loop, Climbing.turn]
      cases hfind : c.find r.operand r.state with
      | none => rfl
      | some round =>
          obtain ⟨before, found, after⟩ := round
          simp only [Option.bind_some, Climbing.goOn, Bool.true_and]
          cases hend : after.isAborted with
          | true => rfl
          | false =>
              simp only [Bool.false_eq_true, if_false]
              rcases found with _ | ⟨op, mid⟩
              · simp only []
                cases finishExpression c r.stack r.operand after <;> rfl
              · simp only []
                split
                · rfl
                · refine Eq.trans ?_ (ih (r.advance op mid before after))
                  simp only [Climbing.Round.advance]
                  split <;> rfl

namespace Climbing.Round

variable (r : Round) (op : Operator) (mid : Tree) (before after : State)

/-- The state in which the next iteration begins is the one after the match, but for what is
written down. -/
theorem advance_along {R : State → State → Prop} (hR : State.IsCourse R) :
    R after (r.advance op mid before after).state := by
  have hnote : R after (after.add (.operator op.name mid.offset)) := hR.note rfl
  have htaken : R after (takeOperand op r.stack r.operand
      (after.add (.operator op.name mid.offset))).2 := hR.trans hnote (takeOperand_along hR rfl)
  unfold advance
  split
  · exact htaken
  · exact hR.trans htaken (hR.note rfl)

@[simp] theorem cursor_advance : (r.advance op mid before after).state.cursor = after.cursor := by
  have htaken : (takeOperand op r.stack r.operand
      (after.add (.operator op.name mid.offset))).2.cursor
        = (after.add (.operator op.name mid.offset)).cursor := cursor_takeOperand rfl
  unfold advance
  split
  · exact htaken
  · exact htaken

@[simp] theorem aborted_advance :
    (r.advance op mid before after).state.aborted = after.aborted := by
  have htaken := aborted_takeOperand op r.stack r.operand
    (after.add (.operator op.name mid.offset))
  unfold advance
  split
  · exact htaken
  · exact htaken

@[simp] theorem isNone_operand_advance :
    (r.advance op mid before after).operand.isNone = op.fixity.takesRight := by
  unfold advance
  cases op.fixity.takesRight <;> rfl

@[simp] theorem lastEmpty_advance :
    (r.advance op mid before after).lastEmpty = emptyAt before after := by
  unfold advance
  split <;> rfl

end Climbing.Round

namespace Climbing

variable {c : Climbing}

/-- An iteration that goes on has found an operator, and the check has let it pass. -/
theorem turn_eq_again_iff {checked : Bool} {r next : Round} :
    c.turn checked r = some (.again next) ↔
      ∃ before op mid after, c.Finds r.operand r.state before (some (op, mid)) after ∧
        after.aborted = none ∧
        ¬ (checked = true ∧ after.cursor.offset = before.cursor.offset ∧
          repeatsState op r.lastEmpty before.cursor.offset = true) ∧
        next = r.advance op mid before after := by
  constructor
  · intro h
    unfold turn at h
    split at h
    · cases h
    · next before found after hfind =>
        split at h
        · cases h
        · next hrunning =>
            rcases found with _ | ⟨op, mid⟩
            · obtain ⟨o, -, ho⟩ := Option.map_eq_some_iff.mp h
              cases ho
            · simp only [Bool.and_eq_true, beq_iff_eq, and_assoc] at h
              split at h <;> cases h
              next hpasses =>
                exact ⟨before, op, mid, after, find_eq_some_iff.mp hfind,
                  State.isAborted_eq_false_iff.mp (by simpa using hrunning), hpasses, rfl⟩
  · rintro ⟨before, op, mid, after, hfinds, hrunning, hpasses, rfl⟩
    simp only [turn, hfinds.find, State.isAborted_eq_false_iff.mpr hrunning, Bool.false_eq_true,
      if_false, Bool.and_eq_true, beq_iff_eq, and_assoc, if_neg hpasses]

/-- Whether an operand is at hand is all that finding an operator asks of it. -/
theorem Finds.of_isNone {operand operand' : Option Tree} {s before after : State}
    {found : Option (Operator × Tree)} (h : c.Finds operand s before found after)
    (hkind : operand'.isNone = operand.isNone) : c.Finds operand' s before found after := by
  unfold Finds Climbing.probe at h ⊢
  rwa [hkind]

/-- At `place` an operator matches the empty text. It is one that is found while an operand is
wanted or not, as `wants` says, and after it one is wanted or not as `wants'` says. -/
def PassesEmpty (c : Climbing) (place : Cursor) (wants wants' : Bool) : Prop :=
  ∃ operand s before op mid after, c.Finds operand s before (some (op, mid)) after ∧
    s.FreeAt place ∧ after.FreeAt place ∧ operand.isNone = wants ∧ op.fixity.takesRight = wants'

section Onward

variable (honward : c.RunsAlong State.Onward)

include honward

/-- An operator that has not moved is found where it was looked for. -/
theorem Finds.cursor_after {operand : Option Tree} {s before after : State}
    {found : Option (Operator × Tree)} (h : c.Finds operand s before found after)
    (hstill : after.cursor.offset = before.cursor.offset) : after.cursor = s.cursor := by
  have hcourse := h.along State.Onward.isCourse honward
  rw [h.cursor_before honward] at hstill
  exact hcourse.cursor.eq_of_offset hstill

end Onward

section Alike

variable (halike : c.Alike c)

include halike

/-- **Where an empty match was found it is found again**, whatever has become of the stack. -/
theorem PassesEmpty.turn {place : Cursor} {wants wants' : Bool}
    (h : c.PassesEmpty place wants wants') {r : Round} (hr : r.state.FreeAt place)
    (hwants : r.operand.isNone = wants) :
    ∃ next, c.turn false r = some (.again next) ∧ next.state.FreeAt place ∧
      next.operand.isNone = wants' := by
  obtain ⟨operand, s, before, op, mid, after, hfinds, hs, hafter, rfl, rfl⟩ := h
  obtain ⟨before', after', hfinds', -, hafter'⟩ := hfinds.alike halike (hs.alike hr)
  have hfree := hafter.of_alike hafter'
  refine ⟨r.advance op mid before' after', ?_, ?_, r.isNone_operand_advance ..⟩
  · exact turn_eq_again_iff.mpr ⟨before', op, mid, after', hfinds'.of_isNone hwants,
      hfree.running, by simp, rfl⟩
  · exact ⟨by simp [hfree.cursor], by simp [hfree.running],
      (r.advance_along op mid before' after' State.Onward.isCourse).unlimited hfree.unlimited⟩

/-- An operator after which the same is wanted is found over and over. -/
theorem circles_of_passesEmpty_self {r : Round} {wants : Bool}
    (h : c.PassesEmpty r.state.cursor wants wants) (hr : r.state.FreeAt r.state.cursor)
    (hwants : r.operand.isNone = wants) : c.loop.Circles r r.state.cursor.offset := by
  have hturn : ∀ q : Round, q.state.FreeAt r.state.cursor ∧ q.operand.isNone = wants →
      ∃ next, c.turn false q = some (.again next) ∧ next.state.FreeAt r.state.cursor ∧
        next.operand.isNone = wants := fun q hq => h.turn halike hq.1 hq.2
  obtain ⟨next, hnext, hback, hkind⟩ := hturn r ⟨hr, hwants⟩
  refine ⟨⟨1, next, Nat.le_refl 1, Nat.le_succ 1, ?_, congrArg Cursor.offset hback.cursor,
    hkind.trans hwants.symm⟩, Turn.endless_of_invariant hturn ⟨hr, hwants⟩⟩
  exact Turn.goes_succ_iff.mpr ⟨next, hnext, Turn.goes_zero_iff.mpr rfl⟩

/-- Two operators after each of which the other kind is wanted are found in turn. -/
theorem circles_of_passesEmpty_turns {r : Round} {wants : Bool}
    (h : c.PassesEmpty r.state.cursor wants (!wants))
    (h' : c.PassesEmpty r.state.cursor (!wants) wants) (hr : r.state.FreeAt r.state.cursor)
    (hwants : r.operand.isNone = wants) : c.loop.Circles r r.state.cursor.offset := by
  obtain ⟨between, hbetween, hfree, hkind⟩ := h.turn halike hr hwants
  obtain ⟨next, hnext, hback, hkind'⟩ := h'.turn halike hfree hkind
  refine ⟨⟨2, next, Nat.le_succ 1, Nat.le_refl 2, ?_, congrArg Cursor.offset hback.cursor,
    hkind'.trans hwants.symm⟩, ?_⟩
  · exact Turn.goes_succ_iff.mpr ⟨between, hbetween,
      Turn.goes_succ_iff.mpr ⟨next, hnext, Turn.goes_zero_iff.mpr rfl⟩⟩
  · -- whatever is wanted, the next iteration is at this place too
    refine Turn.endless_of_invariant (P := fun q : Round => q.state.FreeAt r.state.cursor) ?_ hr
    intro q hq
    by_cases hq' : q.operand.isNone = wants
    · obtain ⟨next, hnext, hfree, -⟩ := h.turn halike hq hq'
      exact ⟨next, hnext, hfree⟩
    · obtain ⟨next, hnext, hfree, -⟩ := h'.turn halike hq (Bool.eq_not_of_ne hq')
      exact ⟨next, hnext, hfree⟩

end Alike

/-! ### Kinds of operators -/

theorem Finds.isNone_operand {operand : Option Tree} {s before after : State} {op : Operator}
    {mid : Tree} (h : c.Finds operand s before (some (op, mid)) after) :
    operand.isNone = !op.fixity.takesLeft := by
  rw [takesLeft_fixity, h.takesLeft]
  cases operand <;> rfl

/-- The check lets only operators pass that change what is wanted. -/
theorem takesRight_of_passes {op : Operator} {lastEmpty : Option Nat} {offset : Nat}
    (h : repeatsState op lastEmpty offset = false) :
    op.fixity.takesRight = op.fixity.takesLeft := by
  cases hop : op.fixity <;> simp [repeatsState, hop, Fixity.takesLeft, Fixity.takesRight] at h ⊢

/-- The check stops operators that do not change it, and any that follows an empty match. -/
theorem takesRight_or_lastEmpty_of_repeats {op : Operator} {lastEmpty : Option Nat} {offset : Nat}
    (h : repeatsState op lastEmpty offset = true) :
    (op.fixity.takesRight = !op.fixity.takesLeft) ∨ lastEmpty = some offset := by
  cases hop : op.fixity <;> simp [repeatsState, hop, Fixity.takesLeft, Fixity.takesRight] at h ⊢
  · exact h
  · exact h

/-- What the loop knows of its past: nothing limits the parse, and if the last iteration matched
the empty text, that was here and an operator of the other kind. -/
structure Recalls (c : Climbing) (r : Round) : Prop where
  unlimited : r.state.fuel = none
  other : r.lastEmpty.isSome → r.state.aborted = none →
    c.PassesEmpty r.state.cursor (!r.operand.isNone) r.operand.isNone

section

variable (honward : c.RunsAlong State.Onward)

include honward

/-- **An iteration that the check lets pass** recalls what it matched. -/
theorem Recalls.turn {r next : Round} (h : c.Recalls r)
    (hturn : c.turn true r = some (.again next)) : c.Recalls next := by
  obtain ⟨before, op, mid, after, hfinds, hrunning, hpasses, rfl⟩ := turn_eq_again_iff.mp hturn
  have hcourse := hfinds.along State.Onward.isCourse honward
  have hfree := hcourse.unlimited h.unlimited
  refine ⟨(r.advance_along op mid before after State.Onward.isCourse).unlimited hfree, ?_⟩
  intro hempty _
  have hstill : after.cursor.offset = before.cursor.offset := by
    rw [Round.lastEmpty_advance, emptyAt] at hempty
    split at hempty
    · next hsame => exact beq_iff_eq.mp hsame
    · cases hempty
  have hpassed : repeatsState op r.lastEmpty before.cursor.offset = false := by
    rw [← Bool.not_eq_true]
    exact fun hrepeats => hpasses ⟨rfl, hstill, hrepeats⟩
  have hkind := takesRight_of_passes hpassed
  rw [Round.cursor_advance, Round.isNone_operand_advance]
  refine ⟨r.operand, r.state, before, op, mid, after, hfinds, ?_, ⟨rfl, hrunning, hfree⟩, ?_, rfl⟩
  · exact ⟨(hfinds.cursor_after honward hstill).symm, hcourse.running hrunning, h.unlimited⟩
  · rw [hfinds.isNone_operand, hkind]

/-- **The check of the climbing loop ends only circles.** -/
theorem loop_circles (halike : c.Alike c) {r : Round} {p : Nat} (hr : c.Recalls r)
    (h : c.loop.EndsByCheck r p) : c.loop.Circles r p := by
  obtain ⟨⟨result, hended, hcause⟩, next, hagain, -⟩ := h
  obtain ⟨before, op, mid, after, hfinds, hrunning, -, -⟩ := turn_eq_again_iff.mp hagain
  have hcourse := hfinds.along State.Onward.isCourse honward
  -- the check is what makes the difference between the two iterations
  obtain ⟨hstill, hrepeats⟩ : after.cursor.offset = before.cursor.offset ∧
      repeatsState op r.lastEmpty before.cursor.offset = true := by
    refine Decidable.byContradiction fun hpasses => ?_
    have hgoes : c.turn true r = some (.again (r.advance op mid before after)) :=
      turn_eq_again_iff.mpr ⟨before, op, mid, after, hfinds, hrunning,
        fun hcheck => hpasses hcheck.2, rfl⟩
    cases hgoes.symm.trans hended
  have hresult : result = ⟨none, after.abort before.cursor.offset .zeroLengthMatch⟩ := by
    have hturn : c.turn true r = some (.ended result) := hended
    simp only [turn, hfinds.find, State.isAborted_eq_false_iff.mpr hrunning, Bool.false_eq_true,
      if_false, hstill, hrepeats, beq_self_eq_true, Bool.and_self, if_true, Option.some.injEq,
      Turn.ended.injEq] at hturn
    exact hturn.symm
  obtain rfl : before.cursor.offset = p := by
    rw [hresult] at hcause
    simpa [loop, State.aborted_abort, hrunning] using hcause
  rw [hfinds.cursor_before honward] at hrepeats ⊢
  have hplace : r.state.FreeAt r.state.cursor :=
    ⟨rfl, hcourse.running hrunning, hr.unlimited⟩
  have hafter : after.FreeAt r.state.cursor :=
    ⟨hfinds.cursor_after honward hstill, hrunning, hcourse.unlimited hr.unlimited⟩
  have hempty : c.PassesEmpty r.state.cursor r.operand.isNone op.fixity.takesRight :=
    ⟨r.operand, r.state, before, op, mid, after, hfinds, hplace, hafter, rfl, rfl⟩
  by_cases hkind : op.fixity.takesRight = r.operand.isNone
  · rw [hkind] at hempty
    exact circles_of_passesEmpty_self halike hempty hplace rfl
  · -- the kind changes, so it was the last match that the check went by
    rw [Bool.eq_not_of_ne hkind] at hempty
    rcases takesRight_or_lastEmpty_of_repeats hrepeats with hflips | hlast
    · exact absurd (hflips.trans hfinds.isNone_operand.symm) hkind
    · exact circles_of_passesEmpty_turns halike hempty
        (hr.other (by rw [hlast]; rfl) hplace.running) hplace rfl

theorem loop_cutsOnlyCircles (halike : c.Alike c) {s : State} (hfuel : s.fuel = none) :
    c.loop.CutsOnlyCircles ⟨[], none, none, s⟩ := by
  intro n r p hgoes hends
  have hrecalls : c.Recalls r :=
    hgoes.invariant (fun _ _ hr hturn => hr.turn honward hturn)
      ⟨hfuel, fun hempty => absurd hempty (by simp)⟩
  have hcircles := loop_circles honward halike hrecalls hends
  refine ⟨hcircles, Turn.Goes.endless (hgoes.mono ?_) hcircles.endless⟩
  intro q next hturn
  obtain ⟨before, op, mid, after, hfinds, hrunning, -, rfl⟩ := turn_eq_again_iff.mp hturn
  exact turn_eq_again_iff.mpr ⟨before, op, mid, after, hfinds, hrunning, by simp, rfl⟩

end

end Climbing

/-! ## Patterns -/

theorem matchQuantifier_eq_iterate (m : State → Option Outcome) (least : Nat) (s : State) :
    matchQuantifier m least none s =
      ((Turn.iterate ((repetition m).turn true) (s.cursor.ahead.length + 1) ⟨0, [], s⟩).bind
        Turn.result?).map (Rounds.outcome least s.cursor.offset) := by
  rw [matchQuantifier_eq, Option.elim_none, matchWhile_eq_iterate]

theorem matchExpression_eq_iterate (c : Climbing) (s : State) :
    matchExpression c s =
      (Turn.iterate (({ c with frame := { c.frame with probe := none } } : Climbing).loop.turn true)
        (2 * s.cursor.ahead.length + 3) ⟨[], none, none, s⟩).bind Turn.result? :=
  climb_eq_iterate _ _ ⟨[], none, none, s⟩

/-- The matching of the operators of a table inside a pattern. -/
def tableClimbing (setting : Setting) (layers : Nat) (frame : Frame) (operators : List Operator) :
    Climbing :=
  ⟨matchPattern setting layers, peekPastTrivia (matchPattern setting layers) setting frame,
    { frame with probe := none }, operators⟩

/-- **The checks for empty matches end no loop that would have ended.** Unbounded repetitions and
expressions are loops with a check. Without limits, where the check ends the parse, the loop
without it is back after at most two iterations where it was, looks for the same kind of
operator, and never ends. -/
theorem zeroLength_checks_end_only_circles {setting : Setting} (hdepth : setting.depthLimit = none)
    (layers : Nat) (frame : Frame) {s : State} (hfuel : s.fuel = none) :
    (∀ inner least,
      let loop := repetition (matchPattern setting layers frame inner)
      matchQuantifier (matchPattern setting layers frame inner) least none s =
          ((Turn.iterate (loop.turn true) (s.cursor.ahead.length + 1) ⟨0, [], s⟩).bind
            Turn.result?).map (Rounds.outcome least s.cursor.offset) ∧
        loop.CutsOnlyCircles ⟨0, [], s⟩) ∧
    ∀ operators,
      let c := tableClimbing setting layers frame operators
      matchExpression ⟨c.matcher, c.peek, frame, operators⟩ s =
          (Turn.iterate (c.loop.turn true) (2 * s.cursor.ahead.length + 3)
            ⟨[], none, none, s⟩).bind Turn.result? ∧
        c.loop.CutsOnlyCircles ⟨[], none, none, s⟩ := by
  have hpure := matchPattern_ignoresHistory hdepth layers
  have honward := matchPattern_along State.Onward.isCourse setting layers
  refine ⟨fun inner least => ⟨matchQuantifier_eq_iterate .., ?_⟩,
    fun operators => ⟨matchExpression_eq_iterate .., ?_⟩⟩
  · exact repetition_cutsOnlyCircles (hpure frame frame rfl inner) (honward frame inner) hfuel
  · exact Climbing.loop_cutsOnlyCircles (climbing_along State.Onward.isCourse honward operators)
      (climbing_alike hpure rfl operators) hfuel

/-- An operand and an operator between operands, both of which match the empty text. -/
private def emptyOperators : List Operator := [
  ⟨"nothing", none, none, .terminal (.literal "")⟩,
  ⟨"beside", some 1, some 1, .terminal (.literal "")⟩]

/-- The operator between operands is the second empty match in a row. -/
theorem zeroLength_checks_end_only_circles_sample :
    let c := tableClimbing ⟨.empty, [], none⟩ 1 .outermost emptyOperators
    ∃ r, c.loop.EndsByCheck r 0 ∧ c.loop.Circles r 0 ∧
      Turn.Endless (c.loop.turn false) ⟨[], none, none, .start (.atStart []) none⟩ := by
  intro c
  obtain ⟨r, hgoes, hends⟩ : ∃ r, Turn.Goes (c.loop.turn true) 1
      ⟨[], none, none, .start (.atStart []) none⟩ r ∧ c.loop.EndsByCheck r 0 :=
    ⟨_, rfl, ⟨_, rfl, rfl⟩, _, rfl, rfl⟩
  have hunlimited : Setting.depthLimit ⟨.empty, [], none⟩ = none := rfl
  have hfuel : (State.start (.atStart []) none).fuel = none := rfl
  obtain ⟨-, hcuts⟩ :=
    (zeroLength_checks_end_only_circles hunlimited 1 .outermost hfuel).2 emptyOperators
  obtain ⟨hcircles, hendless⟩ := hcuts 1 r 0 hgoes hends
  exact ⟨r, hends, hcircles, hendless⟩

end OperatorPeg
