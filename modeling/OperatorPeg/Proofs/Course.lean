import OperatorPeg.Proofs.Cursors
import OperatorPeg.Proofs.RegexEnds
import OperatorPeg.Proofs.Runs
import OperatorPeg.Proofs.States

/-!
# The course of a parse

All that a parse ever does to a state is in the fields of `State.IsCourse`: it
writes events down, enters and leaves rules, misses terminals and operands, ends, pays,
moves over text and goes back. A relation between states that allows each of these
holds between the states before and after every match, so a law about what a parse
does to its state is an instance of `State.IsCourse`, and no loop is opened for it.
-/

namespace OperatorPeg

/-- Whether the event stands for itself: it is no failure, and no rule is entered or left. -/
def Event.isAside : Event → Bool
  | .tried .. | .operator .. | .reduced .. | .backtracked .. => true
  | .entered .. | .left .. | .failed _ => false

/-- A relation from a state to what a parse may make of it. -/
structure State.IsCourse (R : State → State → Prop) : Prop where
  refl : ∀ s, R s s
  trans : ∀ {s s₁ s₂}, R s s₁ → R s₁ s₂ → R s s₂
  /-- Something is written down that stands for itself. -/
  note : ∀ {s} {e : Event}, e.isAside = true → R s (s.add e)
  /-- A rule is entered, and left after what happens in it. -/
  call : ∀ {s s'} (rule : String) (stop : Option Nat),
    R (s.add (.entered rule s.cursor.offset)) s' → R s (s'.add (.left rule stop))
  missToken : ∀ {s} (frame : Frame) (d : String), R s (s.missToken frame s.cursor.offset d)
  /-- An operand is missed where the trivia ends that was skipped in looking for it. -/
  missTerm : ∀ {s after} (frame : Frame), R s after →
    R s (({ after with cursor := s.cursor } : State).missTerm frame after.cursor.offset)
  abort : ∀ {s} (cause : Abort), R s (s.abort s.cursor.offset cause)
  spend : ∀ {s n}, s.fuel = some (n + 1) → R s { s with fuel := some n }
  move : ∀ {s c}, s.cursor.Reaches c → R s { s with cursor := c }
  /-- Going back to where it began. -/
  back : ∀ {s s'}, R s s' → R s { s' with cursor := s.cursor }

/-- Where `f` leads is within `R`. -/
def RunsAlong (R : State → State → Prop) (f : State → Option Outcome) : Prop :=
  ∀ s o, f s = some o → R s o.state

/-- Where a terminal ends, the cursor can get to. -/
theorem Terminal.reaches_of_matchEnd? {t : Terminal} {beyond : List Char} {c stop : Cursor}
    (h : t.matchEnd? beyond c = some stop) : c.Reaches stop := by
  cases t with
  | literal text => exact ⟨text.toList, Cursor.after?_eq_some_iff.mp h⟩
  | regex source meaning =>
      exact Regex.ends_forward beyond meaning c stop (List.mem_of_mem_head? h)

@[simp] theorem Rounds.state_outcome (r : Rounds) (least offset : Nat) :
    (r.outcome least offset).state = r.state := by
  unfold Rounds.outcome
  split <;> rfl

variable {R : State → State → Prop} (hR : State.IsCourse R)

include hR

theorem State.IsCourse.charge {s s' : State} {paid : Bool} (h : s.charge = (paid, s')) :
    R s s' := by
  unfold State.charge at h
  split at h
  · cases h
    exact hR.refl _
  · split at h
    · cases h
      exact hR.refl _
    · cases h
      exact hR.abort _
    · next hf =>
        cases h
        exact hR.spend hf

/-! ## Loops -/

theorem StepsRun.along {m : Pattern → State → Option Outcome} (hm : ∀ p, RunsAlong R (m p))
    {offset : Nat} {kept : List Tree} {steps : List Step} {s : State} {o : Outcome}
    (h : StepsRun m offset kept steps s o) : R s o.state := by
  induction h with
  | done _ s => exact hR.refl s
  | missed h => exact hm _ _ _ h
  | matched h _ ih => exact hR.trans (hm _ _ _ h) ih

theorem AlternativesRun.along {m : Pattern → State → Option Outcome}
    (hm : ∀ p, RunsAlong R (m p)) {offset index : Nat} {ps : List Pattern} {s : State}
    {o : Outcome} (h : AlternativesRun m offset index ps s o) : R s o.state := by
  induction h with
  | exhausted _ s => exact hR.refl s
  | chosen h =>
      have := hm _ _ _ h
      exact this
  | aborted h _ => exact hm _ _ _ h
  | missed h _ _ ih => exact hR.trans (hm _ _ _ h) (hR.trans (hR.note rfl) ih)

theorem UpToRun.along {m : State → Option Outcome} (hm : RunsAlong R m) {n : Nat}
    {r r' : Rounds} (h : UpToRun m n r r') : R r.state r'.state := by
  induction h with
  | full r => exact hR.refl _
  | missed h => exact hm _ _ h
  | matched h _ ih => exact hR.trans (hm _ _ h) ih

theorem WhileRun.along {m : State → Option Outcome} (hm : RunsAlong R m)
    {budget : List Char} {r r' : Rounds} (h : WhileRun m budget r r') :
    R r.state r'.state := by
  induction h with
  | missed h => exact hm _ _ h
  | stuck h _ => exact hR.trans (hm _ _ h) (hR.abort _)
  | matched h _ _ ih => exact hR.trans (hm _ _ h) ih

theorem RoundsRun.along {m : State → Option Outcome} (hm : RunsAlong R m)
    {most : Option Nat} {s : State} {r : Rounds} (h : RoundsRun m most s r) :
    R s r.state := by
  cases most with
  | some n => exact UpToRun.along hR hm h
  | none => exact WhileRun.along hR hm h

theorem OperatorsRun.along {m : Pattern → State → Option Outcome}
    (hm : ∀ p, RunsAlong R (m p)) {wantOperand : Bool} {ops : List Operator} {s : State}
    {r : Option (Operator × Tree) × State} (h : OperatorsRun m wantOperand ops s r) :
    R s r.2 := by
  induction h with
  | exhausted s => exact hR.refl s
  | passed _ _ ih => exact ih
  | matched _ h => exact hm _ _ _ h
  | missed _ h _ ih => exact hR.trans (hm _ _ _ h) ih

/-! ## Expressions -/

omit hR in
/-- The matcher and the lookout of a climbing loop lead within `R`; the lookout goes
back to where it began. -/
structure Climbing.RunsAlong (R : State → State → Prop) (c : Climbing) : Prop where
  matcher : ∀ frame p, OperatorPeg.RunsAlong R (c.matcher frame p)
  peek : ∀ s offset s', c.peek s = some (offset, s') →
    ∃ after, R s after ∧ offset = after.cursor.offset ∧ s' = { after with cursor := s.cursor }

variable {c : Climbing} (hc : c.RunsAlong R)

omit hR in
include hc in
/-- Looking on leaves the cursor where it is. -/
theorem Climbing.RunsAlong.cursor_of_peek {s s' : State} {offset : Nat}
    (h : c.peek s = some (offset, s')) : s'.cursor = s.cursor := by
  obtain ⟨after, -, -, rfl⟩ := hc.peek _ _ _ h
  rfl

omit hR in
include hc in
theorem Climbing.Finds.cursor_before {operand : Option Tree} {s before after : State}
    {found : Option (Operator × Tree)} (h : c.Finds operand s before found after) :
    before.cursor = s.cursor := by
  obtain ⟨probe, hprobe, -⟩ := h
  exact cursor_probe hc.cursor_of_peek hprobe

include hc in
theorem Climbing.Finds.along {operand : Option Tree} {s before after : State}
    {found : Option (Operator × Tree)} (h : c.Finds operand s before found after) :
    R s after := by
  obtain ⟨probe, hprobe, hrun⟩ := h
  have hbefore : R s before := by
    unfold Climbing.probe at hprobe
    split at hprobe
    · cases hprobe
      exact hR.refl s
    · obtain ⟨⟨offset, s'⟩, hpeek, heq⟩ := Option.map_eq_some_iff.mp hprobe
      cases heq
      obtain ⟨after, hafter, -, rfl⟩ := hc.peek _ _ _ hpeek
      exact hR.back hafter
  exact hR.trans hbefore (hrun.along hR (hc.matcher _))

theorem completeBefore_along (next : Operator) (stack : List Pending) (current : Tree)
    (s : State) : R s (completeBefore next stack current s).2 := by
  induction stack generalizing current s with
  | nil => exact hR.refl s
  | cons top stack ih =>
      simp only [completeBefore]
      split
      · exact hR.trans (hR.note rfl) (ih _ _)
      · exact hR.refl s

theorem takeOperand_along {op : Operator} {stack rest : List Pending}
    {operand left : Option Tree} {s s' : State}
    (h : takeOperand op stack operand s = ((rest, left), s')) : R s s' := by
  have htaken : s' = (takeOperand op stack operand s).2 := by rw [h]
  rw [htaken]
  cases operand with
  | none => exact hR.refl s
  | some current => exact completeBefore_along hR op stack current s

theorem completeAll_along (stack : List Pending) (current : Tree) (s : State) :
    R s (completeAll stack current s).2 := by
  induction stack generalizing current s with
  | nil => exact hR.refl s
  | cons top stack ih => exact hR.trans (hR.note rfl) (ih _ _)

include hc

theorem finishExpression_along {stack : List Pending} {operand : Option Tree} {s : State}
    {o : Outcome} (h : finishExpression c stack operand s = some o) : R s o.state := by
  cases operand with
  | some current =>
      cases h
      exact completeAll_along hR stack current s
  | none =>
      simp only [finishExpression] at h
      split at h
      · cases h
      · next hpeek =>
          cases h
          obtain ⟨after, hafter, rfl, rfl⟩ := hc.peek _ _ _ hpeek
          exact hR.missTerm _ hafter

theorem ClimbRun.along {rounds : Nat} {stack : List Pending} {operand : Option Tree}
    {lastEmpty : Option Nat} {s : State} {ms : List (Operator × Tree)} {o : Outcome}
    (h : ClimbRun c rounds stack operand lastEmpty s ms o) : R s o.state := by
  induction h with
  | aborted hfinds _ => exact hfinds.along hR hc
  | finished hfinds _ hfinish =>
      exact hR.trans (hfinds.along hR hc) (finishExpression_along hR hc hfinish)
  | repeated hfinds _ he _ =>
      rw [← he]
      exact hR.trans (hfinds.along hR hc) (hR.abort _)
  | waits hfinds _ _ htake _ _ ih =>
      have htaken := hR.trans (hR.note rfl) (takeOperand_along hR htake)
      exact hR.trans (hfinds.along hR hc) (hR.trans htaken ih)
  | completes hfinds _ _ htake _ _ ih =>
      have htaken := hR.trans (hR.note rfl) (takeOperand_along hR htake)
      exact hR.trans (hfinds.along hR hc)
        (hR.trans htaken (hR.trans (hR.note rfl) ih))

omit hc

/-! ## Layers -/

theorem State.IsCourse.tried (s : State) (frame : Frame) (t : Terminal)
    (matched : Option String) : R s (s.tried frame t matched) := by
  unfold State.tried
  split
  · exact hR.refl s
  · exact hR.note rfl

omit hR in
@[simp] theorem State.cursor_tried (s : State) (frame : Frame) (t : Terminal)
    (matched : Option String) : (s.tried frame t matched).cursor = s.cursor := by
  unfold State.tried
  split <;> rfl

omit hR in
@[simp] theorem State.aborted_tried (s : State) (frame : Frame) (t : Terminal)
    (matched : Option String) : (s.tried frame t matched).aborted = s.aborted := by
  unfold State.tried
  split <;> rfl

theorem matchTerminal_along (setting : Setting) (frame : Frame) (t : Terminal) (s : State) :
    R s (matchTerminal setting frame t s).state := by
  cases h : t.matchEnd? setting.beyond s.cursor with
  | none =>
      rw [matchTerminal_of_missed h]
      have hmiss := hR.missToken (s := s.tried frame t none) frame t.description
      rw [State.cursor_tried] at hmiss
      exact hR.trans (hR.tried s frame t none) hmiss
  | some stop =>
      rw [matchTerminal_of_matched h]
      refine hR.trans (hR.tried s frame t _) (hR.move ?_)
      rw [State.cursor_tried]
      exact Terminal.reaches_of_matchEnd? h

variable {m : Matcher} (hm : ∀ frame p, RunsAlong R (m frame p)) {setting : Setting}
  {frame : Frame}

include hm

theorem SkipRun.along {s s' : State} (h : SkipRun m setting frame s s') : R s s' := by
  cases h with
  | inside => exact hR.refl s
  | absent => exact hR.refl s
  | skipped _ _ ho => exact hm _ _ _ _ ho

theorem climbing_along (operators : List Operator) :
    Climbing.RunsAlong R
      ⟨m, peekPastTrivia m setting frame, { frame with probe := none }, operators⟩ where
  matcher := hm
  peek := by
    intro s offset s' h
    obtain ⟨after, hskip, heq⟩ := Option.map_eq_some_iff.mp h
    cases heq
    exact ⟨after, SkipRun.along hR hm (skipTrivia_eq_some_iff.mp hskip), rfl, rfl⟩

theorem BodyRun.along {p : Pattern} {s : State} {o : Outcome}
    (h : BodyRun m setting frame s p o) : R s o.state := by
  cases h with
  | terminal t => exact matchTerminal_along hR setting frame t s
  | sequence h => exact h.along hR (hm frame)
  | choice h => exact h.along hR (hm frame)
  | quantifier h =>
      rw [Rounds.state_outcome]
      exact h.along hR (hm frame _)
  | undefinedRule => exact hR.abort _
  | tooDeep => exact hR.abort _
  | lookup _ _ h =>
      exact hR.call _ _ (hm _ _ _ _ h)
  | label h =>
      have := hm _ _ _ _ h
      exact this
  | lookahead h => exact hR.back (hm _ _ _ _ h)
  | table h => exact ClimbRun.along hR (climbing_along hR hm _) h

theorem LayerRun.along {p : Pattern} {s : State} {o : Outcome}
    (h : LayerRun m setting frame p s o) : R s o.state := by
  cases h with
  | unpaid hc => exact hR.charge hc
  | tried hc hskip hbody =>
      have hall := hR.trans (hR.charge hc) (hR.trans (hskip.along hR hm) (hbody.along hR hm))
      unfold Outcome.settle
      split
      · exact hR.back hall
      · exact hall

omit hm

/-- **What each step of a parse allows holds of every match.** -/
theorem matchPattern_along (setting : Setting) (layers : Nat) (frame : Frame) (p : Pattern) :
    RunsAlong R (matchPattern setting layers frame p) := fun _ _ h =>
  matchPattern_induction (motive := fun _ _ s o => R s o.state)
    (fun _ hm _ _ _ _ hrun => hrun.along hR fun frame p s o => hm frame p s o) h

end OperatorPeg
