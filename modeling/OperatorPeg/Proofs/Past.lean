import OperatorPeg.Proofs.ParseRuns
import OperatorPeg.Proofs.States

/-!
# What happened before

Events are written down and never read while patterns are matched. So to tell what happened
before a match in another way changes nothing in the match but how its own events are told:
a match that begins with a past does what it does without one, and what happens in it comes
after that past. The same goes for how deep rules are nested, which nothing but a limit on it
reads.

To leave all failures out is such a way too, as long as none is recorded. So in a quiet frame
none is.
-/

namespace OperatorPeg

/-- A way to tell events that keeps what is added; of failures that is asked only if they
count. -/
structure Retelling (counts : Bool) (φ : List Event → List Event) : Prop where
  note : ∀ {e : Event} {events : List Event}, Event.failures [e] = [] →
    φ (e :: events) = e :: φ events
  fail : ∀ {f : Failure} {events : List Event}, counts = true →
    φ (.failed f :: events) = .failed f :: φ events

/-- Failures in the frame are not recorded, if they do not count. -/
def Frame.Fits (counts : Bool) (frame : Frame) : Prop := counts = true ∨ frame.quiet = true

variable {counts : Bool} {φ : List Event → List Event} (hφ : Retelling counts φ)

/-- The state in which what happened is told so. -/
def State.retell (φ : List Event → List Event) (s : State) : State :=
  { s with events := φ s.events }

def Outcome.retell (φ : List Event → List Event) (o : Outcome) : Outcome :=
  ⟨o.tree?, o.state.retell φ⟩

/-- From events that are told so `g` does what `f` does, told so. -/
def Retold (φ : List Event → List Event) (g f : State → Option Outcome) : Prop :=
  ∀ s, g (s.retell φ) = (f s).map (Outcome.retell φ)

/-! ## States -/

namespace State

variable (s : State)

-- by cases, so that `simp` rewrites in conditions together with their instances
@[simp] theorem cursor_retell : (s.retell φ).cursor = s.cursor := by cases s; rfl

@[simp] theorem aborted_retell : (s.retell φ).aborted = s.aborted := by cases s; rfl

@[simp] theorem isAborted_retell : (s.retell φ).isAborted = s.isAborted := by cases s; rfl

@[simp] theorem fuel_retell : (s.retell φ).fuel = s.fuel := rfl

theorem abort_retell (o : Nat) (cause : Abort) :
    (s.retell φ).abort o cause = (s.abort o cause).retell φ := by
  simp only [abort, aborted_retell]
  split <;> rfl

theorem charge_retell : (s.retell φ).charge = (s.charge.1, s.charge.2.retell φ) := by
  simp only [charge, isAborted_retell, fuel_retell]
  split
  · rfl
  · split
    · rfl
    · exact congrArg (Prod.mk false) (s.abort_retell _ _)
    · rfl

include hφ

theorem add_retell {e : Event} (he : Event.failures [e] = []) :
    (s.retell φ).add e = (s.add e).retell φ := by
  simp only [retell, add, hφ.note he]

theorem tried_retell (frame : Frame) (depth : Nat) (t : Terminal) (matched : Option String) :
    (s.retell φ).tried { frame with depth } t matched
      = (s.tried frame t matched).retell φ := by
  simp only [tried, cursor_retell]
  split
  · rfl
  · exact add_retell hφ s rfl

variable {frame : Frame} (hframe : frame.Fits counts) (depth : Nat)

include hframe

theorem fail_retell (f : Failure) :
    (s.retell φ).fail { frame with depth } f = (s.fail frame f).retell φ := by
  simp only [fail]
  split
  · rfl
  · next hloud =>
      have hcounts : counts = true := hframe.resolve_right hloud
      simp only [retell, add, hφ.fail hcounts]

theorem missToken_retell (o : Nat) (description : String) :
    (s.retell φ).missToken { frame with depth } o description
      = (s.missToken frame o description).retell φ := fail_retell hφ s hframe depth _

theorem missTerm_retell (o : Nat) :
    (s.retell φ).missTerm { frame with depth } o = (s.missTerm frame o).retell φ :=
  fail_retell hφ s hframe depth _

end State

/-! ## Loops -/

section Loops

variable {g f : Pattern → State → Option Outcome} (hgf : ∀ p, Retold φ (g p) (f p))

include hgf

theorem matchSteps_retell (offset : Nat) (kept : List Tree) (steps : List Step) :
    Retold φ (matchSteps g offset kept steps) (matchSteps f offset kept steps) := by
  induction steps generalizing kept with
  | nil => exact fun s => rfl
  | cons step steps ih =>
      intro s
      simp only [matchSteps, hgf step.pattern s]
      rcases f step.pattern s with _ | ⟨_ | node, s'⟩
      · rfl
      · rfl
      · exact ih _ s'

include hφ in
theorem matchAlternatives_retell (offset index : Nat) (ps : List Pattern) :
    Retold φ (matchAlternatives g offset index ps) (matchAlternatives f offset index ps) := by
  induction ps generalizing index with
  | nil => exact fun s => rfl
  | cons p ps ih =>
      intro s
      simp only [matchAlternatives, hgf p s]
      rcases f p s with _ | ⟨_ | child, s'⟩
      · rfl
      · simp only [Option.map_some, Outcome.retell, State.isAborted_retell,
          State.add_retell hφ s' (e := .backtracked index offset) rfl]
        split
        · rfl
        · exact ih (index + 1) _
      · rfl

/-- The rounds of a repetition, with what happened told so. -/
def Rounds.retell (φ : List Event → List Event) (r : Rounds) : Rounds :=
  { r with state := r.state.retell φ }

theorem matchUpTo_retell (p : Pattern) (n : Nat) (r : Rounds) :
    matchUpTo (g p) n (r.retell φ) = (matchUpTo (f p) n r).map (Rounds.retell φ) := by
  induction n generalizing r with
  | zero => rfl
  | succ n ih =>
      simp only [matchUpTo, Rounds.retell, hgf p r.state]
      rcases f p r.state with _ | ⟨_ | node, s'⟩
      · rfl
      · rfl
      · exact ih ⟨r.count + 1, node :: r.nodes, s'⟩

theorem matchWhile_retell (p : Pattern) (budget : List Char) (r : Rounds) :
    matchWhile (g p) budget (r.retell φ)
      = (matchWhile (f p) budget r).map (Rounds.retell φ) := by
  rw [matchWhile, matchWhile]
  simp only [Rounds.retell, hgf p r.state]
  rcases f p r.state with _ | ⟨_ | node, s'⟩
  · rfl
  · rfl
  · simp only [Option.map_some, Outcome.retell, State.cursor_retell]
    split
    · rw [State.abort_retell]
      rfl
    · cases budget with
      | nil => rfl
      | cons c budget => exact matchWhile_retell p budget ⟨r.count + 1, node :: r.nodes, s'⟩
termination_by budget.length

theorem matchQuantifier_retell (p : Pattern) (least : Nat) (most : Option Nat) :
    Retold φ (matchQuantifier (g p) least most) (matchQuantifier (f p) least most) := by
  intro s
  have houtcome (r : Rounds) : (r.retell φ).outcome least s.cursor.offset
      = (r.outcome least s.cursor.offset).retell φ := by
    simp only [Rounds.outcome, Rounds.retell, State.isAborted_retell,
      apply_ite (Outcome.retell φ)]
    rfl
  have hstart : (⟨0, [], s.retell φ⟩ : Rounds) = Rounds.retell φ ⟨0, [], s⟩ := rfl
  rw [matchQuantifier_eq, matchQuantifier_eq, hstart]
  cases most with
  | some n =>
      simp only [Option.elim_some]
      rw [matchUpTo_retell hgf, Option.map_map, Option.map_map]
      exact congrArg (Option.map · _) (funext houtcome)
  | none =>
      simp only [Option.elim_none, State.cursor_retell]
      rw [matchWhile_retell hgf, Option.map_map, Option.map_map]
      exact congrArg (Option.map · _) (funext houtcome)

end Loops

/-! ## Expressions -/

section Operators

omit hφ in
theorem matchOperator_retell {g f : Pattern → State → Option Outcome}
    (hgf : ∀ p, Retold φ (g p) (f p)) (wantOperand : Bool) (ops : List Operator) (s : State) :
    matchOperator g wantOperand ops (s.retell φ)
      = (matchOperator f wantOperand ops s).map fun r => (r.1, r.2.retell φ) := by
  induction ops generalizing s with
  | nil => rfl
  | cons op ops ih =>
      simp only [matchOperator, hgf op.pattern s]
      split
      · exact ih s
      · rcases f op.pattern s with _ | ⟨_ | mid, s'⟩
        · rfl
        · exact ih s'
        · rfl

include hφ

theorem completeBefore_retell (next : Operator) (stack : List Pending) (current : Tree)
    (s : State) :
    completeBefore next stack current (s.retell φ)
      = ((completeBefore next stack current s).1,
        (completeBefore next stack current s).2.retell φ) := by
  induction stack generalizing current s with
  | nil => rfl
  | cons top stack ih =>
      simp only [completeBefore]
      split
      · rw [State.add_retell hφ s rfl]
        exact ih _ _
      · rfl

theorem completeAll_retell (stack : List Pending) (current : Tree) (s : State) :
    completeAll stack current (s.retell φ)
      = ((completeAll stack current s).1, (completeAll stack current s).2.retell φ) := by
  induction stack generalizing current s with
  | nil => rfl
  | cons top stack ih =>
      simp only [completeAll]
      rw [State.add_retell hφ s rfl]
      exact ih _ _

theorem takeOperand_retell (op : Operator) (stack : List Pending) (operand : Option Tree)
    (s : State) :
    takeOperand op stack operand (s.retell φ)
      = ((takeOperand op stack operand s).1,
        (takeOperand op stack operand s).2.retell φ) := by
  cases operand with
  | none => rfl
  | some current => simp only [takeOperand, completeBefore_retell hφ]

end Operators

/-- From events that are told so the climbing loop `d` does what `c` does, told so, as deep as may
be. -/
structure Climbing.Retold (counts : Bool) (φ : List Event → List Event) (d c : Climbing) :
    Prop where
  matcher : ∀ probe p, OperatorPeg.Retold φ (d.matcher { d.frame with probe } p)
    (c.matcher { c.frame with probe } p)
  peek : ∀ s, d.peek (s.retell φ) = (c.peek s).map fun r => (r.1, r.2.retell φ)
  frame : ∃ depth, d.frame = { c.frame with depth }
  fits : c.frame.Fits counts
  operators : d.operators = c.operators

section Expressions

variable {d c : Climbing} (hdc : d.Retold counts φ c)

include hdc

theorem probe_retell (operand : Option Tree) (s : State) :
    d.probe operand (s.retell φ)
      = (c.probe operand s).map fun r => (r.1, r.2.retell φ) := by
  cases operand with
  | none => rfl
  | some operand =>
      simp only [Climbing.probe, Option.isNone_some, Bool.false_eq_true, if_false, hdc.peek,
        Option.map_map, Function.comp_def]

include hφ

theorem finishExpression_retell (stack : List Pending) (operand : Option Tree) :
    OperatorPeg.Retold φ (finishExpression d stack operand)
      (finishExpression c stack operand) := by
  intro s
  cases operand with
  | some operand =>
      simp only [finishExpression, completeAll_retell hφ]
      rfl
  | none =>
      obtain ⟨depth, hframe⟩ := hdc.frame
      simp only [finishExpression, hdc.peek]
      rcases c.peek s with _ | ⟨offset, s'⟩
      · rfl
      · simp only [Option.map_some, hframe, State.missTerm_retell hφ s' hdc.fits]
        rfl

/-- The rest of a round, if the rounds after it are told so. -/
theorem goOn_retell {rounds : Nat}
    (hclimb : ∀ stack operand lastEmpty,
      OperatorPeg.Retold φ (climb d rounds stack operand lastEmpty)
        (climb c rounds stack operand lastEmpty))
    (stack : List Pending) (operand : Option Tree) (lastEmpty : Option Nat) (before : State)
    (found : Option (Operator × Tree)) :
    OperatorPeg.Retold φ
      (d.goOn rounds stack operand lastEmpty (before.retell φ) found)
      (c.goOn rounds stack operand lastEmpty before found) := by
  intro after
  unfold Climbing.goOn
  rw [State.isAborted_retell]
  cases after.isAborted with
  | true => rfl
  | false =>
      simp only [Bool.false_eq_true, if_false]
      rcases found with _ | ⟨op, mid⟩
      · exact finishExpression_retell hφ hdc stack operand after
      · have hadd := State.add_retell hφ after (e := .operator op.name mid.offset) rfl
        have hempty : emptyAt (before.retell φ) (after.retell φ) = emptyAt before after := rfl
        simp only [hadd, hempty, takeOperand_retell hφ, State.cursor_retell]
        split
        · rw [State.abort_retell]
          rfl
        split
        · exact hclimb _ _ _ _
        · rw [State.add_retell hφ _ rfl]
          exact hclimb _ _ _ _

theorem climb_retell (rounds : Nat) (stack : List Pending) (operand : Option Tree)
    (lastEmpty : Option Nat) :
    OperatorPeg.Retold φ (climb d rounds stack operand lastEmpty)
      (climb c rounds stack operand lastEmpty) := by
  induction rounds generalizing stack operand lastEmpty with
  | zero => exact fun s => rfl
  | succ rounds ih =>
      intro s
      rw [climb_succ, climb_succ, probe_retell hdc, hdc.operators]
      rcases c.probe operand s with _ | ⟨probe, before⟩
      · rfl
      · simp only [Option.map_some, Option.bind_some]
        rw [matchOperator_retell (hdc.matcher probe)]
        rcases matchOperator (c.matcher { c.frame with probe }) operand.isNone c.operators before
          with _ | ⟨found, after⟩
        · rfl
        · exact goOn_retell hφ hdc ih stack operand lastEmpty before found after

end Expressions

/-! ## Layers -/

/-- From events that are told so the matcher does what it does, told so, as deep as may be. -/
def Matcher.Retold (counts : Bool) (φ : List Event → List Event) (m : Matcher) : Prop :=
  ∀ (frame : Frame) (depth : Nat) (p : Pattern), frame.Fits counts →
    OperatorPeg.Retold φ (m { frame with depth } p) (m frame p)

section Layer

variable {m : Matcher} (hm : m.Retold counts φ) {setting : Setting}
  {frame : Frame} (hframe : frame.Fits counts) (depth : Nat)

include hφ hframe in
theorem matchTerminal_retell (t : Terminal) (s : State) :
    matchTerminal setting { frame with depth } t (s.retell φ)
      = (matchTerminal setting frame t s).retell φ := by
  cases h : t.matchEnd? setting.beyond s.cursor with
  | none =>
      have h' : t.matchEnd? setting.beyond (s.retell φ).cursor = none := h
      rw [matchTerminal_of_missed h, matchTerminal_of_missed h', State.tried_retell hφ,
        State.missToken_retell hφ _ hframe]
      rfl
  | some stop =>
      have h' : t.matchEnd? setting.beyond (s.retell φ).cursor = some stop := h
      rw [matchTerminal_of_matched h, matchTerminal_of_matched h', State.tried_retell hφ]
      rfl

include hm

/-- Trivia is quiet in any frame. -/
theorem skipTrivia_retell (frame : Frame) (depth : Nat) (s : State) :
    skipTrivia m setting { frame with depth } (s.retell φ)
      = (skipTrivia m setting frame s).map (State.retell φ) := by
  simp only [skipTrivia]
  split
  · rfl
  · cases setting.rules.trivia? with
    | none => rfl
    | some trivia =>
        have h := hm { frame with inTrivia := true, quiet := true } depth trivia (.inr rfl) s
        simp only [h, Option.map_map]
        rfl

theorem peekPastTrivia_retell (frame : Frame) (depth : Nat) (s : State) :
    peekPastTrivia m setting { frame with depth } (s.retell φ)
      = (peekPastTrivia m setting frame s).map fun r => (r.1, r.2.retell φ) := by
  simp only [peekPastTrivia, skipTrivia_retell hm, Option.map_map]
  rfl

theorem matchLookahead_retell (frame : Frame) (depth : Nat) (inner : Pattern) (wanted : Bool) :
    Retold φ (matchLookahead m { frame with depth } inner wanted)
      (matchLookahead m frame inner wanted) := by
  intro s
  have h := hm { frame with quiet := true } depth inner (.inr rfl) s
  simp only [matchLookahead, h]
  rcases m { frame with quiet := true } inner s with _ | ⟨seen, after⟩
  · rfl
  · have hended : ({ (after.retell φ) with cursor := s.cursor } : State).isAborted
        = ({ after with cursor := s.cursor } : State).isAborted := rfl
    simp only [Option.map_some, Outcome.retell, State.cursor_retell, hended]
    split <;> rfl

include hφ hframe

theorem matchLookup_retell (hdepth : setting.depthLimit = none) (key : String) :
    Retold φ (matchLookup m setting { frame with depth } key)
      (matchLookup m setting frame key) := by
  intro s
  simp only [matchLookup, hdepth, Option.any_none, Bool.false_eq_true, if_false,
    State.cursor_retell]
  cases setting.rules.get? key with
  | none =>
      dsimp only
      rw [State.abort_retell]
      rfl
  | some p =>
      have hadd := State.add_retell hφ s (e := .entered key s.cursor.offset) rfl
      have h := hm { frame with depth := frame.depth + 1 } (depth + 1) p hframe
        (s.add (.entered key s.cursor.offset))
      simp only [hadd, h]
      rcases m { frame with depth := frame.depth + 1 } p (s.add (.entered key s.cursor.offset))
        with _ | ⟨_ | child, s'⟩
      · rfl
      · exact congrArg (fun s => some (Outcome.mk none s)) (State.add_retell hφ s' rfl)
      · exact congrArg (fun s => some (Outcome.mk _ s)) (State.add_retell hφ s' rfl)

theorem matchBody_retell (hdepth : setting.depthLimit = none) (p : Pattern) :
    Retold φ (matchBody m setting { frame with depth } p) (matchBody m setting frame p) := by
  have hparts (p : Pattern) := hm frame depth p hframe
  intro s
  cases p with
  | terminal t => exact congrArg some (matchTerminal_retell hφ hframe depth t s)
  | sequence steps => exact matchSteps_retell hparts s.cursor.offset [] steps s
  | choice alternatives =>
      exact matchAlternatives_retell hφ hparts s.cursor.offset 0 alternatives s
  | quantifier inner least most => exact matchQuantifier_retell hparts inner least most s
  | lookup key => exact matchLookup_retell hφ hm hframe depth hdepth key s
  | label name inner =>
      simp only [matchBody, hparts inner s, Option.map_map]
      rfl
  | lookahead inner wanted => exact matchLookahead_retell hm frame depth inner wanted s
  | table operators =>
      have hclimbs : Climbing.Retold counts φ
          ⟨m, peekPastTrivia m setting { frame with depth }, { frame with depth, probe := none },
            operators⟩
          ⟨m, peekPastTrivia m setting frame, { frame with probe := none }, operators⟩ :=
        ⟨fun probe p => hm { frame with probe } depth p hframe,
          peekPastTrivia_retell hm frame depth, ⟨depth, rfl⟩, hframe, rfl⟩
      exact climb_retell hφ hclimbs (2 * s.cursor.ahead.length + 3) [] none none s

theorem matchOnce_retell (hdepth : setting.depthLimit = none) (p : Pattern) :
    Retold φ (matchOnce m setting { frame with depth } p) (matchOnce m setting frame p) := by
  intro s
  simp only [matchOnce, State.charge_retell]
  rcases s.charge with ⟨_ | _, charged⟩
  · rfl
  · dsimp only
    rw [skipTrivia_retell hm]
    rcases skipTrivia m setting frame charged with _ | ready
    · rfl
    · have hbody := matchBody_retell hφ hm hframe depth hdepth p ready
      simp only [Option.map_some, hbody]
      rcases matchBody m setting frame p ready with _ | ⟨tree?, s'⟩
      · rfl
      · simp only [Option.map_some, Outcome.retell]
        split <;> rfl

end Layer

include hφ in
/-- **Matching does not read what happened.** -/
theorem matchPattern_retell {setting : Setting} (hdepth : setting.depthLimit = none)
    (layers : Nat) : (matchPattern setting layers).Retold counts φ := by
  induction layers with
  | zero => exact fun _ _ _ _ _ => rfl
  | succ layers ih =>
      exact fun frame depth p hframe => matchOnce_retell hφ ih hframe depth hdepth p

/-! ## A past -/

/-- The state with a past before what happened in it. -/
def State.recall (past : List Event) (s : State) : State := s.retell (· ++ past)

theorem retelling_append (past : List Event) : Retelling true (· ++ past) :=
  ⟨fun _ => rfl, fun _ => rfl⟩

/-- The same without anything that happened. -/
def State.fresh (s : State) : State := { s with events := [] }

theorem State.recall_fresh (s : State) : s.fresh.recall s.events = s := rfl

theorem State.failures_recall (past : List Event) (s : State) :
    Event.failures (s.recall past).events.reverse
      = Event.failures past.reverse ++ Event.failures s.events.reverse := by
  simp only [State.recall, State.retell, List.reverse_append, Event.failures,
    List.filterMap_append]

section

variable (setting : Setting) (hdepth : setting.depthLimit = none) (layers : Nat) (frame : Frame)
  (depth : Nat) (s : State)

include hdepth

/-- Trivia is skipped as it would be without a past. -/
theorem skipTrivia_recall (past : List Event) :
    skipTrivia (matchPattern setting layers) setting { frame with depth } (s.recall past)
      = (skipTrivia (matchPattern setting layers) setting frame s).map (State.recall past) :=
  skipTrivia_retell (matchPattern_retell (retelling_append past) hdepth layers) frame depth s

/-- What a pattern says is matched as it would be without a past. -/
theorem matchBody_recall (p : Pattern) (past : List Event) :
    matchBody (matchPattern setting layers) setting { frame with depth } p (s.recall past)
      = (matchBody (matchPattern setting layers) setting frame p s).map
        (Outcome.retell (· ++ past)) :=
  matchBody_retell (retelling_append past)
    (matchPattern_retell (retelling_append past) hdepth layers) (.inl rfl) depth hdepth p s

end

/-! ## Quiet frames -/

/-- What is no failure. -/
def Event.isNote : Event → Bool
  | .failed _ => false
  | _ => true

theorem retelling_notes : Retelling false (List.filter Event.isNote) where
  note := by
    intro e events he
    cases e with
    | failed => cases he
    | _ => rfl
  fail := nofun

theorem failures_notes (events : List Event) :
    Event.failures (events.filter Event.isNote).reverse = [] := by
  rw [Event.failures, List.filterMap_eq_nil_iff]
  intro e he
  obtain ⟨-, hnote⟩ := List.mem_filter.mp (List.mem_reverse.mp he)
  cases e with
  | failed => cases hnote
  | _ => rfl

/-- **In trivia no failure is recorded.** -/
theorem failures_skipTrivia {setting : Setting} (hdepth : setting.depthLimit = none)
    {layers : Nat} {frame : Frame} {s s' : State}
    (h : skipTrivia (matchPattern setting layers) setting frame s = some s')
    (hs : s.events = []) : Event.failures s'.events.reverse = [] := by
  have hretold : skipTrivia (matchPattern setting layers) setting
      { frame with depth := frame.depth } (s.retell (List.filter Event.isNote)) = _ :=
    skipTrivia_retell (matchPattern_retell retelling_notes hdepth layers) frame frame.depth s
  have hsame : s.retell (List.filter Event.isNote) = s := by
    rw [State.retell, hs]
    exact congrArg (fun events => State.mk _ _ _ events) hs.symm
  rw [hsame, h, Option.map_some, Option.some.injEq] at hretold
  rw [hretold]
  exact failures_notes s'.events

end OperatorPeg
