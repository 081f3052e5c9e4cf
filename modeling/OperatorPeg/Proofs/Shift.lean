import OperatorPeg.Proofs.EnoughLayers
import OperatorPeg.Proofs.Shift.Terminals

/-!
# Ranges and slices

Parsing a range of a source is parsing the slice that the range cuts out, further on: if
no terminal looks around, nothing that a parse does depends on what is before the range
or behind it, and offsets are compared with offsets that have moved as far.
-/

namespace OperatorPeg

/-- What `g` does further on is what `f` does, further on. -/
def ShiftedBy (before : List Char) (g f : State → Option Outcome) : Prop :=
  ∀ s, g (s.shift before) = (f s).map (Outcome.shift before)

/-! ## Loops -/

section Loops

variable {before : List Char} {g f : Pattern → State → Option Outcome}

theorem matchSteps_shift {steps : List Step}
    (hgf : ∀ step ∈ steps, ShiftedBy before (g step.pattern) (f step.pattern)) (offset : Nat)
    (kept : List Tree) (s : State) :
    matchSteps g (offset + Text.byteLength before)
        (kept.map (Tree.shift (Text.byteLength before))) steps (s.shift before)
      = (matchSteps f offset kept steps s).map (Outcome.shift before) := by
  induction steps generalizing kept s with
  | nil =>
      simp only [matchSteps, Option.map_some, Outcome.shift, Tree.shift, Tree.shiftAll_eq_map,
        List.map_reverse]
  | cons step steps ih =>
      obtain ⟨hstep, hsteps⟩ := List.forall_mem_cons.mp hgf
      simp only [matchSteps, hstep s]
      rcases f step.pattern s with _ | ⟨_ | node, s'⟩
      · rfl
      · rfl
      · simp only [Option.map_some, Outcome.shift, ← ih hsteps]
        split <;> rfl

theorem matchAlternatives_shift {ps : List Pattern}
    (hgf : ∀ p ∈ ps, ShiftedBy before (g p) (f p)) (offset index : Nat) (s : State) :
    matchAlternatives g (offset + Text.byteLength before) index ps (s.shift before)
      = (matchAlternatives f offset index ps s).map (Outcome.shift before) := by
  induction ps generalizing index s with
  | nil => rfl
  | cons p ps ih =>
      obtain ⟨hp, hps⟩ := List.forall_mem_cons.mp hgf
      simp only [matchAlternatives, hp s]
      rcases f p s with _ | ⟨_ | child, s'⟩
      · rfl
      · simp only [Option.map_some, Outcome.shift, Option.map_none, State.isAborted_shift]
        split
        · rfl
        · exact ih hps (index + 1) (s'.add (.backtracked index offset))
      · rfl

/-- The rounds of a repetition, further on. -/
def Rounds.shift (before : List Char) (r : Rounds) : Rounds :=
  ⟨r.count, r.nodes.map (Tree.shift (Text.byteLength before)), r.state.shift before⟩

theorem matchUpTo_shift {p : Pattern} (hgf : ShiftedBy before (g p) (f p)) (n : Nat)
    (r : Rounds) :
    matchUpTo (g p) n (r.shift before) = (matchUpTo (f p) n r).map (Rounds.shift before) := by
  induction n generalizing r with
  | zero => rfl
  | succ n ih =>
      simp only [matchUpTo, Rounds.shift, hgf r.state]
      rcases f p r.state with _ | ⟨_ | node, s'⟩
      · rfl
      · rfl
      · exact ih ⟨r.count + 1, node :: r.nodes, s'⟩

theorem matchWhile_shift {p : Pattern} (hgf : ShiftedBy before (g p) (f p)) (budget : List Char)
    (r : Rounds) :
    matchWhile (g p) budget (r.shift before)
      = (matchWhile (f p) budget r).map (Rounds.shift before) := by
  rw [matchWhile, matchWhile]
  simp only [Rounds.shift, hgf r.state]
  rcases f p r.state with _ | ⟨_ | node, s'⟩
  · rfl
  · rfl
  · simp only [Option.map_some, Outcome.shift, State.cursor_shift, Cursor.beq_offset_shift]
    split
    · simp only [Option.map_some, Rounds.shift, Cursor.offset_shift, State.abort_shift]
    · cases budget with
      | nil => rfl
      | cons c budget => exact matchWhile_shift hgf budget ⟨r.count + 1, node :: r.nodes, s'⟩
termination_by budget.length

theorem matchQuantifier_shift {p : Pattern} (hgf : ShiftedBy before (g p) (f p)) (least : Nat)
    (most : Option Nat) :
    ShiftedBy before (matchQuantifier (g p) least most) (matchQuantifier (f p) least most) := by
  intro s
  have houtcome (r : Rounds) :
      (r.shift before).outcome least (s.cursor.offset + Text.byteLength before)
        = (r.outcome least s.cursor.offset).shift before := by
    have hmissed : ((r.shift before).state.isAborted || decide ((r.shift before).count < least))
        = (r.state.isAborted || decide (r.count < least)) :=
      congrArg (· || decide (r.count < least)) r.state.isAborted_shift
    rw [Rounds.outcome, Rounds.outcome, hmissed, apply_ite (Outcome.shift before)]
    simp only [Outcome.shift, Rounds.shift, Option.map_some, Option.map_none, Tree.shift,
      Tree.shiftAll_eq_map, List.map_reverse]
  rw [matchQuantifier_eq, matchQuantifier_eq]
  cases most with
  | some n =>
      have hrounds := matchUpTo_shift hgf n ⟨0, [], s⟩
      simp only [Option.elim_some]
      rw [show (⟨0, [], s.shift before⟩ : Rounds) = Rounds.shift before ⟨0, [], s⟩ from rfl,
        hrounds, Option.map_map, Option.map_map]
      exact congrArg (Option.map · _) (funext houtcome)
  | none =>
      have hrounds := matchWhile_shift hgf s.cursor.ahead ⟨0, [], s⟩
      simp only [Option.elim_none, State.cursor_shift, Cursor.ahead_shift]
      rw [show (⟨0, [], s.shift before⟩ : Rounds) = Rounds.shift before ⟨0, [], s⟩ from rfl,
        hrounds, Option.map_map, Option.map_map]
      exact congrArg (Option.map · _) (funext houtcome)

end Loops

/-! ## Expressions -/

section Operators

variable (before : List Char)

/-- An operator that waits, further on. -/
def Pending.shift (p : Pending) : Pending where
  operator := p.operator
  mid := p.mid.shift (Text.byteLength before)
  left := p.left.map (Tree.shift (Text.byteLength before))

theorem complete_shift (p : Pending) (right : Option Tree) :
    (p.shift before).complete (right.map (Tree.shift (Text.byteLength before)))
      = (p.complete right).shift (Text.byteLength before) := by
  obtain ⟨op, mid, left⟩ := p
  cases left <;> simp [Pending.complete, Pending.shift, Tree.shift, Tree.shiftSide_eq_map]

theorem completeBefore_shift (next : Operator) (stack : List Pending) (current : Tree)
    (s : State) :
    completeBefore next (stack.map (Pending.shift before))
        (current.shift (Text.byteLength before)) (s.shift before)
      = (((completeBefore next stack current s).1.1.map (Pending.shift before),
          (completeBefore next stack current s).1.2.shift (Text.byteLength before)),
        (completeBefore next stack current s).2.shift before) := by
  induction stack generalizing current s with
  | nil => rfl
  | cons top stack ih =>
      have hcomplete := complete_shift before top (some current)
      rw [Option.map_some] at hcomplete
      have hoperator : (top.shift before).operator = top.operator := rfl
      simp only [List.map_cons, completeBefore, hcomplete, hoperator]
      split
      · exact ih _ (s.add (.reduced top.operator.name))
      · rfl

theorem completeAll_shift (stack : List Pending) (current : Tree) (s : State) :
    completeAll (stack.map (Pending.shift before)) (current.shift (Text.byteLength before))
        (s.shift before)
      = ((completeAll stack current s).1.shift (Text.byteLength before),
        (completeAll stack current s).2.shift before) := by
  induction stack generalizing current s with
  | nil => rfl
  | cons top stack ih =>
      have hcomplete := complete_shift before top (some current)
      rw [Option.map_some] at hcomplete
      simp only [List.map_cons, completeAll, hcomplete]
      exact ih _ (s.add (.reduced top.operator.name))

theorem takeOperand_shift (op : Operator) (stack : List Pending) (operand : Option Tree)
    (s : State) :
    takeOperand op (stack.map (Pending.shift before))
        (operand.map (Tree.shift (Text.byteLength before))) (s.shift before)
      = (((takeOperand op stack operand s).1.1.map (Pending.shift before),
          (takeOperand op stack operand s).1.2.map (Tree.shift (Text.byteLength before))),
        (takeOperand op stack operand s).2.shift before) := by
  cases operand with
  | none => rfl
  | some current =>
      simp only [Option.map_some, takeOperand, completeBefore_shift]

/-- What an operator match found, further on. -/
def shiftFound (r : Option (Operator × Tree) × State) : Option (Operator × Tree) × State :=
  (r.1.map fun (op, mid) => (op, mid.shift (Text.byteLength before)), r.2.shift before)

theorem matchOperator_shift {g f : Pattern → State → Option Outcome} {ops : List Operator}
    (hgf : ∀ op ∈ ops, ShiftedBy before (g op.pattern) (f op.pattern)) (wantOperand : Bool)
    (s : State) :
    matchOperator g wantOperand ops (s.shift before)
      = (matchOperator f wantOperand ops s).map (shiftFound before) := by
  induction ops generalizing s with
  | nil => rfl
  | cons op ops ih =>
      obtain ⟨hop, hops⟩ := List.forall_mem_cons.mp hgf
      simp only [matchOperator, hop s]
      split
      · exact ih hops s
      · rcases f op.pattern s with _ | ⟨_ | mid, s'⟩
        · rfl
        · exact ih hops s'
        · rfl

end Operators

/-- The climbing loop `d` does further on what `c` does. -/
structure Climbing.ShiftedBy (before : List Char) (d c : Climbing) : Prop where
  matcher : ∀ frame : Frame, ∀ op ∈ c.operators,
    OperatorPeg.ShiftedBy before (d.matcher (frame.shift before) op.pattern)
      (c.matcher frame op.pattern)
  peek : ∀ s, d.peek (s.shift before)
    = (c.peek s).map fun (offset, s') => (offset + Text.byteLength before, s'.shift before)
  frame : d.frame = c.frame.shift before
  operators : d.operators = c.operators

section Expressions

variable {before : List Char} {d c : Climbing} (hdc : d.ShiftedBy before c)

include hdc

theorem probe_shift (operand : Option Tree) (s : State) :
    d.probe (operand.map (Tree.shift (Text.byteLength before))) (s.shift before)
      = (c.probe operand s).map fun (probe, s') =>
          (probe.map (· + Text.byteLength before), s'.shift before) := by
  cases operand with
  | none => rfl
  | some operand =>
      simp only [Climbing.probe, Option.map_some, Option.isNone_some, Bool.false_eq_true, if_false,
        hdc.peek, Option.map_map, Function.comp_def]

theorem finishExpression_shift (stack : List Pending) (operand : Option Tree) (s : State) :
    finishExpression d (stack.map (Pending.shift before))
        (operand.map (Tree.shift (Text.byteLength before))) (s.shift before)
      = (finishExpression c stack operand s).map (Outcome.shift before) := by
  cases operand with
  | some operand =>
      simp only [Option.map_some, finishExpression, completeAll_shift]
      rfl
  | none =>
      simp only [Option.map_none, finishExpression, hdc.peek, hdc.frame]
      rcases c.peek s with _ | ⟨offset, s'⟩
      · rfl
      · simp only [Option.map_some, State.missTerm_shift]
        rfl

omit hdc in
theorem emptyAt_shift (s after : State) :
    emptyAt (s.shift before) (after.shift before)
      = (emptyAt s after).map (· + Text.byteLength before) := by
  rw [emptyAt, emptyAt, State.cursor_shift, State.cursor_shift, Cursor.beq_offset_shift,
    apply_ite (Option.map _)]
  rfl

omit hdc in
theorem repeatsState_shift (op : Operator) (lastEmpty : Option Nat) (o by' : Nat) :
    repeatsState op (lastEmpty.map (· + by')) (o + by') = repeatsState op lastEmpty o := by
  have hbeq : (lastEmpty.map (· + by') == some (o + by')) = (lastEmpty == some o) := by
    rw [Bool.eq_iff_iff, beq_iff_eq, beq_iff_eq]
    cases lastEmpty <;> simp
  rw [repeatsState, repeatsState, hbeq]

/-- The rest of a round, if the rounds after it are those of the slice. -/
theorem goOn_shift {rounds : Nat}
    (hclimb : ∀ stack operand lastEmpty s,
      climb d rounds (stack.map (Pending.shift before))
          (Option.map (Tree.shift (Text.byteLength before)) operand)
          (Option.map (· + Text.byteLength before) lastEmpty) (s.shift before)
        = (climb c rounds stack operand lastEmpty s).map (Outcome.shift before))
    (stack : List Pending) (operand : Option Tree) (lastEmpty : Option Nat) (s : State)
    (found : Option (Operator × Tree)) (after : State) :
    d.goOn rounds (stack.map (Pending.shift before))
        (operand.map (Tree.shift (Text.byteLength before)))
        (lastEmpty.map (· + Text.byteLength before)) (s.shift before)
        (found.map fun (op, mid) => (op, mid.shift (Text.byteLength before)))
        (after.shift before)
      = (c.goOn rounds stack operand lastEmpty s found after).map (Outcome.shift before) := by
  unfold Climbing.goOn
  rw [State.isAborted_shift]
  cases after.isAborted with
  | true => rfl
  | false =>
      simp only [Bool.false_eq_true, if_false]
      rcases found with _ | ⟨op, mid⟩
      · exact finishExpression_shift hdc stack operand after
      · have hadd : (after.shift before).add
            (.operator op.name (mid.shift (Text.byteLength before)).offset)
            = (after.add (.operator op.name mid.offset)).shift before := by
          rw [Tree.offset_shift]
          rfl
        simp only [Option.map_some, hadd, takeOperand_shift, emptyAt_shift, State.cursor_shift,
          Cursor.beq_offset_shift]
        simp only [Cursor.offset_shift, repeatsState_shift]
        split
        · rw [State.abort_shift]
          rfl
        split
        · exact hclimb (⟨op, mid, _⟩ :: _) none _ _
        · rw [← hclimb]
          refine congrArg (climb d rounds _ · _ _) (congrArg some ?_)
          exact complete_shift before ⟨op, mid, _⟩ none

theorem climb_shift (rounds : Nat) (stack : List Pending) (operand : Option Tree)
    (lastEmpty : Option Nat) (s : State) :
    climb d rounds (stack.map (Pending.shift before))
        (operand.map (Tree.shift (Text.byteLength before)))
        (lastEmpty.map (· + Text.byteLength before)) (s.shift before)
      = (climb c rounds stack operand lastEmpty s).map (Outcome.shift before) := by
  induction rounds generalizing stack operand lastEmpty s with
  | zero => rfl
  | succ rounds ih =>
      rw [climb_succ, climb_succ, probe_shift hdc, Option.isNone_map, hdc.operators]
      rcases c.probe operand s with _ | ⟨probe, start⟩
      · rfl
      · simp only [Option.map_some, Option.bind_some, hdc.frame]
        have hoperator :=
          matchOperator_shift before (hdc.matcher { c.frame with probe }) operand.isNone start
        refine (congrArg (Option.bind · _) hoperator).trans ?_
        rcases matchOperator (c.matcher { c.frame with probe }) operand.isNone c.operators start
          with _ | ⟨found, after⟩
        · rfl
        · exact goOn_shift hdc ih stack operand lastEmpty start found after

end Expressions

/-! ## Layers -/

/-- The matcher `g` does further on what `f` does, with patterns that do not look around. -/
def Matcher.ShiftedBy (before : List Char) (g f : Matcher) : Prop :=
  ∀ frame p, p.looksAround = false →
    OperatorPeg.ShiftedBy before (g (frame.shift before) p) (f frame p)

section Layer

variable {before beyond beyond' : List Char}

theorem matchTerminal_shift (setting setting' : Setting) (frame : Frame) {t : Terminal}
    (ht : t.looksAround = false) (s : State) :
    matchTerminal setting' (frame.shift before) t (s.shift before)
      = (matchTerminal setting frame t s).shift before := by
  have hends := t.matchEnd?_shift ht before setting.beyond setting'.beyond s.cursor
  cases h : t.matchEnd? setting.beyond s.cursor with
  | none =>
      rw [h, Option.map_none] at hends
      rw [matchTerminal_of_missed h, matchTerminal_of_missed hends, State.tried_shift,
        State.cursor_shift, Cursor.offset_shift, State.missToken_shift]
      rfl
  | some stop =>
      rw [h, Option.map_some] at hends
      rw [matchTerminal_of_matched h, matchTerminal_of_matched hends, State.textUpTo_shift,
        State.tried_shift]
      rfl

variable {rules : Rules} (hrules : rules.looksAround = false) {depthLimit : Option Nat}
  {g f : Matcher} (hgf : g.ShiftedBy before f) (frame : Frame)

include hgf

theorem matchLookahead_shift {inner : Pattern} (hinner : inner.looksAround = false)
    (wanted : Bool) :
    ShiftedBy before (matchLookahead g (frame.shift before) inner wanted)
      (matchLookahead f frame inner wanted) := by
  intro s
  have h : g { frame.shift before with quiet := true } inner (s.shift before)
      = (f { frame with quiet := true } inner s).map (Outcome.shift before) :=
    hgf { frame with quiet := true } inner hinner s
  simp only [matchLookahead, h]
  rcases f { frame with quiet := true } inner s with _ | ⟨seen, after⟩
  · rfl
  · have hended : ({ (after.shift before) with cursor := s.cursor.shift before } : State).isAborted
        = ({ after with cursor := s.cursor } : State).isAborted := after.isAborted_shift
    have hseen : (seen.map (Tree.shift (Text.byteLength before))).isSome = seen.isSome :=
      Option.isSome_map
    simp only [Option.map_some, Outcome.shift, State.cursor_shift, hended, hseen]
    split
    · rfl
    · simp only [Option.map_some, Outcome.shift, Tree.shift, Tree.shiftSide_eq_map]
      rfl

include hrules

theorem skipTrivia_shift (s : State) :
    skipTrivia g ⟨rules, beyond', depthLimit⟩ (frame.shift before) (s.shift before)
      = (skipTrivia f ⟨rules, beyond, depthLimit⟩ frame s).map (State.shift before) := by
  have hin : (frame.shift before).inTrivia = frame.inTrivia := rfl
  simp only [skipTrivia, hin]
  split
  · rfl
  · cases htrivia : rules.trivia? with
    | none => rfl
    | some trivia =>
        have h : g { frame.shift before with inTrivia := true, quiet := true } trivia
              (s.shift before)
            = (f { frame with inTrivia := true, quiet := true } trivia s).map
              (Outcome.shift before) :=
          hgf { frame with inTrivia := true, quiet := true } trivia
            (Rules.looksAround_of_get? hrules htrivia) s
        simp only [h, Option.map_map]
        rfl

theorem peekPastTrivia_shift (s : State) :
    peekPastTrivia g ⟨rules, beyond', depthLimit⟩ (frame.shift before) (s.shift before)
      = (peekPastTrivia f ⟨rules, beyond, depthLimit⟩ frame s).map fun (offset, s') =>
          (offset + Text.byteLength before, s'.shift before) := by
  have hskip : skipTrivia g ⟨rules, beyond', depthLimit⟩ (frame.shift before) (s.shift before)
      = (skipTrivia f ⟨rules, beyond, depthLimit⟩ frame s).map (State.shift before) :=
    skipTrivia_shift hrules hgf frame s
  simp only [peekPastTrivia, hskip, Option.map_map]
  rfl

theorem matchLookup_shift (key : String) :
    ShiftedBy before (matchLookup g ⟨rules, beyond', depthLimit⟩ (frame.shift before) key)
      (matchLookup f ⟨rules, beyond, depthLimit⟩ frame key) := by
  intro s
  have hdepth : (frame.shift before).depth = frame.depth := rfl
  simp only [matchLookup, hdepth, State.cursor_shift, Cursor.offset_shift, State.abort_shift]
  cases hget : rules.get? key with
  | none => rfl
  | some p =>
      dsimp only
      split
      · rfl
      · have h : g { frame.shift before with depth := frame.depth + 1 } p
              ((s.shift before).add (.entered key (s.cursor.offset + Text.byteLength before)))
            = (f { frame with depth := frame.depth + 1 } p
              (s.add (.entered key s.cursor.offset))).map (Outcome.shift before) :=
          hgf { frame with depth := frame.depth + 1 } p (Rules.looksAround_of_get? hrules hget)
            (s.add (.entered key s.cursor.offset))
        simp only [h]
        rcases f { frame with depth := frame.depth + 1 } p (s.add (.entered key s.cursor.offset))
          with _ | ⟨_ | child, s'⟩ <;> rfl

theorem matchBody_shift {p : Pattern} (hp : p.looksAround = false) :
    ShiftedBy before (matchBody g ⟨rules, beyond', depthLimit⟩ (frame.shift before) p)
      (matchBody f ⟨rules, beyond, depthLimit⟩ frame p) := by
  have hparts (inner : Pattern) (hinner : inner ∈ p.parts) (frame : Frame) :
      ShiftedBy before (g (frame.shift before) inner) (f frame inner) :=
    hgf frame inner (Pattern.looksAround_of_mem_parts hp hinner)
  intro s
  cases p with
  | terminal t => exact congrArg some (matchTerminal_shift _ _ frame hp s)
  | sequence steps =>
      exact matchSteps_shift (fun step hstep => hparts _ (List.mem_map_of_mem hstep) frame)
        s.cursor.offset [] s
  | choice alternatives =>
      exact matchAlternatives_shift (fun p h => hparts p h frame) s.cursor.offset 0 s
  | quantifier inner least most =>
      exact matchQuantifier_shift (hparts inner (List.mem_singleton_self _) frame) least most s
  | lookup key => exact matchLookup_shift hrules hgf frame key s
  | label name inner =>
      simp only [matchBody, hparts inner (List.mem_singleton_self _) frame s, Option.map_map]
      refine congrArg (Option.map · _) (funext fun o => ?_)
      rcases o with ⟨_ | child, s'⟩ <;> rfl
  | lookahead inner wanted =>
      exact matchLookahead_shift hgf frame (Pattern.looksAround_of_mem_parts hp
        (List.mem_singleton_self _)) wanted s
  | table operators =>
      have hclimbs : Climbing.ShiftedBy before
          ⟨g, peekPastTrivia g ⟨rules, beyond', depthLimit⟩ (frame.shift before),
            { frame.shift before with probe := none }, operators⟩
          ⟨f, peekPastTrivia f ⟨rules, beyond, depthLimit⟩ frame, { frame with probe := none },
            operators⟩ :=
        ⟨fun frame op hop => hparts _ (List.mem_map_of_mem hop) frame,
          peekPastTrivia_shift hrules hgf frame, rfl, rfl⟩
      exact climb_shift hclimbs (2 * s.cursor.ahead.length + 3) [] none none s

theorem matchOnce_shift {p : Pattern} (hp : p.looksAround = false) :
    ShiftedBy before (matchOnce g ⟨rules, beyond', depthLimit⟩ (frame.shift before) p)
      (matchOnce f ⟨rules, beyond, depthLimit⟩ frame p) := by
  intro s
  simp only [matchOnce, State.charge_shift]
  rcases s.charge with ⟨_ | _, charged⟩
  · rfl
  · dsimp only
    rw [skipTrivia_shift hrules hgf]
    rcases skipTrivia f ⟨rules, beyond, depthLimit⟩ frame charged with _ | ready
    · rfl
    · have hbody : matchBody g ⟨rules, beyond', depthLimit⟩ (frame.shift before) p
            (ready.shift before)
          = (matchBody f ⟨rules, beyond, depthLimit⟩ frame p ready).map (Outcome.shift before) :=
        matchBody_shift hrules hgf frame hp ready
      simp only [Option.map_some, hbody]
      rcases matchBody f ⟨rules, beyond, depthLimit⟩ frame p ready with _ | ⟨tree?, s'⟩
      · rfl
      · simp only [Option.map_some, Outcome.shift, Option.isNone_map]
        split <;> rfl

end Layer

/-- **Matching further on is matching, further on**, if no terminal looks around. -/
theorem matchPattern_shift {rules : Rules} (hrules : rules.looksAround = false)
    (before beyond beyond' : List Char) (depthLimit : Option Nat) (layers : Nat) :
    Matcher.ShiftedBy before (matchPattern ⟨rules, beyond', depthLimit⟩ layers)
      (matchPattern ⟨rules, beyond, depthLimit⟩ layers) := by
  induction layers with
  | zero => exact fun frame p _ s => rfl
  | succ layers ih => exact fun frame p hp => matchOnce_shift hrules ih frame hp

/-! ## Parses -/

theorem conclude_shift {before beyond beyond' : List Char} {rules : Rules}
    (hrules : rules.looksAround = false) {depthLimit : Option Nat} {g f : Matcher}
    (hgf : g.ShiftedBy before f) (o : Outcome) :
    conclude g ⟨rules, beyond', depthLimit⟩ (o.shift before)
      = (conclude f ⟨rules, beyond, depthLimit⟩ o).map (Report.shift (Text.byteLength before)) := by
  obtain ⟨_ | tree, s⟩ := o
  · exact congrArg some (reject_shift before s)
  · have hskip : skipTrivia g ⟨rules, beyond', depthLimit⟩ .outermost (s.shift before)
        = (skipTrivia f ⟨rules, beyond, depthLimit⟩ .outermost s).map (State.shift before) :=
      skipTrivia_shift hrules hgf .outermost s
    simp only [conclude, Outcome.shift, Option.map_some, hskip]
    rcases skipTrivia f ⟨rules, beyond, depthLimit⟩ .outermost s with _ | s'
    · rfl
    · simp only [Option.map_some, State.isAborted_shift, State.cursor_shift, Cursor.ahead_shift,
        Cursor.offset_shift]
      split
      · simp only [Option.map_some, Report.shift, List.map_reverse]
        rfl
      · refine congrArg some ?_
        rw [← reject_shift]
        exact congrArg reject (State.missToken_shift s' .outermost s'.cursor.offset endOfInput)

/-- Parsing a window further on. -/
theorem parseWindow_shift {rules : Rules} (hrules : rules.looksAround = false) {start : Start}
    (hstart : start.looksAround = false) (before beyond beyond' : List Char) (layers : Nat)
    (limits : Limits) (c : Cursor) :
    parseWindow layers rules limits start ⟨c.shift before, beyond'⟩
      = (parseWindow layers rules limits start ⟨c, beyond⟩).map
        (Report.shift (Text.byteLength before)) := by
  have hm := matchPattern_shift hrules before beyond beyond' limits.depth layers
  cases hp : start.pattern? rules with
  | none =>
      obtain ⟨name, hundefined⟩ := parseWindow_of_undefined hp
      rw [hundefined, hundefined]
      rfl
  | some p =>
      have hentered : start.enter (State.start (c.shift before) limits.fuel)
          = (start.enter (State.start c limits.fuel)).shift before := by
        cases start <;> rfl
      have hleft (o : Outcome) : start.leave (o.shift before) = (start.leave o).shift before := by
        rcases o with ⟨_ | _, _⟩ <;> cases start <;> rfl
      have hmatch : matchPattern ⟨rules, beyond', limits.depth⟩ layers .outermost p
            ((start.enter (State.start c limits.fuel)).shift before)
          = (matchPattern ⟨rules, beyond, limits.depth⟩ layers .outermost p
            (start.enter (State.start c limits.fuel))).map (Outcome.shift before) :=
        hm .outermost p (Start.looksAround_of_pattern? hrules hstart hp) _
      rw [parseWindow_of_defined hp, parseWindow_of_defined hp]
      simp only [hentered, hmatch]
      rcases matchPattern ⟨rules, beyond, limits.depth⟩ layers .outermost p
        (start.enter (State.start c limits.fuel)) with _ | o
      · rfl
      · simp only [Option.map_some, Option.bind_some, hleft]
        exact conclude_shift hrules hm (start.leave o)

/-- **Parsing a range is parsing the slice, further on.** If no terminal looks around, a parse
of the range between two places of a text comes to the same as a parse of the text between
them, with the bytes before the range added to every offset: of the tree, or of the error,
whose kind, expectations and rule are the same, and of what happened. -/
theorem parseRange_eq_shift_parse (rules : Rules) (start : Start)
    (hrules : rules.looksAround = false) (hstart : start.looksAround = false) (limits : Limits)
    (before inside beyond : String) :
    parseRange rules limits start (before ++ inside ++ beyond) before.utf8ByteSize
        (before.utf8ByteSize + inside.utf8ByteSize)
      = (parse rules limits start inside).map (Report.shift before.utf8ByteSize) := by
  have hwithin (layers : Nat) :
      parseWithin layers rules limits start (before ++ inside ++ beyond) before.utf8ByteSize
          (before.utf8ByteSize + inside.utf8ByteSize)
        = (parseWithin layers rules limits start inside 0 inside.utf8ByteSize).map
          (Report.shift before.utf8ByteSize) := by
    have hshift := parseWindow_shift hrules hstart before.toList [] beyond.toList layers limits
      (.atStart inside.toList)
    rw [Text.byteLength_toList] at hshift
    rw [parseWithin, parseWithin, Window.ofRange_between, Window.ofRange_whole, ← hshift]
    simp only [Cursor.shift, Cursor.atStart, List.nil_append, Nat.zero_add,
      Text.byteLength_toList]
  refine Option.ext fun report => ?_
  simp only [parse, Option.map_eq_some_iff, parseRange_eq_some_iff, hwithin]
  constructor
  · rintro ⟨layers, r, hr, heq⟩
    exact ⟨r, ⟨layers, hr⟩, heq⟩
  · rintro ⟨r, ⟨layers, hr⟩, heq⟩
    exact ⟨layers, r, hr, heq⟩

/-- Sums of numbers. -/
private def sums : Rules :=
  .ofList [("_", .terminal (.literal " ")),
    ("sum", .table [
      ⟨"number", none, none,
        .terminal (.regex "[0-9]+" (.rounds (.oneOf (.range 48 57)) 1 none true))⟩,
      ⟨"plus", some 1, some 1, .terminal (.literal "+")⟩])]

/-- What stands around the slice is neither trivia nor part of a number. -/
theorem parseRange_eq_shift_parse_sample :
    (parse sums .unlimited (.rule "sum") "1 +23").any (·.result.toBool) = true ∧
      parseRange sums .unlimited (.rule "sum") ("7é" ++ "1 +23" ++ "4") 3 8
        = (parse sums .unlimited (.rule "sum") "1 +23").map (Report.shift 3) :=
  ⟨by decide +kernel, parseRange_eq_shift_parse sums (.rule "sum") rfl rfl .unlimited "7é"
    "1 +23" "4"⟩

end OperatorPeg
