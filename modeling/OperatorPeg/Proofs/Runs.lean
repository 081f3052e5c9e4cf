import OperatorPeg.Engine.Match

/-!
# Runs of the matcher

What one layer of matching does, written down once as relations: one for each
loop, one for what a pattern says and one for the layer itself. Each of them
says everything that the function it stands for can do, so a law about matching
is an induction over runs and never opens a loop.

The matcher for what is inside a pattern is a parameter here as it is there. Its
calls appear as hypotheses of the constructors.
-/

namespace OperatorPeg

/-! ## Loops -/

/-- The steps of a sequence are matched up to the first that is missed. -/
inductive StepsRun (m : Pattern → State → Option Outcome) (offset : Nat) :
    List Tree → List Step → State → Outcome → Prop
  | done (kept : List Tree) (s : State) :
      StepsRun m offset kept [] s ⟨some (.sequence offset kept.reverse), s⟩
  | missed {kept : List Tree} {step : Step} {steps : List Step} {s s' : State} :
      m step.pattern s = some ⟨none, s'⟩ →
      StepsRun m offset kept (step :: steps) s ⟨none, s'⟩
  | matched {kept : List Tree} {step : Step} {steps : List Step} {s s' : State}
      {node : Tree} {o : Outcome} :
      m step.pattern s = some ⟨some node, s'⟩ →
      StepsRun m offset (if step.keep then node :: kept else kept) steps s' o →
      StepsRun m offset kept (step :: steps) s o

theorem matchSteps_eq_some_iff {m : Pattern → State → Option Outcome} {offset : Nat}
    {kept : List Tree} {steps : List Step} {s : State} {o : Outcome} :
    matchSteps m offset kept steps s = some o ↔ StepsRun m offset kept steps s o := by
  constructor
  · intro h
    -- the cases are those of the loop; where the matcher inside gives out there is no run
    fun_induction matchSteps m offset kept steps s with
    | case1 kept s =>
        cases h
        exact .done kept s
    | case2 => cases h
    | case3 _ _ _ _ _ hm =>
        cases h
        exact .missed hm
    | case4 _ _ _ _ _ _ hm ih => exact .matched hm (ih h)
  · intro h
    induction h with
    | done => rfl
    | missed hm => simp only [matchSteps, hm]
    | matched hm _ ih => simp only [matchSteps, hm, ih]

/-- The alternatives of a choice are tried up to the first that matches or ends
the parse. -/
inductive AlternativesRun (m : Pattern → State → Option Outcome) (offset : Nat) :
    Nat → List Pattern → State → Outcome → Prop
  | exhausted (index : Nat) (s : State) : AlternativesRun m offset index [] s ⟨none, s⟩
  | chosen {index : Nat} {p : Pattern} {ps : List Pattern} {s s' : State} {child : Tree} :
      m p s = some ⟨some child, s'⟩ →
      AlternativesRun m offset index (p :: ps) s ⟨some (.choice offset index child), s'⟩
  | aborted {index : Nat} {p : Pattern} {ps : List Pattern} {s s' : State} :
      m p s = some ⟨none, s'⟩ → s'.isAborted = true →
      AlternativesRun m offset index (p :: ps) s ⟨none, s'⟩
  | missed {index : Nat} {p : Pattern} {ps : List Pattern} {s s' : State} {o : Outcome} :
      m p s = some ⟨none, s'⟩ → s'.isAborted = false →
      AlternativesRun m offset (index + 1) ps (s'.add (.backtracked index offset)) o →
      AlternativesRun m offset index (p :: ps) s o

theorem matchAlternatives_eq_some_iff {m : Pattern → State → Option Outcome}
    {offset index : Nat} {ps : List Pattern} {s : State} {o : Outcome} :
    matchAlternatives m offset index ps s = some o ↔
      AlternativesRun m offset index ps s o := by
  constructor
  · intro h
    fun_induction matchAlternatives m offset index ps s with
    | case1 index s =>
        cases h
        exact .exhausted index s
    | case2 => cases h
    | case3 _ _ _ _ _ _ hm =>
        cases h
        exact .chosen hm
    | case4 _ _ _ _ _ hm ha =>
        cases h
        exact .aborted hm ha
    | case5 _ _ _ _ _ hm ha ih => exact .missed hm (by simpa using ha) (ih h)
  · intro h
    induction h with
    | exhausted => rfl
    | chosen hm => simp only [matchAlternatives, hm]
    | aborted hm ha => simp only [matchAlternatives, hm, ha, if_true]
    | missed hm ha _ ih =>
        simp only [matchAlternatives, hm, ha, Bool.false_eq_true, if_false, ih]

/-- A bounded repetition goes on to its bound or to the first miss. -/
inductive UpToRun (m : State → Option Outcome) : Nat → Rounds → Rounds → Prop
  | full (r : Rounds) : UpToRun m 0 r r
  | missed {n : Nat} {r : Rounds} {s : State} :
      m r.state = some ⟨none, s⟩ → UpToRun m (n + 1) r { r with state := s }
  | matched {n : Nat} {r r' : Rounds} {node : Tree} {s : State} :
      m r.state = some ⟨some node, s⟩ →
      UpToRun m n ⟨r.count + 1, node :: r.nodes, s⟩ r' → UpToRun m (n + 1) r r'

theorem matchUpTo_eq_some_iff {m : State → Option Outcome} {n : Nat} {r r' : Rounds} :
    matchUpTo m n r = some r' ↔ UpToRun m n r r' := by
  constructor
  · intro h
    fun_induction matchUpTo m n r with
    | case1 =>
        cases h
        exact .full _
    | case2 => cases h
    | case3 _ _ _ hm =>
        cases h
        exact .missed hm
    | case4 _ _ _ _ hm ih => exact .matched hm (ih h)
  · intro h
    induction h with
    | full => rfl
    | missed hm => simp only [matchUpTo, hm]
    | matched hm _ ih => simp only [matchUpTo, hm, ih]

/-- An unbounded repetition goes on to the first miss; a round that consumes nothing
ends the parse. -/
inductive WhileRun (m : State → Option Outcome) : List Char → Rounds → Rounds → Prop
  | missed {budget : List Char} {r : Rounds} {s : State} :
      m r.state = some ⟨none, s⟩ → WhileRun m budget r { r with state := s }
  | stuck {budget : List Char} {r : Rounds} {node : Tree} {s : State} :
      m r.state = some ⟨some node, s⟩ → s.cursor.offset = r.state.cursor.offset →
      WhileRun m budget r { r with state := s.abort s.cursor.offset .zeroLengthMatch }
  | matched {c : Char} {budget : List Char} {r r' : Rounds} {node : Tree} {s : State} :
      m r.state = some ⟨some node, s⟩ → s.cursor.offset ≠ r.state.cursor.offset →
      WhileRun m budget ⟨r.count + 1, node :: r.nodes, s⟩ r' → WhileRun m (c :: budget) r r'

theorem matchWhile_eq_some_iff {m : State → Option Outcome} {budget : List Char}
    {r r' : Rounds} : matchWhile m budget r = some r' ↔ WhileRun m budget r r' := by
  constructor
  · intro h
    fun_induction matchWhile m budget r with
    | case1 => cases h
    | case2 _ _ _ hm =>
        cases h
        exact .missed hm
    | case3 _ _ _ _ hm hc =>
        cases h
        exact .stuck hm (beq_iff_eq.mp hc)
    | case4 => cases h
    | case5 _ _ _ hm hc _ _ ih => exact .matched hm (by simpa using hc) (ih h)
  · intro h
    induction h with
    | missed hm =>
        rw [matchWhile]
        simp only [hm]
    | stuck hm hc =>
        rw [matchWhile]
        simp only [hm, hc, beq_self_eq_true, if_true]
    | matched hm hc _ ih =>
        rw [matchWhile]
        simp only [hm, beq_iff_eq, hc, if_false, ih]

/-- The rounds of a repetition, with an upper bound or without one. -/
def RoundsRun (m : State → Option Outcome) (most : Option Nat) (s : State) (r : Rounds) : Prop :=
  match most with
  | some n => UpToRun m n ⟨0, [], s⟩ r
  | none => WhileRun m s.cursor.ahead ⟨0, [], s⟩ r

/-- What a repetition comes to after its rounds. -/
def Rounds.outcome (least offset : Nat) (r : Rounds) : Outcome :=
  if r.state.isAborted || r.count < least then ⟨none, r.state⟩
  else ⟨some (.quantifier offset r.nodes.reverse), r.state⟩

/-- Both kinds of rounds lead to the same end. -/
theorem matchQuantifier_eq (m : State → Option Outcome) (least : Nat) (most : Option Nat)
    (s : State) :
    matchQuantifier m least most s =
      (most.elim (matchWhile m s.cursor.ahead ⟨0, [], s⟩) fun n => matchUpTo m n ⟨0, [], s⟩).map
        (Rounds.outcome least s.cursor.offset) := by
  have hends : ∀ r : Rounds, some (r.outcome least s.cursor.offset) =
      if r.state.isAborted || r.count < least then some ⟨none, r.state⟩
      else some ⟨some (.quantifier s.cursor.offset r.nodes.reverse), r.state⟩ := fun r =>
    apply_ite some _ _ _
  unfold matchQuantifier
  cases most with
  | some n =>
      simp only [Option.elim_some]
      cases matchUpTo m n ⟨0, [], s⟩ with
      | none => rfl
      | some r => exact (hends r).symm
  | none =>
      simp only [Option.elim_none]
      cases matchWhile m s.cursor.ahead ⟨0, [], s⟩ with
      | none => rfl
      | some r => exact (hends r).symm

theorem matchQuantifier_eq_some_iff {m : State → Option Outcome} {least : Nat}
    {most : Option Nat} {s : State} {o : Outcome} :
    matchQuantifier m least most s = some o ↔
      ∃ r, RoundsRun m most s r ∧ o = r.outcome least s.cursor.offset := by
  rw [matchQuantifier_eq, Option.map_eq_some_iff]
  cases most with
  | some n => simp only [RoundsRun, ← matchUpTo_eq_some_iff, Option.elim_some, eq_comm]
  | none => simp only [RoundsRun, ← matchWhile_eq_some_iff, Option.elim_none, eq_comm]

/-! ## Expressions -/

/-- The operators of the wanted kind are tried up to the first that matches. -/
inductive OperatorsRun (m : Pattern → State → Option Outcome) (wantOperand : Bool) :
    List Operator → State → Option (Operator × Tree) × State → Prop
  | exhausted (s : State) : OperatorsRun m wantOperand [] s (none, s)
  | passed {op : Operator} {ops : List Operator} {s : State}
      {r : Option (Operator × Tree) × State} :
      op.fixity.takesLeft = wantOperand →
      OperatorsRun m wantOperand ops s r → OperatorsRun m wantOperand (op :: ops) s r
  | matched {op : Operator} {ops : List Operator} {s s' : State} {mid : Tree} :
      op.fixity.takesLeft ≠ wantOperand → m op.pattern s = some ⟨some mid, s'⟩ →
      OperatorsRun m wantOperand (op :: ops) s (some (op, mid), s')
  | missed {op : Operator} {ops : List Operator} {s s' : State}
      {r : Option (Operator × Tree) × State} :
      op.fixity.takesLeft ≠ wantOperand → m op.pattern s = some ⟨none, s'⟩ →
      OperatorsRun m wantOperand ops s' r → OperatorsRun m wantOperand (op :: ops) s r

theorem matchOperator_eq_some_iff {m : Pattern → State → Option Outcome} {wantOperand : Bool}
    {ops : List Operator} {s : State} {r : Option (Operator × Tree) × State} :
    matchOperator m wantOperand ops s = some r ↔ OperatorsRun m wantOperand ops s r := by
  constructor
  · intro h
    fun_induction matchOperator m wantOperand ops s with
    | case1 s =>
        cases h
        exact .exhausted s
    | case2 _ _ _ hk ih => exact .passed (beq_iff_eq.mp hk) (ih h)
    | case3 => cases h
    | case4 _ _ _ hk _ _ hm =>
        cases h
        exact .matched (by simpa using hk) hm
    | case5 _ _ _ hk _ hm ih => exact .missed (by simpa using hk) hm (ih h)
  · intro h
    induction h with
    | exhausted => rfl
    | passed hk _ ih => simp only [matchOperator, hk, beq_self_eq_true, if_true, ih]
    | matched hk hm => simp only [matchOperator, beq_iff_eq, hk, if_false, hm]
    | missed hk hm _ ih => simp only [matchOperator, beq_iff_eq, hk, if_false, hm, ih]

/-- Where the operators of a round look for a continuation, and the state after
finding that out. -/
def Climbing.probe (c : Climbing) (operand : Option Tree) (s : State) :
    Option (Option Nat × State) :=
  if operand.isNone then some (none, s)
  else (c.peek s).map fun (offset, s) => (some offset, s)

/-- The operator match of a round: the first operator of the wanted kind, the state in
which it was looked for and the state after. -/
def Climbing.Finds (c : Climbing) (operand : Option Tree) (s before : State)
    (found : Option (Operator × Tree)) (after : State) : Prop :=
  ∃ probe, c.probe operand s = some (probe, before) ∧
    OperatorsRun (c.matcher { c.frame with probe }) operand.isNone c.operators before
      (found, after)

/-- The operand at hand goes to `op`, after the stacked operators that are evaluated
before it. -/
def takeOperand (op : Operator) (stack : List Pending) (operand : Option Tree) (s : State) :
    (List Pending × Option Tree) × State :=
  match operand with
  | none => ((stack, none), s)
  | some current =>
      let ((stack, current), s) := completeBefore op stack current s
      ((stack, some current), s)

/-- Whether a round consumed nothing, and where. -/
def emptyAt (before after : State) : Option Nat :=
  if after.cursor.offset == before.cursor.offset then some before.cursor.offset else none

/-- A run of the climbing loop, with the operators that it matched and what their
patterns matched, in the order in which it matched them. -/
inductive ClimbRun (c : Climbing) :
    Nat → List Pending → Option Tree → Option Nat → State →
      List (Operator × Tree) → Outcome → Prop
  | aborted {rounds : Nat} {stack : List Pending} {operand : Option Tree}
      {lastEmpty : Option Nat} {s before after : State} {found : Option (Operator × Tree)} :
      c.Finds operand s before found after → after.isAborted = true →
      ClimbRun c (rounds + 1) stack operand lastEmpty s found.toList ⟨none, after⟩
  | finished {rounds : Nat} {stack : List Pending} {operand : Option Tree}
      {lastEmpty : Option Nat} {s before after : State} {o : Outcome} :
      c.Finds operand s before none after → after.isAborted = false →
      finishExpression c stack operand after = some o →
      ClimbRun c (rounds + 1) stack operand lastEmpty s [] o
  | repeated {rounds : Nat} {stack : List Pending} {operand : Option Tree}
      {lastEmpty : Option Nat} {s before after : State} {op : Operator} {mid : Tree} :
      c.Finds operand s before (some (op, mid)) after → after.isAborted = false →
      after.cursor.offset = before.cursor.offset →
      repeatsState op lastEmpty before.cursor.offset = true →
      ClimbRun c (rounds + 1) stack operand lastEmpty s [(op, mid)]
        ⟨none, after.abort before.cursor.offset .zeroLengthMatch⟩
  | waits {rounds : Nat} {stack rest : List Pending} {operand left : Option Tree}
      {lastEmpty : Option Nat} {s before after s' : State} {op : Operator} {mid : Tree}
      {ms : List (Operator × Tree)} {o : Outcome} :
      c.Finds operand s before (some (op, mid)) after → after.isAborted = false →
      ¬ (after.cursor.offset = before.cursor.offset ∧
        repeatsState op lastEmpty before.cursor.offset = true) →
      takeOperand op stack operand (after.add (.operator op.name mid.offset))
        = ((rest, left), s') →
      op.fixity.takesRight = true →
      ClimbRun c rounds (⟨op, mid, left⟩ :: rest) none (emptyAt before after) s' ms o →
      ClimbRun c (rounds + 1) stack operand lastEmpty s ((op, mid) :: ms) o
  | completes {rounds : Nat} {stack rest : List Pending} {operand left : Option Tree}
      {lastEmpty : Option Nat} {s before after s' : State} {op : Operator} {mid : Tree}
      {ms : List (Operator × Tree)} {o : Outcome} :
      c.Finds operand s before (some (op, mid)) after → after.isAborted = false →
      ¬ (after.cursor.offset = before.cursor.offset ∧
        repeatsState op lastEmpty before.cursor.offset = true) →
      takeOperand op stack operand (after.add (.operator op.name mid.offset))
        = ((rest, left), s') →
      op.fixity.takesRight = false →
      ClimbRun c rounds rest (some (Pending.complete ⟨op, mid, left⟩ none))
        (emptyAt before after) (s'.add (.reduced op.name)) ms o →
      ClimbRun c (rounds + 1) stack operand lastEmpty s ((op, mid) :: ms) o

/-- The rest of a round, after its operator match. -/
def Climbing.goOn (c : Climbing) (rounds : Nat) (stack : List Pending) (operand : Option Tree)
    (lastEmpty : Option Nat) (before : State) (found : Option (Operator × Tree))
    (after : State) : Option Outcome :=
  if after.isAborted then some ⟨none, after⟩
  else
    match found with
    | none => finishExpression c stack operand after
    | some (op, mid) =>
        if after.cursor.offset == before.cursor.offset &&
            repeatsState op lastEmpty before.cursor.offset then
          some ⟨none, after.abort before.cursor.offset .zeroLengthMatch⟩
        else
          let ((rest, left), s') :=
            takeOperand op stack operand (after.add (.operator op.name mid.offset))
          if op.fixity.takesRight then
            climb c rounds (⟨op, mid, left⟩ :: rest) none (emptyAt before after) s'
          else
            climb c rounds rest (some (Pending.complete ⟨op, mid, left⟩ none))
              (emptyAt before after) (s'.add (.reduced op.name))

/-- One round of the climbing loop in its parts. -/
theorem climb_succ (c : Climbing) (rounds : Nat) (stack : List Pending)
    (operand : Option Tree) (lastEmpty : Option Nat) (s : State) :
    climb c (rounds + 1) stack operand lastEmpty s =
      (c.probe operand s).bind fun (probe, before) =>
        (matchOperator (c.matcher { c.frame with probe }) operand.isNone c.operators
            before).bind fun (found, after) =>
          c.goOn rounds stack operand lastEmpty before found after := by
  cases operand <;> rfl

/-- A round finds an operator, or none, and goes on from there. -/
theorem climb_succ_eq_some_iff {c : Climbing} {rounds : Nat} {stack : List Pending}
    {operand : Option Tree} {lastEmpty : Option Nat} {s : State} {o : Outcome} :
    climb c (rounds + 1) stack operand lastEmpty s = some o ↔
      ∃ before found after, c.Finds operand s before found after ∧
        c.goOn rounds stack operand lastEmpty before found after = some o := by
  rw [climb_succ]
  constructor
  · intro h
    obtain ⟨⟨probe, before⟩, hprobe, h⟩ := Option.bind_eq_some_iff.mp h
    obtain ⟨⟨found, after⟩, hfound, h⟩ := Option.bind_eq_some_iff.mp h
    exact ⟨before, found, after, ⟨probe, hprobe, matchOperator_eq_some_iff.mp hfound⟩, h⟩
  · rintro ⟨before, found, after, ⟨probe, hprobe, hfound⟩, h⟩
    simp only [hprobe, matchOperator_eq_some_iff.mpr hfound, Option.bind_some, h]

/-- The operator match of a round, with the state in which the operators are looked for and
the state after. -/
def Climbing.find (c : Climbing) (operand : Option Tree) (s : State) :
    Option (State × Option (Operator × Tree) × State) :=
  (c.probe operand s).bind fun (probe, before) =>
    (matchOperator (c.matcher { c.frame with probe }) operand.isNone c.operators before).map
      fun r => (before, r)

theorem Climbing.find_eq_some_iff {c : Climbing} {operand : Option Tree} {s before after : State}
    {found : Option (Operator × Tree)} :
    c.find operand s = some (before, found, after) ↔ c.Finds operand s before found after := by
  constructor
  · intro h
    obtain ⟨⟨probe, looked⟩, hprobe, h⟩ := Option.bind_eq_some_iff.mp h
    obtain ⟨r, hr, heq⟩ := Option.map_eq_some_iff.mp h
    cases heq
    exact ⟨probe, hprobe, matchOperator_eq_some_iff.mp hr⟩
  · rintro ⟨probe, hprobe, hrun⟩
    simp only [Climbing.find, hprobe, Option.bind_some, matchOperator_eq_some_iff.mpr hrun,
      Option.map_some]

theorem Climbing.Finds.find {c : Climbing} {operand : Option Tree} {s before after : State}
    {found : Option (Operator × Tree)} (h : c.Finds operand s before found after) :
    c.find operand s = some (before, found, after) := Climbing.find_eq_some_iff.mpr h

/-- A round finds an operator, or none, and goes on from there. -/
theorem climb_succ_find (c : Climbing) (rounds : Nat) (stack : List Pending)
    (operand : Option Tree) (lastEmpty : Option Nat) (s : State) :
    climb c (rounds + 1) stack operand lastEmpty s =
      (c.find operand s).bind fun (before, found, after) =>
        c.goOn rounds stack operand lastEmpty before found after := by
  rw [climb_succ, Climbing.find]
  cases c.probe operand s with
  | none => rfl
  | some found => simp only [Option.bind_some, Option.bind_map]; rfl

theorem climb_eq_some_iff {c : Climbing} {rounds : Nat} {stack : List Pending}
    {operand : Option Tree} {lastEmpty : Option Nat} {s : State} {o : Outcome} :
    climb c rounds stack operand lastEmpty s = some o ↔
      ∃ ms, ClimbRun c rounds stack operand lastEmpty s ms o := by
  constructor
  · intro h
    induction rounds generalizing stack operand lastEmpty s with
    | zero => cases h
    | succ rounds ih =>
        obtain ⟨before, found, after, hfinds, h⟩ := climb_succ_eq_some_iff.mp h
        unfold Climbing.goOn at h
        cases ha : after.isAborted with
        | true =>
            simp only [ha, if_true] at h
            cases h
            exact ⟨_, .aborted hfinds ha⟩
        | false =>
            simp only [ha, Bool.false_eq_true, if_false] at h
            rcases found with _ | ⟨op, mid⟩
            · exact ⟨_, .finished hfinds ha h⟩
            · by_cases he : after.cursor.offset = before.cursor.offset ∧
                  repeatsState op lastEmpty before.cursor.offset = true
              · simp only [he.1, he.2, beq_self_eq_true, Bool.and_self, if_true] at h
                cases h
                exact ⟨_, .repeated hfinds ha he.1 he.2⟩
              · simp only [Bool.and_eq_true, beq_iff_eq, he, if_false] at h
                -- a variable for what is taken, so that the pair can be opened
                generalize ht : takeOperand op stack operand
                  (after.add (.operator op.name mid.offset)) = taken at h
                rcases taken with ⟨⟨rest, left⟩, s'⟩
                cases hr : op.fixity.takesRight with
                | true =>
                    simp only [hr, if_true] at h
                    obtain ⟨_, hrun⟩ := ih h
                    exact ⟨_, .waits hfinds ha he ht hr hrun⟩
                | false =>
                    simp only [hr, Bool.false_eq_true, if_false] at h
                    obtain ⟨_, hrun⟩ := ih h
                    exact ⟨_, .completes hfinds ha he ht hr hrun⟩
  · rintro ⟨ms, h⟩
    induction h with
    | aborted hfinds ha =>
        refine climb_succ_eq_some_iff.mpr ⟨_, _, _, hfinds, ?_⟩
        simp only [Climbing.goOn, ha, if_true]
    | finished hfinds ha hf =>
        refine climb_succ_eq_some_iff.mpr ⟨_, _, _, hfinds, ?_⟩
        simp only [Climbing.goOn, ha, Bool.false_eq_true, if_false, hf]
    | repeated hfinds ha he hr =>
        refine climb_succ_eq_some_iff.mpr ⟨_, _, _, hfinds, ?_⟩
        simp only [Climbing.goOn, ha, Bool.false_eq_true, if_false, he, hr, beq_self_eq_true,
          Bool.and_self, if_true]
    | waits hfinds ha he ht hr _ ih =>
        refine climb_succ_eq_some_iff.mpr ⟨_, _, _, hfinds, ?_⟩
        simp only [Climbing.goOn, ha, Bool.false_eq_true, if_false, Bool.and_eq_true, beq_iff_eq,
          he, ht, hr, if_true, ih]
    | completes hfinds ha he ht hr _ ih =>
        refine climb_succ_eq_some_iff.mpr ⟨_, _, _, hfinds, ?_⟩
        simp only [Climbing.goOn, ha, Bool.false_eq_true, if_false, Bool.and_eq_true, beq_iff_eq,
          he, ht, hr, ih]

/-- A run of an expression, with its operator matches in order. -/
def ExpressionRun (c : Climbing) (s : State) (found : List (Operator × Tree))
    (o : Outcome) : Prop :=
  ClimbRun { c with frame := { c.frame with probe := none } }
    (2 * s.cursor.ahead.length + 3) [] none none s found o

theorem matchExpression_eq_some_iff {c : Climbing} {s : State} {o : Outcome} :
    matchExpression c s = some o ↔ ∃ found, ExpressionRun c s found o :=
  climb_eq_some_iff

/-! ### Completing operators does not end a parse -/

theorem aborted_completeBefore (next : Operator) (stack : List Pending) (current : Tree)
    (s : State) : (completeBefore next stack current s).2.aborted = s.aborted := by
  induction stack generalizing current s with
  | nil => rfl
  | cons top stack ih =>
      simp only [completeBefore]
      split
      · exact ih _ _
      · rfl

theorem aborted_takeOperand (op : Operator) (stack : List Pending) (operand : Option Tree)
    (s : State) : (takeOperand op stack operand s).2.aborted = s.aborted := by
  cases operand with
  | none => rfl
  | some current => exact aborted_completeBefore op stack current s

theorem aborted_completeAll (stack : List Pending) (current : Tree) (s : State) :
    (completeAll stack current s).2.aborted = s.aborted := by
  induction stack generalizing current s with
  | nil => rfl
  | cons top stack ih => exact ih _ _

/-! ### Completing operators does not move -/

theorem cursor_completeBefore (next : Operator) (stack : List Pending) (current : Tree)
    (s : State) : (completeBefore next stack current s).2.cursor = s.cursor := by
  induction stack generalizing current s with
  | nil => rfl
  | cons top stack ih =>
      simp only [completeBefore]
      split
      · exact ih _ _
      · rfl

theorem cursor_takeOperand {op : Operator} {stack rest : List Pending}
    {operand left : Option Tree} {s s' : State}
    (h : takeOperand op stack operand s = ((rest, left), s')) : s'.cursor = s.cursor := by
  have htaken : s' = (takeOperand op stack operand s).2 := by rw [h]
  rw [htaken]
  cases operand with
  | none => rfl
  | some current => exact cursor_completeBefore op stack current s

theorem cursor_completeAll (stack : List Pending) (current : Tree) (s : State) :
    (completeAll stack current s).2.cursor = s.cursor := by
  induction stack generalizing current s with
  | nil => rfl
  | cons top stack ih => exact ih _ _

/-- Looking for a continuation does not move if looking past trivia does not. -/
theorem Climbing.cursor_probe {c : Climbing}
    (hpeek : ∀ {s offset s'}, c.peek s = some (offset, s') → s'.cursor = s.cursor)
    {operand : Option Tree} {s before : State} {probe : Option Nat}
    (h : c.probe operand s = some (probe, before)) : before.cursor = s.cursor := by
  cases operand with
  | none =>
      cases h
      rfl
  | some operand =>
      obtain ⟨⟨offset, s'⟩, hlook, heq⟩ := Option.map_eq_some_iff.mp h
      cases heq
      exact hpeek hlook

/-! ### Side by side

Completing operators writes events down and does nothing else to a state, so states in
a relation that events keep stay in it. -/

section Related

variable {R : State → State → Prop} (hadd : ∀ s t e, R s t → R (s.add e) (t.add e))

include hadd

theorem completeBefore_related {next : Operator} {stack : List Pending} {current : Tree}
    {s s' t : State} {r : List Pending × Tree} (hst : R s t)
    (h : completeBefore next stack current s = (r, s')) :
    ∃ t', completeBefore next stack current t = (r, t') ∧ R s' t' := by
  induction stack generalizing current s t with
  | nil =>
      cases h
      exact ⟨t, rfl, hst⟩
  | cons top stack ih =>
      simp only [completeBefore] at h ⊢
      split at h
      · next he =>
          rw [if_pos he]
          exact ih (hadd _ _ _ hst) h
      · next he =>
          rw [if_neg he]
          cases h
          exact ⟨t, rfl, hst⟩

theorem takeOperand_related {op : Operator} {stack : List Pending} {operand : Option Tree}
    {s s' t : State} {r : List Pending × Option Tree} (hst : R s t)
    (h : takeOperand op stack operand s = (r, s')) :
    ∃ t', takeOperand op stack operand t = (r, t') ∧ R s' t' := by
  cases operand with
  | none =>
      cases h
      exact ⟨t, rfl, hst⟩
  | some current =>
      simp only [takeOperand] at h ⊢
      cases h
      obtain ⟨t', ht, hs⟩ := completeBefore_related hadd hst rfl
      exact ⟨t', by rw [ht], hs⟩

theorem completeAll_related (stack : List Pending) (current : Tree) {s t : State}
    (hst : R s t) :
    (completeAll stack current s).1 = (completeAll stack current t).1 ∧
      R (completeAll stack current s).2 (completeAll stack current t).2 := by
  induction stack generalizing current s t with
  | nil => exact ⟨rfl, hst⟩
  | cons top stack ih => exact ih _ (hadd _ _ _ hst)

end Related

/-! ## One layer -/

/-- The state after a terminal was tried; inside trivia there is no trace of it. -/
def State.tried (s : State) (frame : Frame) (t : Terminal) (matched : Option String) : State :=
  if frame.inTrivia then s else s.add (.tried t.description s.cursor.offset matched)

/-- The text that a terminal matches up to `stop`. -/
def State.textUpTo (s : State) (stop : Cursor) : String :=
  String.ofList (s.cursor.textUpTo stop)

theorem matchTerminal_of_missed {setting : Setting} {frame : Frame} {t : Terminal} {s : State}
    (h : t.matchEnd? setting.beyond s.cursor = none) :
    matchTerminal setting frame t s
      = ⟨none, (s.tried frame t none).missToken frame s.cursor.offset t.description⟩ := by
  simp only [matchTerminal, h]
  rfl

theorem matchTerminal_of_matched {setting : Setting} {frame : Frame} {t : Terminal} {s : State}
    {stop : Cursor} (h : t.matchEnd? setting.beyond s.cursor = some stop) :
    matchTerminal setting frame t s
      = ⟨some (.value s.cursor.offset (s.textUpTo stop)),
          { s.tried frame t (some (s.textUpTo stop)) with cursor := stop }⟩ := by
  simp only [matchTerminal, h]
  rfl

/-- Skipping trivia: not inside trivia, and not without a rule for it. -/
inductive SkipRun (m : Matcher) (setting : Setting) (frame : Frame) (s : State) : State → Prop
  | inside : frame.inTrivia = true → SkipRun m setting frame s s
  | absent : frame.inTrivia = false → setting.rules.trivia? = none →
      SkipRun m setting frame s s
  | skipped {trivia : Pattern} {o : Outcome} :
      frame.inTrivia = false → setting.rules.trivia? = some trivia →
      m { frame with inTrivia := true, quiet := true } trivia s = some o →
      SkipRun m setting frame s o.state

theorem skipTrivia_eq_some_iff {m : Matcher} {setting : Setting} {frame : Frame}
    {s s' : State} : skipTrivia m setting frame s = some s' ↔ SkipRun m setting frame s s' := by
  constructor
  · intro h
    unfold skipTrivia at h
    cases hi : frame.inTrivia with
    | true =>
        simp only [hi, if_true, Option.some.injEq] at h
        exact h ▸ .inside hi
    | false =>
        simp only [hi, Bool.false_eq_true, if_false] at h
        cases ht : setting.rules.trivia? with
        | none =>
            simp only [ht, Option.some.injEq] at h
            exact h ▸ .absent hi ht
        | some trivia =>
            simp only [ht] at h
            obtain ⟨o, ho, rfl⟩ := Option.map_eq_some_iff.mp h
            exact .skipped hi ht ho
  · rintro (hi | ⟨hi, ht⟩ | ⟨hi, ht, ho⟩)
    · simp [skipTrivia, hi]
    · simp [skipTrivia, hi, ht]
    · simp [skipTrivia, hi, ht, ho]

/-- What a pattern says, once trivia is skipped. -/
inductive BodyRun (m : Matcher) (setting : Setting) (frame : Frame) (s : State) :
    Pattern → Outcome → Prop
  | terminal (t : Terminal) :
      BodyRun m setting frame s (.terminal t) (matchTerminal setting frame t s)
  | sequence {steps : List Step} {o : Outcome} :
      StepsRun (m frame) s.cursor.offset [] steps s o →
      BodyRun m setting frame s (.sequence steps) o
  | choice {alternatives : List Pattern} {o : Outcome} :
      AlternativesRun (m frame) s.cursor.offset 0 alternatives s o →
      BodyRun m setting frame s (.choice alternatives) o
  | quantifier {inner : Pattern} {least : Nat} {most : Option Nat} {r : Rounds} :
      RoundsRun (m frame inner) most s r →
      BodyRun m setting frame s (.quantifier inner least most)
        (r.outcome least s.cursor.offset)
  | undefinedRule {key : String} :
      setting.rules.get? key = none →
      BodyRun m setting frame s (.lookup key)
        ⟨none, s.abort s.cursor.offset (.undefinedRule key)⟩
  | tooDeep {key : String} {p : Pattern} :
      setting.rules.get? key = some p → setting.depthLimit.any (· ≤ frame.depth) = true →
      BodyRun m setting frame s (.lookup key)
        ⟨none, s.abort s.cursor.offset .recursionLimitExceeded⟩
  | lookup {key : String} {p : Pattern} {o : Outcome} :
      setting.rules.get? key = some p → setting.depthLimit.any (· ≤ frame.depth) = false →
      m { frame with depth := frame.depth + 1 } p (s.add (.entered key s.cursor.offset))
        = some o →
      BodyRun m setting frame s (.lookup key)
        ⟨o.tree?.map (.lookup s.cursor.offset key),
          o.state.add (.left key (o.tree?.map fun _ => o.state.cursor.offset))⟩
  | label {name : String} {inner : Pattern} {o : Outcome} :
      m frame inner s = some o →
      BodyRun m setting frame s (.label name inner)
        ⟨o.tree?.map (.label s.cursor.offset name), o.state⟩
  | lookahead {inner : Pattern} {wanted : Bool} {o : Outcome} :
      m { frame with quiet := true } inner s = some o →
      BodyRun m setting frame s (.lookahead inner wanted)
        ⟨if o.state.isAborted || o.tree?.isSome != wanted then none
          else some (.lookahead s.cursor.offset o.tree?),
          { o.state with cursor := s.cursor }⟩
  | table {operators : List Operator} {found : List (Operator × Tree)} {o : Outcome} :
      ExpressionRun ⟨m, peekPastTrivia m setting frame, frame, operators⟩ s found o →
      BodyRun m setting frame s (.table operators) o

theorem matchLookup_eq_some_iff {m : Matcher} {setting : Setting} {frame : Frame}
    {key : String} {s : State} {o : Outcome} :
    matchLookup m setting frame key s = some o ↔ BodyRun m setting frame s (.lookup key) o := by
  constructor
  · intro h
    simp only [matchLookup] at h
    cases hg : setting.rules.get? key with
    | none =>
        simp only [hg, Option.some.injEq] at h
        exact h ▸ .undefinedRule hg
    | some p =>
        simp only [hg] at h
        cases hd : setting.depthLimit.any (· ≤ frame.depth) with
        | true =>
            simp only [hd, if_true, Option.some.injEq] at h
            exact h ▸ .tooDeep hg hd
        | false =>
            simp only [hd, Bool.false_eq_true, if_false] at h
            cases hm : m { frame with depth := frame.depth + 1 } p
                (s.add (.entered key s.cursor.offset)) with
            | none => simp [hm] at h
            | some inner =>
                rcases inner with ⟨_ | child, s'⟩ <;> simp only [hm, Option.some.injEq] at h
                · exact h ▸ .lookup hg hd hm
                · exact h ▸ .lookup hg hd hm
  · intro h
    cases h with
    | undefinedRule hg => simp [matchLookup, hg]
    | tooDeep hg hd => simp only [matchLookup, hg, hd, if_true]
    | @lookup _ p inner hg hd hm =>
        rcases inner with ⟨_ | child, s'⟩ <;>
          simp only [matchLookup, hg, hd, hm, Bool.false_eq_true, if_false, Option.map_none,
            Option.map_some]

theorem matchLookahead_eq_some_iff {m : Matcher} {setting : Setting} {frame : Frame}
    {inner : Pattern} {wanted : Bool} {s : State} {o : Outcome} :
    matchLookahead m frame inner wanted s = some o ↔
      BodyRun m setting frame s (.lookahead inner wanted) o := by
  -- the cursor goes back before the test, which does not look at it
  have split : ∀ probe : Outcome,
      (if ({ probe.state with cursor := s.cursor } : State).isAborted ||
            probe.tree?.isSome != wanted then
          some (⟨none, { probe.state with cursor := s.cursor }⟩ : Outcome)
        else some ⟨some (.lookahead s.cursor.offset probe.tree?),
          { probe.state with cursor := s.cursor }⟩) =
      some ⟨if probe.state.isAborted || probe.tree?.isSome != wanted then none
          else some (.lookahead s.cursor.offset probe.tree?),
          { probe.state with cursor := s.cursor }⟩ := by
    intro probe
    show (if probe.state.isAborted || probe.tree?.isSome != wanted then _ else _) = _
    split <;> rfl
  constructor
  · intro h
    simp only [matchLookahead] at h
    cases hm : m { frame with quiet := true } inner s with
    | none => simp [hm] at h
    | some probe =>
        simp only [hm] at h
        rw [split probe, Option.some.injEq] at h
        exact h ▸ .lookahead hm
  · intro h
    cases h with
    | @lookahead _ _ probe hm =>
        simp only [matchLookahead, hm]
        exact split probe

theorem matchBody_eq_some_iff {m : Matcher} {setting : Setting} {frame : Frame}
    {p : Pattern} {s : State} {o : Outcome} :
    matchBody m setting frame p s = some o ↔ BodyRun m setting frame s p o := by
  cases p with
  | terminal t =>
      constructor
      · intro h
        cases h
        exact .terminal t
      · intro h
        cases h
        rfl
  | sequence steps =>
      refine matchSteps_eq_some_iff.trans ⟨.sequence, fun h => ?_⟩
      cases h with
      | sequence h => exact h
  | choice alternatives =>
      refine matchAlternatives_eq_some_iff.trans ⟨.choice, fun h => ?_⟩
      cases h with
      | choice h => exact h
  | quantifier inner least most =>
      refine matchQuantifier_eq_some_iff.trans ⟨?_, fun h => ?_⟩
      · rintro ⟨r, hr, rfl⟩
        exact .quantifier hr
      · cases h with
        | quantifier hr => exact ⟨_, hr, rfl⟩
  | lookup key => exact matchLookup_eq_some_iff
  | label name inner =>
      refine Option.map_eq_some_iff.trans ⟨?_, fun h => ?_⟩
      · rintro ⟨o', hm, rfl⟩
        exact .label hm
      · cases h with
        | label hm => exact ⟨_, hm, rfl⟩
  | lookahead inner wanted => exact matchLookahead_eq_some_iff
  | table operators =>
      refine matchExpression_eq_some_iff.trans ⟨?_, fun h => ?_⟩
      · rintro ⟨found, h⟩
        exact .table h
      · cases h with
        | table h => exact ⟨_, h⟩

/-- What a pattern's attempt leaves behind: a failure and a lookahead go back to where
they started. -/
def Outcome.settle (p : Pattern) (start : Cursor) (o : Outcome) : Outcome :=
  if o.tree?.isNone || p.isLookahead then { o with state := { o.state with cursor := start } }
  else o

@[simp] theorem Outcome.tree?_settle (o : Outcome) (p : Pattern) (start : Cursor) :
    (o.settle p start).tree? = o.tree? := by
  unfold Outcome.settle
  split <;> rfl

@[simp] theorem Outcome.aborted_settle (o : Outcome) (p : Pattern) (start : Cursor) :
    (o.settle p start).state.aborted = o.state.aborted := by
  unfold Outcome.settle
  split <;> rfl

@[simp] theorem Outcome.fuel_settle (o : Outcome) (p : Pattern) (start : Cursor) :
    (o.settle p start).state.fuel = o.state.fuel := by
  unfold Outcome.settle
  split <;> rfl

theorem Outcome.cursor_settle (o : Outcome) (p : Pattern) (start : Cursor) :
    (o.settle p start).state.cursor
      = if o.tree?.isNone || p.isLookahead then start else o.state.cursor := by
  unfold Outcome.settle
  split <;> rfl

@[simp] theorem Outcome.events_settle (o : Outcome) (p : Pattern) (start : Cursor) :
    (o.settle p start).state.events = o.state.events := by
  unfold Outcome.settle
  split <;> rfl

/-- One layer of matching: pay, skip trivia, match what the pattern says and go back on
failure. -/
inductive LayerRun (m : Matcher) (setting : Setting) (frame : Frame) (p : Pattern) (s : State) :
    Outcome → Prop
  | unpaid {s' : State} : s.charge = (false, s') → LayerRun m setting frame p s ⟨none, s'⟩
  | tried {charged ready : State} {o : Outcome} :
      s.charge = (true, charged) → SkipRun m setting frame charged ready →
      BodyRun m setting frame ready p o → LayerRun m setting frame p s (o.settle p s.cursor)

theorem matchOnce_eq_some_iff {m : Matcher} {setting : Setting} {frame : Frame}
    {p : Pattern} {s : State} {o : Outcome} :
    matchOnce m setting frame p s = some o ↔ LayerRun m setting frame p s o := by
  unfold matchOnce
  constructor
  · intro h
    split at h
    · next s' hc =>
        cases h
        exact .unpaid hc
    · next charged hc =>
        cases hs : skipTrivia m setting frame charged with
        | none => simp [hs] at h
        | some ready =>
            simp only [hs] at h
            cases hb : matchBody m setting frame p ready with
            | none => simp [hb] at h
            | some inner =>
                have hrun := LayerRun.tried hc (skipTrivia_eq_some_iff.mp hs)
                  (matchBody_eq_some_iff.mp hb)
                simp only [hb] at h
                unfold Outcome.settle at hrun
                split at h <;> cases h
                · next hback => rwa [if_pos hback] at hrun
                · next hstay => rwa [if_neg hstay] at hrun
  · rintro (hc | ⟨hc, hs, hb⟩)
    · simp [hc]
    · simp only [hc, skipTrivia_eq_some_iff.mpr hs, matchBody_eq_some_iff.mpr hb,
        Outcome.settle]
      split <;> rfl

/-! ## All layers -/

/-- **Induction over runs**: what each layer keeps, given that it holds of the matcher
inside, holds of matching. -/
theorem matchPattern_induction {setting : Setting}
    {motive : Frame → Pattern → State → Outcome → Prop}
    (layer : ∀ (m : Matcher),
      (∀ frame p s o, m frame p s = some o → motive frame p s o) →
      ∀ frame p s o, LayerRun m setting frame p s o → motive frame p s o)
    {layers : Nat} {frame : Frame} {p : Pattern} {s : State} {o : Outcome}
    (h : matchPattern setting layers frame p s = some o) : motive frame p s o := by
  induction layers generalizing frame p s o with
  | zero => cases h
  | succ layers ih =>
      exact layer _ (fun _ _ _ _ hm => ih hm) _ _ _ _ (matchOnce_eq_some_iff.mp h)

end OperatorPeg
