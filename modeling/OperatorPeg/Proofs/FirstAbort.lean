import OperatorPeg.Proofs.Limits.Layers
import OperatorPeg.Proofs.Reporting

/-!
# The first cause to end a parse is reported

A state keeps one cause that ends the parse. That it is the first of all that are met,
and that none is met when it keeps none, is `Records`. It holds of each loop if it
holds of what is matched in it, so no pattern swallows a cause: not the lookaheads,
repetitions and choices that go on when what they try comes to nothing, and not
the trivia either.
-/

namespace OperatorPeg

/-! ## The first cause stands -/

/-- The state after, if there is one, keeps the first cause of what the state before keeps
and what is met since. Where the layers do not suffice nothing is met. -/
def Records (s : State) (met : List (Nat × Abort)) (after : Option State) : Prop :=
  match after with
  | none => met = []
  | some s' => s'.aborted = s.aborted.or met.head?

namespace Records

variable {s s' : State} {met rest : List (Nat × Abort)} {after : Option State}

theorem refl (s : State) : Records s [] (some s) := (Option.or_none ..).symm

theorem of_aborted {s'' : State} (h : Records s met (some s'))
    (hs : s''.aborted = s'.aborted) : Records s met (some s'') := hs.trans h

/-- It matters of the state before only whether and by what the parse has ended. -/
theorem of_start (h : Records s' met after) (hs : s'.aborted = s.aborted) :
    Records s met after := by
  cases after with
  | none => exact h
  | some s'' =>
      show s''.aborted = s.aborted.or met.head?
      rw [← hs]
      exact h

theorem isAborted (h : Records s met (some s')) (hmet : met ≠ []) : s'.isAborted = true := by
  obtain ⟨e, met, rfl⟩ := List.exists_cons_of_ne_nil hmet
  have hkept : s'.aborted = s.aborted.or (some e) := h
  rw [State.isAborted, hkept]
  cases s.aborted <;> rfl

theorem abort (s : State) (offset : Nat) (cause : Abort) :
    Records s [(offset, cause)] (some (s.abort offset cause)) := by
  show (s.abort offset cause).aborted = s.aborted.or (some (offset, cause))
  rw [State.aborted_abort]
  cases s.aborted <;> rfl

/-- What comes after the first end comes to an end too, so nothing is lost. -/
theorem append (h : Records s met (some s')) (hrest : Records s' rest after)
    (hgoes : met ≠ [] → after.isSome) : Records s (met ++ rest) after := by
  cases after with
  | none =>
      cases met with
      | nil => exact hrest
      | cons => cases hgoes (List.cons_ne_nil _ _)
  | some s'' =>
      have hkept : s''.aborted = s'.aborted.or rest.head? := hrest
      show s''.aborted = s.aborted.or (met ++ rest).head?
      rw [hkept, show s'.aborted = s.aborted.or met.head? from h, List.head?_append,
        Option.or_assoc]

end Records

/-- Matching keeps the first cause of the list `a`, and once it has met one it halts. -/
structure Logged (m : Pattern → State → Option Outcome) (a : Pattern → State → List (Nat × Abort)) :
    Prop where
  records : ∀ p s, Records s (a p s) ((m p s).map (·.state))
  halts : ∀ {p s}, a p s ≠ [] → Halts m
  onward : ∀ p, RunsAlong State.Onward (m p)

section Loops

variable {m : Pattern → State → Option Outcome} {a : Pattern → State → List (Nat × Abort)}
  (hm : Logged m a)

include hm

theorem Logged.none {p : Pattern} {s : State} (h : m p s = none) : a p s = [] := by
  have hrec := hm.records p s
  rw [h] at hrec
  exact hrec

theorem Logged.some {p : Pattern} {s : State} {o : Outcome} (h : m p s = some o) :
    Records s (a p s) (some o.state) := by
  have hrec := hm.records p s
  rw [h] at hrec
  exact hrec

theorem steps_record (offset : Nat) (kept : List Tree) (steps : List Step) (s : State) :
    Records s (stepsLog m a steps s) ((matchSteps m offset kept steps s).map (·.state)) := by
  induction steps generalizing kept s with
  | nil => exact .refl s
  | cons step steps ih =>
      simp only [stepsLog, matchSteps]
      cases h : m step.pattern s with
      | none => rw [hm.none h]; rfl
      | some o =>
          have hrec := hm.some h
          rcases o with ⟨_ | node, s'⟩
          · rw [List.append_nil]
            exact hrec
          · refine hrec.append (ih _ s') fun hmet => ?_
            obtain ⟨o, hrun, -⟩ := StepsRun.halts (hm.halts hmet) offset
              (if step.keep then node :: kept else kept) steps (hrec.isAborted hmet)
            simp only [matchSteps_eq_some_iff.mpr hrun]
            rfl

theorem alternatives_record (offset index : Nat) (ps : List Pattern) (s : State) :
    Records s (alternativesLog m a offset index ps s)
      ((matchAlternatives m offset index ps s).map (·.state)) := by
  induction ps generalizing index s with
  | nil => exact .refl s
  | cons p ps ih =>
      simp only [alternativesLog, matchAlternatives]
      cases h : m p s with
      | none => rw [hm.none h]; rfl
      | some o =>
          have hrec := hm.some h
          rcases o with ⟨_ | child, s'⟩
          · cases hend : s'.isAborted with
            | true =>
                simp only [hend, if_true, List.append_nil]
                exact hrec
            | false =>
                simp only [hend, Bool.false_eq_true, if_false]
                -- what was met would have ended the parse
                refine (hrec.of_aborted rfl).append (ih _ _) fun hmet => ?_
                rw [hrec.isAborted hmet] at hend
                cases hend
          · rw [List.append_nil]
            exact hrec

theorem upTo_record (p : Pattern) (n : Nat) (r : Rounds) :
    Records r.state (upToLog (m p) (a p) n r.state) ((matchUpTo (m p) n r).map (·.state)) := by
  induction n generalizing r with
  | zero => exact .refl r.state
  | succ n ih =>
      simp only [upToLog, matchUpTo]
      cases h : m p r.state with
      | none => rw [hm.none h]; rfl
      | some o =>
          have hrec := hm.some h
          rcases o with ⟨_ | node, s'⟩
          · rw [List.append_nil]
            exact hrec
          · refine hrec.append (ih ⟨r.count + 1, node :: r.nodes, s'⟩) fun hmet => ?_
            obtain ⟨r', hrun, -⟩ := UpToRun.halts (hm.halts hmet) p n
              (r := ⟨r.count + 1, node :: r.nodes, s'⟩) (hrec.isAborted hmet)
            simp only [matchUpTo_eq_some_iff.mpr hrun]
            rfl

section Rounds

variable {stuck : Nat → List (Nat × Abort)}
  (hstuck : ∀ offset, stuck offset = [(offset, .zeroLengthMatch)])

include hstuck

/-- The characters ahead bound the rounds, so those that are met suffice. -/
theorem while_record (p : Pattern) (budget : List Char) (r : Rounds)
    (hbudget : r.state.cursor.ahead.length ≤ budget.length) :
    Records r.state (whileLog (m p) (a p) stuck budget r.state)
      ((matchWhile (m p) budget r).map (·.state)) := by
  rw [whileLog, matchWhile]
  cases h : m p r.state with
  | none => simp only [hm.none h]; rfl
  | some o =>
      have hrec := hm.some h
      rcases o with ⟨_ | node, s'⟩
      · simp only [List.append_nil]
        exact hrec
      · by_cases hmoved : s'.cursor.offset = r.state.cursor.offset
        · simp only [hmoved, beq_self_eq_true, if_true, hstuck]
          exact hrec.append (.abort ..) fun _ => rfl
        · have hless : s'.cursor.ahead.length < r.state.cursor.ahead.length :=
            (hm.onward p _ _ h).cursor.length_lt hmoved
          simp only [beq_iff_eq, hmoved, if_false]
          cases budget with
          | nil =>
              rw [List.length_nil] at hbudget
              omega
          | cons c budget =>
              rw [List.length_cons] at hbudget
              refine hrec.append (while_record p budget ⟨r.count + 1, node :: r.nodes, s'⟩ ?_)
                fun hmet => ?_
              · show s'.cursor.ahead.length ≤ budget.length
                omega
              · have hrun : WhileRun (m p) budget ⟨r.count + 1, node :: r.nodes, s'⟩ _ :=
                  .missed (hm.halts hmet p s' (hrec.isAborted hmet))
                simp only [matchWhile_eq_some_iff.mpr hrun]
                rfl
termination_by budget.length

theorem quantifier_records (p : Pattern) (least : Nat) (most : Option Nat) (s : State) :
    Records s (roundsLog (m p) (a p) stuck most s)
      ((matchQuantifier (m p) least most s).map (·.state)) := by
  have hstates : Outcome.state ∘ Rounds.outcome least s.cursor.offset = Rounds.state :=
    funext fun r => r.state_outcome least s.cursor.offset
  rw [matchQuantifier_eq, Option.map_map, hstates]
  cases most with
  | some n => exact upTo_record hm p n ⟨0, [], s⟩
  | none => exact while_record hm hstuck p s.cursor.ahead ⟨0, [], s⟩ (Nat.le_refl _)

end Rounds

theorem operators_record (wantOperand : Bool) (ops : List Operator) (s : State) :
    Records s (operatorsLog m a wantOperand ops s)
      ((matchOperator m wantOperand ops s).map (·.2)) := by
  induction ops generalizing s with
  | nil => exact .refl s
  | cons op ops ih =>
      simp only [operatorsLog, matchOperator]
      cases hk : op.fixity.takesLeft == wantOperand with
      | true => exact ih s
      | false =>
          simp only [Bool.false_eq_true, if_false]
          cases h : m op.pattern s with
          | none => rw [hm.none h]; rfl
          | some o =>
              have hrec := hm.some h
              rcases o with ⟨_ | mid, s'⟩
              · refine hrec.append (ih s') fun hmet => ?_
                have hrun := OperatorsRun.halts (hm.halts hmet) wantOperand ops
                  (hrec.isAborted hmet)
                simp only [matchOperator_eq_some_iff.mpr hrun]
                rfl
              · rw [List.append_nil]
                exact hrec

end Loops

/-! ## Expressions -/

/-- A climbing loop whose matcher and lookout keep the first cause of `a` and `peek`. -/
structure Climbing.Logged (c : Climbing) (a : Log (Nat × Abort))
    (peek : State → List (Nat × Abort)) : Prop where
  matcher : ∀ situation frame, OperatorPeg.Logged (c.matcher frame) (a situation frame)
  lookout : ∀ s, Records s (peek s) ((c.peek s).map (·.2))
  halts : ∀ {s}, peek s ≠ [] → c.matcher.Halts

section Expressions

variable {c : Climbing} {a : Log (Nat × Abort)} {peek : State → List (Nat × Abort)}
  (hc : c.Logged a peek)

include hc

theorem probe_records (operand : Option Tree) (s : State) :
    Records s (if operand.isNone then [] else peek s) ((c.probe operand s).map (·.2)) := by
  cases operand with
  | none => exact .refl s
  | some current =>
      show Records s (peek s) (((c.peek s).map _).map _)
      rw [Option.map_map]
      exact hc.lookout s

theorem find_records (operand : Option Tree) (s : State) :
    Records s (findsLog c a peek operand s) ((c.find operand s).map (·.2.2)) := by
  have hprobe := probe_records hc operand s
  unfold findsLog Climbing.find
  cases h : c.probe operand s with
  | none =>
      rw [h] at hprobe
      have hmet : (if operand.isNone then [] else peek s) = [] := hprobe
      rw [hmet]
      rfl
  | some found =>
      obtain ⟨probe, before⟩ := found
      rw [h] at hprobe
      simp only [Option.bind_some, Option.map_map]
      have hops := operators_record (hc.matcher (.trying probe) { c.frame with probe })
        operand.isNone c.operators before
      refine hprobe.append hops fun hmet => ?_
      have hhalts : c.matcher.Halts := by
        cases operand with
        | none => exact absurd rfl hmet
        | some current => exact hc.halts hmet
      have hrun := OperatorsRun.halts (hhalts { c.frame with probe }) operand.isNone
        c.operators (hprobe.isAborted hmet)
      rw [matchOperator_eq_some_iff.mpr hrun]
      rfl

theorem finish_records (stack : List Pending) (operand : Option Tree) (s : State) :
    Records s (finishLog Moment.aborts c peek operand s)
      ((finishExpression c stack operand s).map (·.state)) := by
  cases operand with
  | some current => exact (Records.refl s).of_aborted (aborted_completeAll stack current s)
  | none =>
      have hpeek := hc.lookout s
      unfold finishExpression finishLog
      cases h : c.peek s with
      | none =>
          rw [h] at hpeek
          simp only [List.append_nil]
          exact hpeek
      | some found =>
          rw [h] at hpeek
          simp only [Moment.aborts, List.append_nil]
          exact hpeek.of_aborted (State.aborted_missTerm ..)

theorem climb_records (rounds : Nat) (stack : List Pending) (operand : Option Tree)
    (lastEmpty : Option Nat) (s : State) :
    Records s (climbLog Moment.aborts c a peek rounds stack operand lastEmpty s)
      ((climb c rounds stack operand lastEmpty s).map (·.state)) := by
  induction rounds generalizing stack operand lastEmpty s with
  | zero => exact rfl
  | succ rounds ih =>
      have hfind := find_records hc operand s
      rw [climb_succ_find, climbLog]
      cases h : c.find operand s with
      | none =>
          rw [h] at hfind
          rw [show findsLog c a peek operand s = [] from hfind]
          rfl
      | some round =>
          obtain ⟨before, found, after⟩ := round
          rw [h] at hfind
          simp only [Option.bind_some, Climbing.goOn]
          cases hend : after.isAborted with
          | true =>
              simp only [if_true, List.append_nil]
              exact hfind
          | false =>
              -- nothing was met so far, or the parse would have ended
              refine Records.append hfind ?_ fun hmet => ?_
              · simp only [Bool.false_eq_true, if_false]
                rcases found with _ | ⟨op, mid⟩
                · exact finish_records hc stack operand after
                · simp only []
                  split
                  · exact .abort ..
                  · generalize htake : takeOperand op stack operand
                      (after.add (.operator op.name mid.offset)) = taken
                    obtain ⟨⟨rest, left⟩, s'⟩ := taken
                    have haborted : s'.aborted = after.aborted := by
                      have := aborted_takeOperand op stack operand
                        (after.add (.operator op.name mid.offset))
                      rwa [htake] at this
                    simp only []
                    split
                    · exact (ih ..).of_start haborted
                    · exact (ih ..).of_start haborted
              · rw [Records.isAborted hfind hmet] at hend
                cases hend

end Expressions

/-! ## Layers -/

/-- A matcher keeps the first cause of `a`, and once it has met one it halts. -/
structure Matcher.Logged (m : Matcher) (a : Log (Nat × Abort)) : Prop where
  records : ∀ situation frame p s, Records s (a situation frame p s) ((m frame p s).map (·.state))
  halts : ∀ {situation frame p s}, a situation frame p s ≠ [] → m.Halts
  onward : ∀ frame p, RunsAlong State.Onward (m frame p)

section Layers

variable {m : Matcher} {a : Log (Nat × Abort)} (hm : m.Logged a)

include hm

theorem Matcher.Logged.frame (situation : Situation) (frame : Frame) :
    OperatorPeg.Logged (m frame) (a situation frame) :=
  ⟨hm.records situation frame, fun hmet => hm.halts hmet frame, hm.onward frame⟩

theorem skip_records (setting : Setting) (situation : Situation) (frame : Frame) (s : State) :
    Records s (skipLog a setting situation frame s) (skipTrivia m setting frame s) := by
  unfold skipLog skipTrivia
  split
  · exact .refl s
  · cases setting.rules.trivia? with
    | none => exact .refl s
    | some trivia => exact hm.records _ _ trivia s

omit hm in
theorem halts_of_skipLog (hm : m.Logged a) {setting : Setting} {situation : Situation}
    {frame : Frame} {s : State} (hmet : skipLog a setting situation frame s ≠ []) : m.Halts := by
  unfold skipLog at hmet
  split at hmet
  · exact absurd rfl hmet
  · split at hmet
    · exact absurd rfl hmet
    · exact hm.halts hmet

theorem climbing_logged (setting : Setting) (frame : Frame) (operators : List Operator) :
    Climbing.Logged ⟨m, peekPastTrivia m setting frame, { frame with probe := none }, operators⟩ a
      (skipLog a setting .within frame) where
  matcher := hm.frame
  lookout := fun s => by
    have hskip := skip_records hm setting .within frame s
    simp only [peekPastTrivia]
    cases h : skipTrivia m setting frame s with
    | none =>
        rw [h] at hskip
        exact hskip
    | some after =>
        rw [h] at hskip
        exact hskip
  halts := halts_of_skipLog hm

theorem lookup_records (setting : Setting) (situation : Situation) (frame : Frame) (key : String)
    (s : State) :
    Records s (lookupLog Moment.aborts a setting situation frame key s)
      ((matchLookup m setting frame key s).map (·.state)) := by
  unfold lookupLog matchLookup
  cases setting.rules.get? key with
  | none => exact .abort ..
  | some p =>
      simp only []
      split
      · exact .abort ..
      · have hrec := hm.records situation { frame with depth := frame.depth + 1 } p
          (s.add (.entered key s.cursor.offset))
        cases h : m { frame with depth := frame.depth + 1 } p
            (s.add (.entered key s.cursor.offset)) with
        | none =>
            rw [h] at hrec
            exact hrec
        | some o =>
            rw [h] at hrec
            rcases o with ⟨_ | child, s'⟩ <;> exact hrec

theorem lookahead_records (situation : Situation) (frame : Frame) (inner : Pattern)
    (wanted : Bool) (s : State) :
    Records s (a situation { frame with quiet := true } inner s)
      ((matchLookahead m frame inner wanted s).map (·.state)) := by
  have hrec := hm.records situation { frame with quiet := true } inner s
  unfold matchLookahead
  cases h : m { frame with quiet := true } inner s with
  | none =>
      rw [h] at hrec
      exact hrec
  | some o =>
      rw [h] at hrec
      simp only []
      split <;> exact hrec

theorem body_records (setting : Setting) (situation : Situation) (frame : Frame) (p : Pattern)
    (s : State) :
    Records s (bodyLog Moment.aborts m a setting situation frame p s)
      ((matchBody m setting frame p s).map (·.state)) := by
  cases p with
  | terminal t => exact (Records.refl s).of_aborted (aborted_matchTerminal setting frame t s)
  | sequence steps => exact steps_record (hm.frame situation frame) _ [] steps s
  | choice alternatives => exact alternatives_record (hm.frame situation frame) _ 0 alternatives s
  | quantifier inner least most =>
      exact quantifier_records (hm.frame situation frame) (fun _ => rfl) inner least most s
  | lookup key => exact lookup_records hm setting situation frame key s
  | label name inner =>
      show Records s _ (((m frame inner s).map _).map _)
      rw [Option.map_map]
      exact hm.records situation frame inner s
  | lookahead inner wanted => exact lookahead_records hm situation frame inner wanted s
  | table operators =>
      exact climb_records (climbing_logged hm setting frame operators) _ [] none none s

theorem layer_records (setting : Setting) (situation : Situation) (frame : Frame) (p : Pattern)
    (s : State) :
    Records s (layerLog Moment.aborts m a setting situation frame p s)
      ((matchOnce m setting frame p s).map (·.state)) := by
  simp only [layerLog, Moment.aborts, List.nil_append]
  unfold matchOnce
  cases hend : s.isAborted with
  | true =>
      simp only [State.charge, hend, if_true]
      exact .refl s
  | false =>
      simp only [Bool.false_eq_true, if_false]
      rcases hc : s.charge with ⟨_ | _, charged⟩
      · rw [State.abort_of_charge hend hc]
        exact .abort ..
      · have hcharged : charged.aborted = s.aborted := by
          obtain ⟨hs, hcharged⟩ := State.running_of_charge hc
          rw [State.isAborted_eq_false_iff.mp hs, State.isAborted_eq_false_iff.mp hcharged]
        have hskip := (skip_records hm setting situation frame charged).of_start hcharged
        dsimp only
        cases hready : skipTrivia m setting frame charged with
        | none =>
            rw [hready] at hskip
            rw [List.append_nil]
            exact hskip
        | some ready =>
            rw [hready] at hskip
            dsimp only
            have hbody := body_records hm setting situation frame p ready
            refine hskip.append ?_ fun hmet => ?_
            · cases hrun : matchBody m setting frame p ready with
              | none =>
                  rw [hrun] at hbody
                  rw [List.append_nil]
                  exact hbody
              | some o =>
                  rw [hrun] at hbody
                  dsimp only
                  rw [List.append_nil]
                  split <;> exact hbody
            · obtain ⟨o, hrun, -⟩ : ∃ o, BodyRun m setting frame ready p o ∧ _ :=
                BodyRun.halts (halts_of_skipLog hm hmet) (hskip.isAborted hmet) p
              rw [matchBody_eq_some_iff.mpr hrun]
              dsimp only
              split <;> rfl

end Layers

/-- **Matching keeps the first cause to end the parse.** -/
theorem matchPattern_logged (setting : Setting) (layers : Nat) :
    (matchPattern setting layers).Logged (logOf Moment.aborts setting layers) := by
  have honward := matchPattern_along State.Onward.isCourse setting
  induction layers with
  | zero => exact ⟨fun _ _ _ _ => rfl, fun hmet => absurd rfl hmet, honward 0⟩
  | succ layers ih =>
      exact ⟨layer_records ih setting, fun _ => matchPattern_halts setting layers,
        honward (layers + 1)⟩

/-! ## Parses -/

theorem reportedError_eq_aborted_iff {s : State} {offset : Nat} {cause : Abort} :
    reportedError s = .aborted offset cause ↔ s.aborted = some (offset, cause) := by
  unfold reportedError
  cases s.aborted with
  | some e => simp [Prod.ext_iff]
  | none =>
      -- a failure is never an end of the parse
      cases Failure.best (Event.failures s.events.reverse) with
      | none => simp
      | some best => rcases best with ⟨⟨_, _, _ | _⟩, _⟩ <;> simp [Failure.Best.error]

/-- The parse matches its start pattern with this tree, and the trivia after the match leads
to the offset `stop` in a parse that has not ended. -/
def MatchedTo (layers : Nat) (rules : Rules) (limits : Limits) (start : Start) (window : Window)
    (tree : Tree) (stop : Nat) : Prop :=
  let setting : Setting := ⟨rules, window.beyond, limits.depth⟩
  ∃ p o s, start.pattern? rules = some p ∧
    matchPattern setting layers .outermost p
      (start.enter (State.start window.start limits.fuel)) = some o ∧
    o.tree? = some tree ∧
    skipTrivia (matchPattern setting layers) setting .outermost (start.leave o).state = some s ∧
    s.isAborted = false ∧ s.cursor.offset = stop

section Conclude

variable {m : Matcher} {a : Log (Nat × Abort)} (hm : m.Logged a) (setting : Setting)
  {o : Outcome} {s : State} {met : List (Nat × Abort)} (hrec : Records s met (some o.state))
  (hhalts : met ≠ [] → m.Halts)

include hm hrec hhalts

/-- The trivia after the match is skipped in a parse that keeps the first cause, too. -/
theorem skip_after_records :
    Records s (met ++ skipLog a setting .outside .outermost o.state)
      (skipTrivia m setting .outermost o.state) := by
  refine hrec.append (skip_records hm setting .outside .outermost o.state) fun hmet => ?_
  have hrun : SkipRun m setting .outermost o.state o.state :=
    SkipRun.halts (hhalts hmet) (hrec.isAborted hmet)
  rw [skipTrivia_eq_some_iff.mpr hrun]
  rfl

/-- A parse that meets a cause to end comes to an end. -/
theorem conclude_isSome (hmet : met ++ concludeLog Moment.aborts m a setting o ≠ []) :
    (conclude m setting o).isSome := by
  rw [concludeLog_of_silent Moment.aborts fun _ => rfl] at hmet
  unfold conclude
  cases htree : o.tree? with
  | none => rfl
  | some tree =>
      rw [htree] at hmet
      have hskip := skip_after_records hm setting hrec hhalts
      dsimp only at hmet ⊢
      cases hs : skipTrivia m setting .outermost o.state with
      | none =>
          rw [hs] at hskip
          exact absurd hskip hmet
      | some s' =>
          dsimp only
          split <;> rfl

/-- What is concluded is either rejected in a state that keeps the first cause, or a tree at
the end of the range. -/
theorem ConcludeRun.records {report : Report} (h : ConcludeRun m setting o report) :
    ∃ s', Records s (met ++ concludeLog Moment.aborts m a setting o) (some s') ∧
      (report = reject s' ∨
        ∃ tree, report.result = .ok tree ∧ o.tree? = some tree ∧
          skipTrivia m setting .outermost o.state = some s' ∧ s'.isAborted = false ∧
          s'.cursor.ahead = []) := by
  rw [concludeLog_of_silent Moment.aborts fun _ => rfl]
  have hskip := skip_after_records hm setting hrec hhalts
  cases h with
  | missed htree =>
      rw [htree, List.append_nil]
      exact ⟨_, hrec, .inl rfl⟩
  | @reached tree s' htree hrun hrunning hahead =>
      rw [skipTrivia_eq_some_iff.mpr hrun] at hskip ⊢
      rw [htree]
      exact ⟨s', hskip, .inr ⟨tree, rfl, rfl, rfl, hrunning, hahead⟩⟩
  | @short tree s' htree hrun _ =>
      rw [skipTrivia_eq_some_iff.mpr hrun] at hskip
      rw [htree]
      exact ⟨_, hskip.of_aborted (State.aborted_missToken ..), .inl rfl⟩

end Conclude

/-- A match and the trivia after it lead onward. -/
theorem reaches_of_skip {setting : Setting} {layers : Nat} {start : Start} {p : Pattern}
    {s s' : State} {o : Outcome}
    (ho : matchPattern setting layers .outermost p (start.enter s) = some o)
    (hskip : skipTrivia (matchPattern setting layers) setting .outermost (start.leave o).state
      = some s') : s.cursor.Reaches s'.cursor := by
  have hmatch := (matchPattern_onward ho).cursor
  rw [Start.cursor_enter] at hmatch
  have hafter := (SkipRun.along State.Onward.isCourse
    (matchPattern_along State.Onward.isCourse _ _) (skipTrivia_eq_some_iff.mp hskip)).cursor
  rw [Start.cursor_leave] at hafter
  exact hmatch.trans hafter

/-- Where nothing is ahead any more the range ends. -/
theorem Cursor.Reaches.offset_of_nil {c c' : Cursor} (h : c.Reaches c') (hahead : c'.ahead = []) :
    c'.offset = c.offset + Text.byteLength c.ahead := by
  obtain ⟨text, h⟩ := h
  rw [h.offset, h.ahead, hahead, List.append_nil]

section Window

variable (layers : Nat) (rules : Rules) (limits : Limits) (start : Start) (window : Window)

/-- What `parseWindow_first_abort` says when the start rule is not there. -/
theorem parseWindow_first_abort_of_undefined {name : String} (hget : rules.get? name = none) :
    windowLog Moment.aborts layers rules limits (.rule name) window
        = [(window.start.offset, .undefinedRule name)] ∧
      parseWindow layers rules limits (.rule name) window
        = some ⟨.error (.aborted window.start.offset (.undefinedRule name)), []⟩ := by
  constructor
  · simp only [windowLog, Start.pattern?, hget]
    rfl
  · simp only [parseWindow, hget]
    rfl

/-- **The first cause to end a parse is what it reports.** If anything ends the parse of a
window, it comes to an end and reports the first such cause; it reports no other one, and
a tree only if there is none. -/
theorem parseWindow_first_abort :
    (windowLog Moment.aborts layers rules limits start window ≠ [] →
      (parseWindow layers rules limits start window).isSome) ∧
    ∀ report, parseWindow layers rules limits start window = some report →
      (∀ e, report.result = .error (.aborted e.1 e.2) ↔
        (windowLog Moment.aborts layers rules limits start window).head? = some e) ∧
      ∀ tree, report.result = .ok tree →
        windowLog Moment.aborts layers rules limits start window = [] ∧
          MatchedTo layers rules limits start window tree window.stop := by
  cases hp : start.pattern? rules with
  | none =>
      cases start with
      | pattern => cases hp
      | rule name =>
          obtain ⟨hmet, hrun⟩ :=
            parseWindow_first_abort_of_undefined layers rules limits window hp
          rw [hmet, hrun]
          refine ⟨fun _ => rfl, fun report h => ?_⟩
          cases h
          exact ⟨fun e => by simp [Prod.ext_iff], fun tree h => by cases h⟩
  | some p =>
      have hm := matchPattern_logged ⟨rules, window.beyond, limits.depth⟩ layers
      have hrec := hm.records .outside .outermost p
        (start.enter (State.start window.start limits.fuel))
      simp only [windowLog, hp]
      rw [parseWindow_of_defined hp]
      cases ho : matchPattern ⟨rules, window.beyond, limits.depth⟩ layers .outermost p
          (start.enter (State.start window.start limits.fuel)) with
      | none =>
          rw [ho] at hrec
          rw [List.append_nil]
          exact ⟨fun hmet => absurd hrec hmet, fun report h => by cases h⟩
      | some o =>
          rw [ho] at hrec
          have hleft : Records _ _ (some (start.leave o).state) := hrec.of_aborted (by simp)
          rw [Option.bind_some]
          refine ⟨conclude_isSome hm _ hleft hm.halts, fun report h => ?_⟩
          obtain ⟨s', hkept, hreport⟩ := (conclude_eq_some_iff.mp h).records hm _ hleft hm.halts
          -- nothing had ended the parse when it began
          have hfresh : (State.start window.start limits.fuel).aborted = none := rfl
          have hfirst : s'.aborted = _ := hkept
          rw [Start.aborted_enter, hfresh, Option.none_or] at hfirst
          rw [← hfirst]
          obtain rfl | ⟨tree, hok, htree, hskip, hrunning, hahead⟩ := hreport
          · refine ⟨fun e => ?_, fun tree hok => by cases hok⟩
            rw [← reportedError_eq_aborted_iff, reject, Except.error.injEq]
          · rw [State.isAborted_eq_false_iff] at hrunning
            refine ⟨fun e => by simp [hok, hrunning], fun tree' hok' => ⟨?_, ?_⟩⟩
            · rw [hrunning] at hfirst
              exact List.head?_eq_none_iff.mp hfirst.symm
            · rw [hok, Except.ok.injEq] at hok'
              subst hok'
              rw [Start.tree?_leave] at htree
              exact ⟨p, o, s', hp, ho, htree, hskip, State.isAborted_eq_false_iff.mpr hrunning,
                (reaches_of_skip ho hskip).offset_of_nil hahead⟩

end Window

/-- **Nothing swallows a cause that ends a parse.** Wherever it is met, the first one of a
parse is what the parse reports, and it reports no other. So a tree is reported only if
none is met, and then the trivia after the match has led to the end of the range. This is
so for any number of layers, `layersFor` among them. -/
theorem first_abort_is_reported (layers : Nat) (rules : Rules) (limits : Limits) (start : Start)
    (source : String) (first last : Nat) :
    (∀ offset cause,
      (parseAborts layers rules limits start source first last).head? = some (offset, cause) ↔
        ∃ report, parseWithin layers rules limits start source first last = some report ∧
          report.result = .error (.aborted offset cause)) ∧
    ∀ report tree, parseWithin layers rules limits start source first last = some report →
      report.result = .ok tree →
        parseAborts layers rules limits start source first last = [] ∧
        MatchedTo layers rules limits start (.ofRange source.toList first last) tree
          (Text.floorOffset source.toList last) := by
  obtain ⟨hends, hreports⟩ := parseWindow_first_abort layers rules limits start
    (.ofRange source.toList first last)
  refine ⟨fun offset cause => ⟨fun hfirst => ?_, fun ⟨report, h, herror⟩ => ?_⟩,
    fun report tree h hok => ?_⟩
  · have hmet : parseAborts layers rules limits start source first last ≠ [] := by
      intro hnil
      rw [hnil] at hfirst
      cases hfirst
    obtain ⟨report, h⟩ := Option.isSome_iff_exists.mp (hends hmet)
    exact ⟨report, h, ((hreports report h).1 (offset, cause)).mpr hfirst⟩
  · exact ((hreports report h).1 (offset, cause)).mp herror
  · rw [← Window.stop_ofRange source.toList first last]
    exact (hreports report h).2 tree hok

/-- Any number of nothings, which has no end. -/
private def nothings : Pattern := .quantifier (.terminal (.literal "")) 0 none

/-- A letter where there are not any number of nothings, or else the letter all the same. -/
private def heedless : Pattern :=
  .choice [.sequence [⟨true, .lookahead nothings false⟩, ⟨true, .terminal (.literal "x")⟩],
    .terminal (.literal "x")]

/-- The lookahead and the choice would both go on. A rule that is not there is met behind
trivia that has ended the parse already. And a letter alone is matched. -/
theorem first_abort_is_reported_sample :
    (∃ report, parseWithin 9 .empty .unlimited (.pattern heedless) "x" 0 1 = some report ∧
      report.result = .error (.aborted 0 .zeroLengthMatch)) ∧
    (parseAborts 9 (.ofList [("_", nothings)]) .unlimited (.pattern (.lookup "a")) "x" 0 1
        = [(0, .zeroLengthMatch), (0, .undefinedRule "a")] ∧
      ∃ report, parseWithin 9 (.ofList [("_", nothings)]) .unlimited (.pattern (.lookup "a"))
          "x" 0 1 = some report ∧
        report.result = .error (.aborted 0 .zeroLengthMatch)) ∧
    ∃ tree, MatchedTo 9 .empty .unlimited (.pattern (.terminal (.literal "x")))
      (.ofRange "x".toList 0 1) tree (Text.floorOffset "x".toList 1) := by
  refine ⟨?_, ⟨by decide +kernel, ?_⟩, ?_⟩
  · exact ((first_abort_is_reported 9 .empty .unlimited (.pattern heedless) "x" 0 1).1
      0 .zeroLengthMatch).mp (by decide +kernel)
  · exact ((first_abort_is_reported 9 (.ofList [("_", nothings)]) .unlimited
      (.pattern (.lookup "a")) "x" 0 1).1 0 .zeroLengthMatch).mp (by decide +kernel)
  · have hrun : (parseWithin 9 .empty .unlimited (.pattern (.terminal (.literal "x"))) "x" 0 1).any
        (·.result.toBool) = true := by decide +kernel
    obtain ⟨report, h, hok⟩ := (Option.any_eq_true _ _).mp hrun
    cases hresult : report.result with
    | error e =>
        rw [hresult] at hok
        cases hok
    | ok tree =>
        exact ⟨tree, ((first_abort_is_reported 9 .empty .unlimited
          (.pattern (.terminal (.literal "x"))) "x" 0 1).2 report tree h hresult).2⟩

end OperatorPeg
