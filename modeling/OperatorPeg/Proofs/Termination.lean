import OperatorPeg.Pattern.Build
import OperatorPeg.Proofs.Onward

/-!
# Matching comes to an end

The layers of the matcher bound how many patterns may be inside one another, and a
pattern that refers to itself may need more than any number of them. How many are
enough is counted here from the inside out, for each kind of pattern from its parts.
What stands behind a terminal that consumes something is tried with less ahead, so a
rule may refer to itself behind one.

The loops need no counting. A round of a repetition that goes on consumes something,
and so does at least every second round of the climbing loop.
-/

namespace OperatorPeg

/-! ## Regions -/

/-- States that a parse does not leave once it is among them. -/
structure Region where
  holds : State → Prop
  closed : ∀ {s s' : State}, holds s → s.Proceeds s' → holds s'

namespace Region

/-- At most `length` characters are ahead. -/
def ahead (length : Nat) : Region :=
  ⟨fun s => s.cursor.ahead.length ≤ length, fun h hs => Nat.le_trans hs.cursor.length_le h⟩

/-- There is a limit on fuel, and no more than `fuel` is left. -/
def fueled (fuel : Nat) : Region where
  holds s := ∃ n ≤ fuel, s.fuel = some n
  closed := by
    rintro s s' ⟨n, hn, hfuel⟩ hs
    obtain ⟨n', hn', hfuel'⟩ := hs.fuel n hfuel
    exact ⟨n', Nat.le_trans hn' hn, hfuel'⟩

/-- All states. -/
def everywhere : Region := ⟨fun _ => True, fun _ _ => trivial⟩

/-- What may come after a state. -/
def after (s : State) : Region := ⟨s.Proceeds, State.Proceeds.trans⟩

end Region

/-- Matching the pattern with `m` comes to something wherever in the region it is tried. -/
def AnswersIn (m : Pattern → State → Option Outcome) (region : Region) (p : Pattern) : Prop :=
  ∀ s, region.holds s → ∃ o, m p s = some o

/-- Every match of the pattern leaves less ahead. -/
def Consumes (m : Pattern → State → Option Outcome) (p : Pattern) : Prop :=
  ∀ s tree s', m p s = some ⟨some tree, s'⟩ → s'.cursor.ahead.length < s.cursor.ahead.length

/-! ## Loops -/

section Loops

variable {m : Pattern → State → Option Outcome} (hm : ∀ p, RunsAlong State.Proceeds (m p))
  {region : Region}

include hm

theorem steps_answer {steps : List Step} (h : ∀ step ∈ steps, AnswersIn m region step.pattern)
    (offset : Nat) (kept : List Tree) {s : State} (hs : region.holds s) :
    ∃ o, StepsRun m offset kept steps s o := by
  induction steps generalizing kept s with
  | nil => exact ⟨_, .done kept s⟩
  | cons step steps ih =>
      obtain ⟨hstep, hsteps⟩ := List.forall_mem_cons.mp h
      obtain ⟨⟨_ | node, s'⟩, hmatch⟩ := hstep s hs
      · exact ⟨_, .missed hmatch⟩
      · obtain ⟨o, hrun⟩ := ih hsteps (if step.keep then node :: kept else kept)
          (region.closed hs (hm _ _ _ hmatch))
        exact ⟨o, .matched hmatch hrun⟩

/-- The steps behind one that consumes have less ahead. -/
theorem steps_answer_behind {length : Nat} (step : Step) {steps : List Step}
    (hstep : AnswersIn m (.ahead length) step.pattern) (hconsumes : Consumes m step.pattern)
    (hsteps : ∀ step ∈ steps, ∀ length' < length, AnswersIn m (.ahead length') step.pattern)
    (offset : Nat) (kept : List Tree) {s : State} (hs : s.cursor.ahead.length ≤ length) :
    ∃ o, StepsRun m offset kept (step :: steps) s o := by
  obtain ⟨⟨_ | node, s'⟩, hmatch⟩ := hstep s hs
  · exact ⟨_, .missed hmatch⟩
  · have hless := hconsumes _ _ _ hmatch
    obtain ⟨o, hrun⟩ := steps_answer hm
      (fun step' hmem => hsteps step' hmem _ (Nat.lt_of_lt_of_le hless hs)) offset
      (if step.keep then node :: kept else kept) (Nat.le_refl s'.cursor.ahead.length)
    exact ⟨o, .matched hmatch hrun⟩

theorem alternatives_answer {ps : List Pattern} (h : ∀ p ∈ ps, AnswersIn m region p)
    (offset index : Nat) {s : State} (hs : region.holds s) :
    ∃ o, AlternativesRun m offset index ps s o := by
  induction ps generalizing index s with
  | nil => exact ⟨_, .exhausted index s⟩
  | cons p ps ih =>
      obtain ⟨hp, hps⟩ := List.forall_mem_cons.mp h
      obtain ⟨⟨_ | child, s'⟩, hmatch⟩ := hp s hs
      · cases hend : s'.isAborted with
        | true => exact ⟨_, .aborted hmatch hend⟩
        | false =>
            have hnote : s'.Proceeds (s'.add (.backtracked index offset)) :=
              State.Proceeds.isCourse.note rfl
            obtain ⟨o, hrun⟩ := ih hps (index + 1)
              (region.closed (region.closed hs (hm _ _ _ hmatch)) hnote)
            exact ⟨o, .missed hmatch hend hrun⟩
      · exact ⟨_, .chosen hmatch⟩

theorem upTo_answers {p : Pattern} (h : AnswersIn m region p) (n : Nat) (r : Rounds)
    (hr : region.holds r.state) : ∃ r', UpToRun (m p) n r r' := by
  induction n generalizing r with
  | zero => exact ⟨r, .full r⟩
  | succ n ih =>
      obtain ⟨⟨_ | node, s'⟩, hmatch⟩ := h r.state hr
      · exact ⟨_, .missed hmatch⟩
      · obtain ⟨r', hrun⟩ := ih ⟨r.count + 1, node :: r.nodes, s'⟩
          (region.closed hr (hm _ _ _ hmatch))
        exact ⟨r', .matched hmatch hrun⟩

/-- A round that goes on leaves less ahead, so there is budget for it. -/
theorem while_answers {p : Pattern} (h : AnswersIn m region p) (budget : List Char)
    (r : Rounds) (hr : region.holds r.state)
    (hbudget : r.state.cursor.ahead.length ≤ budget.length) :
    ∃ r', WhileRun (m p) budget r r' := by
  obtain ⟨⟨_ | node, s'⟩, hmatch⟩ := h r.state hr
  · exact ⟨_, .missed hmatch⟩
  · by_cases hmoved : s'.cursor.offset = r.state.cursor.offset
    · exact ⟨_, .stuck hmatch hmoved⟩
    · have hproceeds := hm _ _ _ hmatch
      have hless : s'.cursor.ahead.length < r.state.cursor.ahead.length :=
        hproceeds.cursor.length_lt hmoved
      cases budget with
      | nil =>
          rw [List.length_nil] at hbudget
          omega
      | cons c budget =>
          rw [List.length_cons] at hbudget
          obtain ⟨r', hrun⟩ := while_answers h budget ⟨r.count + 1, node :: r.nodes, s'⟩
            (region.closed hr hproceeds) (Nat.le_of_lt_succ (Nat.lt_of_lt_of_le hless hbudget))
          exact ⟨r', .matched hmatch hmoved hrun⟩
termination_by budget.length

theorem rounds_answer {p : Pattern} (h : AnswersIn m region p) (most : Option Nat) {s : State}
    (hs : region.holds s) : ∃ r, RoundsRun (m p) most s r := by
  cases most with
  | some n => exact upTo_answers hm h n ⟨0, [], s⟩ hs
  | none => exact while_answers hm h _ ⟨0, [], s⟩ hs (Nat.le_refl _)

theorem operators_answer {ops : List Operator} (h : ∀ op ∈ ops, AnswersIn m region op.pattern)
    (wantOperand : Bool) {s : State} (hs : region.holds s) :
    ∃ found s', OperatorsRun m wantOperand ops s (found, s') := by
  induction ops generalizing s with
  | nil => exact ⟨none, s, .exhausted s⟩
  | cons op ops ih =>
      obtain ⟨hop, hops⟩ := List.forall_mem_cons.mp h
      by_cases hkind : op.fixity.takesLeft = wantOperand
      · obtain ⟨found, s', hrun⟩ := ih hops hs
        exact ⟨found, s', .passed hkind hrun⟩
      · obtain ⟨⟨_ | mid, s'⟩, hmatch⟩ := hop s hs
        · obtain ⟨found, s'', hrun⟩ := ih hops (region.closed hs (hm _ _ _ hmatch))
          exact ⟨found, s'', .missed hkind hmatch hrun⟩
        · exact ⟨some (op, mid), s', .matched hkind hmatch⟩

end Loops

/-! ## Expressions -/

/-- The operators of a climbing loop come to something wherever in the region they are tried,
and so does looking past trivia. -/
structure Climbing.AnswersIn (region : Region) (c : Climbing) : Prop where
  along : c.RunsAlong State.Proceeds
  operators : ∀ probe, ∀ op ∈ c.operators,
    OperatorPeg.AnswersIn (c.matcher { c.frame with probe }) region op.pattern
  peek : ∀ s, region.holds s → ∃ r, c.peek s = some r

section Expressions

variable {c : Climbing} {region : Region} (hc : c.AnswersIn region)

include hc

theorem Climbing.finds_answer (operand : Option Tree) {s : State} (hs : region.holds s) :
    ∃ before found after, c.Finds operand s before found after := by
  obtain ⟨probe, before, hprobe, hbefore⟩ :
      ∃ probe before, c.probe operand s = some (probe, before) ∧ region.holds before := by
    cases operand with
    | none => exact ⟨none, s, rfl, hs⟩
    | some operand =>
        obtain ⟨⟨offset, s'⟩, hpeek⟩ := hc.peek s hs
        obtain ⟨after, hafter, rfl, rfl⟩ := hc.along.peek _ _ _ hpeek
        exact ⟨_, _, by rw [Climbing.probe, hpeek]; rfl, region.closed hs hafter.back⟩
  obtain ⟨found, after, hrun⟩ :=
    operators_answer (hc.along.matcher _) (hc.operators probe) operand.isNone hbefore
  exact ⟨before, found, after, probe, hprobe, hrun⟩

theorem finishExpression_answers (stack : List Pending) (operand : Option Tree) {s : State}
    (hs : region.holds s) : ∃ o, finishExpression c stack operand s = some o := by
  cases operand with
  | some operand => exact ⟨_, rfl⟩
  | none =>
      obtain ⟨⟨offset, s'⟩, hpeek⟩ := hc.peek s hs
      exact ⟨_, by rw [finishExpression, hpeek]⟩

/-- How many rounds the climbing loop may go on from here. Of two rounds in a row one consumes
something, or the loop ends. -/
def roundsAhead (lastEmpty : Option Nat) (c : Cursor) : Nat :=
  2 * c.ahead.length + (if lastEmpty = some c.offset then 2 else 3)

omit hc in
/-- What is found empty where the last round found nothing either is one time too many. -/
theorem roundsAhead_lt {op : Operator} {lastEmpty : Option Nat} {before after : State}
    (hreach : before.cursor.Reaches after.cursor)
    (hgoes : ¬(after.cursor.offset = before.cursor.offset ∧
      repeatsState op lastEmpty before.cursor.offset = true)) :
    roundsAhead (emptyAt before after) after.cursor < roundsAhead lastEmpty before.cursor := by
  have hless := hreach.length_le
  unfold roundsAhead
  by_cases hmoved : after.cursor.offset = before.cursor.offset
  · -- this round was empty, so the one before was not
    have hlast : lastEmpty ≠ some before.cursor.offset := by
      rintro rfl
      exact hgoes ⟨hmoved, by simp [repeatsState]⟩
    have hempty : emptyAt before after = some after.cursor.offset := by simp [emptyAt, hmoved]
    rw [if_pos hempty, if_neg hlast]
    omega
  · have hempty : emptyAt before after ≠ some after.cursor.offset := by simp [emptyAt, hmoved]
    have hlt := hreach.length_lt hmoved
    rw [if_neg hempty]
    split <;> omega

/-- The climbing loop ends within the rounds that it has ahead. -/
theorem climb_answers {rounds : Nat} (stack : List Pending) (operand : Option Tree)
    (lastEmpty : Option Nat) {s : State} (hs : region.holds s)
    (hrounds : roundsAhead lastEmpty s.cursor ≤ rounds) :
    ∃ ms o, ClimbRun c rounds stack operand lastEmpty s ms o := by
  induction rounds generalizing stack operand lastEmpty s with
  | zero =>
      unfold roundsAhead at hrounds
      split at hrounds <;> omega
  | succ rounds ih =>
      obtain ⟨before, found, after, hfinds⟩ := Climbing.finds_answer hc operand hs
      have hbefore := hfinds.cursor_before hc.along
      have hproceeds : s.Proceeds after := hfinds.along State.Proceeds.isCourse hc.along
      have hafter : region.holds after := region.closed hs hproceeds
      cases hend : after.isAborted with
      | true => exact ⟨_, _, .aborted hfinds hend⟩
      | false =>
          rcases found with _ | ⟨op, mid⟩
          · obtain ⟨o, ho⟩ := finishExpression_answers hc stack operand hafter
            exact ⟨_, o, .finished hfinds hend ho⟩
          · by_cases hrepeats : after.cursor.offset = before.cursor.offset ∧
                repeatsState op lastEmpty before.cursor.offset = true
            · exact ⟨_, _, .repeated hfinds hend hrepeats.1 hrepeats.2⟩
            · have hless := roundsAhead_lt (hbefore ▸ hproceeds.cursor) hrepeats
              rw [hbefore] at hless
              -- a variable for what is taken, so that the pair can be opened
              generalize htake : takeOperand op stack operand
                (after.add (.operator op.name mid.offset)) = taken
              obtain ⟨⟨rest, left⟩, s'⟩ := taken
              have hs' : region.holds s' := region.closed hafter
                (State.Proceeds.isCourse.trans (State.Proceeds.isCourse.note rfl)
                  (takeOperand_along State.Proceeds.isCourse htake))
              have hcursor : s'.cursor = after.cursor :=
                (cursor_takeOperand htake).trans (State.cursor_add _ _)
              have hnext : roundsAhead (emptyAt before after) s'.cursor ≤ rounds := by
                rw [hcursor]
                omega
              cases hright : op.fixity.takesRight with
              | true =>
                  obtain ⟨ms, o, hrun⟩ := ih (⟨op, mid, left⟩ :: rest) none _ hs' hnext
                  exact ⟨_, o, .waits hfinds hend hrepeats htake hright hrun⟩
              | false =>
                  obtain ⟨ms, o, hrun⟩ := ih rest (some (Pending.complete ⟨op, mid, left⟩ none)) _
                    (s := s'.add (.reduced op.name))
                    (region.closed hs' (State.Proceeds.isCourse.note rfl)) hnext
                  exact ⟨_, o, .completes hfinds hend hrepeats htake hright hrun⟩

end Expressions

/-! ## One layer -/

/-- The patterns that a pattern consists of. -/
def Pattern.parts : Pattern → List Pattern
  | .terminal _ | .lookup _ => []
  | .sequence steps => steps.map (·.pattern)
  | .choice alternatives => alternatives
  | .quantifier inner _ _ | .label _ inner | .lookahead inner _ => [inner]
  | .table operators => operators.map (·.pattern)

/-- Trivia is skipped if the rule for it comes to something. -/
theorem skips_of_trivia {m : Matcher} {setting : Setting} {frame : Frame} (region : Region)
    (h : frame.inTrivia = false → ∀ trivia, setting.rules.trivia? = some trivia →
      AnswersIn (m { frame with inTrivia := true, quiet := true }) region trivia)
    (s : State) (hs : region.holds s) : ∃ s', SkipRun m setting frame s s' := by
  cases hin : frame.inTrivia with
  | true => exact ⟨s, .inside hin⟩
  | false =>
      cases htrivia : setting.rules.trivia? with
      | none => exact ⟨s, .absent hin htrivia⟩
      | some trivia =>
          obtain ⟨o, ho⟩ := h hin trivia htrivia s hs
          exact ⟨_, .skipped hin htrivia ho⟩

section Layer

variable {m : Matcher} (hm : ∀ frame p, RunsAlong State.Proceeds (m frame p)) {setting : Setting}
  {frame : Frame} (region : Region)
  (hskip : ∀ s, region.holds s → ∃ s', SkipRun m setting frame s s')

include hm hskip

omit hm in
theorem peekPastTrivia_answers (s : State) (hs : region.holds s) :
    ∃ r, peekPastTrivia m setting frame s = some r := by
  obtain ⟨s', hrun⟩ := hskip s hs
  exact ⟨_, by rw [peekPastTrivia, skipTrivia_eq_some_iff.mpr hrun]; rfl⟩

theorem expression_answers {operators : List Operator}
    (hoperators : ∀ probe, ∀ op ∈ operators, AnswersIn (m { frame with probe }) region op.pattern)
    {s : State} (hs : region.holds s) :
    ∃ found o, ExpressionRun ⟨m, peekPastTrivia m setting frame, frame, operators⟩ s found o := by
  have hc : Climbing.AnswersIn region
      ⟨m, peekPastTrivia m setting frame, { frame with probe := none }, operators⟩ :=
    ⟨climbing_along State.Proceeds.isCourse hm operators, hoperators,
      peekPastTrivia_answers region hskip⟩
  exact climb_answers hc [] none none hs (Nat.le_refl _)

/-- What a pattern says comes to something if its parts do, and the rule that it looks up if it
is entered. -/
theorem body_answers {p : Pattern}
    (hparts : ∀ inner ∈ p.parts, ∀ frame' : Frame, frame'.inTrivia = frame.inTrivia →
      frame'.depth = frame.depth → AnswersIn (m frame') region inner)
    (hrule : ∀ key q, p = .lookup key → setting.rules.get? key = some q →
      setting.depthLimit.any (· ≤ frame.depth) = false →
      AnswersIn (m { frame with depth := frame.depth + 1 }) region q)
    {s : State} (hs : region.holds s) : ∃ o, BodyRun m setting frame s p o := by
  cases p with
  | terminal t => exact ⟨_, .terminal t⟩
  | sequence steps =>
      obtain ⟨o, hrun⟩ := steps_answer (hm frame)
        (fun step hstep => hparts _ (List.mem_map_of_mem hstep) frame rfl rfl) s.cursor.offset [] hs
      exact ⟨o, .sequence hrun⟩
  | choice alternatives =>
      obtain ⟨o, hrun⟩ := alternatives_answer (hm frame)
        (fun p hp => hparts p hp frame rfl rfl) s.cursor.offset 0 hs
      exact ⟨o, .choice hrun⟩
  | quantifier inner least most =>
      obtain ⟨r, hrun⟩ := rounds_answer (hm frame)
        (hparts inner (List.mem_singleton_self inner) frame rfl rfl) most hs
      exact ⟨_, .quantifier hrun⟩
  | lookup key =>
      cases hget : setting.rules.get? key with
      | none => exact ⟨_, .undefinedRule hget⟩
      | some q =>
          cases hdepth : setting.depthLimit.any (· ≤ frame.depth) with
          | true => exact ⟨_, .tooDeep hget hdepth⟩
          | false =>
              obtain ⟨o, hmatch⟩ := hrule key q rfl hget hdepth
                (s.add (.entered key s.cursor.offset))
                (region.closed hs (.add _))
              exact ⟨_, .lookup hget hdepth hmatch⟩
  | label name inner =>
      obtain ⟨o, hmatch⟩ := hparts inner (List.mem_singleton_self inner) frame rfl rfl s hs
      exact ⟨_, .label hmatch⟩
  | lookahead inner wanted =>
      obtain ⟨o, hmatch⟩ := hparts inner (List.mem_singleton_self inner)
        { frame with quiet := true } rfl rfl s hs
      exact ⟨_, .lookahead hmatch⟩
  | table operators =>
      obtain ⟨ms, o, hrun⟩ := expression_answers hm region hskip
        (fun probe op hop => hparts _ (List.mem_map_of_mem hop) { frame with probe } rfl rfl) hs
      exact ⟨o, .table hrun⟩

/-- A layer comes to something if what it pays for does. -/
theorem layer_answers {p : Pattern}
    (hbody : ∀ s, region.holds s → ∃ o, BodyRun m setting frame s p o) {s : State}
    (hs : ∀ charged, s.charge = (true, charged) → region.holds charged) :
    ∃ o, matchOnce m setting frame p s = some o := by
  suffices hrun : ∃ o, LayerRun m setting frame p s o by
    obtain ⟨o, hrun⟩ := hrun
    exact ⟨o, matchOnce_eq_some_iff.mpr hrun⟩
  rcases hc : s.charge with ⟨_ | _, charged⟩
  · exact ⟨_, .unpaid hc⟩
  · have hcharged := hs charged hc
    obtain ⟨ready, hready⟩ := hskip charged hcharged
    obtain ⟨o, hrun⟩ :=
      hbody ready (region.closed hcharged (hready.along State.Proceeds.isCourse hm))
    exact ⟨_, .tried hc hready hrun⟩

theorem matchOnce_answers {p : Pattern}
    (hparts : ∀ inner ∈ p.parts, ∀ frame' : Frame, frame'.inTrivia = frame.inTrivia →
      frame'.depth = frame.depth → AnswersIn (m frame') region inner)
    (hrule : ∀ key q, p = .lookup key → setting.rules.get? key = some q →
      setting.depthLimit.any (· ≤ frame.depth) = false →
      AnswersIn (m { frame with depth := frame.depth + 1 }) region q)
    {s : State} (hs : ∀ charged, s.charge = (true, charged) → region.holds charged) :
    ∃ o, matchOnce m setting frame p s = some o :=
  layer_answers hm region hskip (fun _ => body_answers hm region hskip hparts hrule) hs

end Layer

/-! ## Layers -/

/-- So many layers are enough to match the pattern wherever at most `length` characters are
ahead. -/
def Answers (setting : Setting) (layers length : Nat) (p : Pattern) : Prop :=
  ∀ n ≥ layers, ∀ frame, AnswersIn (matchPattern setting n frame) (.ahead length) p

/-- So many layers are enough to skip trivia. -/
def SkipsWithin (setting : Setting) (layers : Nat) : Prop :=
  ∀ n ≥ layers, ∀ frame s, ∃ s', SkipRun (matchPattern setting n) setting frame s s'

/-- The rule for trivia, if there is one, is a terminal: it is matched at once. -/
theorem skipsWithin_of_terminal {setting : Setting}
    (h : ∀ p, setting.rules.trivia? = some p → ∃ t, p = .terminal t) : SkipsWithin setting 1 := by
  intro n hn frame s
  obtain ⟨n, rfl⟩ : ∃ k, n = k + 1 := ⟨n - 1, by omega⟩
  refine skips_of_trivia .everywhere (fun _ trivia htrivia s _ => ?_) s trivial
  obtain ⟨t, rfl⟩ := h trivia htrivia
  show ∃ o, matchOnce (matchPattern setting n) setting
    { frame with inTrivia := true, quiet := true } (.terminal t) s = some o
  exact layer_answers (matchPattern_along State.Proceeds.isCourse setting n) .everywhere
    (fun s _ => ⟨s, .inside rfl⟩)
    (fun s _ => ⟨_, .terminal t⟩) fun _ _ => trivial

theorem Answers.mono {setting : Setting} {layers layers' length length' : Nat} {p : Pattern}
    (h : Answers setting layers length p) (hlayers : layers ≤ layers')
    (hlength : length' ≤ length) : Answers setting layers' length' p :=
  fun n hn frame s hs => h n (Nat.le_trans hlayers hn) frame s (Nat.le_trans hs hlength)

section Layers

variable {setting : Setting} {skip layers length : Nat} (hskip : SkipsWithin setting skip)
  (hle : skip ≤ layers)

include hskip hle

/-- A pattern needs one layer more than what it says. -/
theorem answers_of_body {p : Pattern}
    (hbody : ∀ n ≥ layers, ∀ frame s, s.cursor.ahead.length ≤ length →
      ∃ o, BodyRun (matchPattern setting n) setting frame s p o) :
    Answers setting (layers + 1) length p := by
  intro n hn frame s hs
  obtain ⟨n, rfl⟩ : ∃ k, n = k + 1 := ⟨n - 1, by omega⟩
  have hn : layers ≤ n := by omega
  exact layer_answers (matchPattern_along State.Proceeds.isCourse setting n) (.ahead length)
    (fun s _ => hskip n (Nat.le_trans hle hn) frame s) (hbody n hn frame)
    fun charged hc => (Region.ahead length).closed hs (State.Proceeds.isCourse.charge hc)

theorem answers_of_parts {p : Pattern}
    (hparts : ∀ inner ∈ p.parts, Answers setting layers length inner)
    (hrule : ∀ key q, p = .lookup key → setting.rules.get? key = some q →
      Answers setting layers length q) :
    Answers setting (layers + 1) length p := by
  refine answers_of_body hskip hle fun n hn frame s hs => ?_
  exact body_answers (matchPattern_along State.Proceeds.isCourse setting n) (.ahead length)
    (fun s _ => hskip n (Nat.le_trans hle hn) frame s)
    (fun inner hinner frame' _ _ => hparts inner hinner n hn frame')
    (fun key q hp hget _ => hrule key q hp hget n hn _) hs

theorem answers_terminal (t : Terminal) : Answers setting (layers + 1) length (.terminal t) :=
  answers_of_parts hskip hle nofun nofun

theorem answers_sequence {steps : List Step}
    (h : ∀ step ∈ steps, Answers setting layers length step.pattern) :
    Answers setting (layers + 1) length (.sequence steps) :=
  answers_of_parts hskip hle (List.forall_mem_map.mpr h) nofun

theorem answers_choice {alternatives : List Pattern}
    (h : ∀ p ∈ alternatives, Answers setting layers length p) :
    Answers setting (layers + 1) length (.choice alternatives) :=
  answers_of_parts hskip hle h nofun

theorem answers_quantifier {p : Pattern} (h : Answers setting layers length p) (least : Nat)
    (most : Option Nat) : Answers setting (layers + 1) length (.quantifier p least most) :=
  answers_of_parts hskip hle (List.forall_mem_singleton.mpr h) nofun

theorem answers_lookup {key : String} {p : Pattern} (hget : setting.rules.get? key = some p)
    (h : Answers setting layers length p) : Answers setting (layers + 1) length (.lookup key) := by
  refine answers_of_parts hskip hle nofun fun key' q hkey hget' => ?_
  cases hkey
  cases hget.symm.trans hget'
  exact h

theorem answers_label {p : Pattern} (h : Answers setting layers length p) (name : String) :
    Answers setting (layers + 1) length (.label name p) :=
  answers_of_parts hskip hle (List.forall_mem_singleton.mpr h) nofun

theorem answers_lookahead {p : Pattern} (h : Answers setting layers length p) (wanted : Bool) :
    Answers setting (layers + 1) length (.lookahead p wanted) :=
  answers_of_parts hskip hle (List.forall_mem_singleton.mpr h) nofun

end Layers

/-- A literal that is not empty consumes itself. -/
theorem consumes_literal (setting : Setting) (layers : Nat) (frame : Frame) {text : String}
    (htext : text ≠ "") :
    Consumes (matchPattern setting layers frame) (.ofLiteral text) := by
  intro s tree s' h
  cases layers with
  | zero => cases h
  | succ layers =>
      generalize ho : (⟨some tree, s'⟩ : Outcome) = o at h
      have hrun : LayerRun (matchPattern setting layers) setting frame (.ofLiteral text) s o :=
        matchOnce_eq_some_iff.mp h
      cases hrun with
      | unpaid => cases ho
      | @tried charged ready inner hc hready hbody =>
          cases hbody with
          | terminal t =>
              have hless := (SkipRun.along State.Onward.isCourse
                (matchPattern_along State.Onward.isCourse setting layers) hready).cursor.length_le
              rw [State.cursor_of_charge hc] at hless
              cases hstop : (Terminal.literal text).matchEnd? setting.beyond ready.cursor with
              | none =>
                  rw [matchTerminal_of_missed hstop] at ho
                  cases ho
              | some stop =>
                  rw [matchTerminal_of_matched hstop] at ho
                  cases ho
                  have hpasses := (Cursor.after?_eq_some_iff.mp hstop).length
                  have hpos : 0 < text.toList.length := by
                    rw [List.length_pos_iff, ne_eq, String.toList_eq_nil_iff]
                    exact htext
                  show stop.ahead.length < s.cursor.ahead.length
                  omega

/-- Behind a literal at its beginning the parts of a sequence have less ahead. -/
theorem answers_sequence_behind {setting : Setting} {skip layers length : Nat}
    (hskip : SkipsWithin setting skip) (hle : skip + 1 ≤ layers) {keep : Bool} {text : String}
    (htext : text ≠ "") {steps : List Step}
    (h : ∀ step ∈ steps, ∀ length' < length, Answers setting layers length' step.pattern) :
    Answers setting (layers + 1) length (.sequence (⟨keep, .ofLiteral text⟩ :: steps)) := by
  refine answers_of_body hskip (Nat.le_of_succ_le hle) fun n hn frame s hs => ?_
  have hliteral : Answers setting layers length (.ofLiteral text) :=
    (answers_terminal hskip (Nat.le_refl skip) _).mono hle (Nat.le_refl length)
  obtain ⟨o, hrun⟩ := steps_answer_behind
    (matchPattern_along State.Proceeds.isCourse setting n frame) ⟨keep, .ofLiteral text⟩
    (hliteral n hn frame)
    (consumes_literal setting n frame htext)
    (fun step hstep length' hless => h step hstep length' hless n hn frame) s.cursor.offset [] hs
  exact ⟨o, .sequence hrun⟩

end OperatorPeg
