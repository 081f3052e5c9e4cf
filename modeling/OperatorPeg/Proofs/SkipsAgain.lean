import OperatorPeg.Proofs.EnoughLayers
import OperatorPeg.Proofs.Unlimited

/-!
# Trivia that is skipped again

A pattern is matched behind trivia, and so is what is inside it. Where trivia has been skipped it
is skipped again before the first thing inside, and if there is nothing, before the end of the
range is looked for. Such a second skip need not be like the first one: it may end the parse, or
come to nothing in any number of layers, although it does not move. Then a pattern that skips
again does the same.

A terminal does not skip again, nor does a reference to a rule that is not there.
-/

namespace OperatorPeg

/-! ## One skip -/

section

variable {rules : Rules} {beyond : List Char} {layers : Nat} {frame : Frame} {c : Cursor}

/-- Skipping trivia from the cursor, without limits and without a past. -/
def skipFrom (layers : Nat) (rules : Rules) (beyond : List Char) (c : Cursor) : Option State :=
  skipTrivia (matchPattern ⟨rules, beyond, none⟩ layers) ⟨rules, beyond, none⟩ .outermost
    (.start c none)

theorem SkipRun.mono {setting : Setting} {layers layers' : Nat} {frame : Frame} {s s' : State}
    (h : SkipRun (matchPattern setting layers) setting frame s s') (hle : layers ≤ layers') :
    SkipRun (matchPattern setting layers') setting frame s s' := by
  have hfollows : ∀ frame p, FollowsIn (matchPattern setting layers frame p)
      (matchPattern setting layers' frame p) .everywhere :=
    fun _ _ _ _ _ ho => matchPattern_mono hle ho
  exact h.follow (fun _ _ _ => hfollows _ _) trivial

theorem skipFrom_mono {layers' : Nat} (hle : layers ≤ layers') {s : State}
    (h : skipFrom layers rules beyond c = some s) : skipFrom layers' rules beyond c = some s :=
  skipTrivia_eq_some_iff.mpr ((skipTrivia_eq_some_iff.mp h).mono hle)

theorem skipFrom_unique {layers' : Nat} {s s' : State}
    (h : skipFrom layers rules beyond c = some s)
    (h' : skipFrom layers' rules beyond c = some s') : s = s' := by
  have hmost := skipFrom_mono (Nat.le_max_left layers layers') h
  have hmost' := skipFrom_mono (Nat.le_max_right layers layers') h'
  exact Option.some.inj (hmost.symm.trans hmost')

/-- Trivia ends where a skip ends that does not end the parse. -/
theorem pastTrivia_iff {d : Cursor} :
    PastTrivia rules beyond false c d ↔
      ∃ layers s, skipFrom layers rules beyond c = some s ∧ s.aborted = none ∧ s.cursor = d := by
  simp only [skipFrom, skipTrivia_eq_some_iff]
  rfl

/-- A skip that comes to something comes to where trivia ends, if there is such a place. -/
theorem PastTrivia.of_skipFrom {d : Cursor} {s : State} (h : PastTrivia rules beyond false c d)
    (hskip : skipFrom layers rules beyond c = some s) : s.aborted = none ∧ s.cursor = d := by
  obtain ⟨layers', s', hskip', hrunning, rfl⟩ := pastTrivia_iff.mp h
  obtain rfl := skipFrom_unique hskip' hskip
  exact ⟨hrunning, rfl⟩

/-- What a skip comes to is what every skip from there comes to, -/
theorem skipRun_of_skipFrom {s t : State} (h : skipFrom layers rules beyond c = some s)
    (frame : Frame) (hout : frame.inTrivia = false) (ht : t.At c) :
    ∃ t', SkipRun (matchPattern ⟨rules, beyond, none⟩ layers) ⟨rules, beyond, none⟩ frame t t' ∧
      s.Alike t' := by
  have halike : (State.start c none).Alike t :=
    ⟨ht.cursor.symm, ht.running.symm, rfl, ht.unlimited⟩
  exact (skipTrivia_eq_some_iff.mp h).alike (matchPattern_ignoresHistory rfl layers) hout.symm
    halike

/-- and the other way round. -/
theorem skipFrom_of_skipRun {t t' : State} (hout : frame.inTrivia = false) (ht : t.At c)
    (h : SkipRun (matchPattern ⟨rules, beyond, none⟩ layers) ⟨rules, beyond, none⟩ frame t t') :
    ∃ s, skipFrom layers rules beyond c = some s ∧ t'.Alike s := by
  have halike : t.Alike (.start c none) := ⟨ht.cursor, ht.running, ht.unlimited, rfl⟩
  have houtermost : frame.inTrivia = Frame.outermost.inTrivia := hout
  obtain ⟨s, hs, hafter⟩ := h.alike (matchPattern_ignoresHistory rfl layers) houtermost halike
  exact ⟨s, skipTrivia_eq_some_iff.mpr hs, hafter⟩

/-- A match ends the parse if the trivia before it does, -/
theorem matchPattern_stops {s : State} {ended : Nat × Abort}
    (h : skipFrom (layers + 1) rules beyond c = some s) (hend : s.aborted = some ended)
    (frame : Frame) (hout : frame.inTrivia = false) (p : Pattern) {t : State} (ht : t.At c) :
    ∃ o, matchPattern ⟨rules, beyond, none⟩ (layers + 2) frame p t = some o ∧
      o.state.aborted = some ended := by
  obtain ⟨ready, hskip, halike⟩ := skipRun_of_skipFrom h frame hout ht
  have hready : ready.aborted = some ended := halike.aborted ▸ hend
  obtain ⟨o, hbody, ho⟩ : ∃ o, BodyRun (matchPattern ⟨rules, beyond, none⟩ (layers + 1))
      ⟨rules, beyond, none⟩ frame ready p o ∧ o.state.aborted = ready.aborted :=
    BodyRun.halts (matchPattern_halts _ layers) (Option.isSome_of_eq_some hready) p
  refine ⟨_, matchOnce_eq_some_iff.mpr (.tried ht.charge hskip hbody), ?_⟩
  rw [Outcome.aborted_settle, ho, hready]

/-- and there is no match without that skip. -/
theorem skipFrom_of_matchPattern (hout : frame.inTrivia = false) {p : Pattern} {t : State}
    {o : Outcome} (ht : t.At c) (h : matchPattern ⟨rules, beyond, none⟩ layers frame p t = some o) :
    ∃ before s, skipFrom before rules beyond c = some s := by
  cases layers with
  | zero => cases h
  | succ layers =>
      cases matchOnce_eq_some_iff.mp h with
      | unpaid hc =>
          rw [ht.charge] at hc
          cases hc
      | tried hc hskip _ =>
          rw [ht.charge] at hc
          cases hc
          obtain ⟨s, hs, -⟩ := skipFrom_of_skipRun hout ht hskip
          exact ⟨layers, s, hs⟩

end

/-! ## Patterns that skip again -/

/-- Where the pattern begins trivia is skipped again: before what is tried inside it, or behind
it, because it has matched nothing without trying anything. No construction makes a choice
without alternatives, or a repetition that asks for more rounds than it allows. -/
def Pattern.skipsAgain (rules : Rules) : Pattern → Bool
  | .terminal _ => false
  | .choice alternatives => !alternatives.isEmpty
  | .quantifier _ least most => least == 0 || most != some 0
  | .lookup key => rules.contains key
  | .sequence _ | .label _ _ | .lookahead _ _ | .table _ => true

theorem Pattern.skipsAgain_lookup {rules : Rules} {name : String} {p : Pattern}
    (h : rules.get? name = some p) : (Pattern.lookup name).skipsAgain rules = true :=
  Option.isSome_of_eq_some h

/-- The pattern has matched nothing, without trying anything. -/
structure Outcome.InPlace (o : Outcome) (p : Pattern) (s : State) : Prop where
  tree : o.tree?.isSome
  state : o.state = s
  seen : p.isLookahead = false

theorem Outcome.InPlace.settle {o : Outcome} {p : Pattern} {s : State} (h : o.InPlace p s)
    (c : Cursor) : o.settle p c = o := by
  have hmatched : o.tree?.isNone = false := by simpa using h.tree
  simp [Outcome.settle, hmatched, h.seen]

theorem Outcome.InPlace.at_leave {o : Outcome} {p : Pattern} {s : State} (h : o.InPlace p s)
    (start : Start) {c : Cursor} (hs : s.At c) : (start.leave o).state.At c := by
  rw [← h.state] at hs
  exact ⟨by rw [start.cursor_leave, hs.cursor], by rw [start.fuel_leave, hs.unlimited],
    by rw [start.aborted_leave, hs.running]⟩

theorem Outcome.InPlace.ne_none {o : Outcome} {p : Pattern} {s : State} (h : o.InPlace p s)
    (start : Start) : (start.leave o).tree? ≠ none := by
  rw [start.tree?_leave]
  exact Option.isSome_iff_ne_none.mp h.tree

theorem Outcome.InPlace.noRounds (inner : Pattern) {s : State} {c : Cursor} (hs : s.At c) :
    (Rounds.outcome 0 s.cursor.offset ⟨0, [], s⟩).InPlace (.quantifier inner 0 (some 0)) s := by
  have houtcome : Rounds.outcome 0 s.cursor.offset ⟨0, [], s⟩
      = ⟨some (.quantifier s.cursor.offset []), s⟩ := by simp [Rounds.outcome, hs.isAborted]
  rw [houtcome]
  exact ⟨rfl, rfl, rfl⟩

section Body

variable {m : Matcher} {setting : Setting} {frame : Frame} {c : Cursor}

section Stops

variable (hm : m.Halts) {ended : Nat × Abort}
  (htries : ∀ frame' p s, frame'.inTrivia = frame.inTrivia → s.At c →
    ∃ o, m frame' p s = some o ∧ o.state.aborted = some ended)

include hm htries

/-- The operators that begin an expression end the parse, unless there are none. -/
theorem OperatorsRun.stops (ops : List Operator) {s : State} (hs : s.At c) :
    (∃ found after, OperatorsRun (m { frame with probe := none }) true ops s (found, after) ∧
      after.aborted = some ended) ∨
    OperatorsRun (m { frame with probe := none }) true ops s (none, s) := by
  induction ops with
  | nil => exact .inr (.exhausted s)
  | cons op ops ih =>
      by_cases hk : op.fixity.takesLeft = true
      · rcases ih with ⟨found, after, hrun, hend⟩ | hrun
        · exact .inl ⟨found, after, .passed hk hrun, hend⟩
        · exact .inr (.passed hk hrun)
      · obtain ⟨⟨_, s'⟩, ho, hend⟩ := htries { frame with probe := none } op.pattern s rfl hs
        obtain ⟨found, hrun⟩ := OperatorsRun.cut (hm { frame with probe := none }) ops hk ho
          (Option.isSome_of_eq_some hend)
        exact .inl ⟨found, s', hrun, hend⟩

variable (honward : ∀ frame p, RunsAlong State.Onward (m frame p))
  (hskips : ∀ s, s.At c → ∃ s', SkipRun m setting frame s s' ∧ s'.aborted = some ended)
  (hdepth : setting.depthLimit = none)

include hskips

theorem ExpressionRun.stops (operators : List Operator) {s : State} (hs : s.At c) :
    ∃ found o, ExpressionRun ⟨m, peekPastTrivia m setting frame, frame, operators⟩ s found o ∧
      o.state.aborted = some ended := by
  rcases OperatorsRun.stops hm htries operators hs with ⟨found, after, hrun, hend⟩ | hrun
  · exact ⟨_, ⟨none, after⟩, .aborted ⟨none, rfl, hrun⟩ (Option.isSome_of_eq_some hend), hend⟩
  · -- nothing begins an expression, and what is missed is behind trivia
    obtain ⟨s', hskip, hend⟩ := hskips s hs
    let missed : State := { s' with cursor := s.cursor }
    have hpeek : peekPastTrivia m setting frame s = some (s'.cursor.offset, missed) := by
      rw [peekPastTrivia, skipTrivia_eq_some_iff.mpr hskip]
      rfl
    have hfinish : finishExpression ⟨m, peekPastTrivia m setting frame,
        { frame with probe := none }, operators⟩ [] none s
          = some ⟨none, missed.missTerm { frame with probe := none } s'.cursor.offset⟩ := by
      simp only [finishExpression, hpeek]
    refine ⟨_, _, .finished ⟨none, rfl, hrun⟩ hs.isAborted hfinish, ?_⟩
    simpa [missed] using hend

include honward hdepth

/-- If whatever is tried at the cursor ends the parse, and so does trivia there, then a pattern
that skips again ends it, unless it matches nothing. -/
theorem BodyRun.stops {p : Pattern} (hp : p.skipsAgain setting.rules = true) {s : State}
    (hs : s.At c) :
    ∃ o, BodyRun m setting frame s p o ∧ (o.state.aborted = some ended ∨ o.InPlace p s) := by
  have hisAborted {s : State} (h : s.aborted = some ended) : s.isAborted = true :=
    Option.isSome_of_eq_some h
  cases p with
  | terminal => cases hp
  | sequence steps =>
      cases steps with
      | nil => exact ⟨_, .sequence (.done [] s), .inr ⟨rfl, rfl, rfl⟩⟩
      | cons step steps =>
          obtain ⟨⟨_, s'⟩, ho, hend⟩ := htries frame step.pattern s rfl hs
          obtain ⟨o, hrun, rfl⟩ := StepsRun.cut (hm frame) s.cursor.offset [] steps ho
            (hisAborted hend)
          exact ⟨o, .sequence hrun, .inl hend⟩
  | choice alternatives =>
      cases alternatives with
      | nil => cases hp
      | cons p ps =>
          obtain ⟨⟨_, s'⟩, ho, hend⟩ := htries frame p s rfl hs
          obtain ⟨o, hrun, rfl⟩ := AlternativesRun.cut s.cursor.offset 0 ps ho (hisAborted hend)
          exact ⟨o, .choice hrun, .inl hend⟩
  | quantifier inner least most =>
      obtain ⟨⟨_, s'⟩, ho, hend⟩ := htries frame inner s rfl hs
      rcases most with _ | _ | n
      · obtain ⟨r, hrun, hr⟩ := WhileRun.cut (hm frame) 0 [] ho (honward _ _ _ _ ho)
          (Nat.le_refl _) (hisAborted hend)
        have hrounds : RoundsRun (m frame inner) none s r := hrun
        exact ⟨_, .quantifier hrounds, .inl (by rw [Rounds.state_outcome, hr, hend])⟩
      · obtain rfl : least = 0 := by simpa [Pattern.skipsAgain] using hp
        have hrounds : RoundsRun (m frame inner) (some 0) s ⟨0, [], s⟩ := .full _
        exact ⟨_, .quantifier hrounds, .inr (.noRounds inner hs)⟩
      · obtain ⟨r, hrun, hr⟩ := UpToRun.cut (hm frame) n 0 [] ho (hisAborted hend)
        have hrounds : RoundsRun (m frame inner) (some (n + 1)) s r := hrun
        exact ⟨_, .quantifier hrounds, .inl (by rw [Rounds.state_outcome, hr, hend])⟩
  | lookup key =>
      obtain ⟨q, hget⟩ := Option.isSome_iff_exists.mp hp
      obtain ⟨o, ho, hend⟩ := htries { frame with depth := frame.depth + 1 } q
        (s.add (.entered key s.cursor.offset)) rfl (hs.add _)
      exact ⟨_, .lookup hget (by simp [hdepth]) ho, .inl hend⟩
  | label _ inner =>
      obtain ⟨o, ho, hend⟩ := htries frame inner s rfl hs
      exact ⟨_, .label ho, .inl hend⟩
  | lookahead inner _ =>
      obtain ⟨o, ho, hend⟩ := htries { frame with quiet := true } inner s rfl hs
      exact ⟨_, .lookahead ho, .inl hend⟩
  | table operators =>
      obtain ⟨found, o, hrun, hend⟩ := ExpressionRun.stops hm htries hskips operators hs
      exact ⟨o, .table hrun, .inl hend⟩

end Stops

section Skips

variable {P : Prop}
  (htries : ∀ frame' p s o, frame'.inTrivia = frame.inTrivia → s.At c → m frame' p s = some o → P)
  (hskips : ∀ s s', s.At c → SkipRun m setting frame s s' → P)
  (hdepth : setting.depthLimit = none)

include htries

theorem OperatorsRun.skips {ops : List Operator} {s : State} (hs : s.At c)
    {r : Option (Operator × Tree) × State}
    (h : OperatorsRun (m { frame with probe := none }) true ops s r) : P ∨ r = (none, s) := by
  induction h with
  | exhausted => exact .inr rfl
  | passed _ _ ih => exact ih hs
  | matched _ ho | missed _ ho => exact .inl (htries { frame with probe := none } _ _ _ rfl hs ho)

omit htries in
/-- Where nothing begins an expression, an operand is missed behind trivia. -/
theorem exists_skip_of_finish {frame' : Frame} {operators : List Operator} {stack : List Pending}
    {s : State} {o : Outcome}
    (h : finishExpression ⟨m, peekPastTrivia m setting frame, frame', operators⟩ stack none s
      = some o) : ∃ s', SkipRun m setting frame s s' := by
  cases hskip : skipTrivia m setting frame s with
  | none => simp [finishExpression, peekPastTrivia, hskip] at h
  | some s' => exact ⟨s', skipTrivia_eq_some_iff.mp hskip⟩

include hskips in
theorem ExpressionRun.skips {operators : List Operator} {s : State} (hs : s.At c)
    {found : List (Operator × Tree)} {o : Outcome}
    (h : ExpressionRun ⟨m, peekPastTrivia m setting frame, frame, operators⟩ s found o) : P := by
  -- the first operator match of any round that goes on
  have hfirst {before after : State} {found : Option (Operator × Tree)}
      (hfinds : Climbing.Finds ⟨m, peekPastTrivia m setting frame, { frame with probe := none },
        operators⟩ none s before found after) : P ∨ found = none ∧ after = s := by
    obtain ⟨_, hprobe, hrun⟩ := hfinds
    cases hprobe
    exact (OperatorsRun.skips htries hs hrun).imp_right Prod.mk.inj
  cases h with
  | aborted hfinds hend =>
      rcases hfirst hfinds with hp | ⟨-, rfl⟩
      · exact hp
      · rw [hs.isAborted] at hend
        cases hend
  | finished hfinds _ hfinish =>
      rcases hfirst hfinds with hp | ⟨-, rfl⟩
      · exact hp
      · obtain ⟨s', hskip⟩ := exists_skip_of_finish hfinish
        exact hskips _ s' hs hskip
  | repeated hfinds | waits hfinds | completes hfinds =>
      rcases hfirst hfinds with hp | ⟨hnone, -⟩
      · exact hp
      · cases hnone

include hskips hdepth

/-- What is so if something is tried at the cursor, or trivia is skipped there, is so of a match
of a pattern that skips again, unless it matches nothing. -/
theorem BodyRun.skips {p : Pattern} (hp : p.skipsAgain setting.rules = true) {s : State}
    (hs : s.At c) {o : Outcome} (h : BodyRun m setting frame s p o) : P ∨ o.InPlace p s := by
  cases h with
  | terminal => cases hp
  | sequence hrun =>
      cases hrun with
      | done => exact .inr ⟨rfl, rfl, rfl⟩
      | missed ho | matched ho => exact .inl (htries _ _ _ _ rfl hs ho)
  | choice hrun =>
      cases hrun with
      | exhausted => cases hp
      | chosen ho | aborted ho | missed ho => exact .inl (htries _ _ _ _ rfl hs ho)
  | @quantifier inner least most r hrun =>
      rcases most with _ | _ | n
      · have hrun : WhileRun (m frame inner) s.cursor.ahead ⟨0, [], s⟩ r := hrun
        generalize s.cursor.ahead = budget at hrun
        cases hrun with
        | missed ho | stuck ho | matched ho => exact .inl (htries _ _ _ _ rfl hs ho)
      · obtain rfl : least = 0 := by simpa [Pattern.skipsAgain] using hp
        cases hrun
        exact .inr (.noRounds inner hs)
      · cases hrun with
        | missed ho | matched ho => exact .inl (htries _ _ _ _ rfl hs ho)
  | undefinedRule hget =>
      rw [Pattern.skipsAgain, Rules.contains, hget] at hp
      cases hp
  | tooDeep _ hdeep => simp [hdepth] at hdeep
  | lookup _ _ ho =>
      exact .inl (htries { frame with depth := frame.depth + 1 } _ _ _ rfl (hs.add _) ho)
  | label ho => exact .inl (htries _ _ _ _ rfl hs ho)
  | lookahead ho => exact .inl (htries { frame with quiet := true } _ _ _ rfl hs ho)
  | table hrun => exact .inl (ExpressionRun.skips htries hskips hs hrun)

end Skips

end Body

/-! ## Parses -/

/-- A parse without limits, if it matches in so many layers and concludes in so many. -/
def parsesIn (layers layers' : Nat) (rules : Rules) (start : Start) (p : Pattern)
    (window : Window) : Option Report :=
  ((matchPattern ⟨rules, window.beyond, none⟩ layers .outermost p
    (start.enter (.start window.start none))).map start.leave).bind
      (conclude (matchPattern ⟨rules, window.beyond, none⟩ layers') ⟨rules, window.beyond, none⟩)

theorem conclude_mono {setting : Setting} {layers layers' : Nat} (hle : layers ≤ layers')
    {o : Outcome} {report : Report}
    (h : conclude (matchPattern setting layers) setting o = some report) :
    conclude (matchPattern setting layers') setting o = some report := by
  refine conclude_eq_some_iff.mpr ?_
  cases conclude_eq_some_iff.mp h with
  | missed hnone => exact .missed hnone
  | reached htree hrun hend hahead => exact .reached htree (hrun.mono hle) hend hahead
  | short htree hrun hshort => exact .short htree (hrun.mono hle) hshort

/-- What ended the parse is reported: at the latest the trivia behind a match finds it. -/
theorem conclude_of_ended {m : Matcher} {setting : Setting} {o : Outcome} {offset : Nat}
    {cause : Abort} (hnone : o.tree? = none → o.state.aborted = some (offset, cause))
    (hsome : o.tree?.isSome → ∃ s, SkipRun m setting .outermost o.state s ∧
      s.aborted = some (offset, cause)) :
    (conclude m setting o).map (·.result) = some (.error (.aborted offset cause)) := by
  cases htree : o.tree? with
  | none => simp [conclude, htree, reject, reportedError, hnone htree]
  | some tree =>
      obtain ⟨s, hskip, hend⟩ := hsome (by simp [htree])
      simp [conclude, htree, skipTrivia_eq_some_iff.mpr hskip, State.isAborted, hend, reject,
        reportedError]

theorem conclude_of_aborted (setting : Setting) (layers : Nat) {o : Outcome} {offset : Nat}
    {cause : Abort} (hend : o.state.aborted = some (offset, cause)) :
    (conclude (matchPattern setting (layers + 1)) setting o).map (·.result)
      = some (.error (.aborted offset cause)) :=
  conclude_of_ended (fun _ => hend) fun _ =>
    ⟨_, SkipRun.halts (matchPattern_halts setting layers) (Option.isSome_of_eq_some hend), hend⟩

section

variable {rules : Rules} {start : Start} {p : Pattern} {window : Window} {layers most : Nat}

theorem parseWindow_eq_parsesIn (start : Start) (hp : start.pattern? rules = some p)
    (layers : Nat) (window : Window) :
    parseWindow layers rules .unlimited start window
      = parsesIn layers layers rules start p window := by
  rw [parseWindow_of_defined hp, parsesIn]
  simp only [Option.bind_map]
  rfl

theorem parsesIn_mono {layers' most' : Nat} (hle : layers ≤ layers') (hle' : most ≤ most')
    {report : Report} (h : parsesIn layers most rules start p window = some report) :
    parsesIn layers' most' rules start p window = some report := by
  obtain ⟨o, ho, hconclude⟩ := Option.bind_eq_some_iff.mp h
  obtain ⟨o', ho', rfl⟩ := Option.map_eq_some_iff.mp ho
  refine Option.bind_eq_some_iff.mpr ⟨_, ?_, conclude_mono hle' hconclude⟩
  rw [matchPattern_mono hle ho', Option.map_some]

theorem Start.at_enter (start : Start) (c : Cursor) : (start.enter (.start c none)).At c :=
  ⟨start.cursor_enter _, start.fuel_enter _, start.aborted_enter _⟩

/-- A parse skips trivia where it begins, matches its pattern and concludes. -/
theorem exists_run_of_parsesIn {report : Report}
    (h : parsesIn layers most rules start p window = some report) :
    ∃ before ready ready' o, skipFrom before rules window.beyond window.start = some ready ∧
      ready'.Alike ready ∧
      BodyRun (matchPattern ⟨rules, window.beyond, none⟩ before) ⟨rules, window.beyond, none⟩
        .outermost ready' p o ∧
      ConcludeRun (matchPattern ⟨rules, window.beyond, none⟩ most) ⟨rules, window.beyond, none⟩
        (start.leave (o.settle p window.start)) report := by
  have hstart := start.at_enter window.start
  obtain ⟨o, ho, hconclude⟩ := Option.bind_eq_some_iff.mp h
  obtain ⟨o', ho', rfl⟩ := Option.map_eq_some_iff.mp ho
  cases layers with
  | zero => cases ho'
  | succ layers =>
      cases matchOnce_eq_some_iff.mp ho' with
      | unpaid hc =>
          rw [hstart.charge] at hc
          cases hc
      | tried hc hskip hbody =>
          rw [hstart.charge] at hc
          cases hc
          obtain ⟨ready, hready, halike⟩ := skipFrom_of_skipRun rfl hstart hskip
          rw [hstart.cursor] at hconclude
          exact ⟨layers, ready, _, _, hready, halike, hbody, conclude_eq_some_iff.mp hconclude⟩

/-- A parse that the trivia before its start pattern ends reports this end. -/
theorem parsesIn_of_ended {ready : State} {offset : Nat} {cause : Abort}
    (hskip : skipFrom (layers + 1) rules window.beyond window.start = some ready)
    (hend : ready.aborted = some (offset, cause)) (most : Nat) (start : Start) (p : Pattern) :
    (parsesIn (layers + 2) (most + 1) rules start p window).map (·.result)
      = some (.error (.aborted offset cause)) := by
  obtain ⟨o, ho, hended⟩ :=
    matchPattern_stops hskip hend .outermost rfl p (start.at_enter window.start)
  have hleft : (start.leave o).state.aborted = some (offset, cause) := by
    rw [start.aborted_leave, hended]
  rw [parsesIn, ho, Option.map_some, Option.bind_some]
  exact conclude_of_aborted _ most hleft

variable (hp : p.skipsAgain rules = true) {before : Nat} {ready : State}
  (hskip : skipFrom before rules window.beyond window.start = some ready)
  (hready : ready.aborted = none)

include hp hskip hready

/-- **A parse from a pattern that skips again skips trivia twice.** -/
theorem exists_skipFrom_ready {report : Report}
    (h : parsesIn layers most rules start p window = some report) :
    ∃ behind again, skipFrom behind rules window.beyond ready.cursor = some again := by
  obtain ⟨before', ready', s, o, hskip', halike, hbody, hconclude⟩ := exists_run_of_parsesIn h
  obtain rfl := skipFrom_unique hskip' hskip
  have hat : s.At ready'.cursor :=
    ⟨halike.cursor, halike.unlimited, halike.aborted.trans hready⟩
  have hfirst : (∃ behind again, skipFrom behind rules window.beyond ready'.cursor = some again) ∨
      o.InPlace p s := by
    refine BodyRun.skips (fun _ _ _ _ hframe ht ho => skipFrom_of_matchPattern hframe ht ho)
      (fun _ _ ht hrun => ?_) rfl hp hat hbody
    obtain ⟨again, hagain, -⟩ := skipFrom_of_skipRun rfl ht hrun
    exact ⟨before', again, hagain⟩
  rcases hfirst with hagain | hplace
  · exact hagain
  · -- then trivia is skipped for the second time behind the match
    rw [hplace.settle] at hconclude
    have hleft := hplace.at_leave start hat
    cases hconclude with
    | missed hnone => exact absurd hnone (hplace.ne_none start)
    | reached _ hrun | short _ hrun =>
        obtain ⟨again, hagain, -⟩ := skipFrom_of_skipRun rfl hleft hrun
        exact ⟨most, again, hagain⟩

variable (start) in
/-- **A parse from a pattern that skips again ends with the second skip**, if that ends it. -/
theorem parsesIn_stops {behind : Nat} {again : State} {offset : Nat} {cause : Abort}
    (hagain : skipFrom behind rules window.beyond ready.cursor = some again)
    (hend : again.aborted = some (offset, cause)) (hbefore : before ≤ layers)
    (hbehind : behind + 2 ≤ layers) (hmost : layers ≤ most) :
    (parsesIn (layers + 1) most rules start p window).map (·.result)
      = some (.error (.aborted offset cause)) := by
  obtain ⟨layers, rfl⟩ := Nat.exists_eq_add_of_le' (Nat.le_of_add_left_le hbehind)
  have hstart := start.at_enter window.start
  obtain ⟨s, hrun, halike⟩ :=
    skipRun_of_skipFrom (skipFrom_mono hbefore hskip) .outermost rfl hstart
  have hat : s.At ready.cursor :=
    ⟨halike.cursor.symm, halike.unlimited', halike.aborted.symm.trans hready⟩
  have hagain' : skipFrom (layers + 1) rules window.beyond ready.cursor = some again :=
    skipFrom_mono (by omega) hagain
  obtain ⟨o, hbody, hout⟩ : ∃ o, BodyRun (matchPattern ⟨rules, window.beyond, none⟩ (layers + 2))
      ⟨rules, window.beyond, none⟩ .outermost s p o ∧
        (o.state.aborted = some (offset, cause) ∨ o.InPlace p s) := by
    refine BodyRun.stops (matchPattern_halts _ _)
      (fun frame q t hframe ht => matchPattern_stops hagain' hend frame hframe q ht)
      (matchPattern_along State.Onward.isCourse _ _) (fun t ht => ?_) rfl hp hat
    obtain ⟨t', hskips, hafter⟩ :=
      skipRun_of_skipFrom (skipFrom_mono (Nat.le_succ _) hagain') .outermost rfl ht
    exact ⟨t', hskips, hafter.aborted.symm.trans hend⟩
  have ho : matchPattern ⟨rules, window.beyond, none⟩ (layers + 3) .outermost p
      (start.enter (.start window.start none)) = some (o.settle p window.start) := by
    have hlayer := LayerRun.tried hstart.charge hrun hbody
    rw [hstart.cursor] at hlayer
    exact matchOnce_eq_some_iff.mpr hlayer
  rw [parsesIn, ho, Option.map_some, Option.bind_some]
  obtain ⟨most, rfl⟩ := Nat.exists_eq_add_of_le' (Nat.le_of_add_left_le hmost)
  rcases hout with hended | hplace
  · have hleft : (start.leave (o.settle p window.start)).state.aborted = some (offset, cause) := by
      rw [start.aborted_leave, Outcome.aborted_settle, hended]
    exact conclude_of_aborted _ _ hleft
  · rw [hplace.settle]
    have hleft := hplace.at_leave start hat
    refine conclude_of_ended (absurd · (hplace.ne_none start)) fun _ => ?_
    have hlast : skipFrom (most + 2) rules window.beyond ready.cursor = some again :=
      skipFrom_mono (by omega) hagain'
    obtain ⟨t', hskips, hafter⟩ := skipRun_of_skipFrom hlast .outermost rfl hleft
    exact ⟨t', hskips, hafter.aborted.symm.trans hend⟩

end

end OperatorPeg
