import OperatorPeg.Proofs.Limits.Loops

/-!
# Layers under a limit

One layer of the matcher pays for its attempt, skips trivia and matches its pattern. So
with the limit it fares as without, given that the layers inside it do; and so do all
layers.
-/

namespace OperatorPeg

/-! ## Layers -/

/-- Nothing is matched in any frame once the parse has ended. -/
def Matcher.Halts (m : Matcher) : Prop := ∀ frame, OperatorPeg.Halts (m frame)

theorem aborted_matchTerminal (setting : Setting) (frame : Frame) (x : Terminal) (t : State) :
    (matchTerminal setting frame x t).state.aborted = t.aborted := by
  cases h : x.matchEnd? setting.beyond t.cursor with
  | none =>
      rw [matchTerminal_of_missed h, State.aborted_missToken, State.aborted_tried]
  | some stop => rw [matchTerminal_of_matched h, State.aborted_tried]

section AfterTheEnd

variable {m : Matcher} (hm : m.Halts) {setting : Setting} {frame : Frame} {t : State}
  (ha : t.isAborted = true)

include hm ha

theorem SkipRun.halts : SkipRun m setting frame t t := by
  cases hi : frame.inTrivia with
  | true => exact .inside hi
  | false =>
      cases ht : setting.rules.trivia? with
      | none => exact .absent hi ht
      | some trivia => exact .skipped hi ht (hm _ _ _ ha)

/-- A pattern may still match once the parse has ended, but the parse stays ended. -/
theorem BodyRun.halts (p : Pattern) :
    ∃ o, BodyRun m setting frame t p o ∧ o.state.aborted = t.aborted := by
  obtain ⟨ended, hended⟩ := Option.isSome_iff_exists.mp ha
  cases p with
  | terminal x => exact ⟨_, .terminal x, aborted_matchTerminal setting frame x t⟩
  | sequence steps =>
      obtain ⟨o, hrun, rfl⟩ := StepsRun.halts (hm frame) t.cursor.offset [] steps ha
      exact ⟨o, .sequence hrun, rfl⟩
  | choice alternatives =>
      obtain ⟨o, hrun, rfl⟩ := AlternativesRun.halts (hm frame) t.cursor.offset 0 alternatives ha
      exact ⟨o, .choice hrun, rfl⟩
  | quantifier inner least most =>
      obtain ⟨r, hrun, rfl⟩ := RoundsRun.halts (hm frame) inner most ha
      exact ⟨_, .quantifier hrun, by rw [Rounds.state_outcome]⟩
  | lookup key =>
      cases hg : setting.rules.get? key with
      | none =>
          refine ⟨_, .undefinedRule hg, ?_⟩
          rw [State.aborted_abort, hended, Option.getD_some]
      | some p =>
          cases hd : setting.depthLimit.any (· ≤ frame.depth) with
          | true =>
              refine ⟨_, .tooDeep hg hd, ?_⟩
              rw [State.aborted_abort, hended, Option.getD_some]
          | false => exact ⟨_, .lookup hg hd (hm _ _ _ ha), rfl⟩
  | label name inner => exact ⟨_, .label (hm _ _ _ ha), rfl⟩
  | lookahead inner wanted => exact ⟨_, .lookahead (hm _ _ _ ha), rfl⟩
  | table operators =>
      have hrun := OperatorsRun.halts (hm { frame with probe := none }) true operators ha
      exact ⟨⟨none, t⟩, .table (ClimbRun.aborted ⟨none, rfl, hrun⟩ ha), rfl⟩

end AfterTheEnd

/-- Nothing is attempted once the parse has ended. -/
theorem layerLog_attempts_of_aborted {m : Matcher} {a : Log Nat} {setting : Setting}
    {situation : Situation} {frame : Frame} {p : Pattern} {s : State}
    (hend : s.isAborted = true) :
    layerLog Moment.attempts m a setting situation frame p s = [] := by
  simp only [layerLog, Moment.attempts, State.charge, hend, if_true, List.append_nil]

/-- With the limit the matcher `m'` fares as `m` does without it. -/
structure Limit.Paired (l : Limit) (m m' : Matcher) (a : Log Nat) : Prop where
  tied : ∀ situation frame, l.Admits frame.depth →
    l.Tied m'.Halts (m frame) (m' frame) (a situation frame)
  /-- Once the parse has ended nothing is matched without the limit either. -/
  quits : ∀ ⦃frame p s o⦄, m frame p s = some o → s.isAborted = true → o = ⟨none, s⟩
  silent : ∀ ⦃situation frame p s⦄, s.isAborted = true → a situation frame p s = []
  /-- The first attempt is the one of the pattern itself. -/
  opens : ∀ ⦃situation frame p s o⦄, m frame p s = some o → s.isAborted = false →
    ∃ rest, a situation frame p s = frame.depth :: rest
  halts : ∀ ⦃frame p s o⦄, m frame p s = some o → m'.Halts
  onward : ∀ frame p, RunsAlong State.Onward (m frame p)
  onward' : ∀ frame p, RunsAlong State.Onward (m' frame p)

section Layer

variable {l : Limit} {m m' : Matcher} {a : Log Nat} (hm : l.Paired m m' a)
  {setting setting' : Setting} (hset : l.Settings setting setting') {frame : Frame}
  (hframe : l.Admits frame.depth)

include hm hset hframe

theorem SkipRun.fares (situation : Situation) {left : Nat} {s s' t : State}
    (h : SkipRun m setting frame s s') (hst : l.InStep left s t) :
    ∃ t', SkipRun m' setting' frame t t' ∧
      l.Fares m'.Halts left (skipLog a setting situation frame s) () s' () t' := by
  have htrivia : setting'.rules.trivia? = setting.rules.trivia? := by rw [hset.rules]
  cases h with
  | inside hi =>
      simp only [skipLog, hi, if_true]
      exact ⟨t, .inside hi, .unchanged hst⟩
  | absent hi ht =>
      simp only [skipLog, hi, ht, Bool.false_eq_true, if_false]
      exact ⟨t, .absent hi (htrivia.trans ht), .unchanged hst⟩
  | skipped hi ht ho =>
      obtain ⟨tree?, t', ho', hfares⟩ :=
        (hm.tied situation { frame with inTrivia := true, quiet := true } hframe).agrees hst ho
      simp only [skipLog, hi, ht, Bool.false_eq_true, if_false]
      refine ⟨t', .skipped hi (htrivia.trans ht) ho', ?_⟩
      rcases hfares.same_or_ended with ⟨left', ha, hs, -⟩ | ⟨hh, ha, hended⟩
      · exact .afforded ha hs
      · exact .cut hh ha hended

theorem climbs (operators : List Operator) :
    l.Climbs m'.Halts
      ⟨m, peekPastTrivia m setting frame, { frame with probe := none }, operators⟩
      ⟨m', peekPastTrivia m' setting' frame, { frame with probe := none }, operators⟩ a
      (skipLog a setting .within frame) where
  tied := fun probe => hm.tied (.trying probe) { frame with probe } hframe
  peek := by
    intro left s t offset s' hst h
    obtain ⟨after, hskip, heq⟩ := Option.map_eq_some_iff.mp h
    cases heq
    obtain ⟨after', hskip', hfares⟩ :=
      SkipRun.fares hm hset hframe .within (skipTrivia_eq_some_iff.mp hskip) hst
    refine ⟨after'.cursor.offset, { after' with cursor := t.cursor }, ?_, ?_⟩
    · show (skipTrivia m' setting' frame t).map _ = _
      rw [skipTrivia_eq_some_iff.mpr hskip']
      rfl
    · rcases hfares.same_or_ended with ⟨left', ha, hs, -⟩ | ⟨hh, ha, hended⟩
      · rw [hs.cursor, hst.cursor]
        exact .afforded ha (hs.move _)
      · exact .cut hh ha hended
  operators := rfl
  frame := rfl

omit hm hframe in
theorem matchTerminal_fares (x : Terminal) {left : Nat} {s t : State}
    (hst : l.InStep left s t) :
    l.Fares m'.Halts left [] (matchTerminal setting frame x s).tree?
      (matchTerminal setting frame x s).state (matchTerminal setting' frame x t).tree?
      (matchTerminal setting' frame x t).state := by
  have hend : x.matchEnd? setting'.beyond t.cursor = x.matchEnd? setting.beyond s.cursor := by
    rw [hset.beyond, hst.cursor]
  cases h : x.matchEnd? setting.beyond s.cursor with
  | none =>
      rw [matchTerminal_of_missed h, matchTerminal_of_missed (hend.trans h), hst.cursor]
      exact .unchanged ((hst.tried frame x none).fail _ _)
  | some stop =>
      have htext : s.textUpTo stop = t.textUpTo stop := by
        simp only [State.textUpTo, hst.cursor]
      rw [matchTerminal_of_matched h, matchTerminal_of_matched (hend.trans h), hst.cursor, htext]
      exact .unchanged ((hst.tried frame x _).move stop)

/-- Rules are where a limit on depth is felt: the first attempt in a rule that is nested
too deep is the one that is not afforded. -/
theorem lookup_fares (situation : Situation) {key : String} {left : Nat} {s t : State} {o : Outcome}
    (h : BodyRun m setting frame s (.lookup key) o) (hst : l.InStep left s t) :
    ∃ o', BodyRun m' setting' frame t (.lookup key) o' ∧
      l.Fares m'.Halts left (lookupLog Moment.attempts a setting situation frame key s)
        o.tree? o.state o'.tree? o'.state := by
  have hget : setting'.rules.get? key = setting.rules.get? key := by rw [hset.rules]
  cases h with
  | undefinedRule hg =>
      refine ⟨_, .undefinedRule (hget.trans hg), ?_⟩
      simp only [lookupLog, hg, Moment.attempts]
      rw [hst.cursor]
      exact .unchanged (hst.abort _ _)
  | tooDeep hg hd =>
      refine ⟨_, .tooDeep (hget.trans hg) (hset.any_of_any hd), ?_⟩
      simp only [lookupLog, hg, hd, if_true, Moment.attempts]
      rw [hst.cursor]
      exact .unchanged (hst.abort _ _)
  | lookup hg hd hrun =>
      simp only [lookupLog, hg, hd, Bool.false_eq_true, if_false]
      rcases hset.admits_or_reached hd with ⟨hd', hadmits⟩ | ⟨hd', most, rfl, hmost⟩
      · obtain ⟨tree?, t', hrun', hfares⟩ :=
          (hm.tied situation { frame with depth := frame.depth + 1 } hadmits).agrees
            (hst.add (.entered key s.cursor.offset)) hrun
        rw [hst.cursor] at hrun'
        refine ⟨_, .lookup (hget.trans hg) hd' hrun', ?_⟩
        rcases hfares.same_or_ended with ⟨left', ha, hs, rfl⟩ | ⟨hh, ha, hended⟩
        · rw [hst.cursor] at ha ⊢
          rw [hs.cursor]
          exact .afforded ha (hs.add _)
        · exact .cut hh ha hended
      · refine ⟨_, .tooDeep (hget.trans hg) hd', ?_⟩
        cases hend : s.isAborted with
        | true =>
            -- the rule is entered in vain, which changes nothing but the events
            obtain rfl := hm.quits hrun hend
            rw [hm.silent (s := s.add (.entered key s.cursor.offset)) hend]
            obtain ⟨ended, hended⟩ := Option.isSome_iff_exists.mp hend
            refine .unchanged ⟨?_, ?_, ?_, ?_⟩
            · simpa using hst.cursor
            · rw [State.aborted_abort, ← hst.aborted, hended]
              exact hended
            · intro hnone
              rw [State.aborted_add, State.aborted_add, hended] at hnone
              cases hnone
            · simpa using hst.fuels
        | false =>
            obtain ⟨rest, hrest⟩ := hm.opens hrun hend
            rw [hrest]
            refine .cut (hm.halts hrun) ?_ ⟨t.cursor.offset, ?_⟩
            · have : ¬ frame.depth + 1 ≤ most := by omega
              simp [Limit.spend, Limit.pay, this]
            · rw [hst.isAborted, State.isAborted_eq_false_iff] at hend
              rw [State.aborted_abort, hend]
              rfl

theorem BodyRun.fares (situation : Situation) {p : Pattern} {left : Nat} {s t : State} {o : Outcome}
    (h : BodyRun m setting frame s p o) (hst : l.InStep left s t) :
    ∃ o', BodyRun m' setting' frame t p o' ∧
      l.Fares m'.Halts left (bodyLog Moment.attempts m a setting situation frame p s)
        o.tree? o.state o'.tree? o'.state := by
  have htied := hm.tied situation frame hframe
  cases p with
  | terminal x =>
      cases h
      exact ⟨_, .terminal x, matchTerminal_fares hset x hst⟩
  | sequence steps =>
      cases h with
      | sequence hrun =>
          obtain ⟨o', hrun', ho⟩ := hrun.fares htied hst
          exact ⟨o', .sequence (hst.cursor ▸ hrun'), ho⟩
  | choice alternatives =>
      cases h with
      | choice hrun =>
          obtain ⟨o', hrun', ho⟩ := hrun.fares htied hst
          exact ⟨o', .choice (hst.cursor ▸ hrun'), ho⟩
  | quantifier inner least most =>
      cases h with
      | quantifier hrun =>
          obtain ⟨r', hrun', hr⟩ :=
            hrun.fares htied (fun _ => rfl) (hm.onward frame) (hm.onward' frame) hst
          refine ⟨_, .quantifier hrun', ?_⟩
          rw [Rounds.state_outcome, Rounds.state_outcome, hst.cursor]
          exact Rounds.outcome_fares hr
  | lookup key => exact lookup_fares hm hset hframe situation h hst
  | label name inner =>
      cases h with
      | label hrun =>
          obtain ⟨tree?, t', hrun', hfares⟩ := htied.agrees hst hrun
          refine ⟨_, .label hrun', ?_⟩
          rcases hfares.same_or_ended with ⟨left', ha, hs, rfl⟩ | ⟨hh, ha, hended⟩
          · rw [hst.cursor]
            exact .afforded ha hs
          · exact .cut hh ha hended
  | lookahead inner wanted =>
      cases h with
      | lookahead hrun =>
          obtain ⟨tree?, t', hrun', hfares⟩ :=
            (hm.tied situation { frame with quiet := true } hframe).agrees hst hrun
          refine ⟨_, .lookahead hrun', ?_⟩
          rcases hfares.same_or_ended with ⟨left', ha, hs, rfl⟩ | ⟨hh, ha, hended⟩
          · rw [hst.cursor, hs.isAborted]
            exact .afforded ha (hs.move _)
          · exact .cut hh ha hended
  | table operators =>
      cases h with
      | table hrun =>
          obtain ⟨ms', o', hrun', ho⟩ :=
            ClimbRun.fares (climbs hm hset hframe operators) hrun hst
          rw [hst.cursor] at hrun'
          exact ⟨o', .table hrun', ho⟩

omit hm hset in
/-- What paying for a pattern comes to. -/
theorem charge_fares {left : Nat} {s t s' : State} {paid : Bool} (hst : l.InStep left s t)
    (hend : s.isAborted = false) (h : s.charge = (paid, s')) :
    ∃ paid' t', t.charge = (paid', t') ∧
      ((∃ left', l.pay left frame.depth = some left' ∧ l.InStep left' s' t' ∧ paid = paid') ∨
        (l.pay left frame.depth = none ∧ l.Ended t' ∧ paid' = false)) := by
  have hend' : t.isAborted = false := hst.isAborted ▸ hend
  have hfuels := hst.fuels
  cases l with
  | fuel =>
      obtain ⟨hfree, hlimited⟩ := hfuels
      rw [State.charge_of_unlimited hfree, hend] at h
      cases h
      cases left with
      | zero =>
          refine ⟨false, t.abort t.cursor.offset .fuelExhausted, ?_,
            .inr ⟨rfl, ⟨t.cursor.offset, ?_⟩, rfl⟩⟩
          · simp [State.charge, hend', hlimited]
          · rw [State.isAborted_eq_false_iff] at hend'
            rw [State.aborted_abort, hend']
            rfl
      | succ left =>
          refine ⟨true, { t with fuel := some left }, ?_, .inl ⟨left, rfl, ?_, rfl⟩⟩
          · simp [State.charge, hend', hlimited]
          · exact ⟨hst.cursor, hst.aborted, hst.events, hfree, rfl⟩
  | depth most =>
      have hpay : (Limit.depth most).pay left frame.depth = some left := if_pos hframe
      simp only [State.charge, hend, Bool.false_eq_true, if_false] at h
      simp only [State.charge, hend', Bool.false_eq_true, if_false]
      have hfuels : s.fuel = t.fuel := hfuels
      rw [← hfuels]
      cases hs : s.fuel with
      | none =>
          simp only [hs] at h
          cases h
          exact ⟨true, t, rfl, .inl ⟨left, hpay, hst, rfl⟩⟩
      | some n =>
          cases n with
          | zero =>
              simp only [hs] at h
              cases h
              exact ⟨false, _, rfl, .inl ⟨left, hpay, hst.cursor ▸ hst.abort _ _, rfl⟩⟩
          | succ n =>
              simp only [hs] at h
              cases h
              exact ⟨true, _, rfl, .inl ⟨left, hpay,
                ⟨hst.cursor, hst.aborted, hst.events, rfl⟩, rfl⟩⟩

omit hm hset hframe in
theorem settle_fares {halts : Prop} {left : Nat} {attempts : List Nat} (p : Pattern)
    (start : Cursor) {o o' : Outcome}
    (h : l.Fares halts left attempts o.tree? o.state o'.tree? o'.state) :
    l.Fares halts left attempts (o.settle p start).tree? (o.settle p start).state
      (o'.settle p start).tree? (o'.settle p start).state := by
  rcases o with ⟨tree?, s⟩
  rcases o' with ⟨tree?', t⟩
  rcases h.same_or_ended with ⟨left', ha, hs, rfl⟩ | ⟨hh, ha, hended⟩
  · simp only [Outcome.settle]
    split
    · exact .afforded ha (hs.move start)
    · exact .afforded ha hs
  · refine .cut hh ha (hended.of_aborted ?_)
    simp only [Outcome.settle]
    split <;> rfl

theorem LayerRun.fares (situation : Situation) {halts : Prop} (hh : halts) {p : Pattern}
    {left : Nat} {s t : State} {o : Outcome} (h : LayerRun m setting frame p s o)
    (hst : l.InStep left s t) :
    ∃ o', LayerRun m' setting' frame p t o' ∧
      l.Fares halts left (layerLog Moment.attempts m a setting situation frame p s)
        o.tree? o.state o'.tree? o'.state := by
  cases hend : s.isAborted with
  | true =>
      have hunpaid : ∀ {u : State}, u.isAborted = true → u.charge = (false, u) := fun hu => by
        simp [State.charge, hu]
      rw [layerLog_attempts_of_aborted hend]
      cases h with
      | unpaid hc =>
          rw [hunpaid hend] at hc
          cases hc
          exact ⟨⟨none, t⟩, .unpaid (hunpaid (hst.isAborted ▸ hend)), .unchanged hst⟩
      | tried hc =>
          rw [hunpaid hend] at hc
          cases hc
  | false =>
      -- the attempt of the pattern itself comes before what is inside
      have hself : ∀ {r}, l.pay left frame.depth = r → l.spend left [frame.depth] = r :=
        fun h => (l.spend_singleton ..).trans h
      simp only [layerLog, Moment.attempts, hend, Bool.false_eq_true, if_false]
      cases h with
      | unpaid hc =>
          obtain ⟨paid', t', hc', ⟨left', ha, hs, rfl⟩ | ⟨ha, hended, rfl⟩⟩ :=
            charge_fares hframe hst hend hc
          · simp only [hc, List.append_nil]
            exact ⟨⟨none, t'⟩, .unpaid hc', .afforded (hself ha) hs⟩
          · simp only [hc, List.append_nil]
            exact ⟨⟨none, t'⟩, .unpaid hc', .cut hh (hself ha) hended⟩
      | @tried _ _ o hc hskip hbody =>
          simp only [hc, skipTrivia_eq_some_iff.mpr hskip, matchBody_eq_some_iff.mpr hbody,
            List.nil_append, List.append_nil]
          obtain ⟨paid', t', hc', ⟨left', ha, hs, rfl⟩ | ⟨ha, hended, rfl⟩⟩ :=
            charge_fares hframe hst hend hc
          · rw [hst.cursor]
            obtain ⟨ready', hskip', hfares⟩ := hskip.fares hm hset hframe situation hs
            rcases hfares.same_or_ended with ⟨left'', ha', hs', -⟩ | ⟨hhalts, ha', hended⟩
            · obtain ⟨o', hbody', ho⟩ := hbody.fares hm hset hframe situation hs'
              exact ⟨_, .tried hc' hskip' hbody',
                settle_fares p _ (((ho.halts_of hh).after ha').after (hself ha))⟩
            · obtain ⟨o', hbody', ho⟩ := BodyRun.halts hhalts hended.isAborted p
              exact ⟨_, .tried hc' hskip' hbody', settle_fares p _
                (.after (hself ha) (.cut_append hh ha' (hended.of_aborted ho)))⟩
          · exact ⟨⟨none, t'⟩, .unpaid hc', .cut_append hh (hself ha) hended⟩

end Layer

/-! ## All layers -/

theorem matchPattern_of_aborted {setting : Setting} {layers : Nat} {frame : Frame} {p : Pattern}
    {s : State} {o : Outcome} (h : matchPattern setting layers frame p s = some o)
    (hend : s.isAborted = true) : o = ⟨none, s⟩ := by
  cases layers with
  | zero => cases h
  | succ layers =>
      simp only [matchPattern, matchOnce, State.charge, hend, if_true, Option.some.injEq] at h
      exact h.symm

theorem matchPattern_halts (setting : Setting) (layers : Nat) :
    (matchPattern setting (layers + 1)).Halts := by
  intro frame p t hend
  simp only [matchPattern, matchOnce, State.charge, hend, if_true]

/-- **A limit only cuts matching short**: with at least as many layers the limited matcher
fares as the free one does. -/
theorem matchPattern_paired {l : Limit} {setting setting' : Setting}
    (hset : l.Settings setting setting') {layers layers' : Nat} (hle : layers ≤ layers') :
    l.Paired (matchPattern setting layers) (matchPattern setting' layers')
      (logOf Moment.attempts setting layers) := by
  have honward : ∀ setting layers frame p,
      RunsAlong State.Onward (matchPattern setting layers frame p) := fun _ _ _ _ =>
    matchPattern_along State.Onward.isCourse _ _ _ _
  induction layers generalizing layers' with
  | zero =>
      have hnone : ∀ frame p s, matchPattern setting 0 frame p s = none := fun _ _ _ => rfl
      exact {
        tied := fun _ frame _ => ⟨fun _ _ _ _ _ _ h => by simp [hnone] at h, fun h => h frame⟩
        quits := fun _ _ _ _ h => by simp [hnone] at h
        silent := fun _ _ _ _ _ => rfl
        opens := fun _ _ _ _ _ h => by simp [hnone] at h
        halts := fun _ _ _ _ h => by simp [hnone] at h
        onward := honward _ _
        onward' := honward _ _ }
  | succ layers ih =>
      obtain ⟨layers', rfl⟩ : ∃ n, layers' = n + 1 := ⟨layers' - 1, by omega⟩
      have hhalts := matchPattern_halts setting' layers'
      refine {
        tied := fun situation frame hframe => ⟨?_, fun h => h frame⟩
        quits := fun _ _ _ _ => matchPattern_of_aborted
        silent := fun _ _ _ _ => layerLog_attempts_of_aborted
        opens := fun situation frame p s o _ hend => ?_
        halts := fun _ _ _ _ _ => hhalts
        onward := honward _ _
        onward' := honward _ _ }
      · intro p left s t o hst h
        obtain ⟨⟨tree?, t'⟩, hrun, hfares⟩ :=
          (matchOnce_eq_some_iff.mp h).fares (ih (Nat.le_of_succ_le_succ hle)) hset hframe
            situation hhalts hst
        exact ⟨tree?, t', matchOnce_eq_some_iff.mpr hrun, hfares⟩
      · simp only [logOf, layerLog, Moment.attempts, hend, Bool.false_eq_true, if_false]
        exact ⟨_, rfl⟩

end OperatorPeg
