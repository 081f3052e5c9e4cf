import OperatorPeg.Proofs.Runs
import OperatorPeg.Proofs.States

/-!
# Matching does not depend on history

Events, the depth of rules, quiet mode and the probe offset are written and read
all over a parse. None of them reaches back into what is matched: two runs from
states with the same cursor and the same end of the parse, if it has ended, stay
alike step by step, whatever else they carry. Limits must be off, for they are
what makes a parse remember how much it has done.
-/

namespace OperatorPeg

/-- Two states from which matching goes on alike, without a limit on fuel. -/
structure State.Alike (s t : State) : Prop where
  cursor : s.cursor = t.cursor
  aborted : s.aborted = t.aborted
  unlimited : s.fuel = none
  unlimited' : t.fuel = none

/-- Two outcomes with the same tree, after which matching goes on alike. -/
structure Outcome.Alike (o o' : Outcome) : Prop where
  tree : o.tree? = o'.tree?
  state : o.state.Alike o'.state

/-- What `f` does from a state, `g` does from every state alike. -/
def Simulates (f g : State → Option Outcome) : Prop :=
  ∀ ⦃s t o⦄, s.Alike t → f s = some o → ∃ o', g t = some o' ∧ o.Alike o'

namespace State.Alike

variable {s t : State}

theorem symm (h : s.Alike t) : t.Alike s :=
  ⟨h.cursor.symm, h.aborted.symm, h.unlimited', h.unlimited⟩

theorem isAborted (h : s.Alike t) : s.isAborted = t.isAborted := by
  simp only [State.isAborted, h.aborted]

theorem add (h : s.Alike t) (e e' : Event) : (s.add e).Alike (t.add e') := ⟨h.1, h.2, h.3, h.4⟩

theorem move (h : s.Alike t) (c : Cursor) :
    ({ s with cursor := c } : State).Alike { t with cursor := c } := ⟨rfl, h.2, h.3, h.4⟩

theorem abort (h : s.Alike t) (o : Nat) (cause : Abort) :
    (s.abort o cause).Alike (t.abort o cause) where
  cursor := by simp [h.cursor]
  aborted := by simp [State.aborted_abort, h.aborted]
  unlimited := by simp [h.unlimited]
  unlimited' := by simp [h.unlimited']

theorem missToken (h : s.Alike t) (frame frame' : Frame) (o : Nat) (d : String) :
    (s.missToken frame o d).Alike (t.missToken frame' o d) where
  cursor := by simp [h.cursor]
  aborted := by simp [h.aborted]
  unlimited := by simp [h.unlimited]
  unlimited' := by simp [h.unlimited']

theorem missTerm (h : s.Alike t) (frame frame' : Frame) (o : Nat) :
    (s.missTerm frame o).Alike (t.missTerm frame' o) where
  cursor := by simp [h.cursor]
  aborted := by simp [h.aborted]
  unlimited := by simp [h.unlimited]
  unlimited' := by simp [h.unlimited']

end State.Alike

/-! ## Loops -/

theorem StepsRun.alike {f g : Pattern → State → Option Outcome}
    (hfg : ∀ p, Simulates (f p) (g p)) {offset : Nat} {kept : List Tree} {steps : List Step}
    {s t : State} {o : Outcome} (h : StepsRun f offset kept steps s o) (hst : s.Alike t) :
    ∃ o', StepsRun g offset kept steps t o' ∧ o.Alike o' := by
  induction h generalizing t with
  | done kept s => exact ⟨_, .done kept t, rfl, hst⟩
  | missed hf =>
      obtain ⟨⟨_, t'⟩, hg, rfl, hs⟩ := hfg _ hst hf
      exact ⟨_, .missed hg, rfl, hs⟩
  | matched hf _ ih =>
      obtain ⟨⟨_, t'⟩, hg, rfl, hs⟩ := hfg _ hst hf
      obtain ⟨o', hrun, ho⟩ := ih hs
      exact ⟨o', .matched hg hrun, ho⟩

theorem AlternativesRun.alike {f g : Pattern → State → Option Outcome}
    (hfg : ∀ p, Simulates (f p) (g p)) {offset index : Nat} {ps : List Pattern}
    {s t : State} {o : Outcome} (h : AlternativesRun f offset index ps s o) (hst : s.Alike t) :
    ∃ o', AlternativesRun g offset index ps t o' ∧ o.Alike o' := by
  induction h generalizing t with
  | exhausted index s => exact ⟨_, .exhausted index t, rfl, hst⟩
  | chosen hf =>
      obtain ⟨⟨_, t'⟩, hg, rfl, hs⟩ := hfg _ hst hf
      exact ⟨_, .chosen hg, rfl, hs⟩
  | aborted hf ha =>
      obtain ⟨⟨_, t'⟩, hg, rfl, hs⟩ := hfg _ hst hf
      exact ⟨_, .aborted hg (hs.isAborted ▸ ha), rfl, hs⟩
  | missed hf ha _ ih =>
      obtain ⟨⟨_, t'⟩, hg, rfl, hs⟩ := hfg _ hst hf
      obtain ⟨o', hrun, ho⟩ := ih (hs.add _ _)
      exact ⟨o', .missed hg (hs.isAborted ▸ ha) hrun, ho⟩

/-- Rounds with the same nodes, after which matching goes on alike. -/
structure Rounds.Alike (r r' : Rounds) : Prop where
  count : r.count = r'.count
  nodes : r.nodes = r'.nodes
  state : r.state.Alike r'.state

theorem UpToRun.alike {f g : State → Option Outcome} (hfg : Simulates f g) {n : Nat}
    {r r' q : Rounds} (h : UpToRun f n r r') (hrq : r.Alike q) :
    ∃ q', UpToRun g n q q' ∧ r'.Alike q' := by
  induction h generalizing q with
  | full r => exact ⟨q, .full q, hrq⟩
  | missed hf =>
      obtain ⟨⟨_, t⟩, hg, rfl, hs⟩ := hfg hrq.state hf
      exact ⟨_, .missed hg, hrq.count, hrq.nodes, hs⟩
  | @matched _ _ _ node _ hf _ ih =>
      obtain ⟨⟨_, t⟩, hg, rfl, hs⟩ := hfg hrq.state hf
      obtain ⟨q', hrun, hq⟩ := ih (q := ⟨q.count + 1, node :: q.nodes, t⟩)
        ⟨by simp only [hrq.count], by simp only [hrq.nodes], hs⟩
      exact ⟨q', .matched hg hrun, hq⟩

theorem WhileRun.alike {f g : State → Option Outcome} (hfg : Simulates f g)
    {budget : List Char} {r r' q : Rounds} (h : WhileRun f budget r r') (hrq : r.Alike q) :
    ∃ q', WhileRun g budget q q' ∧ r'.Alike q' := by
  induction h generalizing q with
  | missed hf =>
      obtain ⟨⟨_, t⟩, hg, rfl, hs⟩ := hfg hrq.state hf
      exact ⟨_, .missed hg, hrq.count, hrq.nodes, hs⟩
  | stuck hf hc =>
      obtain ⟨⟨_, t⟩, hg, rfl, hs⟩ := hfg hrq.state hf
      refine ⟨_, .stuck hg (by rw [← hs.cursor, hc, hrq.state.cursor]), hrq.count, hrq.nodes, ?_⟩
      rw [← hs.cursor]
      exact hs.abort _ _
  | @matched _ _ _ _ node _ hf hc _ ih =>
      obtain ⟨⟨_, t⟩, hg, rfl, hs⟩ := hfg hrq.state hf
      obtain ⟨q', hrun, hq⟩ := ih (q := ⟨q.count + 1, node :: q.nodes, t⟩)
        ⟨by simp only [hrq.count], by simp only [hrq.nodes], hs⟩
      exact ⟨q', .matched hg (by rwa [← hs.cursor, ← hrq.state.cursor]) hrun, hq⟩

theorem RoundsRun.alike {f g : State → Option Outcome} (hfg : Simulates f g)
    {most : Option Nat} {s t : State} {r : Rounds} (h : RoundsRun f most s r)
    (hst : s.Alike t) : ∃ q, RoundsRun g most t q ∧ r.Alike q := by
  have hstart : Rounds.Alike ⟨0, [], s⟩ ⟨0, [], t⟩ := ⟨rfl, rfl, hst⟩
  cases most with
  | some n => exact UpToRun.alike hfg h hstart
  | none =>
      simp only [RoundsRun, ← hst.cursor]
      exact WhileRun.alike hfg h hstart

theorem Rounds.Alike.outcome {r q : Rounds} (h : r.Alike q) (least offset : Nat) :
    (r.outcome least offset).Alike (q.outcome least offset) := by
  simp only [Rounds.outcome, h.count, h.nodes, h.state.isAborted]
  split
  · exact ⟨rfl, h.state⟩
  · exact ⟨rfl, h.state⟩

/-! ## Expressions -/

theorem OperatorsRun.alike {f g : Pattern → State → Option Outcome}
    (hfg : ∀ p, Simulates (f p) (g p)) {wantOperand : Bool} {ops : List Operator}
    {s s' t : State} {found : Option (Operator × Tree)}
    (h : OperatorsRun f wantOperand ops s (found, s')) (hst : s.Alike t) :
    ∃ t', OperatorsRun g wantOperand ops t (found, t') ∧ s'.Alike t' := by
  -- a variable for the result, so that the induction can vary it
  generalize hr : (found, s') = r at h
  induction h generalizing t with
  | exhausted s =>
      cases hr
      exact ⟨t, .exhausted t, hst⟩
  | passed hk _ ih =>
      obtain ⟨t', hrun, ht⟩ := ih hst hr
      exact ⟨t', .passed hk hrun, ht⟩
  | matched hk hf =>
      cases hr
      obtain ⟨⟨_, t'⟩, hg, rfl, hs⟩ := hfg _ hst hf
      exact ⟨t', .matched hk hg, hs⟩
  | missed hk hf _ ih =>
      obtain ⟨⟨_, t'⟩, hg, rfl, hs⟩ := hfg _ hst hf
      obtain ⟨t'', hrun, ht⟩ := ih hs hr
      exact ⟨t'', .missed hk hg hrun, ht⟩

/-- Two settings of a climbing loop that make it run alike. -/
structure Climbing.Alike (c d : Climbing) : Prop where
  matcher : ∀ probe p, Simulates (c.matcher { c.frame with probe } p)
    (d.matcher { d.frame with probe } p)
  peek : ∀ ⦃s t offset s'⦄, s.Alike t → c.peek s = some (offset, s') →
    ∃ t', d.peek t = some (offset, t') ∧ s'.Alike t'
  operators : c.operators = d.operators

theorem Climbing.Finds.alike {c d : Climbing} (hcd : c.Alike d) {operand : Option Tree}
    {s before after t : State} {found : Option (Operator × Tree)}
    (h : c.Finds operand s before found after) (hst : s.Alike t) :
    ∃ before' after', d.Finds operand t before' found after' ∧
      before.Alike before' ∧ after.Alike after' := by
  obtain ⟨probe, hprobe, hrun⟩ := h
  obtain ⟨before', hprobe', hbefore⟩ : ∃ before', d.probe operand t = some (probe, before') ∧
      before.Alike before' := by
    unfold Climbing.probe at hprobe ⊢
    cases ho : operand.isNone with
    | true =>
        simp only [ho, if_true, Option.some.injEq, Prod.mk.injEq] at hprobe ⊢
        obtain ⟨rfl, rfl⟩ := hprobe
        exact ⟨t, ⟨rfl, rfl⟩, hst⟩
    | false =>
        simp only [ho, Bool.false_eq_true, if_false] at hprobe ⊢
        obtain ⟨⟨offset, s'⟩, hpeek, heq⟩ := Option.map_eq_some_iff.mp hprobe
        cases heq
        obtain ⟨t', hpeek', ht'⟩ := hcd.peek hst hpeek
        exact ⟨t', by rw [hpeek']; rfl, ht'⟩
  obtain ⟨after', hrun', hafter⟩ := hrun.alike (fun p => hcd.matcher probe p) hbefore
  exact ⟨before', after', ⟨probe, hprobe', hcd.operators ▸ hrun'⟩, hbefore, hafter⟩

theorem finishExpression_alike {c d : Climbing} (hcd : c.Alike d) {stack : List Pending}
    {operand : Option Tree} {s t : State} {o : Outcome} (hst : s.Alike t)
    (h : finishExpression c stack operand s = some o) :
    ∃ o', finishExpression d stack operand t = some o' ∧ o.Alike o' := by
  cases operand with
  | some current =>
      cases h
      obtain ⟨htree, hstate⟩ := completeAll_related (fun _ _ e h => h.add e e) stack current hst
      exact ⟨_, rfl, by simp only [htree], hstate⟩
  | none =>
      simp only [finishExpression] at h ⊢
      split at h
      · cases h
      · next offset s' hpeek =>
          cases h
          obtain ⟨t', hpeek', ht'⟩ := hcd.peek hst hpeek
          exact ⟨⟨none, t'.missTerm d.frame offset⟩, by rw [hpeek'], rfl, ht'.missTerm ..⟩

theorem emptyAt_alike {before after before' after' : State} (hb : before.Alike before')
    (ha : after.Alike after') : emptyAt before after = emptyAt before' after' := by
  simp only [emptyAt, hb.cursor, ha.cursor]

theorem ClimbRun.alike {c d : Climbing} (hcd : c.Alike d) {rounds : Nat}
    {stack : List Pending} {operand : Option Tree} {lastEmpty : Option Nat} {s t : State}
    {ms : List (Operator × Tree)} {o : Outcome}
    (h : ClimbRun c rounds stack operand lastEmpty s ms o) (hst : s.Alike t) :
    ∃ o', ClimbRun d rounds stack operand lastEmpty t ms o' ∧ o.Alike o' := by
  induction h generalizing t with
  | aborted hfinds ha =>
      obtain ⟨before', after', hfinds', -, hafter⟩ := hfinds.alike hcd hst
      exact ⟨_, .aborted hfinds' (hafter.isAborted ▸ ha), rfl, hafter⟩
  | finished hfinds ha hfinish =>
      obtain ⟨before', after', hfinds', -, hafter⟩ := hfinds.alike hcd hst
      obtain ⟨o', hfinish', ho⟩ := finishExpression_alike hcd hafter hfinish
      exact ⟨o', .finished hfinds' (hafter.isAborted ▸ ha) hfinish', ho⟩
  | repeated hfinds ha he hr =>
      obtain ⟨before', after', hfinds', hbefore, hafter⟩ := hfinds.alike hcd hst
      rw [hbefore.cursor] at he hr ⊢
      rw [hafter.cursor] at he
      exact ⟨_, .repeated hfinds' (hafter.isAborted ▸ ha) he hr, rfl, hafter.abort _ _⟩
  | waits hfinds ha he htake hr _ ih =>
      obtain ⟨before', after', hfinds', hbefore, hafter⟩ := hfinds.alike hcd hst
      obtain ⟨t', htake', ht'⟩ :=
        takeOperand_related (fun _ _ e h => h.add e e) (hafter.add _ _) htake
      rw [hbefore.cursor, hafter.cursor] at he
      obtain ⟨o', hrun, ho⟩ := ih ht'
      rw [emptyAt_alike hbefore hafter] at hrun
      exact ⟨o', .waits hfinds' (hafter.isAborted ▸ ha) he htake' hr hrun, ho⟩
  | completes hfinds ha he htake hr _ ih =>
      obtain ⟨before', after', hfinds', hbefore, hafter⟩ := hfinds.alike hcd hst
      obtain ⟨t', htake', ht'⟩ :=
        takeOperand_related (fun _ _ e h => h.add e e) (hafter.add _ _) htake
      rw [hbefore.cursor, hafter.cursor] at he
      obtain ⟨o', hrun, ho⟩ := ih (ht'.add _ _)
      rw [emptyAt_alike hbefore hafter] at hrun
      exact ⟨o', .completes hfinds' (hafter.isAborted ▸ ha) he htake' hr hrun, ho⟩

/-! ## Layers -/

/-- What a matcher does depends on its frame only through whether that is in trivia. -/
def Matcher.IgnoresHistory (m : Matcher) : Prop :=
  ∀ frame frame' : Frame, frame.inTrivia = frame'.inTrivia →
    ∀ p, Simulates (m frame p) (m frame' p)

theorem State.Alike.tried {s s' : State} (h : s.Alike s') {frame frame' : Frame}
    (hframe : frame.inTrivia = frame'.inTrivia) (t : Terminal) (matched : Option String) :
    (s.tried frame t matched).Alike (s'.tried frame' t matched) := by
  simp only [State.tried, ← hframe]
  split
  · exact h
  · exact h.add _ _

theorem matchTerminal_alike {setting : Setting} {frame frame' : Frame}
    (hframe : frame.inTrivia = frame'.inTrivia) (t : Terminal) {s s' : State} (hs : s.Alike s') :
    (matchTerminal setting frame t s).Alike (matchTerminal setting frame' t s') := by
  cases h : t.matchEnd? setting.beyond s.cursor with
  | none =>
      rw [matchTerminal_of_missed h, matchTerminal_of_missed (hs.cursor ▸ h), hs.cursor]
      exact ⟨rfl, (hs.tried hframe t none).missToken ..⟩
  | some stop =>
      have htext : s.textUpTo stop = s'.textUpTo stop := by rw [State.textUpTo, hs.cursor]; rfl
      rw [matchTerminal_of_matched h, matchTerminal_of_matched (hs.cursor ▸ h), hs.cursor, htext]
      exact ⟨rfl, (hs.tried hframe t _).move stop⟩

section Layer

variable {m : Matcher} (hm : m.IgnoresHistory) {setting : Setting}
  (hdepth : setting.depthLimit = none) {frame frame' : Frame}
  (hframe : frame.inTrivia = frame'.inTrivia)

include hm hframe

theorem SkipRun.alike {s s' t : State} (h : SkipRun m setting frame s s') (hst : s.Alike t) :
    ∃ t', SkipRun m setting frame' t t' ∧ s'.Alike t' := by
  cases h with
  | inside hi => exact ⟨t, .inside (hframe ▸ hi), hst⟩
  | absent hi ht => exact ⟨t, .absent (hframe ▸ hi) ht, hst⟩
  | skipped hi ht ho =>
      obtain ⟨o', ho', hs⟩ := hm { frame with inTrivia := true, quiet := true }
        { frame' with inTrivia := true, quiet := true } rfl _ hst ho
      exact ⟨_, .skipped (hframe ▸ hi) ht ho', hs.state⟩

theorem peekPastTrivia_alike {s s' t : State} {offset : Nat} (hst : s.Alike t)
    (h : peekPastTrivia m setting frame s = some (offset, s')) :
    ∃ t', peekPastTrivia m setting frame' t = some (offset, t') ∧ s'.Alike t' := by
  obtain ⟨after, hskip, heq⟩ := Option.map_eq_some_iff.mp h
  cases heq
  obtain ⟨after', hskip', hafter⟩ := SkipRun.alike hm hframe (skipTrivia_eq_some_iff.mp hskip) hst
  refine ⟨{ after' with cursor := t.cursor }, ?_, ?_⟩
  · rw [peekPastTrivia, skipTrivia_eq_some_iff.mpr hskip', hafter.cursor]
    rfl
  · rw [hst.cursor]
    exact hafter.move t.cursor

theorem climbing_alike (operators : List Operator) :
    Climbing.Alike ⟨m, peekPastTrivia m setting frame, { frame with probe := none }, operators⟩
      ⟨m, peekPastTrivia m setting frame', { frame' with probe := none }, operators⟩ where
  matcher := fun probe p => hm { frame with probe } { frame' with probe } hframe p
  peek := fun _ _ _ _ hst h => peekPastTrivia_alike hm hframe hst h
  operators := rfl

include hdepth

theorem BodyRun.alike {p : Pattern} {s t : State} {o : Outcome}
    (h : BodyRun m setting frame s p o) (hst : s.Alike t) :
    ∃ o', BodyRun m setting frame' t p o' ∧ o.Alike o' := by
  have hlimit : ∀ depth, setting.depthLimit.any (· ≤ depth) = false := by simp [hdepth]
  cases h with
  | terminal x => exact ⟨_, .terminal x, matchTerminal_alike hframe x hst⟩
  | sequence hrun =>
      obtain ⟨o', hrun', ho⟩ := hrun.alike (hm _ _ hframe) hst
      exact ⟨o', .sequence (hst.cursor ▸ hrun'), ho⟩
  | choice hrun =>
      obtain ⟨o', hrun', ho⟩ := hrun.alike (hm _ _ hframe) hst
      exact ⟨o', .choice (hst.cursor ▸ hrun'), ho⟩
  | quantifier hrun =>
      obtain ⟨r', hrun', hr⟩ := hrun.alike (hm _ _ hframe _) hst
      refine ⟨_, .quantifier hrun', ?_⟩
      rw [hst.cursor]
      exact hr.outcome _ _
  | undefinedRule hg =>
      refine ⟨_, .undefinedRule hg, rfl, ?_⟩
      rw [hst.cursor]
      exact hst.abort _ _
  | tooDeep _ hd => simp [hlimit] at hd
  | lookup hg _ hrun =>
      -- the depths differ, and without a limit neither matters
      rw [hst.cursor] at hrun
      obtain ⟨o', hrun', ho⟩ := hm { frame with depth := frame.depth + 1 }
        { frame' with depth := frame'.depth + 1 } hframe _
        (hst.add _ (.entered _ t.cursor.offset)) hrun
      refine ⟨_, .lookup hg (hlimit _) hrun', ?_, ho.state.add _ _⟩
      rw [ho.tree, hst.cursor]
  | label hrun =>
      obtain ⟨o', hrun', ho⟩ := hm _ frame' hframe _ hst hrun
      refine ⟨_, .label hrun', ?_, ho.state⟩
      rw [ho.tree, hst.cursor]
  | lookahead hrun =>
      obtain ⟨o', hrun', ho⟩ := hm { frame with quiet := true } { frame' with quiet := true }
        hframe _ hst hrun
      refine ⟨_, .lookahead hrun', ?_, ?_⟩
      · rw [ho.tree, ho.state.isAborted, hst.cursor]
      · rw [hst.cursor]
        exact ho.state.move _
  | table hrun =>
      obtain ⟨o', hrun', ho⟩ := ClimbRun.alike (climbing_alike hm hframe _) hrun hst
      rw [hst.cursor] at hrun'
      exact ⟨o', .table hrun', ho⟩

theorem LayerRun.alike {p : Pattern} {s t : State} {o : Outcome}
    (h : LayerRun m setting frame p s o) (hst : s.Alike t) :
    ∃ o', LayerRun m setting frame' p t o' ∧ o.Alike o' := by
  have hcharge : ∀ {u : State}, s.Alike u → u.charge = (!s.isAborted, u) := fun hu => by
    rw [State.charge_of_unlimited hu.unlimited', hu.isAborted]
  have hself : s.Alike s := ⟨rfl, rfl, hst.unlimited, hst.unlimited⟩
  cases h with
  | unpaid hc =>
      obtain ⟨ha, rfl⟩ := Prod.mk.inj ((hcharge hself).symm.trans hc)
      exact ⟨⟨none, t⟩, .unpaid ((hcharge hst).trans (by rw [ha])), rfl, hst⟩
  | tried hc hskip hrun =>
      obtain ⟨ha, rfl⟩ := Prod.mk.inj ((hcharge hself).symm.trans hc)
      obtain ⟨ready', hskip', hready⟩ := hskip.alike hm hframe hst
      obtain ⟨o', hrun', ho⟩ := hrun.alike hm hdepth hframe hready
      refine ⟨_, .tried ((hcharge hst).trans (by rw [ha])) hskip' hrun', ?_⟩
      simp only [Outcome.settle, ho.tree, hst.cursor]
      split
      · exact ⟨rfl, ho.state.move _⟩
      · exact ho

end Layer

theorem matchPattern_ignoresHistory {setting : Setting} (hdepth : setting.depthLimit = none)
    (layers : Nat) : (matchPattern setting layers).IgnoresHistory := by
  induction layers with
  | zero =>
      intro frame frame' _ p s t o _ h
      cases h
  | succ layers ih =>
      intro frame frame' hframe p s t o hst h
      obtain ⟨o', hrun, ho⟩ := LayerRun.alike ih hdepth hframe (matchOnce_eq_some_iff.mp h) hst
      exact ⟨o', matchOnce_eq_some_iff.mpr hrun, ho⟩

/-- What can be seen of an outcome: the tree, where the cursor is and what ended the
parse. -/
def Outcome.observed (o : Outcome) : Option Tree × Cursor × Option (Nat × Abort) :=
  (o.tree?, o.state.cursor, o.state.aborted)

/-- **Backtracking is pure**: without limits, what a pattern matches depends on the cursor
and on being in trivia or not, and on nothing that happened before. -/
theorem matchPattern_independent_of_history {setting : Setting}
    (hdepth : setting.depthLimit = none) (layers : Nat) {frame frame' : Frame}
    (hframe : frame.inTrivia = frame'.inTrivia) (p : Pattern) {s s' : State}
    (hcursor : s.cursor = s'.cursor) (hfuel : s.fuel = none) (hfuel' : s'.fuel = none)
    (hrunning : s.aborted = none) (hrunning' : s'.aborted = none) :
    (matchPattern setting layers frame p s).map Outcome.observed
      = (matchPattern setting layers frame' p s').map Outcome.observed := by
  have halike : s.Alike s' := ⟨hcursor, hrunning.trans hrunning'.symm, hfuel, hfuel'⟩
  have hsim := matchPattern_ignoresHistory hdepth layers
  cases h : matchPattern setting layers frame p s with
  | some o =>
      obtain ⟨o', h', ho⟩ := hsim _ _ hframe p halike h
      rw [h']
      simp only [Option.map_some, Outcome.observed, ho.tree, ho.state.cursor, ho.state.aborted]
  | none =>
      -- alikeness goes both ways, so the other run does not end either
      cases h' : matchPattern setting layers frame' p s' with
      | none => rfl
      | some o' =>
          obtain ⟨o, ho, -⟩ := hsim _ _ hframe.symm p halike.symm h'
          rw [h] at ho
          cases ho

/-- Blanks are trivia, and a name is one or more letters. -/
private def sampleSetting : Setting :=
  ⟨.ofList [("_", .terminal (.literal " ")),
    ("name", .quantifier (.terminal (.literal "a")) 1 none)], [], none⟩

/-- A state with a past: two failures and a rule that was entered. -/
private def sampleLate : State :=
  ⟨.atStart " a a".toList, none, none,
    [.failed ⟨7, .term, .term⟩, .entered "name" 3, .failed ⟨2, .probe, .token "'a'"⟩]⟩

theorem matchPattern_independent_of_history_sample :
    (matchPattern sampleSetting 4 .outermost (.lookup "name")
        (.start (.atStart " a a".toList) none)).isSome ∧
      (matchPattern sampleSetting 4 .outermost (.lookup "name")
          (.start (.atStart " a a".toList) none)).map Outcome.observed
        = (matchPattern sampleSetting 4 ⟨false, true, 9, some 1⟩ (.lookup "name")
            sampleLate).map Outcome.observed := by
  refine ⟨by decide +kernel, ?_⟩
  apply matchPattern_independent_of_history <;> rfl

end OperatorPeg
