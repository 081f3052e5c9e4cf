import OperatorPeg.Proofs.Onward

/-!
# Without limits

A limit does nothing to a parse but end it. A match after which the parse goes on is
therefore the match that there is without limits: the same tree, up to the same place.
So the place where trivia ends is settled by the place where it begins, although every
pattern skips it anew, with less fuel and within more rules than the one before.
-/

namespace OperatorPeg

/-- In `t` the parse goes on where it is in `s`, and without a limit on fuel. -/
structure State.Freed (s t : State) : Prop where
  cursor : s.cursor = t.cursor
  running : t.aborted = none
  unlimited : t.fuel = none

/-- The same tree, and the parse goes on from the same place. -/
structure Outcome.Freed (o o' : Outcome) : Prop where
  tree : o.tree? = o'.tree?
  state : o.state.Freed o'.state

/-- What `f` comes to without ending the parse, `g` comes to without limits. -/
structure FreedBy (f g : State → Option Outcome) : Prop where
  onward : RunsAlong State.Onward f
  free : ∀ {s t o}, f s = some o → o.state.aborted = none → s.Freed t →
    ∃ o', g t = some o' ∧ o.Freed o'

namespace State.Freed

variable {s t : State}

theorem isAborted (h : s.Freed t) : t.isAborted = false := isAborted_eq_false_iff.mpr h.running

theorem add (h : s.Freed t) (e e' : Event) : (s.add e).Freed (t.add e') := ⟨h.1, h.2, h.3⟩

theorem move (h : s.Freed t) (c : Cursor) :
    ({ s with cursor := c } : State).Freed { t with cursor := c } := ⟨rfl, h.2, h.3⟩

theorem missToken (h : s.Freed t) (frame frame' : Frame) (o : Nat) (d : String) :
    (s.missToken frame o d).Freed (t.missToken frame' o d) where
  cursor := by simp [h.cursor]
  running := by simp [h.running]
  unlimited := by simp [h.unlimited]

theorem missTerm (h : s.Freed t) (frame frame' : Frame) (o : Nat) :
    (s.missTerm frame o).Freed (t.missTerm frame' o) where
  cursor := by simp [h.cursor]
  running := by simp [h.running]
  unlimited := by simp [h.unlimited]

theorem tried (h : s.Freed t) (frame frame' : Frame) (x : Terminal) (matched : Option String) :
    (s.tried frame x matched).Freed (t.tried frame' x matched) := by
  unfold State.tried
  split <;> split
  · exact h
  · exact ⟨h.1, h.2, h.3⟩
  · exact ⟨h.1, h.2, h.3⟩
  · exact h.add _ _

/-- An attempt is paid for without limits. -/
theorem charge (h : s.Freed t) : t.charge = (true, t) := by
  rw [charge_of_unlimited h.unlimited, h.isAborted]
  rfl

end State.Freed

/-! ## Loops -/

section Loops

variable {f g : Pattern → State → Option Outcome} (hfg : ∀ p, FreedBy (f p) (g p))

include hfg

theorem StepsRun.freed {offset : Nat} {kept : List Tree} {steps : List Step} {s t : State}
    {o : Outcome} (h : StepsRun f offset kept steps s o) (ho : o.state.aborted = none)
    (hst : s.Freed t) : ∃ o', StepsRun g offset kept steps t o' ∧ o.Freed o' := by
  induction h generalizing t with
  | done kept => exact ⟨_, .done kept t, rfl, hst⟩
  | missed hf =>
      obtain ⟨⟨_, t'⟩, hg, rfl, hs⟩ := (hfg _).free hf ho hst
      exact ⟨_, .missed hg, rfl, hs⟩
  | matched hf hrest ih =>
      have hrunning := (hrest.along State.Onward.isCourse fun p => (hfg p).onward).running ho
      obtain ⟨⟨_, t'⟩, hg, rfl, hs⟩ := (hfg _).free hf hrunning hst
      obtain ⟨o', hrun, hfreed⟩ := ih ho hs
      exact ⟨o', .matched hg hrun, hfreed⟩

theorem AlternativesRun.freed {offset index : Nat} {ps : List Pattern} {s t : State}
    {o : Outcome} (h : AlternativesRun f offset index ps s o) (ho : o.state.aborted = none)
    (hst : s.Freed t) : ∃ o', AlternativesRun g offset index ps t o' ∧ o.Freed o' := by
  induction h generalizing t with
  | exhausted index => exact ⟨_, .exhausted index t, rfl, hst⟩
  | chosen hf =>
      obtain ⟨⟨_, t'⟩, hg, rfl, hs⟩ := (hfg _).free hf ho hst
      exact ⟨_, .chosen hg, rfl, hs⟩
  | aborted _ hend =>
      rw [State.isAborted_eq_false_iff.mpr ho] at hend
      cases hend
  | missed hf hrunning _ ih =>
      rw [State.isAborted_eq_false_iff] at hrunning
      obtain ⟨⟨_, t'⟩, hg, rfl, hs⟩ := (hfg _).free hf hrunning hst
      obtain ⟨o', hrun, hfreed⟩ := ih ho (hs.add _ _)
      exact ⟨o', .missed hg hs.isAborted hrun, hfreed⟩

/-- The same nodes, and the parse goes on from the same place. -/
structure Rounds.Freed (r q : Rounds) : Prop where
  count : r.count = q.count
  nodes : r.nodes = q.nodes
  state : r.state.Freed q.state

omit hfg in
theorem Rounds.Freed.next {r q : Rounds} (h : r.Freed q) (node : Tree) {s t : State}
    (hst : s.Freed t) :
    Rounds.Freed ⟨r.count + 1, node :: r.nodes, s⟩ ⟨q.count + 1, node :: q.nodes, t⟩ :=
  ⟨by simp only [h.count], by simp only [h.nodes], hst⟩

theorem UpToRun.freed {p : Pattern} {n : Nat} {r r' q : Rounds} (h : UpToRun (f p) n r r')
    (hr : r'.state.aborted = none) (hrq : r.Freed q) :
    ∃ q', UpToRun (g p) n q q' ∧ r'.Freed q' := by
  induction h generalizing q with
  | full => exact ⟨q, .full q, hrq⟩
  | missed hf =>
      obtain ⟨⟨_, t⟩, hg, rfl, hs⟩ := (hfg _).free hf hr hrq.state
      exact ⟨_, .missed hg, hrq.count, hrq.nodes, hs⟩
  | matched hf hrest ih =>
      have hrunning := (UpToRun.along State.Onward.isCourse (hfg p).onward hrest).running hr
      obtain ⟨⟨_, t⟩, hg, rfl, hs⟩ := (hfg _).free hf hrunning hrq.state
      obtain ⟨q', hrun, hfreed⟩ := ih hr (hrq.next _ hs)
      exact ⟨q', .matched hg hrun, hfreed⟩

theorem WhileRun.freed {p : Pattern} {budget : List Char} {r r' q : Rounds}
    (h : WhileRun (f p) budget r r') (hr : r'.state.aborted = none) (hrq : r.Freed q) :
    ∃ q', WhileRun (g p) budget q q' ∧ r'.Freed q' := by
  induction h generalizing q with
  | missed hf =>
      obtain ⟨⟨_, t⟩, hg, rfl, hs⟩ := (hfg _).free hf hr hrq.state
      exact ⟨_, .missed hg, hrq.count, hrq.nodes, hs⟩
  | stuck => exact absurd hr (State.aborted_abort_ne _ _ _)
  | matched hf hmoved hrest ih =>
      have hrunning := (WhileRun.along State.Onward.isCourse (hfg p).onward hrest).running hr
      obtain ⟨⟨_, t⟩, hg, rfl, hs⟩ := (hfg _).free hf hrunning hrq.state
      obtain ⟨q', hrun, hfreed⟩ := ih hr (hrq.next _ hs)
      exact ⟨q', .matched hg (by rwa [← hs.cursor, ← hrq.state.cursor]) hrun, hfreed⟩

theorem RoundsRun.freed {p : Pattern} {most : Option Nat} {s t : State} {r : Rounds}
    (h : RoundsRun (f p) most s r) (hr : r.state.aborted = none) (hst : s.Freed t) :
    ∃ q, RoundsRun (g p) most t q ∧ r.Freed q := by
  have hstart : Rounds.Freed ⟨0, [], s⟩ ⟨0, [], t⟩ := ⟨rfl, rfl, hst⟩
  cases most with
  | some n => exact UpToRun.freed hfg h hr hstart
  | none =>
      simp only [RoundsRun, ← hst.cursor]
      exact WhileRun.freed hfg h hr hstart

theorem OperatorsRun.freed {wantOperand : Bool} {ops : List Operator} {s t : State}
    {r : Option (Operator × Tree) × State} (h : OperatorsRun f wantOperand ops s r)
    (hr : r.2.aborted = none) (hst : s.Freed t) :
    ∃ t', OperatorsRun g wantOperand ops t (r.1, t') ∧ r.2.Freed t' := by
  induction h generalizing t with
  | exhausted => exact ⟨t, .exhausted t, hst⟩
  | passed hside _ ih =>
      obtain ⟨t', hrun, hfreed⟩ := ih hr hst
      exact ⟨t', .passed hside hrun, hfreed⟩
  | matched hside hf =>
      obtain ⟨⟨_, t'⟩, hg, rfl, hs⟩ := (hfg _).free hf hr hst
      exact ⟨t', .matched hside hg, hs⟩
  | missed hside hf hrest ih =>
      have hrunning := (hrest.along State.Onward.isCourse fun p => (hfg p).onward).running hr
      obtain ⟨⟨_, t'⟩, hg, rfl, hs⟩ := (hfg _).free hf hrunning hst
      obtain ⟨t'', hrun, hfreed⟩ := ih hr hs
      exact ⟨t'', .missed hside hg hrun, hfreed⟩

end Loops

theorem Rounds.Freed.outcome {r q : Rounds} (h : r.Freed q) (hr : r.state.aborted = none)
    (least offset : Nat) : (r.outcome least offset).Freed (q.outcome least offset) := by
  have hrunning : r.state.isAborted = q.state.isAborted := by
    rw [h.state.isAborted, State.isAborted_eq_false_iff.mpr hr]
  simp only [Rounds.outcome, hrunning, h.count, h.nodes]
  split
  · exact ⟨rfl, h.state⟩
  · exact ⟨rfl, h.state⟩

/-! ## Expressions -/

/-- A climbing loop and one that runs without limits. -/
structure Climbing.FreedBy (c d : Climbing) : Prop where
  along : c.RunsAlong State.Onward
  matcher : ∀ probe p, OperatorPeg.FreedBy (c.matcher { c.frame with probe } p)
    (d.matcher { d.frame with probe } p)
  peek : ∀ {s t offset s'}, c.peek s = some (offset, s') → s'.aborted = none → s.Freed t →
    ∃ t', d.peek t = some (offset, t') ∧ s'.Freed t'
  operators : c.operators = d.operators

section Climbing

variable {c d : Climbing} (hcd : c.FreedBy d)

include hcd

theorem Climbing.probe_freed {operand : Option Tree} {s t before : State} {probe : Option Nat}
    (h : c.probe operand s = some (probe, before)) (hrunning : before.aborted = none)
    (hst : s.Freed t) : ∃ t', d.probe operand t = some (probe, t') ∧ before.Freed t' := by
  cases operand with
  | none =>
      cases h
      exact ⟨t, rfl, hst⟩
  | some operand =>
      obtain ⟨⟨offset, s'⟩, hpeek, heq⟩ := Option.map_eq_some_iff.mp h
      cases heq
      obtain ⟨t', hpeek', hfreed⟩ := hcd.peek hpeek hrunning hst
      exact ⟨t', Option.map_eq_some_iff.mpr ⟨_, hpeek', rfl⟩, hfreed⟩

theorem Climbing.Finds.freed {operand : Option Tree} {s t before after : State}
    {found : Option (Operator × Tree)} (h : c.Finds operand s before found after)
    (hrunning : after.aborted = none) (hst : s.Freed t) :
    ∃ before' after', d.Finds operand t before' found after' ∧ before.Freed before' ∧
      after.Freed after' := by
  obtain ⟨probe, hprobe, hrun⟩ := h
  have hbefore :=
    (hrun.along State.Onward.isCourse (hcd.along.matcher _)).running hrunning
  obtain ⟨before', hprobe', hfreed⟩ := Climbing.probe_freed hcd hprobe hbefore hst
  obtain ⟨after', hrun', hafter⟩ := hrun.freed (hcd.matcher probe) hrunning hfreed
  exact ⟨before', after', ⟨probe, hprobe', hcd.operators ▸ hrun'⟩, hfreed, hafter⟩

theorem finishExpression_freed {stack : List Pending} {operand : Option Tree} {s t : State}
    {o : Outcome} (h : finishExpression c stack operand s = some o)
    (ho : o.state.aborted = none) (hst : s.Freed t) :
    ∃ o', finishExpression d stack operand t = some o' ∧ o.Freed o' := by
  cases operand with
  | some current =>
      cases h
      obtain ⟨htree, hstate⟩ := completeAll_related (fun _ _ e h => h.add e e) stack current hst
      exact ⟨_, rfl, by simp only [htree], hstate⟩
  | none =>
      simp only [finishExpression] at h ⊢
      split at h
      · cases h
      · next offset s' hpeek =>
          cases h
          rw [State.aborted_missTerm] at ho
          obtain ⟨t', hpeek', hfreed⟩ := hcd.peek hpeek ho hst
          exact ⟨⟨none, t'.missTerm d.frame offset⟩, by rw [hpeek'], rfl,
            hfreed.missTerm ..⟩

theorem ClimbRun.freed {rounds : Nat} {stack : List Pending} {operand : Option Tree}
    {lastEmpty : Option Nat} {s t : State} {ms : List (Operator × Tree)} {o : Outcome}
    (h : ClimbRun c rounds stack operand lastEmpty s ms o) (ho : o.state.aborted = none)
    (hst : s.Freed t) :
    ∃ o', ClimbRun d rounds stack operand lastEmpty t ms o' ∧ o.Freed o' := by
  induction h generalizing t with
  | aborted _ hend =>
      rw [State.isAborted_eq_false_iff.mpr ho] at hend
      cases hend
  | repeated => exact absurd ho (State.aborted_abort_ne _ _ _)
  | finished hfinds hrunning hfinish =>
      rw [State.isAborted_eq_false_iff] at hrunning
      obtain ⟨_, after', hfinds', -, hafter⟩ := hfinds.freed hcd hrunning hst
      obtain ⟨o', hfinish', hfreed⟩ := finishExpression_freed hcd hfinish ho hafter
      exact ⟨o', .finished hfinds' hafter.isAborted hfinish', hfreed⟩
  | waits hfinds hrunning hmoved htake hright _ ih =>
      rw [State.isAborted_eq_false_iff] at hrunning
      obtain ⟨before', after', hfinds', hbefore, hafter⟩ := hfinds.freed hcd hrunning hst
      obtain ⟨t', htake', hs⟩ :=
        takeOperand_related (fun _ _ e h => h.add e e) (hafter.add _ _) htake
      obtain ⟨o', hrun, hfreed⟩ := ih ho hs
      simp only [emptyAt, hbefore.cursor, hafter.cursor] at hmoved hrun
      exact ⟨o', .waits hfinds' hafter.isAborted hmoved htake' hright hrun, hfreed⟩
  | completes hfinds hrunning hmoved htake hright _ ih =>
      rw [State.isAborted_eq_false_iff] at hrunning
      obtain ⟨before', after', hfinds', hbefore, hafter⟩ := hfinds.freed hcd hrunning hst
      obtain ⟨t', htake', hs⟩ :=
        takeOperand_related (fun _ _ e h => h.add e e) (hafter.add _ _) htake
      obtain ⟨o', hrun, hfreed⟩ := ih ho (hs.add _ _)
      simp only [emptyAt, hbefore.cursor, hafter.cursor] at hmoved hrun
      exact ⟨o', .completes hfinds' hafter.isAborted hmoved htake' hright hrun, hfreed⟩

end Climbing

/-! ## Layers -/

/-- What matching with `m` comes to without ending the parse, matching with `m'` comes to
without limits, whatever its frame says but for being in trivia. -/
def Matcher.FreedBy (m m' : Matcher) : Prop :=
  ∀ frame frame' : Frame, frame.inTrivia = frame'.inTrivia →
    ∀ p, OperatorPeg.FreedBy (m frame p) (m' frame' p)

/-- The same without a limit on how deep rules nest. -/
def Setting.unlimited (setting : Setting) : Setting := { setting with depthLimit := none }

theorem matchTerminal_freed {setting : Setting} (frame frame' : Frame) (x : Terminal)
    {s t : State} (hst : s.Freed t) :
    (matchTerminal setting frame x s).Freed (matchTerminal setting.unlimited frame' x t) := by
  cases h : x.matchEnd? setting.beyond s.cursor with
  | none =>
      have h' : x.matchEnd? setting.unlimited.beyond t.cursor = none := hst.cursor ▸ h
      rw [matchTerminal_of_missed h, matchTerminal_of_missed h', hst.cursor]
      exact ⟨rfl, (hst.tried ..).missToken ..⟩
  | some stop =>
      have h' : x.matchEnd? setting.unlimited.beyond t.cursor = some stop := hst.cursor ▸ h
      have htext : s.textUpTo stop = t.textUpTo stop := by rw [State.textUpTo, hst.cursor]; rfl
      rw [matchTerminal_of_matched h, matchTerminal_of_matched h', hst.cursor, htext]
      exact ⟨rfl, (hst.tried ..).move stop⟩

section Layer

variable {m m' : Matcher} (hm : m.FreedBy m') {setting : Setting} {frame frame' : Frame}
  (hframe : frame.inTrivia = frame'.inTrivia)

include hm

theorem Matcher.FreedBy.runsAlong (frame : Frame) (p : Pattern) :
    RunsAlong State.Onward (m frame p) := (hm frame frame rfl p).onward

include hframe

theorem SkipRun.freed {s s' t : State} (h : SkipRun m setting frame s s')
    (hrunning : s'.aborted = none) (hst : s.Freed t) :
    ∃ t', SkipRun m' setting.unlimited frame' t t' ∧ s'.Freed t' := by
  cases h with
  | inside hin => exact ⟨t, .inside (hframe ▸ hin), hst⟩
  | absent hin hnone => exact ⟨t, .absent (hframe ▸ hin) hnone, hst⟩
  | skipped hin hsome ho =>
      obtain ⟨o', ho', hfreed⟩ := (hm { frame with inTrivia := true, quiet := true }
        { frame' with inTrivia := true, quiet := true } rfl _).free ho hrunning hst
      exact ⟨_, .skipped (hframe ▸ hin) hsome ho', hfreed.state⟩

theorem peekPastTrivia_freed {s s' t : State} {offset : Nat}
    (h : peekPastTrivia m setting frame s = some (offset, s')) (hrunning : s'.aborted = none)
    (hst : s.Freed t) :
    ∃ t', peekPastTrivia m' setting.unlimited frame' t = some (offset, t') ∧ s'.Freed t' := by
  obtain ⟨after, hskip, heq⟩ := Option.map_eq_some_iff.mp h
  cases heq
  obtain ⟨after', hskip', hafter⟩ :=
    SkipRun.freed hm hframe (skipTrivia_eq_some_iff.mp hskip) hrunning hst
  refine ⟨{ after' with cursor := t.cursor }, ?_, ?_⟩
  · rw [peekPastTrivia, skipTrivia_eq_some_iff.mpr hskip', hafter.cursor]
    rfl
  · rw [hst.cursor]
    exact hafter.move t.cursor

theorem climbing_freedBy (operators : List Operator) :
    Climbing.FreedBy
      ⟨m, peekPastTrivia m setting frame, { frame with probe := none }, operators⟩
      ⟨m', peekPastTrivia m' setting.unlimited frame', { frame' with probe := none },
        operators⟩ where
  along := climbing_along State.Onward.isCourse hm.runsAlong operators
  matcher := fun probe p => hm { frame with probe } { frame' with probe } hframe p
  peek := peekPastTrivia_freed hm hframe
  operators := rfl

theorem BodyRun.freed {p : Pattern} {s t : State} {o : Outcome}
    (h : BodyRun m setting frame s p o) (ho : o.state.aborted = none) (hst : s.Freed t) :
    ∃ o', BodyRun m' setting.unlimited frame' t p o' ∧ o.Freed o' := by
  cases h with
  | terminal x => exact ⟨_, .terminal x, matchTerminal_freed frame frame' x hst⟩
  | sequence hrun =>
      obtain ⟨o', hrun', hfreed⟩ := hrun.freed (hm _ _ hframe) ho hst
      exact ⟨o', .sequence (hst.cursor ▸ hrun'), hfreed⟩
  | choice hrun =>
      obtain ⟨o', hrun', hfreed⟩ := hrun.freed (hm _ _ hframe) ho hst
      exact ⟨o', .choice (hst.cursor ▸ hrun'), hfreed⟩
  | quantifier hrun =>
      rw [Rounds.state_outcome] at ho
      obtain ⟨q, hrun', hfreed⟩ := RoundsRun.freed (hm _ _ hframe) hrun ho hst
      refine ⟨_, .quantifier hrun', ?_⟩
      rw [hst.cursor]
      exact hfreed.outcome ho _ _
  | undefinedRule | tooDeep => exact absurd ho (State.aborted_abort_ne _ _ _)
  | lookup hget _ hrun =>
      rw [hst.cursor] at hrun
      obtain ⟨o', hrun', hfreed⟩ := (hm { frame with depth := frame.depth + 1 }
        { frame' with depth := frame'.depth + 1 } hframe _).free hrun ho
        (hst.add _ (.entered _ t.cursor.offset))
      refine ⟨_, .lookup hget rfl hrun', ?_, hfreed.state.add _ _⟩
      rw [hfreed.tree, hst.cursor]
  | label hrun =>
      obtain ⟨o', hrun', hfreed⟩ := (hm _ frame' hframe _).free hrun ho hst
      refine ⟨_, .label hrun', ?_, hfreed.state⟩
      rw [hfreed.tree, hst.cursor]
  | @lookahead _ _ o hrun =>
      have hrunning : o.state.aborted = none := ho
      obtain ⟨o', hrun', hfreed⟩ := (hm { frame with quiet := true }
        { frame' with quiet := true } hframe _).free hrun hrunning hst
      refine ⟨_, .lookahead hrun', ?_, ?_⟩
      · rw [hfreed.tree, hfreed.state.isAborted, State.isAborted_eq_false_iff.mpr hrunning,
          hst.cursor]
      · rw [hst.cursor]
        exact hfreed.state.move _
  | table hrun =>
      obtain ⟨o', hrun', hfreed⟩ := ClimbRun.freed (climbing_freedBy hm hframe _) hrun ho hst
      rw [hst.cursor] at hrun'
      exact ⟨o', .table hrun', hfreed⟩

theorem LayerRun.freed {p : Pattern} {s t : State} {o : Outcome}
    (h : LayerRun m setting frame p s o) (ho : o.state.aborted = none) (hst : s.Freed t) :
    ∃ o', LayerRun m' setting.unlimited frame' p t o' ∧ o.Freed o' := by
  cases h with
  | unpaid hc => exact absurd ho (State.aborted_of_unpaid hc)
  | @tried charged ready inner hc hskip hbody =>
      rw [Outcome.aborted_settle] at ho
      have hcharged : charged.Freed t :=
        ⟨(State.cursor_of_charge hc).trans hst.cursor, hst.running, hst.unlimited⟩
      have hrunning := (hbody.along State.Onward.isCourse hm.runsAlong).running ho
      obtain ⟨ready', hskip', hready⟩ := hskip.freed hm hframe hrunning hcharged
      obtain ⟨o', hbody', hfreed⟩ := hbody.freed hm hframe ho hready
      refine ⟨_, .tried hst.charge hskip' hbody', ?_⟩
      simp only [Outcome.settle, hfreed.tree, hst.cursor]
      split
      · exact ⟨rfl, hfreed.state.move _⟩
      · exact hfreed

end Layer

/-- **A match after which the parse goes on is the match without limits**, in as many layers
or more. -/
theorem matchPattern_freedBy (setting : Setting) {layers layers' : Nat} (hle : layers ≤ layers') :
    (matchPattern setting layers).FreedBy (matchPattern setting.unlimited layers') := by
  induction layers generalizing layers' with
  | zero =>
      intro frame frame' _ p
      exact ⟨nofun, nofun⟩
  | succ layers ih =>
      obtain ⟨layers', rfl⟩ : ∃ k, layers' = k + 1 := ⟨layers' - 1, by omega⟩
      intro frame frame' hframe p
      refine ⟨matchPattern_along State.Onward.isCourse setting _ frame p, ?_⟩
      intro s t o h ho hst
      obtain ⟨o', hrun, hfreed⟩ := LayerRun.freed (ih (Nat.le_of_succ_le_succ hle)) hframe
        (matchOnce_eq_some_iff.mp h) ho hst
      exact ⟨o', matchOnce_eq_some_iff.mpr hrun, hfreed⟩

/-! ## Where trivia ends -/

/-- Skipping trivia at `c` leads to `d`, without limits. -/
def PastTrivia (rules : Rules) (beyond : List Char) (inTrivia : Bool) (c d : Cursor) : Prop :=
  ∃ layers s, SkipRun (matchPattern ⟨rules, beyond, none⟩ layers) ⟨rules, beyond, none⟩
    { Frame.outermost with inTrivia } (.start c none) s ∧ s.aborted = none ∧ s.cursor = d

/-- In a parse that goes on trivia is skipped as it is without limits. -/
theorem SkipRun.pastTrivia {setting : Setting} {layers : Nat} {frame : Frame} {s s' : State}
    (h : SkipRun (matchPattern setting layers) setting frame s s') (hrunning : s'.aborted = none) :
    PastTrivia setting.rules setting.beyond frame.inTrivia s.cursor s'.cursor := by
  have hstart : s.Freed (.start s.cursor none) := ⟨rfl, rfl, rfl⟩
  let outside : Frame := { Frame.outermost with inTrivia := frame.inTrivia }
  have hframe : frame.inTrivia = outside.inTrivia := rfl
  obtain ⟨t, hskip, hfreed⟩ :=
    h.freed (matchPattern_freedBy setting (Nat.le_refl layers)) hframe hrunning hstart
  exact ⟨layers, t, hskip, hfreed.running, hfreed.cursor.symm⟩

namespace PastTrivia

variable {rules : Rules} {beyond : List Char} {inTrivia : Bool} {c d d' : Cursor}

/-- **Trivia at a place ends at one place.** -/
theorem unique (h : PastTrivia rules beyond inTrivia c d)
    (h' : PastTrivia rules beyond inTrivia c d') : d = d' := by
  obtain ⟨layers, s, hskip, hrunning, rfl⟩ := h
  obtain ⟨layers', s', hskip', hrunning', rfl⟩ := h'
  -- both are the run with the layers of either
  have hstart : (State.start c none).Freed (.start c none) := ⟨rfl, rfl, rfl⟩
  obtain ⟨t, ht, hfreed⟩ := hskip.freed
    (matchPattern_freedBy _ (Nat.le_max_left layers layers')) rfl hrunning hstart
  obtain ⟨t', ht', hfreed'⟩ := hskip'.freed
    (matchPattern_freedBy _ (Nat.le_max_right layers layers')) rfl hrunning' hstart
  have hsame : t = t' :=
    Option.some.inj ((skipTrivia_eq_some_iff.mpr ht).symm.trans (skipTrivia_eq_some_iff.mpr ht'))
  rw [hfreed.cursor, hfreed'.cursor, hsame]

theorem reaches (h : PastTrivia rules beyond inTrivia c d) : c.Reaches d := by
  obtain ⟨layers, s, hskip, -, rfl⟩ := h
  exact (hskip.along State.Onward.isCourse
    (matchPattern_along State.Onward.isCourse _ layers)).cursor

/-- Without a rule for trivia there is none. -/
theorem eq_of_absent (h : PastTrivia rules beyond inTrivia c d) (hnone : rules.trivia? = none) :
    d = c := by
  obtain ⟨layers, s, hskip, -, rfl⟩ := h
  cases hskip with
  | inside | absent => rfl
  | skipped _ hsome =>
      have hsome : rules.trivia? = some _ := hsome
      rw [hnone] at hsome
      cases hsome

end PastTrivia

end OperatorPeg
