import OperatorPeg.Proofs.Balance.Context
import OperatorPeg.Proofs.Precedence
import OperatorPeg.Proofs.Unlimited

/-!
# Expressions are greedy

An expression takes one operator after the other, each the first of its table that
matches where the one before it ended, and goes on as long as there is one. What is looked
for alternates with the operators themselves: an operator that takes something on its
right leaves no operand pending, any other leaves one. So the expression matches just if
an operand is pending when nothing more is found, and otherwise all that it can lack is an
operand there.

Where an operator matches is said without the loop: `ComesTo` is what a pattern comes to
at a place when nothing limits the parse and nothing ends it. `Greedy` is made of nothing
else, so it says which operators an expression has to take.
-/

namespace OperatorPeg

/-! ## What a pattern comes to at a place -/

/-- Without limits and without ending the parse, matching `p` at `c` gives `tree?` and leaves
the cursor at `d`. -/
def ComesTo (rules : Rules) (beyond : List Char) (inTrivia : Bool) (p : Pattern) (c : Cursor)
    (tree? : Option Tree) (d : Cursor) : Prop :=
  ∃ layers s, matchPattern ⟨rules, beyond, none⟩ layers { Frame.outermost with inTrivia } p
    (.start c none) = some ⟨tree?, s⟩ ∧ s.aborted = none ∧ s.cursor = d

/-- In a parse that goes on a pattern comes to what it comes to without limits. -/
theorem matchPattern_comesTo {setting : Setting} {layers : Nat} {frame : Frame} {p : Pattern}
    {s : State} {o : Outcome} (h : matchPattern setting layers frame p s = some o)
    (hrunning : o.state.aborted = none) :
    ComesTo setting.rules setting.beyond frame.inTrivia p s.cursor o.tree? o.state.cursor := by
  have hstart : s.Freed (.start s.cursor none) := ⟨rfl, rfl, rfl⟩
  let outside : Frame := { Frame.outermost with inTrivia := frame.inTrivia }
  have hframe : frame.inTrivia = outside.inTrivia := rfl
  obtain ⟨⟨_, t⟩, ht, rfl, hfreed⟩ :=
    ((matchPattern_freedBy setting (Nat.le_refl layers)) frame outside hframe p).free h hrunning
      hstart
  exact ⟨layers, t, ht, hfreed.running, hfreed.cursor.symm⟩

section Place

variable {rules : Rules} {beyond : List Char} {inTrivia : Bool}

/-- **A pattern comes to one thing at a place.** -/
theorem ComesTo.unique {p : Pattern} {c d d' : Cursor} {tree? tree?' : Option Tree}
    (h : ComesTo rules beyond inTrivia p c tree? d)
    (h' : ComesTo rules beyond inTrivia p c tree?' d') : tree? = tree?' ∧ d = d' := by
  obtain ⟨layers, s, hs, hrunning, rfl⟩ := h
  obtain ⟨layers', s', hs', hrunning', rfl⟩ := h'
  -- both are the match with the layers of either
  have hstart : (State.start c none).Freed (.start c none) := ⟨rfl, rfl, rfl⟩
  obtain ⟨o, ho, hfreed⟩ := ((matchPattern_freedBy _ (Nat.le_max_left layers layers')) _ _ rfl
    p).free hs hrunning hstart
  obtain ⟨o', ho', hfreed'⟩ := ((matchPattern_freedBy _ (Nat.le_max_right layers layers')) _ _
    rfl p).free hs' hrunning' hstart
  obtain rfl : o = o' := Option.some.inj (ho.symm.trans ho')
  exact ⟨hfreed.tree.trans hfreed'.tree.symm, hfreed.state.cursor.trans hfreed'.state.cursor.symm⟩

/-! ## The operators that an expression has to take -/

/-- Nullary and prefix operators are wanted while no operand is pending, infix and postfix
operators once one is. -/
def Operator.Wanted (op : Operator) (pending : Bool) : Prop :=
  if pending then op.fixity = .between ∨ op.fixity = .postfixed
  else op.fixity = .nullary ∨ op.fixity = .prefixed

theorem Operator.wanted_iff {op : Operator} {pending : Bool} :
    op.Wanted pending ↔ op.fixity.takesLeft = pending := by
  cases pending <;> cases h : op.fixity <;> simp [Operator.Wanted, h, Fixity.takesLeft]

variable (rules beyond inTrivia)

/-- No operator of the wanted kind matches at `c`. -/
def NoneMatches (operators : List Operator) (pending : Bool) (c : Cursor) : Prop :=
  ∀ op ∈ operators, op.Wanted pending → ComesTo rules beyond inTrivia op.pattern c none c

/-- `op` is the first operator of the wanted kind that matches at `c`. -/
structure FirstMatch (operators : List Operator) (pending : Bool) (c : Cursor) (op : Operator)
    (mid : Tree) (d : Cursor) : Prop where
  wanted : op.Wanted pending
  matched : ComesTo rules beyond inTrivia op.pattern c (some mid) d
  first : ∃ earlier later, operators = earlier ++ op :: later ∧
    NoneMatches rules beyond inTrivia earlier pending c

/-- From `c` on `found` are the operators that are taken, each the first that matches, until
none does, at `stop`. Whether an operand is pending changes on the way from `pending` to
`pending'`. -/
inductive Greedy (operators : List Operator) :
    Bool → Cursor → List (Operator × Tree) → Bool → Cursor → Prop
  | stops {pending : Bool} {c : Cursor} : NoneMatches rules beyond inTrivia operators pending c →
      Greedy operators pending c [] pending c
  | takes {pending pending' : Bool} {c d stop : Cursor} {op : Operator} {mid : Tree}
      {found : List (Operator × Tree)} :
      FirstMatch rules beyond inTrivia operators pending c op mid d →
      Greedy operators (!op.fixity.takesRight) d found pending' stop →
      Greedy operators pending c ((op, mid) :: found) pending' stop

variable {rules beyond inTrivia} {operators : List Operator} {pending : Bool} {c : Cursor}

/-- Where none matches there is no first match. -/
theorem FirstMatch.not_of_mem {op : Operator} {mid : Tree} {d : Cursor}
    (h : FirstMatch rules beyond inTrivia operators pending c op mid d) {others : List Operator}
    (hnone : NoneMatches rules beyond inTrivia others pending c) : op ∉ others := by
  intro hmem
  obtain ⟨htree, -⟩ := h.matched.unique (hnone op hmem h.wanted)
  cases htree

theorem FirstMatch.unique {op op' : Operator} {mid mid' : Tree} {d d' : Cursor}
    (h : FirstMatch rules beyond inTrivia operators pending c op mid d)
    (h' : FirstMatch rules beyond inTrivia operators pending c op' mid' d') :
    op = op' ∧ mid = mid' ∧ d = d' := by
  obtain ⟨earlier, later, hsplit, hnone⟩ := h.first
  obtain ⟨earlier', later', hsplit', hnone'⟩ := h'.first
  have hop : op = op' := by
    rcases List.append_eq_append_iff.mp (hsplit.symm.trans hsplit') with
      ⟨between, rfl, hrest⟩ | ⟨between, rfl, hrest⟩
    · cases between with
      | nil => exact (List.cons.inj hrest).1
      | cons x xs =>
          -- `op` is before `op'`, where none matches
          obtain rfl := (List.cons.inj hrest).1
          exact absurd (by simp) (h.not_of_mem hnone')
    · cases between with
      | nil => exact (List.cons.inj hrest).1.symm
      | cons x xs =>
          obtain rfl := (List.cons.inj hrest).1
          exact absurd (by simp) (h'.not_of_mem hnone)
  subst hop
  obtain ⟨htree, hcursor⟩ := h.matched.unique h'.matched
  exact ⟨rfl, Option.some.inj htree, hcursor⟩

/-- **The grammar settles which operators are taken.** -/
theorem Greedy.unique {found found' : List (Operator × Tree)} {after after' : Bool}
    {stop stop' : Cursor} (h : Greedy rules beyond inTrivia operators pending c found after stop)
    (h' : Greedy rules beyond inTrivia operators pending c found' after' stop') :
    found = found' ∧ after = after' ∧ stop = stop' := by
  induction h generalizing found' with
  | stops hnone =>
      cases h' with
      | stops => exact ⟨rfl, rfl, rfl⟩
      | takes hfirst =>
          obtain ⟨earlier, later, hsplit, -⟩ := hfirst.first
          exact absurd (by simp [hsplit]) (hfirst.not_of_mem hnone)
  | takes hfirst _ ih =>
      cases h' with
      | stops hnone =>
          obtain ⟨earlier, later, hsplit, -⟩ := hfirst.first
          exact absurd (by simp [hsplit]) (hfirst.not_of_mem hnone)
      | takes hfirst' hrest' =>
          obtain ⟨rfl, rfl, rfl⟩ := hfirst.unique hfirst'
          obtain ⟨rfl, rfl, rfl⟩ := ih hrest'
          exact ⟨rfl, rfl, rfl⟩

/-- At the last stop none matches. -/
theorem Greedy.noneMatches {found : List (Operator × Tree)} {after : Bool} {stop : Cursor}
    (h : Greedy rules beyond inTrivia operators pending c found after stop) :
    NoneMatches rules beyond inTrivia operators after stop := by
  induction h with
  | stops hnone => exact hnone
  | takes _ _ ih => exact ih

/-! ## The operator match of a round -/

/-- What `f` comes to in a parse that goes on, the pattern comes to at the cursor. -/
def Settles (rules : Rules) (beyond : List Char) (inTrivia : Bool)
    (f : Pattern → State → Option Outcome) : Prop :=
  ∀ p s o, f p s = some o → o.state.aborted = none →
    ComesTo rules beyond inTrivia p s.cursor o.tree? o.state.cursor

/-- What an operator match of a round says about the table. -/
def OperatorMatch (rules : Rules) (beyond : List Char) (inTrivia : Bool)
    (operators : List Operator) (pending : Bool) (c : Cursor) (found : Option (Operator × Tree))
    (d : Cursor) : Prop :=
  match found with
  | none => NoneMatches rules beyond inTrivia operators pending c ∧ d = c
  | some (op, mid) => FirstMatch rules beyond inTrivia operators pending c op mid d

theorem NoneMatches.cons {op : Operator} (hop : op.Wanted pending →
      ComesTo rules beyond inTrivia op.pattern c none c)
    (h : NoneMatches rules beyond inTrivia operators pending c) :
    NoneMatches rules beyond inTrivia (op :: operators) pending c :=
  List.forall_mem_cons.mpr ⟨hop, h⟩

/-- An operator that is not wanted, or does not match, changes nothing. -/
theorem OperatorMatch.cons {op : Operator} {found : Option (Operator × Tree)} {d : Cursor}
    (hop : op.Wanted pending → ComesTo rules beyond inTrivia op.pattern c none c)
    (h : OperatorMatch rules beyond inTrivia operators pending c found d) :
    OperatorMatch rules beyond inTrivia (op :: operators) pending c found d := by
  rcases found with _ | ⟨op', mid⟩
  · exact ⟨h.1.cons hop, h.2⟩
  · obtain ⟨hwanted, hmatched, earlier, later, rfl, hnone⟩ := h
    exact ⟨hwanted, hmatched, op :: earlier, later, rfl, hnone.cons hop⟩

theorem OperatorsRun.operatorMatch {f : Pattern → State → Option Outcome}
    (hf : Settles rules beyond inTrivia f) (honward : ∀ p, RunsAlong State.Onward (f p))
    (hback : ∀ p s o, f p s = some o → o.tree? = none → o.state.cursor = s.cursor)
    {s s' : State} {found : Option (Operator × Tree)}
    (h : OperatorsRun f (!pending) operators s (found, s')) (hrunning : s'.aborted = none) :
    OperatorMatch rules beyond inTrivia operators pending s.cursor found s'.cursor := by
  generalize hr : (found, s') = r at h
  induction h with
  | exhausted =>
      cases hr
      exact ⟨by simp [NoneMatches], rfl⟩
  | passed hkind _ ih =>
      refine (ih hr).cons fun hwanted => ?_
      rw [Operator.wanted_iff, hkind] at hwanted
      simp at hwanted
  | matched hkind hm =>
      cases hr
      have hwanted := Operator.wanted_iff.mpr (Bool.eq_not_of_ne hkind)
      rw [Bool.not_not] at hwanted
      exact ⟨hwanted, hf _ _ _ hm hrunning, [], _, rfl, by simp [NoneMatches]⟩
  | missed hkind hm hrest ih =>
      subst hr
      have hgoes := (hrest.along State.Onward.isCourse honward).running hrunning
      have hcursor := hback _ _ _ hm rfl
      have hmissed := hf _ _ _ hm hgoes
      rw [hcursor] at hmissed
      exact OperatorMatch.cons (fun _ => hmissed) (hcursor ▸ ih rfl)

end Place

/-! ## The loop -/

/-- A climbing loop whose patterns come to what they come to without limits. -/
structure Climbing.Settles (c : Climbing) (rules : Rules) (beyond : List Char) (inTrivia : Bool) :
    Prop where
  along : c.RunsAlong State.Onward
  matcher : ∀ frame, frame.inTrivia = inTrivia →
    OperatorPeg.Settles rules beyond inTrivia (c.matcher frame)
  back : ∀ frame p s o, c.matcher frame p s = some o → o.tree? = none →
    o.state.cursor = s.cursor
  peek : ∀ s offset s', c.peek s = some (offset, s') → s'.aborted = none →
    ∃ place, PastTrivia rules beyond inTrivia s.cursor place ∧ offset = place.offset
  frame : c.frame.inTrivia = inTrivia

/-- What an expression comes to that stops with or without a pending operand. -/
structure Outcome.Concludes (rules : Rules) (beyond : List Char) (frame : Frame)
    (pending : Bool) (stop : Cursor) (o : Outcome) : Prop where
  succeeds : o.tree?.isSome = pending
  matched : pending = true → o.state.cursor = stop
  missed : pending = false → frame.quiet = false → ∃ place events,
    PastTrivia rules beyond frame.inTrivia stop place ∧
      o.state.events = .failed ⟨place.offset, .term, .term⟩ :: events

section Loop

variable {c : Climbing} {rules : Rules} {beyond : List Char} {inTrivia : Bool}
  (hc : c.Settles rules beyond inTrivia)

include hc

theorem Climbing.Finds.operatorMatch {operand : Option Tree} {s before after : State}
    {found : Option (Operator × Tree)} (h : c.Finds operand s before found after)
    (hrunning : after.aborted = none) :
    OperatorMatch rules beyond inTrivia c.operators operand.isSome s.cursor found
      after.cursor := by
  have hcursor := h.cursor_before hc.along
  obtain ⟨probe, hprobe, hrun⟩ := h
  have hkind : operand.isNone = !operand.isSome := by cases operand <;> rfl
  rw [hkind] at hrun
  rw [← hcursor]
  exact hrun.operatorMatch (hc.matcher { c.frame with probe } hc.frame) (hc.along.matcher _)
    (hc.back _) hrunning

theorem finishExpression_concludes {stack : List Pending} {operand : Option Tree} {s : State}
    {o : Outcome} (h : finishExpression c stack operand s = some o)
    (hrunning : o.state.aborted = none) :
    o.Concludes rules beyond c.frame operand.isSome s.cursor := by
  cases operand with
  | some current =>
      cases h
      refine ⟨rfl, fun _ => cursor_completeAll .., fun hnone => ?_⟩
      cases hnone
  | none =>
      simp only [finishExpression] at h
      split at h
      · cases h
      · next offset s' hpeek =>
          cases h
          rw [State.aborted_missTerm] at hrunning
          obtain ⟨place, hplace, rfl⟩ := hc.peek _ _ _ hpeek hrunning
          refine ⟨rfl, fun hsome => ?_,
            fun _ hquiet => ⟨place, s'.events, hc.frame ▸ hplace, ?_⟩⟩
          · cases hsome
          · simp [State.missTerm, State.fail, State.add, hquiet]

/-- **A run of the loop is greedy**: whether an operand is at hand alternates with the
operators, and stopping is the only way to end. -/
theorem ClimbRun.greedy {rounds : Nat} {stack : List Pending} {operand : Option Tree}
    {lastEmpty : Option Nat} {s : State} {ms : List (Operator × Tree)} {o : Outcome}
    (h : ClimbRun c rounds stack operand lastEmpty s ms o) (hrunning : o.state.aborted = none) :
    ∃ pending stop, Greedy rules beyond inTrivia c.operators operand.isSome s.cursor ms pending
      stop ∧ o.Concludes rules beyond c.frame pending stop := by
  induction h with
  | aborted _ hend =>
      rw [State.isAborted_eq_false_iff.mpr hrunning] at hend
      cases hend
  | repeated => exact absurd hrunning (State.aborted_abort_ne _ _ _)
  | finished hfinds hgoes hfinish =>
      rw [State.isAborted_eq_false_iff] at hgoes
      obtain ⟨hnone, hcursor⟩ := hfinds.operatorMatch hc hgoes
      have hend := finishExpression_concludes hc hfinish hrunning
      rw [hcursor] at hend
      exact ⟨_, _, .stops hnone, hend⟩
  | waits hfinds hgoes _ htake hright _ ih =>
      rw [State.isAborted_eq_false_iff] at hgoes
      obtain ⟨pending, stop, hgreedy, hend⟩ := ih hrunning
      rw [cursor_takeOperand htake, State.cursor_add] at hgreedy
      exact ⟨pending, stop, .takes (hfinds.operatorMatch hc hgoes) (hright ▸ hgreedy), hend⟩
  | completes hfinds hgoes _ htake hright _ ih =>
      rw [State.isAborted_eq_false_iff] at hgoes
      obtain ⟨pending, stop, hgreedy, hend⟩ := ih hrunning
      rw [State.cursor_add, cursor_takeOperand htake, State.cursor_add] at hgreedy
      exact ⟨pending, stop, .takes (hfinds.operatorMatch hc hgoes) (hright ▸ hgreedy), hend⟩

end Loop

/-! ## Expressions -/

theorem climbing_settles (setting : Setting) (layers : Nat) (frame : Frame)
    (operators : List Operator) :
    Climbing.Settles ⟨matchPattern setting layers,
        peekPastTrivia (matchPattern setting layers) setting frame,
        { frame with probe := none }, operators⟩
      setting.rules setting.beyond frame.inTrivia where
  along := climbing_along State.Onward.isCourse
    (matchPattern_along State.Onward.isCourse setting layers) operators
  matcher := by
    rintro frame' hframe p s o h hrunning
    exact hframe ▸ matchPattern_comesTo h hrunning
  back := fun _ _ _ _ => matchPattern_back
  peek := by
    intro s offset s' h hrunning
    obtain ⟨after, hskip, heq⟩ := Option.map_eq_some_iff.mp h
    cases heq
    exact ⟨after.cursor, (skipTrivia_eq_some_iff.mp hskip).pastTrivia hrunning, rfl⟩
  frame := rfl

/-- A tree that the loop builds has its operators in the order of their matches, each with the
operands that it takes. -/
theorem ExpressionRun.skeleton {c : Climbing} {s : State} {found : List (Operator × Tree)}
    {o : Outcome} (h : ExpressionRun c s found o) {tree : Tree} (ho : o.tree? = some tree) :
    ∃ sk : Skeleton, sk.tree? = some tree ∧ sk.inorder = found ∧ sk.Shaped := by
  obtain ⟨hgrouped, horder, hpresent, htree⟩ :=
    ClimbRun.assembles h ho Assembly.Grouped.empty rfl rfl
  obtain ⟨hsk, hinorder⟩ := hgrouped.reduceAll hpresent
  exact ⟨_, htree, hinorder.trans horder, hsk.shaped⟩

namespace Engine

/-- **Completing never lacks an operand**: once one is at hand, every operator on the stack gets
its right operand, whatever the stack, and all that changes in the context is what is written
down. -/
theorem reduceAll_of_operand (m : Pattern → Engine (Option Tree)) (stack : List Pending)
    (operand : Tree) (ctx : Context) :
    ∃ trace, reduceAll m stack (some operand) ctx =
      some (some (stack.foldl (fun right top => top.complete (some right)) operand),
        { ctx with trace }) := by
  induction stack generalizing operand ctx with
  | nil => exact ⟨ctx.trace, rfl⟩
  | cons top stack ih =>
      obtain ⟨trace, htrace⟩ := ih (top.complete (some operand))
        { ctx with trace := .reduced top.operator.name :: ctx.trace }
      exact ⟨trace, htrace⟩

end Engine

/-- What an expression match comes to that starts at `s` and whose operators `found` lead to
`stop`, with an operand pending there or not. -/
structure Outcome.IsGreedy (setting : Setting) (frame : Frame) (operators : List Operator)
    (s : State) (o : Outcome) (start : Cursor) (found : List (Operator × Tree)) (pending : Bool)
    (stop : Cursor) : Prop where
  starts : PastTrivia setting.rules setting.beyond frame.inTrivia s.cursor start
  greedy : Greedy setting.rules setting.beyond frame.inTrivia operators false start found pending
    stop
  /-- Nothing else is greedy from there. -/
  unique : ∀ found' pending' stop', Greedy setting.rules setting.beyond frame.inTrivia operators
    false start found' pending' stop' → found' = found ∧ pending' = pending ∧ stop' = stop
  succeeds : o.tree?.isSome = pending
  /-- A match ends where the last operator does, and no operator goes on from there. -/
  matched : pending = true → o.state.cursor = stop ∧
    NoneMatches setting.rules setting.beyond frame.inTrivia operators true stop
  /-- In the tree every operator has just the operands that it takes. -/
  complete : ∀ tree, o.tree? = some tree → ∃ sk : Skeleton, sk.tree? = some tree ∧
    sk.inorder = found ∧ sk.Shaped
  missed : pending = false → o.state.cursor = s.cursor
  /-- An operand is missed where trivia ends behind the last operator. -/
  recorded : pending = false → frame.quiet = false → ∃ place events,
    PastTrivia setting.rules setting.beyond frame.inTrivia stop place ∧
      o.state.events = .failed ⟨place.offset, .term, .term⟩ :: events

theorem Outcome.IsGreedy.settle {setting : Setting} {frame : Frame} {operators : List Operator}
    {s : State} {o : Outcome} {start stop : Cursor} {found : List (Operator × Tree)}
    {pending : Bool}
    (hstart : PastTrivia setting.rules setting.beyond frame.inTrivia s.cursor start)
    (hgreedy : Greedy setting.rules setting.beyond frame.inTrivia operators false start found
      pending stop)
    (hend : o.Concludes setting.rules setting.beyond { frame with probe := none } pending stop)
    (hcomplete : ∀ tree, o.tree? = some tree → ∃ sk : Skeleton, sk.tree? = some tree ∧
      sk.inorder = found ∧ sk.Shaped) :
    (o.settle (.table operators) s.cursor).IsGreedy setting frame operators s start found pending
      stop := by
  have hsucceeds := hend.succeeds
  refine ⟨hstart, hgreedy, fun _ _ _ h => h.unique hgreedy, ?_, ?_, ?_, ?_, ?_⟩
  · rw [Outcome.tree?_settle, hsucceeds]
  · rintro rfl
    refine ⟨?_, hgreedy.noneMatches⟩
    have hmatched := Option.isSome_iff_ne_none.mp hsucceeds
    rw [Outcome.settle, if_neg (by simp [Pattern.isLookahead, hmatched])]
    exact hend.matched rfl
  · rw [Outcome.tree?_settle]
    exact hcomplete
  · rintro rfl
    rw [Outcome.settle, if_pos (by simpa using Or.inl hsucceeds)]
  · intro hpending hquiet
    obtain ⟨place, events, hplace, hevents⟩ := hend.missed hpending hquiet
    exact ⟨place, events, hplace, by rw [Outcome.events_settle, hevents]⟩

/-- **Expressions are greedy and fail only for a missing operand.** An expression match that
does not end the parse takes the operators that it has to take; it succeeds just if an operand
is pending when there is no more. An operator on the stack never lacks its right operand once
there is one. -/
theorem expression_is_greedy {setting : Setting} {layers : Nat} {frame : Frame}
    {operators : List Operator} {s : State} {o : Outcome}
    (h : matchPattern setting layers frame (.table operators) s = some o)
    (hrunning : o.state.aborted = none) :
    (∃ start found pending stop,
      o.IsGreedy setting frame operators s start found pending stop) ∧
    ∀ m stack operand ctx, ∃ trace, Engine.reduceAll m stack (some operand) ctx =
      some (some (stack.foldl (fun right top => top.complete (some right)) operand),
        { ctx with trace }) := by
  refine ⟨?_, Engine.reduceAll_of_operand⟩
  cases layers with
  | zero => cases h
  | succ layers =>
      cases matchOnce_eq_some_iff.mp h with
      | unpaid hc => exact absurd hrunning (State.aborted_of_unpaid hc)
      | @tried charged ready inner hc hskip hbody =>
          rw [Outcome.aborted_settle] at hrunning
          have hgoes := (hbody.along State.Onward.isCourse
            (matchPattern_along State.Onward.isCourse setting layers)).running hrunning
          have hstart := hskip.pastTrivia hgoes
          rw [State.cursor_of_charge hc] at hstart
          cases hbody with
          | @table _ found _ hrun =>
              obtain ⟨pending, stop, hgreedy, hend⟩ :=
                ClimbRun.greedy (climbing_settles setting layers frame operators) hrun hrunning
              refine ⟨ready.cursor, found, pending, stop, ?_⟩
              exact .settle hstart hgreedy hend fun _ htree => hrun.skeleton htree

/-- Sums of ones with signs, with blanks between them. -/
private def sumOperators : List Operator := [
  ⟨"one", none, none, .terminal (.literal "1")⟩,
  ⟨"negate", none, some 1, .terminal (.literal "-")⟩,
  ⟨"add", some 2, some 2, .terminal (.literal "+")⟩]

private def sumSetting : Setting := ⟨.ofList [("_", .terminal (.literal " "))], [], none⟩

/-- After `1 + -` an operand is missing. -/
theorem expression_is_greedy_sample :
    ∃ o, matchPattern sumSetting 3 .outermost (.table sumOperators)
        (.start (.atStart "1 + -".toList) none) = some o ∧
      o.state.aborted = none ∧ o.tree?.isNone = true ∧
      (∃ start found pending stop, o.IsGreedy sumSetting .outermost sumOperators
        (.start (.atStart "1 + -".toList) none) start found pending stop) ∧
      ∀ m stack operand ctx, ∃ trace, Engine.reduceAll m stack (some operand) ctx =
        some (some (stack.foldl (fun right top => top.complete (some right)) operand),
          { ctx with trace }) := by
  have hends : (matchPattern sumSetting 3 .outermost (.table sumOperators)
      (.start (.atStart "1 + -".toList) none)).any
        (fun o => !o.state.isAborted && o.tree?.isNone) = true := by decide +kernel
  obtain ⟨o, ho, hend⟩ := (Option.any_eq_true _ _).mp hends
  rw [Bool.and_eq_true, Bool.not_eq_true', State.isAborted_eq_false_iff] at hend
  exact ⟨o, ho, hend.1, hend.2, expression_is_greedy ho hend.1⟩

end OperatorPeg
