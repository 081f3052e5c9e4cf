import OperatorPeg.Proofs.Limits.Layers

/-!
# After the end of a parse

Once something has ended a parse nothing more is tried: every match that begins
after the end fails at once. A match that the end falls into fails too and goes back
to where it began, with one exception. A terminal does not ask whether the trivia
before it ended the parse, so it may still match, and what ends with that terminal
matches with it. `Outlasts` says which matches these are.
-/

namespace OperatorPeg

/-! ## Matches that outlast the parse -/

/-- The match ends with a terminal that matches although the trivia before it has ended the
parse: it is the match of that terminal, or of a sequence that ends with it, a choice
that comes to it, a rule or a label for it. -/
inductive Outlasts (setting : Setting) : Nat → Frame → Pattern → State → Prop
  | terminal {layers : Nat} {frame : Frame} {t : Terminal} {s charged ready : State} :
      s.charge = (true, charged) →
      SkipRun (matchPattern setting layers) setting frame charged ready →
      ready.isAborted = true → (t.matchEnd? setting.beyond ready.cursor).isSome →
      Outlasts setting (layers + 1) frame (.terminal t) s
  /-- No construction makes such a sequence. -/
  | nothing {layers : Nat} {frame : Frame} {s charged ready : State} :
      s.charge = (true, charged) →
      SkipRun (matchPattern setting layers) setting frame charged ready →
      ready.isAborted = true →
      Outlasts setting (layers + 1) frame (.sequence []) s
  | sequence {layers : Nat} {frame : Frame} {init : List Step} {last : Step}
      {s charged ready s' : State} {node : Tree} :
      s.charge = (true, charged) →
      SkipRun (matchPattern setting layers) setting frame charged ready →
      StepsRun (matchPattern setting layers frame) ready.cursor.offset [] init ready
        ⟨some node, s'⟩ →
      Outlasts setting layers frame last.pattern s' →
      Outlasts setting (layers + 1) frame (.sequence (init ++ [last])) s
  | choice {layers : Nat} {frame : Frame} {lost rest : List Pattern} {p : Pattern}
      {s charged ready s' : State} :
      s.charge = (true, charged) →
      SkipRun (matchPattern setting layers) setting frame charged ready →
      AlternativesRun (matchPattern setting layers frame) ready.cursor.offset 0 lost ready
        ⟨none, s'⟩ →
      Outlasts setting layers frame p s' →
      Outlasts setting (layers + 1) frame (.choice (lost ++ p :: rest)) s
  | lookup {layers : Nat} {frame : Frame} {key : String} {p : Pattern}
      {s charged ready : State} :
      s.charge = (true, charged) →
      SkipRun (matchPattern setting layers) setting frame charged ready →
      setting.rules.get? key = some p → setting.depthLimit.any (· ≤ frame.depth) = false →
      Outlasts setting layers { frame with depth := frame.depth + 1 } p
        (ready.add (.entered key ready.cursor.offset)) →
      Outlasts setting (layers + 1) frame (.lookup key) s
  | label {layers : Nat} {frame : Frame} {name : String} {inner : Pattern}
      {s charged ready : State} :
      s.charge = (true, charged) →
      SkipRun (matchPattern setting layers) setting frame charged ready →
      Outlasts setting layers frame inner ready →
      Outlasts setting (layers + 1) frame (.label name inner) s

/-- Only trivia ends the parse between paying for a pattern and matching it. -/
theorem SkipRun.of_ended {m : Matcher} {setting : Setting} {frame : Frame}
    {s charged ready : State} (hc : s.charge = (true, charged))
    (h : SkipRun m setting frame charged ready) (hend : ready.isAborted = true) :
    frame.inTrivia = false ∧ setting.rules.trivia?.isSome := by
  have hrunning := (State.running_of_charge hc).2
  cases h with
  | inside | absent =>
      rw [hrunning] at hend
      cases hend
  | skipped hout htrivia => exact ⟨hout, by simp [htrivia]⟩

namespace Outlasts

variable {setting : Setting} {layers : Nat} {frame : Frame} {p : Pattern} {s : State}

/-- What outlasts the parse began before its end. -/
theorem running (h : Outlasts setting layers frame p s) : s.isAborted = false := by
  cases h with
  | terminal hc | nothing hc | sequence hc | choice hc | lookup hc | label hc =>
      exact (State.running_of_charge hc).1

/-- Without a rule for trivia, and within trivia, nothing outlasts the parse. -/
theorem behind_trivia (h : Outlasts setting layers frame p s) :
    frame.inTrivia = false ∧ setting.rules.trivia?.isSome := by
  induction h with
  | terminal hc hskip hend | nothing hc hskip hend => exact hskip.of_ended hc hend
  | sequence _ _ _ _ ih | choice _ _ _ _ ih | lookup _ _ _ _ _ ih | label _ _ _ ih => exact ih

end Outlasts

/-! ## Loops by their last match -/

/-- Steps that match are followed by another one that matches. -/
theorem StepsRun.concat {m : Pattern → State → Option Outcome} {offset : Nat}
    {kept : List Tree} {init : List Step} {last : Step} {s s' s'' : State}
    {before node : Tree} {o : Outcome} (ho : o = ⟨some before, s'⟩)
    (h : StepsRun m offset kept init s o) (hlast : m last.pattern s' = some ⟨some node, s''⟩) :
    ∃ tree, StepsRun m offset kept (init ++ [last]) s ⟨some tree, s''⟩ := by
  induction h with
  | done kept s =>
      cases ho
      exact ⟨_, .matched hlast (.done _ s'')⟩
  | missed => cases ho
  | matched hm _ ih =>
      obtain ⟨tree, hrun⟩ := ih ho
      exact ⟨tree, .matched hm hrun⟩

/-- The steps of a sequence that matches, up to the last one. -/
theorem StepsRun.last {m : Pattern → State → Option Outcome} {offset : Nat}
    {kept : List Tree} {steps : List Step} {s : State} {o : Outcome}
    (h : StepsRun m offset kept steps s o) (ho : o.tree?.isSome) :
    (steps = [] ∧ o.state = s) ∨
      ∃ init last before between node, steps = init ++ [last] ∧
        StepsRun m offset kept init s ⟨some before, between⟩ ∧
        m last.pattern between = some ⟨some node, o.state⟩ := by
  induction h with
  | done => exact .inl ⟨rfl, rfl⟩
  | missed => cases ho
  | @matched kept step steps s₁ s₂ node o hm hrun ih =>
      refine .inr ?_
      obtain ⟨rfl, hs⟩ | ⟨init, last, before, between, node', rfl, hinit, hlast⟩ := ih ho
      · exact ⟨[], step, _, s₁, node, rfl, .done kept s₁, hs ▸ hm⟩
      · exact ⟨step :: init, last, before, between, node', rfl, .matched hm hinit, hlast⟩

/-- Alternatives that are missed are followed by one that matches. -/
theorem AlternativesRun.concat {m : Pattern → State → Option Outcome} {offset index : Nat}
    {lost rest : List Pattern} {p : Pattern} {s s' s'' : State} {child : Tree} {o : Outcome}
    (ho : o = ⟨none, s'⟩) (h : AlternativesRun m offset index lost s o)
    (hrunning : s'.isAborted = false) (hp : m p s' = some ⟨some child, s''⟩) :
    ∃ tree, AlternativesRun m offset index (lost ++ p :: rest) s ⟨some tree, s''⟩ := by
  induction h with
  | exhausted =>
      cases ho
      exact ⟨_, .chosen hp⟩
  | chosen => cases ho
  | aborted _ hend =>
      cases ho
      rw [hrunning] at hend
      cases hend
  | missed hm ha _ ih =>
      obtain ⟨tree, hrun⟩ := ih ho
      exact ⟨tree, .missed hm ha hrun⟩

/-- The alternatives of a choice that matches, up to the one that does. -/
theorem AlternativesRun.winner {m : Pattern → State → Option Outcome} {offset index : Nat}
    {ps : List Pattern} {s : State} {o : Outcome}
    (h : AlternativesRun m offset index ps s o) (ho : o.tree?.isSome) :
    ∃ lost p rest between child, ps = lost ++ p :: rest ∧
      AlternativesRun m offset index lost s ⟨none, between⟩ ∧
      m p between = some ⟨some child, o.state⟩ := by
  induction h with
  | exhausted | aborted => cases ho
  | @chosen index p ps s₁ _ child hp =>
      exact ⟨[], p, ps, s₁, child, rfl, .exhausted index s₁, hp⟩
  | @missed _ p _ _ _ _ hm ha _ ih =>
      obtain ⟨lost, q, rest, between, child, rfl, hlost, hq⟩ := ih ho
      exact ⟨p :: lost, q, rest, between, child, rfl, .missed hm ha hlost, hq⟩

/-- An expression looks whether the parse has ended after each of its operators. -/
theorem ClimbRun.running {c : Climbing} {rounds : Nat} {stack : List Pending}
    {operand : Option Tree} {lastEmpty : Option Nat} {s : State} {ms : List (Operator × Tree)}
    {o : Outcome} (h : ClimbRun c rounds stack operand lastEmpty s ms o)
    (ho : o.tree?.isSome) : o.state.isAborted = false := by
  induction h with
  | aborted | repeated => cases ho
  | @finished _ stack operand _ _ _ after _ _ ha hfinish =>
      cases operand with
      | some current =>
          cases hfinish
          rw [← ha, State.isAborted, State.isAborted, aborted_completeAll]
      | none =>
          simp only [finishExpression] at hfinish
          split at hfinish <;> cases hfinish
          cases ho
  | waits _ _ _ _ _ _ ih | completes _ _ _ _ _ _ ih => exact ih ho

/-! ## Which matches outlast the parse -/

/-- What matches, but for a lookahead, is left as it is. -/
theorem LayerRun.of_matched {m : Matcher} {setting : Setting} {frame : Frame} {p : Pattern}
    {s charged ready s' : State} {tree : Tree} (hc : s.charge = (true, charged))
    (hskip : SkipRun m setting frame charged ready)
    (hbody : BodyRun m setting frame ready p ⟨some tree, s'⟩) (hp : p.isLookahead = false) :
    LayerRun m setting frame p s ⟨some tree, s'⟩ := by
  have hrun := LayerRun.tried hc hskip hbody
  simpa only [Outcome.settle, hp, Option.isNone_some, Bool.or_self, Bool.false_eq_true,
    if_false] using hrun

variable {setting : Setting} {layers : Nat} {frame : Frame} {p : Pattern} {s : State}

theorem Outlasts.matched (h : Outlasts setting layers frame p s) :
    ∃ tree s', matchPattern setting layers frame p s = some ⟨some tree, s'⟩ ∧
      s'.isAborted = true := by
  induction h with
  | @terminal layers frame t _ _ ready hc hskip hend hstop =>
      obtain ⟨stop, hstop⟩ := Option.isSome_iff_exists.mp hstop
      have hbody : BodyRun (matchPattern setting layers) setting frame ready _ _ := .terminal t
      have hended := aborted_matchTerminal setting frame t ready
      rw [matchTerminal_of_matched hstop] at hbody hended
      refine ⟨_, _, matchOnce_eq_some_iff.mpr (.of_matched hc hskip hbody rfl), ?_⟩
      rw [State.isAborted, hended]
      exact hend
  | nothing hc hskip hend =>
      exact ⟨_, _, matchOnce_eq_some_iff.mpr
        (.of_matched hc hskip (.sequence (.done _ _)) rfl), hend⟩
  | sequence hc hskip hinit _ ih =>
      obtain ⟨_, s', hlast, hend⟩ := ih
      obtain ⟨tree, hrun⟩ := hinit.concat rfl hlast
      exact ⟨tree, s', matchOnce_eq_some_iff.mpr
        (.of_matched hc hskip (.sequence hrun) rfl), hend⟩
  | choice hc hskip hlost hp ih =>
      obtain ⟨_, s', hchild, hend⟩ := ih
      obtain ⟨tree, hrun⟩ := hlost.concat rfl hp.running hchild
      exact ⟨tree, s', matchOnce_eq_some_iff.mpr
        (.of_matched hc hskip (.choice hrun) rfl), hend⟩
  | lookup hc hskip hget hdepth _ ih =>
      obtain ⟨_, s', hchild, hend⟩ := ih
      exact ⟨_, _, matchOnce_eq_some_iff.mpr
        (.of_matched hc hskip (.lookup hget hdepth hchild) rfl), hend⟩
  | label hc hskip _ ih =>
      obtain ⟨_, s', hchild, hend⟩ := ih
      exact ⟨_, _, matchOnce_eq_some_iff.mpr (.of_matched hc hskip (.label hchild) rfl), hend⟩

/-- A match in an ended state outlasts the parse. Repetitions, lookaheads and expressions ask
whether the parse has ended, so the tree is none of theirs. -/
theorem outlasts_of_matched {o : Outcome}
    (h : matchPattern setting layers frame p s = some o) (htree : o.tree?.isSome)
    (hend : o.state.isAborted = true) : Outlasts setting layers frame p s := by
  induction layers generalizing frame p s o with
  | zero => cases h
  | succ layers ih =>
      cases matchOnce_eq_some_iff.mp h with
      | unpaid => cases htree
      | @tried charged ready inner hc hskip hbody =>
          rw [Outcome.tree?_settle] at htree
          rw [State.isAborted, Outcome.aborted_settle, ← State.isAborted] at hend
          cases hbody with
          | terminal t =>
              rw [State.isAborted, aborted_matchTerminal] at hend
              refine .terminal hc hskip hend ?_
              cases hstop : t.matchEnd? setting.beyond ready.cursor with
              | some stop => rfl
              | none =>
                  rw [matchTerminal_of_missed hstop] at htree
                  cases htree
          | sequence hrun =>
              obtain ⟨rfl, hs⟩ | ⟨init, last, _, _, _, rfl, hinit, hlast⟩ := hrun.last htree
              · exact .nothing hc hskip (hs ▸ hend)
              · exact .sequence hc hskip hinit (ih hlast rfl hend)
          | choice hrun =>
              obtain ⟨lost, p, rest, _, _, rfl, hlost, hp⟩ := hrun.winner htree
              exact .choice hc hskip hlost (ih hp rfl hend)
          | quantifier =>
              rw [Rounds.state_outcome] at hend
              simp [Rounds.outcome, hend] at htree
          | undefinedRule | tooDeep => cases htree
          | lookup hget hdepth hm =>
              rw [Option.isSome_map] at htree
              exact .lookup hc hskip hget hdepth (ih hm htree hend)
          | label hm =>
              rw [Option.isSome_map] at htree
              exact .label hc hskip (ih hm htree hend)
          | @lookahead _ _ o' =>
              have hended : o'.state.isAborted = true := hend
              simp [hended] at htree
          | table hrun =>
              rw [hrun.running htree] at hend
              cases hend

/-- **After the end of the parse nothing matches, except what outlasts it.** A match that
leaves the parse ended has failed and is back where it began, unless it ends with a
terminal that matches behind the trivia that ended the parse. One that began after the
end is none of these, and neither is one in trivia or without a rule for trivia. -/
theorem fails_after_the_end_iff {o : Outcome}
    (h : matchPattern setting layers frame p s = some o) (hend : o.state.isAborted = true) :
    (o.tree? = none ∧ o.state.cursor = s.cursor ↔ ¬ Outlasts setting layers frame p s) ∧
      (s.isAborted = true → o = ⟨none, s⟩) ∧
      (Outlasts setting layers frame p s →
        s.isAborted = false ∧ frame.inTrivia = false ∧ setting.rules.trivia?.isSome) := by
  refine ⟨⟨fun hfailed hout => ?_, fun hout => ?_⟩, matchPattern_of_aborted h,
    fun hout => ⟨hout.running, hout.behind_trivia⟩⟩
  · obtain ⟨tree, s', hmatched, -⟩ := hout.matched
    rw [h, Option.some.injEq] at hmatched
    rw [hmatched] at hfailed
    cases hfailed.1
  · cases htree : o.tree? with
    | none => exact ⟨rfl, matchPattern_back h htree⟩
    | some tree =>
        rcases o with ⟨_, s'⟩
        cases htree
        exact absurd (outlasts_of_matched h rfl hend) hout

/-- Trivia is any number of nothings, which ends every parse that looks for it. -/
private def endless : Rules :=
  .ofList [("_", .quantifier (.terminal (.literal "")) 0 none),
    ("a", .terminal (.literal "x"))]

/-- The end comes with the trivia before the letter that is missed. -/
theorem fails_after_the_end_iff_sample :
    ∃ o, matchPattern ⟨endless, [], none⟩ 9 .outermost (.terminal (.literal "x"))
        (State.start ⟨[], "y".toList, 0⟩ none) = some o ∧
      o.state.isAborted = true ∧ o.tree? = none ∧
      ¬ Outlasts ⟨endless, [], none⟩ 9 .outermost (.terminal (.literal "x"))
        (State.start ⟨[], "y".toList, 0⟩ none) := by
  have hrun : (matchPattern ⟨endless, [], none⟩ 9 .outermost (.terminal (.literal "x"))
      (State.start ⟨[], "y".toList, 0⟩ none)).any
        (fun o => o.state.isAborted && o.tree?.isNone && o.state.cursor.offset == 0) = true := by
    decide +kernel
  obtain ⟨o, h, ho⟩ := (Option.any_eq_true _ _).mp hrun
  simp only [Bool.and_eq_true, Option.isNone_iff_eq_none] at ho
  obtain ⟨⟨hend, htree⟩, -⟩ := ho
  exact ⟨o, h, hend, htree,
    (fails_after_the_end_iff h hend).1.mp ⟨htree, matchPattern_back h htree⟩⟩

/-- The letter after such trivia matches in a parse that has ended, and the cursor moves on
behind it. -/
theorem terminal_matches_after_the_end :
    ¬ ∀ (setting : Setting) (layers : Nat) (frame : Frame) (p : Pattern) (s : State)
        (o : Outcome), matchPattern setting layers frame p s = some o →
      o.state.isAborted = true → o.tree? = none ∧ o.state.cursor = s.cursor := by
  intro hfails
  have hrun : (matchPattern ⟨endless, [], none⟩ 9 .outermost (.terminal (.literal "x"))
      (State.start ⟨[], "x".toList, 0⟩ none)).any
        (fun o => o.state.isAborted && o.tree?.isSome && o.state.cursor.offset == 1) = true := by
    decide +kernel
  obtain ⟨o, h, ho⟩ := (Option.any_eq_true _ _).mp hrun
  simp only [Bool.and_eq_true] at ho
  obtain ⟨⟨hend, htree⟩, -⟩ := ho
  rw [(hfails _ _ _ _ _ _ h hend).1] at htree
  cases htree

end OperatorPeg
