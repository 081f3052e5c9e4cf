import OperatorPeg.Proofs.Balance
import OperatorPeg.Proofs.Moments
import OperatorPeg.Proofs.Reporting

/-!
# Failures that only end an expression

An expression ends where no operator continues it, so that the operators it tries there
fail is nothing to report next to a failure of another kind. Such a failure is marked as a
probe. What is marked is told by one offset that is set before the operators of a round are
tried, cleared after them, set aside while a nested expression is matched and put back
after it.

Here the failures of a parse are read off its moments, each with what the innermost
expression does then: a terminal that is missed is a probe just if that expression tries
the operators that would continue it and the terminal is missed where it began to look for
them. That is all that the offset comes to, both where it is handed down with the frame and
where it is kept in one place for the whole parse.
-/

namespace OperatorPeg

/-! ## Failures that are raised -/

/-- Something that is missed, with what the innermost expression does then. -/
structure Raised where
  situation : Situation
  offset : Nat
  missing : Missing
  deriving DecidableEq, Repr

namespace Raised

/-- A terminal that is missed where an expression looks on for an operator to continue it only
ends the expression. -/
def priority (r : Raised) : Priority :=
  match r.missing with
  | .term => .term
  | .token _ => if r.situation = .continuing r.offset then .probe else .token

def failure (r : Raised) : Failure := ⟨r.offset, r.priority, r.missing⟩

end Raised

/-- What is missed at a moment outside lookaheads and trivia: a terminal that does not match, an
operand or the end of the range. -/
def Moment.raised? (beyond : List Char) (moment : Moment) : Option Raised :=
  if moment.frame.quiet then none
  else
    match moment.happening with
    | .faces (.terminal t) s =>
        if (t.matchEnd? beyond s.cursor).isSome then none
        else some ⟨moment.situation, s.cursor.offset, .token t.description⟩
    | .lacksOperand offset => some ⟨moment.situation, offset, .term⟩
    | .lacksEnd s => some ⟨moment.situation, s.cursor.offset, .token endOfInput⟩
    | _ => none

/-- Whether something is looked for then that may be missed. -/
def Happening.seeks : Happening → Bool
  | .faces .. | .lacksOperand _ | .lacksEnd _ => true
  | .tries .. | .unpaid _ | .comesTo .. | .stuck _ | .lacksRule .. | .tooDeep _ => false

/-- What is missed in the course of these moments. -/
def raisedIn (beyond : List Char) (moments : List Moment) : List Raised :=
  moments.filterMap (Moment.raised? beyond)

/-- The failures that these moments record. -/
def failuresIn (beyond : List Char) (moments : List Moment) : List Failure :=
  (raisedIn beyond moments).map Raised.failure

section FailuresIn

variable (beyond : List Char)

@[simp] theorem failuresIn_nil : failuresIn beyond [] = [] := rfl

@[simp] theorem failuresIn_append (before after : List Moment) :
    failuresIn beyond (before ++ after) = failuresIn beyond before ++ failuresIn beyond after := by
  simp [failuresIn, raisedIn]

/-- Nothing is missed unless something is looked for. -/
theorem failuresIn_of_not_seeks {situation : Situation} {frame : Frame} {happening : Happening}
    (h : happening.seeks = false) : failuresIn beyond [⟨situation, frame, happening⟩] = [] := by
  have hnone : Moment.raised? beyond ⟨situation, frame, happening⟩ = none := by
    unfold Moment.raised?
    split
    · rfl
    · cases happening with
      | faces | lacksOperand | lacksEnd => cases h
      | _ => rfl
  rw [failuresIn, raisedIn, List.filterMap_cons_none hnone]
  rfl

end FailuresIn

/-- The failures so far, in their order. -/
def State.failures (s : State) : List Failure := Event.failures s.events.reverse

/-- From `s` to `s'` just these failures are recorded. -/
def State.Misses (s : State) (failures : List Failure) (s' : State) : Prop :=
  s'.failures = s.failures ++ failures

namespace State

variable {s s' s₁ s₂ : State}

theorem failures_add (s : State) (e : Event) :
    (s.add e).failures = s.failures ++ Event.failures [e] := by
  simp [failures, Event.failures, add]

namespace Misses

variable {fs gs : List Failure}

theorem refl (s : State) : s.Misses [] s := (List.append_nil _).symm

theorem trans (h₁ : s.Misses fs s₁) (h₂ : s₁.Misses gs s₂) : s.Misses (fs ++ gs) s₂ := by
  rw [Misses, h₂, h₁, List.append_assoc]

/-- Nothing is recorded where no event is written down. -/
theorem of_events (h : s'.events = s.events) : s.Misses [] s' := by
  simp [Misses, failures, h]

/-- Events that are not failures do not count. -/
theorem note (s : State) {e : Event} (he : Event.failures [e] = []) : s.Misses [] (s.add e) := by
  rw [Misses, failures_add, he]

theorem then_note (h : s.Misses fs s') {e : Event} (he : Event.failures [e] = []) :
    s.Misses fs (s'.add e) := by
  rw [← List.append_nil fs]
  exact h.trans (note s' he)

theorem after_note {e : Event} (he : Event.failures [e] = []) (h : (s.add e).Misses fs s') :
    s.Misses fs s' := (note s he).trans h

theorem move (h : s.Misses fs s') (c : Cursor) : s.Misses fs { s' with cursor := c } := h

theorem abort (h : s.Misses fs s') (offset : Nat) (cause : Abort) :
    s.Misses fs (s'.abort offset cause) := by
  rw [← List.append_nil fs]
  exact h.trans (of_events (s'.events_abort offset cause))

theorem fail (s : State) (frame : Frame) (f : Failure) :
    s.Misses (if frame.quiet then [] else [f]) (s.fail frame f) := by
  unfold State.fail
  split
  · exact refl s
  · exact failures_add s _

theorem missTerm (s : State) (frame : Frame) (offset : Nat) :
    s.Misses (if frame.quiet then [] else [⟨offset, .term, .term⟩]) (s.missTerm frame offset) :=
  fail s frame _

theorem missToken (s : State) (frame : Frame) (offset : Nat) (description : String) :
    s.Misses
      (if frame.quiet then []
        else [⟨offset, if frame.probe = some offset then .probe else .token,
          .token description⟩])
      (s.missToken frame offset description) := fail s frame _

theorem of_charge {paid : Bool} (h : s.charge = (paid, s')) : s.Misses [] s' := by
  unfold charge at h
  split at h
  · cases h
    exact refl _
  · split at h <;> cases h
    · exact refl _
    · exact (refl _).abort _ _
    · exact refl s

theorem tried (s : State) (frame : Frame) (t : Terminal) (matched : Option String) :
    s.Misses [] (s.tried frame t matched) := by
  unfold State.tried
  split
  · exact refl s
  · exact note s rfl

theorem completeBefore (next : Operator) (stack : List Pending) (current : Tree) (s : State) :
    s.Misses [] (OperatorPeg.completeBefore next stack current s).2 := by
  induction stack generalizing current s with
  | nil => exact refl s
  | cons top stack ih =>
      simp only [OperatorPeg.completeBefore]
      split
      · exact (ih _ _).after_note rfl
      · exact refl s

theorem takeOperand (op : Operator) (stack : List Pending) (operand : Option Tree) (s : State) :
    s.Misses [] (OperatorPeg.takeOperand op stack operand s).2 := by
  cases operand with
  | none => exact refl s
  | some current => exact completeBefore op stack current s

/-- What an operator takes is no failure, and neither is the operator. -/
theorem of_takeOperand {op : Operator} {mid : Tree} {stack rest : List Pending}
    {operand left : Option Tree}
    (h : OperatorPeg.takeOperand op stack operand (s.add (.operator op.name mid.offset))
      = ((rest, left), s')) : s.Misses [] s' := by
  have htaken := takeOperand op stack operand (s.add (.operator op.name mid.offset))
  rw [h] at htaken
  exact htaken.after_note rfl

theorem completeAll (stack : List Pending) (current : Tree) (s : State) :
    s.Misses [] (OperatorPeg.completeAll stack current s).2 := by
  induction stack generalizing current s with
  | nil => exact refl s
  | cons top stack ih => exact (ih _ _).after_note rfl

end Misses

end State

/-! ## Loops -/

/-- The moments `w` tell which failures `f` records. -/
def Tells (beyond : List Char) (f : State → Option Outcome) (w : State → List Moment) : Prop :=
  ∀ s o, f s = some o → s.Misses (failuresIn beyond (w s)) o.state

section Loops

variable {beyond : List Char} {m : Pattern → State → Option Outcome}
  {w : Pattern → State → List Moment} (hm : ∀ p, Tells beyond (m p) (w p))

include hm

theorem StepsRun.misses {offset : Nat} {kept : List Tree} {steps : List Step} {s : State}
    {o : Outcome} (h : StepsRun m offset kept steps s o) :
    s.Misses (failuresIn beyond (stepsLog m w steps s)) o.state := by
  induction h with
  | done _ s => exact .refl s
  | missed hf =>
      simp only [stepsLog, hf, List.append_nil]
      exact hm _ _ _ hf
  | matched hf _ ih =>
      simp only [stepsLog, hf, failuresIn_append]
      exact (hm _ _ _ hf).trans ih

theorem AlternativesRun.misses {offset index : Nat} {ps : List Pattern} {s : State} {o : Outcome}
    (h : AlternativesRun m offset index ps s o) :
    s.Misses (failuresIn beyond (alternativesLog m w offset index ps s)) o.state := by
  induction h with
  | exhausted _ s => exact .refl s
  | chosen hf =>
      simp only [alternativesLog, hf, List.append_nil]
      exact hm _ _ _ hf
  | aborted hf hend =>
      simp only [alternativesLog, hf, hend, if_true, List.append_nil]
      exact hm _ _ _ hf
  | missed hf hrunning _ ih =>
      simp only [alternativesLog, hf, hrunning, Bool.false_eq_true, if_false,
        failuresIn_append]
      exact (hm _ _ _ hf).trans (ih.after_note rfl)

theorem UpToRun.misses {p : Pattern} {n : Nat} {r r' : Rounds} (h : UpToRun (m p) n r r') :
    r.state.Misses (failuresIn beyond (upToLog (m p) (w p) n r.state)) r'.state := by
  induction h with
  | full r => exact .refl r.state
  | missed hf =>
      simp only [upToLog, hf, List.append_nil]
      exact hm _ _ _ hf
  | matched hf _ ih =>
      simp only [upToLog, hf, failuresIn_append]
      exact (hm _ _ _ hf).trans ih

variable {stuck : Nat → List Moment} (hstuck : ∀ offset, failuresIn beyond (stuck offset) = [])

include hstuck

theorem WhileRun.misses {p : Pattern} {budget : List Char} {r r' : Rounds}
    (h : WhileRun (m p) budget r r') :
    r.state.Misses (failuresIn beyond (whileLog (m p) (w p) stuck budget r.state)) r'.state := by
  induction h with
  | missed hf =>
      rw [whileLog]
      simp only [hf, List.append_nil]
      exact hm _ _ _ hf
  | stuck hf hstill =>
      rw [whileLog]
      simp only [hf, hstill, beq_self_eq_true, if_true, failuresIn_append, hstuck, List.append_nil]
      exact (hm _ _ _ hf).abort _ _
  | matched hf hmoved _ ih =>
      rw [whileLog]
      simp only [hf, beq_iff_eq, hmoved, if_false, failuresIn_append]
      exact (hm _ _ _ hf).trans ih

theorem RoundsRun.misses {p : Pattern} {most : Option Nat} {s : State} {r : Rounds}
    (h : RoundsRun (m p) most s r) :
    s.Misses (failuresIn beyond (roundsLog (m p) (w p) stuck most s)) r.state := by
  cases most with
  | some n => exact UpToRun.misses hm h
  | none => exact WhileRun.misses hm hstuck h

omit hstuck

theorem OperatorsRun.misses {wantOperand : Bool} {ops : List Operator} {s : State}
    {r : Option (Operator × Tree) × State} (h : OperatorsRun m wantOperand ops s r) :
    s.Misses (failuresIn beyond (operatorsLog m w wantOperand ops s)) r.2 := by
  induction h with
  | exhausted s => exact .refl s
  | passed hkind _ ih =>
      simp only [operatorsLog, hkind, beq_self_eq_true, if_true]
      exact ih
  | matched hkind hf =>
      simp only [operatorsLog, beq_iff_eq, hkind, if_false, hf, List.append_nil]
      exact hm _ _ _ hf
  | missed hkind hf _ ih =>
      simp only [operatorsLog, beq_iff_eq, hkind, if_false, hf, failuresIn_append]
      exact (hm _ _ _ hf).trans ih

end Loops

/-! ## Expressions -/

/-- The moments of a climbing loop tell the failures of its operators, where it tries them, and
of its lookout. -/
structure Climbing.Told (beyond : List Char) (c : Climbing) (w : Log Moment)
    (peek : State → List Moment) : Prop where
  matcher : ∀ place p, Tells beyond (c.matcher { c.frame with probe := place } p)
    (w (.trying place) { c.frame with probe := place } p)
  peek : ∀ s offset s', c.peek s = some (offset, s') → s.Misses (failuresIn beyond (peek s)) s'

section Climb

variable {beyond : List Char} {c : Climbing} {w : Log Moment} {peek : State → List Moment}
  (hc : c.Told beyond w peek)

include hc

theorem Climbing.Finds.misses {operand : Option Tree} {s before after : State}
    {found : Option (Operator × Tree)} (h : c.Finds operand s before found after) :
    s.Misses (failuresIn beyond (findsLog c w peek operand s)) after := by
  obtain ⟨place, hprobe, hrun⟩ := h
  have htried := hrun.misses (hc.matcher place)
  simp only [findsLog, hprobe, failuresIn_append]
  refine State.Misses.trans ?_ htried
  cases operand with
  | none =>
      cases hprobe
      exact .refl s
  | some operand =>
      obtain ⟨⟨offset, s'⟩, hpeek, heq⟩ := Option.map_eq_some_iff.mp hprobe
      cases heq
      exact hc.peek _ _ _ hpeek

theorem finishExpression_misses {stack : List Pending} {operand : Option Tree} {s : State}
    {o : Outcome} (h : finishExpression c stack operand s = some o) :
    s.Misses (failuresIn beyond (finishLog ([·]) c peek operand s)) o.state := by
  cases operand with
  | some current =>
      cases h
      exact .completeAll stack current s
  | none =>
      simp only [finishExpression] at h
      split at h
      · cases h
      · next offset s' hpeek =>
          cases h
          simp only [finishLog, hpeek, failuresIn_append]
          refine (hc.peek _ _ _ hpeek).trans ?_
          have hmissed := State.Misses.missTerm s' c.frame offset
          cases hquiet : c.frame.quiet <;>
            simpa [failuresIn, raisedIn, Moment.raised?, Raised.failure, Raised.priority, hquiet]
              using hmissed

/-- What is found, and the operators that complete before it, are no failures. -/
theorem ClimbRun.misses {rounds : Nat} {stack : List Pending} {operand : Option Tree}
    {lastEmpty : Option Nat} {s : State} {ms : List (Operator × Tree)} {o : Outcome}
    (h : ClimbRun c rounds stack operand lastEmpty s ms o) :
    s.Misses (failuresIn beyond (climbLog ([·]) c w peek rounds stack operand lastEmpty s))
      o.state := by
  induction h with
  | aborted hfinds hend =>
      simp only [climbLog, hfinds.find, hend, if_true, List.append_nil]
      exact hfinds.misses hc
  | finished hfinds hrunning hfinish =>
      simp only [climbLog, hfinds.find, hrunning, Bool.false_eq_true, if_false,
        failuresIn_append]
      exact (hfinds.misses hc).trans (finishExpression_misses hc hfinish)
  | repeated hfinds hrunning hstill hrepeats =>
      simp only [climbLog, hfinds.find, hrunning, hstill, hrepeats, beq_self_eq_true,
        Bool.and_self, Bool.false_eq_true, if_false, if_true, failuresIn_append]
      rw [failuresIn_of_not_seeks _ rfl, List.append_nil]
      exact (hfinds.misses hc).abort _ _
  | waits hfinds hrunning hpasses htake hright _ ih =>
      simp only [climbLog, hfinds.find, hrunning, Bool.and_eq_true, beq_iff_eq, hpasses, htake,
        hright, Bool.false_eq_true, if_false, if_true, failuresIn_append]
      exact (hfinds.misses hc).trans ((State.Misses.of_takeOperand htake).trans ih)
  | completes hfinds hrunning hpasses htake hright _ ih =>
      simp only [climbLog, hfinds.find, hrunning, Bool.and_eq_true, beq_iff_eq, hpasses, htake,
        hright, Bool.false_eq_true, if_false, failuresIn_append]
      exact (hfinds.misses hc).trans
        ((State.Misses.of_takeOperand htake).trans (ih.after_note rfl))

end Climb

/-! ## Layers -/

/-- The moments `w` tell which failures are recorded in matching with `m`. -/
def Matcher.Told (beyond : List Char) (m : Matcher) (w : Log Moment) : Prop :=
  ∀ situation frame, situation.Suits frame → ∀ p, Tells beyond (m frame p) (w situation frame p)

/-- A terminal that is missed is a probe just if the situation says so. -/
theorem matchTerminal_misses {situation : Situation} {frame : Frame}
    (hsuits : situation.Suits frame) (setting : Setting) (t : Terminal) (s : State) :
    s.Misses (failuresIn setting.beyond [⟨situation, frame, .faces (.terminal t) s⟩])
      (matchTerminal setting frame t s).state := by
  cases hend : t.matchEnd? setting.beyond s.cursor with
  | some stop =>
      rw [matchTerminal_of_matched hend]
      have hnone : failuresIn setting.beyond [⟨situation, frame, .faces (.terminal t) s⟩] = [] := by
        cases hquiet : frame.quiet <;>
          simp [failuresIn, raisedIn, Moment.raised?, hquiet, hend]
      rw [hnone]
      exact .tried s frame t _
  | none =>
      rw [matchTerminal_of_missed hend]
      have hmissed := (State.Misses.tried s frame t none).trans
        (.missToken _ frame s.cursor.offset t.description)
      cases hquiet : frame.quiet with
      | true => simpa [failuresIn, raisedIn, Moment.raised?, hquiet] using hmissed
      | false =>
          have hprobe : frame.probe = situation.place? := by
            simpa [Situation.Suits, hquiet] using hsuits
          simpa [failuresIn, raisedIn, Moment.raised?, hquiet, hend, Raised.failure,
            Raised.priority, hprobe, Situation.place?_eq_some_iff] using hmissed

section Layers

variable {setting : Setting} {m : Matcher} {w : Log Moment} (hm : m.Told setting.beyond w)
  {frame : Frame}

include hm

/-- Nothing is recorded in trivia, whatever the situation. -/
theorem SkipRun.misses (situation : Situation) {s s' : State}
    (h : SkipRun m setting frame s s') :
    s.Misses (failuresIn setting.beyond (skipLog w setting situation frame s)) s' := by
  cases h with
  | inside hin =>
      simp only [skipLog, hin, if_true]
      exact .refl s
  | absent hin hnone =>
      simp only [skipLog, hin, hnone, Bool.false_eq_true, if_false]
      exact .refl s
  | skipped hin hsome ho =>
      simp only [skipLog, hin, hsome, Bool.false_eq_true, if_false]
      exact hm situation _ (.inl rfl) _ _ _ ho

theorem climbing_told (operators : List Operator) :
    Climbing.Told setting.beyond
      ⟨m, peekPastTrivia m setting frame, { frame with probe := none }, operators⟩ w
      (skipLog w setting .within frame) where
  matcher := fun place p => hm _ _ (.inr (Situation.place?_trying place).symm) p
  peek := by
    intro s offset s' h
    obtain ⟨after, hskip, heq⟩ := Option.map_eq_some_iff.mp h
    cases heq
    exact ((skipTrivia_eq_some_iff.mp hskip).misses hm .within).move s.cursor

variable {situation : Situation} (hsuits : situation.Suits frame)

include hsuits

theorem BodyRun.misses {p : Pattern} {s : State} {o : Outcome}
    (h : BodyRun m setting frame s p o) :
    s.Misses (failuresIn setting.beyond [⟨situation, frame, .faces p s⟩] ++
      failuresIn setting.beyond (bodyLog ([·]) m w setting situation frame p s)) o.state := by
  -- only a terminal records something itself
  have hfaces : (∀ t, p ≠ .terminal t) →
      failuresIn setting.beyond [⟨situation, frame, .faces p s⟩] = [] := by
    intro hp
    cases p with
    | terminal t => exact absurd rfl (hp t)
    | _ => cases hquiet : frame.quiet <;> simp [failuresIn, raisedIn, Moment.raised?, hquiet]
  cases h with
  | terminal t =>
      simp only [bodyLog, failuresIn_nil, List.append_nil]
      exact matchTerminal_misses hsuits setting t s
  | sequence hrun =>
      rw [hfaces (by rintro _ ⟨⟩)]
      exact hrun.misses (hm situation frame hsuits)
  | choice hrun =>
      rw [hfaces (by rintro _ ⟨⟩)]
      exact hrun.misses (hm situation frame hsuits)
  | quantifier hrun =>
      rw [hfaces (by rintro _ ⟨⟩), Rounds.state_outcome]
      exact RoundsRun.misses (hm situation frame hsuits)
        (fun _ => failuresIn_of_not_seeks _ rfl) hrun
  | undefinedRule hget =>
      rw [hfaces (by rintro _ ⟨⟩)]
      simp only [bodyLog, lookupLog, hget]
      rw [failuresIn_of_not_seeks _ rfl]
      exact (State.Misses.refl s).abort _ _
  | tooDeep hget hdeep =>
      rw [hfaces (by rintro _ ⟨⟩)]
      simp only [bodyLog, lookupLog, hget, hdeep, if_true]
      rw [failuresIn_of_not_seeks _ rfl]
      exact (State.Misses.refl s).abort _ _
  | lookup hget hdepth hrun =>
      rw [hfaces (by rintro _ ⟨⟩)]
      simp only [bodyLog, lookupLog, hget, hdepth, Bool.false_eq_true, if_false]
      have hinner := hm situation { frame with depth := frame.depth + 1 } hsuits _ _ _ hrun
      exact (hinner.after_note rfl).then_note rfl
  | label hrun =>
      rw [hfaces (by rintro _ ⟨⟩)]
      have hinner := hm situation frame hsuits _ _ _ hrun
      exact hinner
  | lookahead hrun =>
      rw [hfaces (by rintro _ ⟨⟩)]
      have hinner := hm situation { frame with quiet := true } (.inl rfl) _ _ _ hrun
      exact hinner.move s.cursor
  | table hrun =>
      rw [hfaces (by rintro _ ⟨⟩)]
      exact ClimbRun.misses (climbing_told hm _) hrun

theorem LayerRun.misses {p : Pattern} {s : State} {o : Outcome}
    (h : LayerRun m setting frame p s o) :
    s.Misses (failuresIn setting.beyond (layerLog ([·]) m w setting situation frame p s))
      o.state := by
  rw [layerLog, failuresIn_append, failuresIn_of_not_seeks _ rfl, List.nil_append]
  cases h with
  | unpaid hc =>
      simp only [hc]
      rw [failuresIn_of_not_seeks _ rfl]
      exact .of_charge hc
  | tried hc hskip hbody =>
      have hinner := BodyRun.misses hm hsuits hbody
      have hcomes : ∀ o, failuresIn setting.beyond [⟨situation, frame, .comesTo p o⟩] = [] :=
        fun _ => failuresIn_of_not_seeks _ rfl
      simp only [hc, skipTrivia_eq_some_iff.mpr hskip, matchBody_eq_some_iff.mpr hbody,
        failuresIn_append, hcomes, List.append_nil]
      have hall := (State.Misses.of_charge hc).trans ((hskip.misses hm situation).trans hinner)
      unfold Outcome.settle
      split
      · exact hall
      · exact hall

end Layers

/-- **The failures that a match records are those of its moments.** -/
theorem matchPattern_told (setting : Setting) (layers : Nat) :
    (matchPattern setting layers).Told setting.beyond (moments setting layers) := by
  induction layers with
  | zero =>
      intro situation frame _ p s o h
      cases h
  | succ layers ih =>
      intro situation frame hsuits p s o h
      exact LayerRun.misses ih hsuits (matchOnce_eq_some_iff.mp h)

/-! ## Parses -/

/-- No terminal is described as the end of the range is. -/
theorem Terminal.description_ne_endOfInput (t : Terminal) : t.description ≠ endOfInput := by
  intro h
  have hhead := congrArg (fun text : String => text.toList.head?) h
  cases t with
  | literal text => simp [description, Text.quote, endOfInput] at hhead
  | regex source meaning => simp [description, Text.quote, endOfInput] at hhead

/-- The end of the range is missed outside all expressions. -/
theorem Moment.Belongs.outside {setting : Setting} {p : Pattern} {c : Cursor} {moment : Moment}
    (h : moment.Belongs setting p c) {r : Raised} (hr : moment.raised? setting.beyond = some r)
    (hend : r.missing = .token endOfInput) : r.situation = .outside := by
  obtain ⟨situation, frame, happening⟩ := moment
  unfold Moment.raised? at hr
  split at hr
  · cases hr
  · split at hr
    · next t s _ =>
        split at hr <;> cases hr
        exact absurd (Missing.token.inj hend) t.description_ne_endOfInput
    · cases hr
      cases hend
    · next s heq =>
        cases hr
        obtain rfl : happening = .lacksEnd s := heq
        cases h with
        | follows h => exact h.happening.elim
        | lacksEnd => rfl
    · cases hr

/-- The failures that a report lists are those of the moments up to the end. -/
theorem ConcludeRun.misses {m : Matcher} {w : Log Moment} {setting : Setting} {o : Outcome}
    {report : Report} (hm : m.Told setting.beyond w) (h : ConcludeRun m setting o report) :
    Event.failures report.events
      = o.state.failures ++ failuresIn setting.beyond (concludeLog ([·]) m w setting o) := by
  cases h with
  | missed hnone =>
      simp only [concludeLog, hnone, failuresIn_nil, List.append_nil]
      rfl
  | @reached tree s hsome hskip hrunning hahead =>
      have hskipped := hskip.misses hm .outside
      simp only [concludeLog, hsome, skipTrivia_eq_some_iff.mpr hskip, hrunning, hahead,
        Bool.not_false, List.isEmpty_nil, Bool.and_self, if_true, List.append_nil]
      exact hskipped
  | @short tree s hsome hskip hshort =>
      have hends : (!s.isAborted && s.cursor.ahead.isEmpty) = false := by
        rcases hshort with hended | hahead
        · simp [hended]
        · simp [hahead]
      have hmissed : s.Misses
          (failuresIn setting.beyond [⟨.outside, .outermost, .lacksEnd s⟩])
          (s.missToken .outermost s.cursor.offset endOfInput) :=
        .missToken s .outermost s.cursor.offset endOfInput
      simp only [concludeLog, hsome, skipTrivia_eq_some_iff.mpr hskip, hends,
        Bool.false_eq_true, if_false, failuresIn_append]
      exact (hskip.misses hm .outside).trans hmissed

theorem Start.failures_enter (start : Start) (cursor : Cursor) (fuel : Option Nat) :
    (start.enter (State.start cursor fuel)).failures = [] := by
  cases start <;> rfl

theorem Start.failures_leave (start : Start) (o : Outcome) :
    (start.leave o).state.failures = o.state.failures := by
  cases start with
  | pattern => rfl
  | rule => exact (State.failures_add o.state _).trans (List.append_nil _)

/-- **The failures of a parse are those of its moments.** -/
theorem parseWindow_misses {layers : Nat} {rules : Rules} {limits : Limits} {start : Start}
    {window : Window} {report : Report}
    (h : parseWindow layers rules limits start window = some report) :
    Event.failures report.events
      = failuresIn window.beyond (windowLog ([·]) layers rules limits start window) := by
  cases hp : start.pattern? rules with
  | none =>
      obtain ⟨_, hundefined⟩ := parseWindow_of_undefined hp
      obtain ⟨_, hlog⟩ := windowLog_of_undefined ([·]) hp layers limits window
      rw [hundefined] at h
      cases h
      rw [hlog, failuresIn_of_not_seeks _ rfl]
      rfl
  | some p =>
      rw [parseWindow_of_defined hp] at h
      obtain ⟨o, ho, hconclude⟩ := Option.bind_eq_some_iff.mp h
      have htold := matchPattern_told ⟨rules, window.beyond, limits.depth⟩ layers
      have hmatch := htold .outside .outermost (.inr rfl) _ _ _ ho
      rw [State.Misses, start.failures_enter, List.nil_append] at hmatch
      rw [(conclude_eq_some_iff.mp hconclude).misses htold, start.failures_leave, hmatch]
      simp only [windowLog, hp, ho, failuresIn_append]

/-! ## In one context -/

theorem Context.best_load (ctx : Context) (s : State) :
    (ctx.load true s).best = s.failures.foldl Failure.Best.record ctx.best := by
  rw [State.failures, Event.failures, List.filterMap_reverse, List.foldl_reverse]
  rfl

namespace Engine

variable {layers : Nat} {ctx after : Context} {result : Option Tree}

/-- In one context, too, the failures that a match records are those of its moments. -/
theorem best_of_tryMatch {p : Pattern} {situation : Situation}
    (hplace : situation.place? = ctx.probeAt)
    (h : tryMatch layers p ctx = some (result, after)) :
    after.best =
      (failuresIn ctx.beyond (moments ctx.setting layers situation ctx.frame p ctx.state)).foldl
        Failure.Best.record ctx.best := by
  rw [(tryMatch_balanced layers p ctx).1] at h
  obtain ⟨o, ho, heq⟩ := Option.map_eq_some_iff.mp h
  cases heq
  have hmisses : ctx.state.Misses _ o.state :=
    matchPattern_told ctx.setting layers situation ctx.frame (.inr hplace.symm) p _ _ ho
  rw [Context.best_load, hmisses]
  rfl

/-- Trivia is skipped in one context as the matcher skips it. -/
theorem skipTrivia_mirrors (layers : Nat) (ctx : Context) :
    skipTrivia (tryMatch layers) ctx =
      (OperatorPeg.skipTrivia (matchPattern ctx.setting layers) ctx.setting ctx.frame
        ctx.state).map fun s => ((), ctx.load true s) := by
  have hfits : ctx.Fits true ctx.setting ctx.frame := ctx.fits_frame nofun
  have hload := skipTrivia_load (tryMatch_mirrors true ctx.setting layers) hfits.toSuits ctx.state
  rwa [Context.load_state] at hload

/-- The end of the range is missed where no expression looks on, whatever was set before. -/
theorem finish_mirrors (tree : Tree) :
    finish (tryMatch layers) (some tree) ctx =
      (OperatorPeg.skipTrivia (matchPattern ctx.setting layers) ctx.setting ctx.frame
        ctx.state).map fun s =>
          if !s.isAborted && s.cursor.ahead.isEmpty then (some tree, ctx.load true s)
          else (none, (ctx.withProbe none).load true
            (s.missToken { ctx.frame with probe := none } s.cursor.offset endOfInput)) := by
  have hfits : ctx.Fits true ctx.setting ctx.frame := ctx.fits_frame nofun
  rw [finish, bind_apply, skipTrivia_mirrors]
  cases OperatorPeg.skipTrivia (matchPattern ctx.setting layers) ctx.setting ctx.frame
    ctx.state with
  | none => rfl
  | some s =>
      have hnone : (ctx.load true s).fatal.isNone = !s.isAborted := by
        rw [← isSome_fatal_load ctx true s, Option.not_isSome]
      simp only [Option.map_some, Option.bind_some, bind_apply, get_apply, ite_apply, hnone,
        cursor_load, setProbe_load, expectToken_load (hfits.probing none)]
      split <;> rfl

/-- A parse that does not end where it should misses the end of the range, and that is no way to
continue an expression. -/
theorem best_of_finish {tree : Tree} (hloud : ctx.quietDepth = 0)
    (h : finish (tryMatch layers) (some tree) ctx = some (result, after)) :
    result = some tree ∧ after.best = ctx.best ∨
      result = none ∧ after.best = Failure.Best.record ctx.best
        ⟨after.cursor.offset, .token, .token endOfInput⟩ := by
  rw [finish_mirrors] at h
  obtain ⟨s, hskip, heq⟩ := Option.map_eq_some_iff.mp h
  have hskipped : skipTrivia (tryMatch layers) ctx = some ((), ctx.load true s) := by
    rw [skipTrivia_mirrors, hskip, Option.map_some]
  have hkept := KeepsBest.skipTrivia layers ctx _ hskipped
  split at heq
  · cases heq
    exact .inl ⟨rfl, hkept⟩
  · cases heq
    refine .inr ⟨rfl, ?_⟩
    have hmissed := State.Misses.missToken s { ctx.frame with probe := none } s.cursor.offset
      endOfInput
    have hquiet : ctx.frame.quiet = false := by simp [Context.frame, hloud]
    rw [Context.best_load, hmissed, ← hkept, Context.best_load, List.foldl_append]
    simp [hquiet, Context.withProbe, State.missToken]

end Engine

/-! ## What is marked -/

/-- **Just failed continuations are probes.** Wherever failures are recorded, the place that is
set is the one where the innermost expression tries the operators that would continue it. So a
terminal that is missed is a probe just if it is missed at that place, and the end of the range
never is. In one context, where the place that is set outlives the match it is set for, it comes
to the same: it is put back, and it does not matter at the end. -/
theorem probes_mark_failed_continuations (layers : Nat) (rules : Rules) (limits : Limits)
    (start : Start) (source : String) (first last : Nat) :
    (∀ moment ∈ parseMoments layers rules limits start source first last,
      moment.frame.quiet = false → moment.frame.probe = moment.situation.place?) ∧
    (∀ report, parseWithin layers rules limits start source first last = some report →
      let raised := raisedIn (Window.ofRange source.toList first last).beyond
        (parseMoments layers rules limits start source first last)
      Event.failures report.events = raised.map Raised.failure ∧
      (∀ r ∈ raised, ∀ description, r.missing = .token description →
        r.failure.priority = if r.situation = .continuing r.offset then .probe else .token) ∧
      ∀ f ∈ Event.failures report.events, f.missing = .token endOfInput → f.priority = .token) ∧
    (∀ p ctx situation result after, situation.place? = ctx.probeAt →
      Engine.tryMatch layers p ctx = some (result, after) →
      after.probeAt = ctx.probeAt ∧
      after.best =
        (failuresIn ctx.beyond (moments ctx.setting layers situation ctx.frame p ctx.state)).foldl
          Failure.Best.record ctx.best) ∧
    ∀ tree ctx result after, ctx.quietDepth = 0 →
      Engine.finish (Engine.tryMatch layers) (some tree) ctx = some (result, after) →
      result = some tree ∧ after.best = ctx.best ∨
        result = none ∧ after.best = Failure.Best.record ctx.best
          ⟨after.cursor.offset, .token, .token endOfInput⟩ := by
  have hbelong := windowMoments_belong layers rules limits start
    (.ofRange source.toList first last)
  refine ⟨?_, ?_, ?_, fun tree ctx result after => Engine.best_of_finish⟩
  · intro moment hmem hloud
    simpa [Situation.Suits, hloud] using (hbelong moment hmem).suits
  · intro report h raised
    have hfailures : Event.failures report.events = raised.map Raised.failure :=
      parseWindow_misses h
    have hpriority : ∀ r : Raised, ∀ description, r.missing = .token description →
        r.failure.priority = if r.situation = .continuing r.offset then .probe else .token := by
      intro r description hr
      simp [Raised.failure, Raised.priority, hr]
    refine ⟨hfailures, fun r _ => hpriority r, fun f hf hend => ?_⟩
    rw [hfailures] at hf
    obtain ⟨r, hr, rfl⟩ := List.mem_map.mp hf
    obtain ⟨moment, hmem, hraised⟩ := List.mem_filterMap.mp hr
    have houtside := (hbelong moment hmem).outside hraised hend
    rw [hpriority r endOfInput hend, houtside, if_neg (by simp)]
  · intro p ctx situation result after hplace h
    exact ⟨((tryMatch_balanced layers p ctx).2 result after h).probeAt,
      Engine.best_of_tryMatch hplace h⟩

/-- Sums of ones, with blanks between them. -/
private def additions : Rules := .ofList [
  ("_", .terminal (.literal " ")),
  ("sum", .table [
    ⟨"one", none, none, .terminal (.literal "1")⟩,
    ⟨"add", some 1, some 1, .terminal (.literal "+")⟩])]

/-- Behind the blank after the `1` both a plus and the end are missed. -/
theorem probes_mark_failed_continuations_sample :
    ∃ report, parseWithin 4 additions .unlimited (.rule "sum") "1 )" 0 3 = some report ∧
      Event.failures report.events =
        [⟨2, .probe, .token "'+'"⟩, ⟨2, .token, .token endOfInput⟩] ∧
      ∃ raised : List Raised, Event.failures report.events = raised.map Raised.failure ∧
        ∀ r ∈ raised, ∀ description, r.missing = .token description →
          r.failure.priority = if r.situation = .continuing r.offset then .probe else .token := by
  have hrun : (parseWithin 4 additions .unlimited (.rule "sum") "1 )" 0 3).any (fun r =>
      Event.failures r.events ==
        [⟨2, .probe, .token "'+'"⟩, ⟨2, .token, .token endOfInput⟩]) = true := by
    decide +kernel
  obtain ⟨report, h, hfailures⟩ := (Option.any_eq_true _ _).mp hrun
  obtain ⟨hraised, hpriority, -⟩ :=
    (probes_mark_failed_continuations 4 additions .unlimited (.rule "sum") "1 )" 0 3).2.1 report h
  exact ⟨report, h, beq_iff_eq.mp hfailures, _, hraised, hpriority⟩

end OperatorPeg
