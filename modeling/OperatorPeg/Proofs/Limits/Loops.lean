import OperatorPeg.Proofs.Limits.InStep
import OperatorPeg.Proofs.Onward

/-!
# Loops under a limit

The loops of a matcher and the expression engine fare under a limit as what is matched
in them does: in step as long as the attempts are afforded, and ended with the first
that is not.
-/

namespace OperatorPeg

/-! ## After the end -/

/-- Nothing is matched once the parse has ended. -/
def Halts (g : Pattern → State → Option Outcome) : Prop :=
  ∀ p t, t.isAborted = true → g p t = some ⟨none, t⟩

section Halts

variable {g : Pattern → State → Option Outcome} (hg : Halts g)

include hg

theorem StepsRun.halts (offset : Nat) (kept : List Tree) (steps : List Step) {t : State}
    (ha : t.isAborted = true) : ∃ o, StepsRun g offset kept steps t o ∧ o.state = t := by
  cases steps with
  | nil => exact ⟨_, .done kept t, rfl⟩
  | cons step steps => exact ⟨_, .missed (hg _ t ha), rfl⟩

/-- The step that ends the parse is the last one. -/
theorem StepsRun.cut (offset : Nat) (kept : List Tree) {step : Step} (steps : List Step)
    {t t' : State} {tree? : Option Tree} (h : g step.pattern t = some ⟨tree?, t'⟩)
    (ha : t'.isAborted = true) :
    ∃ o, StepsRun g offset kept (step :: steps) t o ∧ o.state = t' := by
  cases tree? with
  | none => exact ⟨_, .missed h, rfl⟩
  | some node =>
      obtain ⟨o, hrun, ho⟩ := StepsRun.halts hg offset (if step.keep then node :: kept else kept)
        steps ha
      exact ⟨o, .matched h hrun, ho⟩

theorem AlternativesRun.halts (offset index : Nat) (ps : List Pattern) {t : State}
    (ha : t.isAborted = true) : ∃ o, AlternativesRun g offset index ps t o ∧ o.state = t := by
  cases ps with
  | nil => exact ⟨_, .exhausted index t, rfl⟩
  | cons p ps => exact ⟨_, .aborted (hg _ t ha) ha, rfl⟩

omit hg in
theorem AlternativesRun.cut (offset index : Nat) {p : Pattern} (ps : List Pattern)
    {t t' : State} {tree? : Option Tree} (h : g p t = some ⟨tree?, t'⟩)
    (ha : t'.isAborted = true) :
    ∃ o, AlternativesRun g offset index (p :: ps) t o ∧ o.state = t' := by
  cases tree? with
  | none => exact ⟨_, .aborted h ha, rfl⟩
  | some child => exact ⟨_, .chosen h, rfl⟩

theorem UpToRun.halts (p : Pattern) (n : Nat) {r : Rounds} (ha : r.state.isAborted = true) :
    ∃ r', UpToRun (g p) n r r' ∧ r'.state = r.state := by
  cases n with
  | zero => exact ⟨_, .full r, rfl⟩
  | succ n => exact ⟨_, .missed (hg _ _ ha), rfl⟩

theorem UpToRun.cut (n count : Nat) (nodes : List Tree) {p : Pattern} {t t' : State}
    {tree? : Option Tree} (h : g p t = some ⟨tree?, t'⟩) (ha : t'.isAborted = true) :
    ∃ r, UpToRun (g p) (n + 1) ⟨count, nodes, t⟩ r ∧ r.state = t' := by
  cases tree? with
  | none => exact ⟨⟨count, nodes, t'⟩, .missed h, rfl⟩
  | some node =>
      obtain ⟨r, hrun, hr⟩ := UpToRun.halts hg p n (r := ⟨count + 1, node :: nodes, t'⟩) ha
      exact ⟨r, .matched h hrun, hr⟩

/-- The round that ends the parse is the last one; if it moved, the characters that were
ahead allow for one more. -/
theorem WhileRun.cut (count : Nat) (nodes : List Tree) {p : Pattern} {budget : List Char}
    {t t' : State} {tree? : Option Tree} (h : g p t = some ⟨tree?, t'⟩)
    (honward : t.Onward t') (hbudget : t.cursor.ahead.length ≤ budget.length)
    (ha : t'.isAborted = true) :
    ∃ r, WhileRun (g p) budget ⟨count, nodes, t⟩ r ∧ r.state.aborted = t'.aborted := by
  cases tree? with
  | none => exact ⟨⟨count, nodes, t'⟩, .missed h, rfl⟩
  | some node =>
      by_cases hmoved : t'.cursor.offset = t.cursor.offset
      · obtain ⟨ended, hended⟩ := Option.isSome_iff_exists.mp ha
        refine ⟨⟨count, nodes, t'.abort t'.cursor.offset .zeroLengthMatch⟩, .stuck h hmoved, ?_⟩
        rw [State.aborted_abort, hended]
        rfl
      · have hless := honward.cursor.length_lt hmoved
        cases budget with
        | nil =>
            rw [List.length_nil] at hbudget
            omega
        | cons c budget =>
            exact ⟨⟨count + 1, node :: nodes, t'⟩, .matched h hmoved (.missed (hg _ t' ha)), rfl⟩

theorem RoundsRun.halts (p : Pattern) (most : Option Nat) {t : State}
    (ha : t.isAborted = true) : ∃ r, RoundsRun (g p) most t r ∧ r.state = t := by
  cases most with
  | some n => exact UpToRun.halts hg p n (r := ⟨0, [], t⟩) ha
  | none => exact ⟨_, .missed (hg _ _ ha), rfl⟩

theorem OperatorsRun.halts (wantOperand : Bool) (ops : List Operator) {t : State}
    (ha : t.isAborted = true) : OperatorsRun g wantOperand ops t (none, t) := by
  induction ops with
  | nil => exact .exhausted t
  | cons op ops ih =>
      by_cases hk : op.fixity.takesLeft = wantOperand
      · exact .passed hk ih
      · exact .missed hk (hg _ t ha) ih

theorem OperatorsRun.cut {wantOperand : Bool} {op : Operator} (ops : List Operator)
    {t t' : State} {tree? : Option Tree} (hk : op.fixity.takesLeft ≠ wantOperand)
    (h : g op.pattern t = some ⟨tree?, t'⟩) (ha : t'.isAborted = true) :
    ∃ found, OperatorsRun g wantOperand (op :: ops) t (found, t') := by
  cases tree? with
  | none => exact ⟨_, .missed hk h (OperatorsRun.halts hg wantOperand ops ha)⟩
  | some mid => exact ⟨_, .matched hk h⟩

end Halts

/-! ## Loops -/

/-- With the limit `g` fares as `f` does without it, where `a` lists the attempts of `f`. -/
structure Limit.Tied (l : Limit) (halts : Prop) (f g : Pattern → State → Option Outcome)
    (a : Pattern → State → List Nat) : Prop where
  agrees : ∀ ⦃p left s t o⦄, l.InStep left s t → f p s = some o →
    ∃ tree? t', g p t = some ⟨tree?, t'⟩ ∧
      l.Fares halts left (a p s) o.tree? o.state tree? t'
  halts : halts → Halts g

section Loops

variable {l : Limit} {halts : Prop} {f g : Pattern → State → Option Outcome}
  {a : Pattern → State → List Nat} (hfg : l.Tied halts f g a)

include hfg

theorem StepsRun.fares {offset left : Nat} {kept : List Tree} {steps : List Step}
    {s t : State} {o : Outcome} (h : StepsRun f offset kept steps s o)
    (hst : l.InStep left s t) :
    ∃ o', StepsRun g offset kept steps t o' ∧
      l.Fares halts left (stepsLog f a steps s) o.tree? o.state o'.tree? o'.state := by
  induction h generalizing left t with
  | done kept s => exact ⟨_, .done kept t, .unchanged hst⟩
  | missed hf =>
      obtain ⟨tree?, t', hg, hfares⟩ := hfg.agrees hst hf
      simp only [stepsLog, hf, List.append_nil]
      cases hfares with
      | afforded ha hs => exact ⟨_, .missed hg, .afforded ha hs⟩
      | cut hh ha hended =>
          obtain ⟨o', hrun, rfl⟩ := StepsRun.cut (hfg.halts hh) _ _ _ hg hended.isAborted
          exact ⟨o', hrun, .cut hh ha hended⟩
  | matched hf _ ih =>
      obtain ⟨tree?, t', hg, hfares⟩ := hfg.agrees hst hf
      simp only [stepsLog, hf]
      cases hfares with
      | afforded ha hs =>
          obtain ⟨o', hrun, ho⟩ := ih hs
          exact ⟨o', .matched hg hrun, ho.after ha⟩
      | cut hh ha hended =>
          obtain ⟨o', hrun, rfl⟩ := StepsRun.cut (hfg.halts hh) _ _ _ hg hended.isAborted
          exact ⟨o', hrun, .cut_append hh ha hended⟩

theorem AlternativesRun.fares {offset index left : Nat} {ps : List Pattern} {s t : State}
    {o : Outcome} (h : AlternativesRun f offset index ps s o) (hst : l.InStep left s t) :
    ∃ o', AlternativesRun g offset index ps t o' ∧
      l.Fares halts left (alternativesLog f a offset index ps s) o.tree? o.state o'.tree?
        o'.state := by
  induction h generalizing left t with
  | exhausted index s => exact ⟨_, .exhausted index t, .unchanged hst⟩
  | chosen hf =>
      obtain ⟨tree?, t', hg, hfares⟩ := hfg.agrees hst hf
      simp only [alternativesLog, hf, List.append_nil]
      cases hfares with
      | afforded ha hs => exact ⟨_, .chosen hg, .afforded ha hs⟩
      | cut hh ha hended =>
          obtain ⟨o', hrun, rfl⟩ := AlternativesRun.cut _ _ _ hg hended.isAborted
          exact ⟨o', hrun, .cut hh ha hended⟩
  | aborted hf hend =>
      obtain ⟨tree?, t', hg, hfares⟩ := hfg.agrees hst hf
      simp only [alternativesLog, hf, hend, if_true, List.append_nil]
      cases hfares with
      | afforded ha hs => exact ⟨_, .aborted hg (hs.isAborted ▸ hend), .afforded ha hs⟩
      | cut hh ha hended =>
          obtain ⟨o', hrun, rfl⟩ := AlternativesRun.cut _ _ _ hg hended.isAborted
          exact ⟨o', hrun, .cut hh ha hended⟩
  | missed hf hend _ ih =>
      obtain ⟨tree?, t', hg, hfares⟩ := hfg.agrees hst hf
      simp only [alternativesLog, hf, hend, Bool.false_eq_true, if_false]
      cases hfares with
      | afforded ha hs =>
          obtain ⟨o', hrun, ho⟩ := ih (hs.add _)
          exact ⟨o', .missed hg (hs.isAborted ▸ hend) hrun, ho.after ha⟩
      | cut hh ha hended =>
          obtain ⟨o', hrun, rfl⟩ := AlternativesRun.cut _ _ _ hg hended.isAborted
          exact ⟨o', hrun, .cut_append hh ha hended⟩

theorem UpToRun.fares {p : Pattern} {n left : Nat} {r r' : Rounds} {t : State}
    (h : UpToRun (f p) n r r') (hst : l.InStep left r.state t) :
    ∃ q, UpToRun (g p) n { r with state := t } q ∧
      l.Fares halts left (upToLog (f p) (a p) n r.state) (r'.count, r'.nodes) r'.state
        (q.count, q.nodes) q.state := by
  induction h generalizing left t with
  | full r => exact ⟨_, .full _, .unchanged hst⟩
  | missed hf =>
      obtain ⟨tree?, t', hg, hfares⟩ := hfg.agrees hst hf
      simp only [upToLog, hf, List.append_nil]
      cases hfares with
      | afforded ha hs => exact ⟨_, .missed hg, .afforded ha hs⟩
      | cut hh ha hended =>
          obtain ⟨q, hrun, rfl⟩ := UpToRun.cut (hfg.halts hh) _ _ _ hg hended.isAborted
          exact ⟨q, hrun, .cut hh ha hended⟩
  | matched hf _ ih =>
      obtain ⟨tree?, t', hg, hfares⟩ := hfg.agrees hst hf
      simp only [upToLog, hf]
      cases hfares with
      | afforded ha hs =>
          obtain ⟨q, hrun, hq⟩ := ih hs
          exact ⟨q, .matched hg hrun, hq.after ha⟩
      | cut hh ha hended =>
          obtain ⟨q, hrun, rfl⟩ := UpToRun.cut (hfg.halts hh) _ _ _ hg hended.isAborted
          exact ⟨q, hrun, .cut_append hh ha hended⟩

section Rounds

variable {stuck : Nat → List Nat} (hstuck : ∀ offset, stuck offset = [])

include hstuck

/-- The budget of an unbounded repetition is at least what is ahead, so that the limited
run never gets stuck for want of it. -/
theorem WhileRun.fares (hf : ∀ p, RunsAlong State.Onward (f p))
    (hg : ∀ p, RunsAlong State.Onward (g p)) {p : Pattern} {budget : List Char} {left : Nat}
    {r r' : Rounds} {t : State} (h : WhileRun (f p) budget r r')
    (hbudget : r.state.cursor.ahead.length ≤ budget.length) (hst : l.InStep left r.state t) :
    ∃ q, WhileRun (g p) budget { r with state := t } q ∧
      l.Fares halts left (whileLog (f p) (a p) stuck budget r.state) (r'.count, r'.nodes) r'.state
        (q.count, q.nodes) q.state := by
  induction h generalizing left t with
  | missed hm =>
      obtain ⟨tree?, t', hm', hfares⟩ := hfg.agrees hst hm
      rw [whileLog]
      simp only [hm, List.append_nil]
      cases hfares with
      | afforded ha hs => exact ⟨_, .missed hm', .afforded ha hs⟩
      | cut hh ha hended =>
          obtain ⟨q, hrun, hq⟩ := WhileRun.cut (hfg.halts hh) _ _ hm' (hg _ _ _ hm')
            (hst.cursor ▸ hbudget) hended.isAborted
          exact ⟨q, hrun, .cut hh ha (hended.of_aborted hq)⟩
  | stuck hm hsame =>
      obtain ⟨tree?, t', hm', hfares⟩ := hfg.agrees hst hm
      rw [whileLog]
      simp only [hm, hsame, beq_self_eq_true, if_true, hstuck, List.append_nil]
      cases hfares with
      | afforded ha hs =>
          refine ⟨_, .stuck hm' (by rw [← hs.cursor, hsame, hst.cursor]), ?_⟩
          rw [← hs.cursor, hsame]
          exact .afforded ha (hs.abort _ _)
      | cut hh ha hended =>
          obtain ⟨q, hrun, hq⟩ := WhileRun.cut (hfg.halts hh) _ _ hm' (hg _ _ _ hm')
            (hst.cursor ▸ hbudget) hended.isAborted
          exact ⟨q, hrun, .cut hh ha (hended.of_aborted hq)⟩
  | matched hm hmoved _ ih =>
      obtain ⟨tree?, t', hm', hfares⟩ := hfg.agrees hst hm
      rw [whileLog]
      simp only [hm, beq_iff_eq, hmoved, if_false]
      cases hfares with
      | afforded ha hs =>
          have hless := (hf _ _ _ hm).cursor.length_lt hmoved
          obtain ⟨q, hrun, hq⟩ := ih (Nat.le_of_lt_succ (Nat.lt_of_lt_of_le hless hbudget)) hs
          exact ⟨q, .matched hm' (by rwa [← hs.cursor, ← hst.cursor]) hrun, hq.after ha⟩
      | cut hh ha hended =>
          obtain ⟨q, hrun, hq⟩ := WhileRun.cut (hfg.halts hh) _ _ hm' (hg _ _ _ hm')
            (hst.cursor ▸ hbudget) hended.isAborted
          exact ⟨q, hrun, .cut_append hh ha (hended.of_aborted hq)⟩

theorem RoundsRun.fares (hf : ∀ p, RunsAlong State.Onward (f p))
    (hg : ∀ p, RunsAlong State.Onward (g p)) {p : Pattern} {most : Option Nat} {left : Nat}
    {s t : State} {r : Rounds} (h : RoundsRun (f p) most s r) (hst : l.InStep left s t) :
    ∃ q, RoundsRun (g p) most t q ∧
      l.Fares halts left (roundsLog (f p) (a p) stuck most s) (r.count, r.nodes) r.state
        (q.count, q.nodes) q.state := by
  cases most with
  | some n => exact UpToRun.fares hfg h hst
  | none =>
      simp only [RoundsRun, ← hst.cursor]
      exact WhileRun.fares hfg hstuck hf hg h (Nat.le_refl _) hst

end Rounds

omit hfg in
/-- What rounds come to, their number and nodes decide, and whether the parse has ended. -/
theorem Rounds.outcome_fares {left least offset : Nat} {attempts : List Nat} {r q : Rounds}
    (h : l.Fares halts left attempts (r.count, r.nodes) r.state (q.count, q.nodes) q.state) :
    l.Fares halts left attempts (r.outcome least offset).tree? r.state
      (q.outcome least offset).tree? q.state := by
  rcases r with ⟨count, nodes, s⟩
  rcases q with ⟨count', nodes', t⟩
  cases h with
  | cut hh ha hended => exact .cut hh ha hended
  | afforded ha hs =>
      have htree : (Rounds.outcome least offset ⟨count, nodes, s⟩).tree?
          = (Rounds.outcome least offset ⟨count, nodes, t⟩).tree? := by
        simp only [Rounds.outcome, hs.isAborted]
        split <;> rfl
      rw [htree]
      exact .afforded ha hs

theorem OperatorsRun.fares {wantOperand : Bool} {ops : List Operator} {left : Nat}
    {s t : State} {r : Option (Operator × Tree) × State}
    (h : OperatorsRun f wantOperand ops s r) (hst : l.InStep left s t) :
    ∃ found t', OperatorsRun g wantOperand ops t (found, t') ∧
      l.Fares halts left (operatorsLog f a wantOperand ops s) r.1 r.2 found t' := by
  induction h generalizing left t with
  | exhausted s => exact ⟨_, _, .exhausted t, .unchanged hst⟩
  | passed hk _ ih =>
      obtain ⟨found, t', hrun, hfares⟩ := ih hst
      simp only [operatorsLog, hk, beq_self_eq_true, if_true]
      exact ⟨found, t', .passed hk hrun, hfares⟩
  | matched hk hf =>
      obtain ⟨tree?, t', hg, hfares⟩ := hfg.agrees hst hf
      simp only [operatorsLog, beq_iff_eq, hk, if_false, hf, List.append_nil]
      cases hfares with
      | afforded ha hs => exact ⟨_, t', .matched hk hg, .afforded ha hs⟩
      | cut hh ha hended =>
          obtain ⟨found, hrun⟩ := OperatorsRun.cut (hfg.halts hh) _ hk hg hended.isAborted
          exact ⟨found, t', hrun, .cut hh ha hended⟩
  | missed hk hf _ ih =>
      obtain ⟨tree?, t', hg, hfares⟩ := hfg.agrees hst hf
      simp only [operatorsLog, beq_iff_eq, hk, if_false, hf]
      cases hfares with
      | afforded ha hs =>
          obtain ⟨found, t'', hrun, hfares⟩ := ih hs
          exact ⟨found, t'', .missed hk hg hrun, hfares.after ha⟩
      | cut hh ha hended =>
          obtain ⟨found, hrun⟩ := OperatorsRun.cut (hfg.halts hh) _ hk hg hended.isAborted
          exact ⟨found, t', hrun, .cut_append hh ha hended⟩

end Loops

/-! ## Expressions -/

/-- With the limit the climbing loop `d` fares as `c` does without it. -/
structure Limit.Climbs (l : Limit) (halts : Prop) (c d : Climbing) (a : Log Nat)
    (peek : State → List Nat) : Prop where
  tied : ∀ probe, l.Tied halts (c.matcher { c.frame with probe })
    (d.matcher { d.frame with probe }) (a (.trying probe) { c.frame with probe })
  peek : ∀ ⦃left s t offset s'⦄, l.InStep left s t → c.peek s = some (offset, s') →
    ∃ offset' t', d.peek t = some (offset', t') ∧
      l.Fares halts left (peek s) offset s' offset' t'
  operators : c.operators = d.operators
  frame : c.frame = d.frame

section Expressions

variable {l : Limit} {halts : Prop} {c d : Climbing} {a : Log Nat} {peek : State → List Nat}
  (hcd : l.Climbs halts c d a peek)

include hcd

theorem Climbing.probe_fares {operand : Option Tree} {left : Nat} {s t before : State}
    {probe : Option Nat} (hst : l.InStep left s t)
    (h : c.probe operand s = some (probe, before)) :
    ∃ probe' before', d.probe operand t = some (probe', before') ∧
      l.Fares halts left (if operand.isNone then [] else peek s) probe before probe' before' := by
  unfold Climbing.probe at h ⊢
  cases ho : operand.isNone with
  | true =>
      simp only [ho, if_true, Option.some.injEq, Prod.mk.injEq] at h ⊢
      obtain ⟨rfl, rfl⟩ := h
      exact ⟨none, t, ⟨rfl, rfl⟩, .unchanged hst⟩
  | false =>
      simp only [ho, Bool.false_eq_true, if_false] at h ⊢
      obtain ⟨⟨offset, s'⟩, hpeek, heq⟩ := Option.map_eq_some_iff.mp h
      cases heq
      obtain ⟨offset', t', hpeek', hfares⟩ := hcd.peek hst hpeek
      refine ⟨some offset', t', by rw [hpeek']; rfl, ?_⟩
      cases hfares with
      | afforded ha hs => exact .afforded ha hs
      | cut hh ha hended => exact .cut hh ha hended

theorem Climbing.Finds.fares {operand : Option Tree} {left : Nat} {s t before after : State}
    {found : Option (Operator × Tree)} (h : c.Finds operand s before found after)
    (hst : l.InStep left s t) :
    ∃ before' found' after', d.Finds operand t before' found' after' ∧
      l.Fares halts left (findsLog c a peek operand s) (found, before.cursor) after
        (found', before'.cursor) after' := by
  obtain ⟨probe, hprobe, hrun⟩ := h
  obtain ⟨probe', before', hprobe', hfares⟩ := Climbing.probe_fares hcd hst hprobe
  simp only [findsLog, hprobe]
  cases hfares with
  | afforded ha hs =>
      obtain ⟨found', after', hrun', hfares'⟩ := hrun.fares (hcd.tied probe) hs
      refine ⟨before', found', after', ⟨probe, hprobe', hcd.operators ▸ hrun'⟩, .after ha ?_⟩
      rw [hs.cursor]
      cases hfares' with
      | afforded ha' hs' => exact .afforded ha' hs'
      | cut hh ha' hended => exact .cut hh ha' hended
  | cut hh ha hended =>
      have hrun' := OperatorsRun.halts ((hcd.tied probe').halts hh) operand.isNone d.operators
        hended.isAborted
      exact ⟨before', none, before', ⟨probe', hprobe', hrun'⟩, .cut_append hh ha hended⟩

theorem finishExpression_fares {stack : List Pending} {operand : Option Tree} {left : Nat}
    {s t : State} {o : Outcome} (hst : l.InStep left s t)
    (h : finishExpression c stack operand s = some o) :
    ∃ o', finishExpression d stack operand t = some o' ∧
      l.Fares halts left (finishLog Moment.attempts c peek operand s) o.tree? o.state o'.tree?
        o'.state := by
  cases operand with
  | some current =>
      cases h
      obtain ⟨htree, hstate⟩ := completeAll_related (fun _ _ e h => h.add e) stack current hst
      refine ⟨_, rfl, ?_⟩
      dsimp only
      rw [htree]
      exact .unchanged hstate
  | none =>
      simp only [finishExpression] at h ⊢
      split at h
      · cases h
      · next offset s' hpeek =>
          cases h
          obtain ⟨offset', t', hpeek', hfares⟩ := hcd.peek hst hpeek
          simp only [finishLog, hpeek, Moment.attempts, List.append_nil]
          refine ⟨⟨none, t'.missTerm d.frame offset'⟩, by rw [hpeek'], ?_⟩
          cases hfares with
          | afforded ha hs => exact .afforded ha (hcd.frame ▸ hs.fail _ _)
          | cut hh ha hended => exact .cut hh ha (hended.of_aborted (by simp))

theorem ClimbRun.fares {rounds left : Nat} {stack : List Pending} {operand : Option Tree}
    {lastEmpty : Option Nat} {s t : State} {ms : List (Operator × Tree)} {o : Outcome}
    (h : ClimbRun c rounds stack operand lastEmpty s ms o) (hst : l.InStep left s t) :
    ∃ ms' o', ClimbRun d rounds stack operand lastEmpty t ms' o' ∧
      l.Fares halts left (climbLog Moment.attempts c a peek rounds stack operand lastEmpty s)
        o.tree? o.state o'.tree? o'.state := by
  -- in each case the round may be the one that the limit ends, and then it is the last one
  induction h generalizing left t with
  | aborted hfinds hend =>
      obtain ⟨before', found', after', hfinds', hfares⟩ := hfinds.fares hcd hst
      simp only [climbLog, hfinds.find, hend, if_true, List.append_nil]
      rcases hfares.same_or_ended with ⟨left', ha, hs, -⟩ | ⟨hh, ha, hended⟩
      · exact ⟨_, _, .aborted hfinds' (hs.isAborted ▸ hend), .afforded ha hs⟩
      · exact ⟨_, _, .aborted hfinds' hended.isAborted, .cut hh ha hended⟩
  | finished hfinds hend hfinish =>
      obtain ⟨before', found', after', hfinds', hfares⟩ := hfinds.fares hcd hst
      simp only [climbLog, hfinds.find, hend, Bool.false_eq_true, if_false]
      rcases hfares.same_or_ended with ⟨left', ha, hs, hsame⟩ | ⟨hh, ha, hended⟩
      · obtain ⟨rfl, -⟩ := Prod.mk.inj hsame
        obtain ⟨o', hfinish', ho⟩ := finishExpression_fares hcd hs hfinish
        exact ⟨_, o', .finished hfinds' (hs.isAborted ▸ hend) hfinish', ho.after ha⟩
      · exact ⟨_, _, .aborted hfinds' hended.isAborted, .cut_append hh ha hended⟩
  | repeated hfinds hend he hr =>
      obtain ⟨before', found', after', hfinds', hfares⟩ := hfinds.fares hcd hst
      simp only [climbLog, hfinds.find, hend, he, hr, Bool.false_eq_true, if_false,
        beq_self_eq_true, Bool.and_self, if_true, Moment.attempts, List.append_nil]
      rcases hfares.same_or_ended with ⟨left', ha, hs, hsame⟩ | ⟨hh, ha, hended⟩
      · obtain ⟨rfl, hbefore⟩ := Prod.mk.inj hsame
        rw [hs.cursor] at he
        rw [hbefore] at he hr ⊢
        exact ⟨_, _, .repeated hfinds' (hs.isAborted ▸ hend) he hr, .afforded ha (hs.abort _ _)⟩
      · exact ⟨_, _, .aborted hfinds' hended.isAborted, .cut hh ha hended⟩
  | waits hfinds hend he htake hr _ ih =>
      obtain ⟨before', found', after', hfinds', hfares⟩ := hfinds.fares hcd hst
      simp only [climbLog, hfinds.find, hend, Bool.false_eq_true, if_false,
        Bool.and_eq_true, beq_iff_eq, he, htake, hr, if_true]
      rcases hfares.same_or_ended with ⟨left', ha, hs, hsame⟩ | ⟨hh, ha, hended⟩
      · obtain ⟨rfl, hbefore⟩ := Prod.mk.inj hsame
        obtain ⟨t', htake', ht'⟩ := takeOperand_related (fun _ _ e h => h.add e) (hs.add _) htake
        obtain ⟨ms', o', hrun, ho⟩ := ih ht'
        rw [emptyAt, hs.cursor, hbefore] at hrun
        rw [hs.cursor, hbefore] at he
        exact ⟨_, o', .waits hfinds' (hs.isAborted ▸ hend) he htake' hr hrun, ho.after ha⟩
      · exact ⟨_, _, .aborted hfinds' hended.isAborted, .cut_append hh ha hended⟩
  | completes hfinds hend he htake hr _ ih =>
      obtain ⟨before', found', after', hfinds', hfares⟩ := hfinds.fares hcd hst
      simp only [climbLog, hfinds.find, hend, Bool.false_eq_true, if_false,
        Bool.and_eq_true, beq_iff_eq, he, htake, hr]
      rcases hfares.same_or_ended with ⟨left', ha, hs, hsame⟩ | ⟨hh, ha, hended⟩
      · obtain ⟨rfl, hbefore⟩ := Prod.mk.inj hsame
        obtain ⟨t', htake', ht'⟩ := takeOperand_related (fun _ _ e h => h.add e) (hs.add _) htake
        obtain ⟨ms', o', hrun, ho⟩ := ih (ht'.add _)
        rw [emptyAt, hs.cursor, hbefore] at hrun
        rw [hs.cursor, hbefore] at he
        exact ⟨_, o', .completes hfinds' (hs.isAborted ▸ hend) he htake' hr hrun, ho.after ha⟩
      · exact ⟨_, _, .aborted hfinds' hended.isAborted, .cut_append hh ha hended⟩

end Expressions

end OperatorPeg
