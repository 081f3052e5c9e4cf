import OperatorPeg.Proofs.Balance.Loading
import OperatorPeg.Proofs.Onward
import OperatorPeg.Proofs.Runs

/-!
# Matching in one context is matching

Each function that matches in one context does to a loaded context what the matcher's
function of the same purpose does to the state, in a frame that fits the context. The
loops are taken one by one, given that what is inside is matched alike; by induction
on the layers everything is.
-/

namespace OperatorPeg

namespace Engine

variable {ctx : Context} {counts : Bool} {setting : Setting} {frame : Frame} {s : State}

/-- In this context `e` does what the matcher does to the state. -/
def Follows (ctx : Context) (counts : Bool) (e : Pattern → Engine (Option Tree))
    (m : Pattern → State → Option Outcome) : Prop :=
  ∀ p s, e p (ctx.load counts s) = ctx.resume counts (m p s)

/-- `e` does what the matcher does in every context that fits. -/
def Mirrors (counts : Bool) (setting : Setting) (e : Pattern → Engine (Option Tree))
    (m : Matcher) : Prop :=
  ∀ ctx frame, ctx.Fits counts setting frame → Follows ctx counts e (m frame)

/-! ## Loops -/

section Loops

variable {e : Pattern → Engine (Option Tree)} {m : Pattern → State → Option Outcome}
  (h : Follows ctx counts e m)

include h

theorem trySteps_load (offset : Nat) (kept : List Tree) (steps : List Step) (s : State) :
    trySteps e offset kept steps (ctx.load counts s) =
      ctx.resume counts (matchSteps m offset kept steps s) := by
  fun_induction matchSteps m offset kept steps s with
  | case1 kept s => rfl
  | case2 _ _ _ _ hm => simp [trySteps, h _ _, hm]
  | case3 _ _ _ _ _ hm => simp [trySteps, h _ _, hm]
  | case4 _ _ _ _ _ _ hm ih => simp [trySteps, h _ _, hm, ih]

theorem tryAlternatives_load (offset index : Nat) (ps : List Pattern) (s : State) :
    tryAlternatives e offset index ps (ctx.load counts s) =
      ctx.resume counts (matchAlternatives m offset index ps s) := by
  fun_induction matchAlternatives m offset index ps s with
  | case1 => rfl
  | case2 _ _ _ _ hm => simp [tryAlternatives, h _ _, hm]
  | case3 _ _ _ _ _ _ hm => simp [tryAlternatives, h _ _, hm]
  | case4 _ _ _ _ _ hm ha => simp [tryAlternatives, h _ _, hm, ha]
  | case5 _ _ _ _ _ hm ha ih =>
      simp [tryAlternatives, h _ _, hm, ha, emit_load _ _ _ (.backtracked _ _) rfl, ih]

omit h in
theorem endRounds_load (ctx : Context) (counts : Bool) (least offset : Nat) (r : Rounds)
    (hr : r.count = r.nodes.length) :
    endRounds least offset (some r.nodes) (ctx.load counts r.state) =
      ctx.resume counts (some (r.outcome least offset)) := by
  unfold endRounds Rounds.outcome
  by_cases hmissed : r.state.isAborted = true ∨ r.nodes.length < least <;> simp [hr, hmissed]

variable {p : Pattern} (least offset : Nat)

theorem roundsUpTo_load (most n : Nat) (r : Rounds) (hr : r.count = r.nodes.length)
    (hmost : r.nodes.length + n = most) :
    (tryRounds (e p) (some most) (n + 1) r.nodes >>= endRounds least offset)
        (ctx.load counts r.state) =
      ctx.resume counts ((matchUpTo (m p) n r).map (Rounds.outcome least offset)) := by
  fun_induction matchUpTo (m p) n r with
  | case1 r =>
      have hfull : ¬ r.nodes.length < most := by omega
      simp [tryRounds, hfull, endRounds_load, hr]
  | case2 n r hm =>
      have hmore : r.nodes.length < most := by omega
      simp [tryRounds, hmore, h _ _, hm]
  | case3 n r s hm =>
      have hmore : r.nodes.length < most := by omega
      have hend := endRounds_load ctx counts least offset { r with state := s } hr
      simp [tryRounds, hmore, h _ _, hm, hend]
  | case4 n r node s hm ih =>
      have hmore : r.nodes.length < most := by omega
      have hrest := ih (by simp [hr]) (by simp; omega)
      rw [bind_apply, tryRounds]
      simpa [hmore, h _ _, hm] using hrest

theorem roundsWhile_load (budget : List Char) (r : Rounds) (hr : r.count = r.nodes.length) :
    (tryRounds (e p) none (budget.length + 1) r.nodes >>= endRounds least offset)
        (ctx.load counts r.state) =
      ctx.resume counts ((matchWhile (m p) budget r).map (Rounds.outcome least offset)) := by
  fun_induction matchWhile (m p) budget r with
  | case1 budget r hm => simp [tryRounds, h _ _, hm]
  | case2 budget r s hm =>
      have hend := endRounds_load ctx counts least offset { r with state := s } hr
      simp [tryRounds, h _ _, hm, hend]
  | case3 budget r node s hm hstuck =>
      have hsame : s.cursor.offset = r.state.cursor.offset := beq_iff_eq.mp hstuck
      simp [tryRounds, h _ _, hm, hsame, endRounds, Rounds.outcome]
  | case4 r node s hm hmoved =>
      simp only [beq_iff_eq] at hmoved
      simp [tryRounds, h _ _, hm, hmoved]
  | case5 r node s hm hmoved c budget ih =>
      have hrest := ih (by simp [hr])
      simp only [beq_iff_eq] at hmoved
      rw [bind_apply, tryRounds]
      simpa [h _ _, hm, hmoved] using hrest

theorem tryQuantifier_load (most : Option Nat) (s : State) :
    tryQuantifier (e p) least most (ctx.load counts s) =
      ctx.resume counts (matchQuantifier (m p) least most s) := by
  rw [matchQuantifier_eq]
  cases most with
  | some n => exact roundsUpTo_load h least s.cursor.offset n n ⟨0, [], s⟩ rfl (Nat.zero_add n)
  | none => exact roundsWhile_load h least s.cursor.offset s.cursor.ahead ⟨0, [], s⟩ rfl

theorem tryOperator_load (wantOperand : Bool) (ops : List Operator) (s : State) :
    tryOperator e wantOperand ops (ctx.load counts s) =
      (matchOperator m wantOperand ops s).map fun r => (r.1, ctx.load counts r.2) := by
  fun_induction matchOperator m wantOperand ops s with
  | case1 => rfl
  | case2 op ops s hpassed ih => simp [tryOperator, beq_iff_eq.mp hpassed, ih]
  | case3 op ops s hkind hm =>
      have hother : op.fixity.takesLeft ≠ wantOperand := by simpa using hkind
      simp [tryOperator, hother, h _ _, hm]
  | case4 op ops s hkind mid s' hm =>
      have hother : op.fixity.takesLeft ≠ wantOperand := by simpa using hkind
      simp [tryOperator, hother, h _ _, hm]
  | case5 op ops s hkind s' hm ih =>
      have hother : op.fixity.takesLeft ≠ wantOperand := by simpa using hkind
      simp [tryOperator, hother, h _ _, hm, ih]

end Loops

/-! ## Trivia -/

section Trivia

variable {e : Pattern → Engine (Option Tree)} {m : Matcher} (hm : Mirrors counts setting e m)
  (h : ctx.Suits counts setting frame)

include hm h

theorem skipTrivia_load (s : State) :
    skipTrivia e (ctx.load counts s) =
      (OperatorPeg.skipTrivia m setting frame s).map fun s' => ((), ctx.load counts s') := by
  unfold skipTrivia OperatorPeg.skipTrivia
  have hrules := congrArg Rules.trivia? (h.rules_load s)
  have hflag : frame.inTrivia = (ctx.load counts s).inTrivia := h.inTrivia
  cases hin : (ctx.load counts s).inTrivia with
  | true => simp [hflag, hin]
  | false =>
      cases ht : (ctx.load counts s).rules.trivia? with
      | none => simp [hflag, hrules, hin, ht]
      | some trivia =>
          have hquietly := quietly_load { ctx with inTrivia := true } (hm _ _ h.trivia trivia s)
          -- the flag is put back to what it was: outside trivia
          have hback : ({ ctx with inTrivia := false } : Context) = ctx := by
            rw [← show ctx.inTrivia = false from hin]
          simp only [bind_apply, get_apply, Option.bind_some, ite_apply, hin, ht, hflag, hrules,
            Bool.false_eq_true, if_false, modify_apply]
          refine (congrArg (Option.bind · _) hquietly).trans ?_
          cases m { frame with inTrivia := true, quiet := true } trivia s with
          | none => rfl
          | some o =>
              show some ((), ({ ctx with inTrivia := false } : Context).load counts o.state) = _
              rw [hback]
              rfl

theorem peekPastTrivia_load (s : State) :
    peekPastTrivia e (ctx.load counts s) =
      (OperatorPeg.peekPastTrivia m setting frame s).map fun r => (r.1, ctx.load counts r.2) := by
  unfold peekPastTrivia OperatorPeg.peekPastTrivia
  simp only [bind_apply, get_apply, Option.bind_some, skipTrivia_load hm h]
  cases OperatorPeg.skipTrivia m setting frame s <;> rfl

end Trivia

/-! ## Expressions -/

theorem reduceBefore_load (next : Operator) (stack : List Pending) (operand : Tree) (s : State) :
    reduceBefore next stack operand (ctx.load counts s) =
      some ((completeBefore next stack operand s).1,
        ctx.load counts (completeBefore next stack operand s).2) := by
  fun_induction completeBefore next stack operand s with
  | case1 => rfl
  | case2 operand s top stack hbefore ih =>
      simp [reduceBefore, hbefore, emit_load _ _ _ (.reduced _) rfl, ih]
  | case3 operand s top stack hafter => simp [reduceBefore, hafter]

theorem giveOperand_load (op : Operator) (stack : List Pending) (operand : Option Tree)
    (s : State) :
    giveOperand op stack operand (ctx.load counts s) =
      some ((takeOperand op stack operand s).1,
        ctx.load counts (takeOperand op stack operand s).2) := by
  cases operand with
  | none => rfl
  | some operand => simp [giveOperand, takeOperand, reduceBefore_load]

theorem reduceAll_some_load (e : Pattern → Engine (Option Tree)) (stack : List Pending)
    (operand : Tree) (s : State) :
    reduceAll e stack (some operand) (ctx.load counts s) =
      some (some (completeAll stack operand s).1,
        ctx.load counts (completeAll stack operand s).2) := by
  fun_induction completeAll stack operand s with
  | case1 => rfl
  | case2 operand s top stack ih => simp [reduceAll, emit_load _ _ _ (.reduced _) rfl, ih]

section Expressions

variable {e : Pattern → Engine (Option Tree)} {m : Matcher} (hm : Mirrors counts setting e m)
  (h : ctx.Suits counts setting frame)

/-- The climbing loop of a table that is matched in this frame. -/
def climbing (m : Matcher) (setting : Setting) (frame : Frame) (operators : List Operator) :
    Climbing :=
  ⟨m, OperatorPeg.peekPastTrivia m setting frame, { frame with probe := none }, operators⟩

variable (operators : List Operator)

include hm h

theorem reduceAll_load (stack : List Pending) (operand : Option Tree) (s : State) :
    reduceAll e stack operand (ctx.load counts s) =
      ctx.resume counts
        (finishExpression (climbing m setting frame operators) stack operand s) := by
  cases operand with
  | some operand => exact reduceAll_some_load e stack operand s
  | none =>
      have hfinish : finishExpression (climbing m setting frame operators) stack none s =
          (OperatorPeg.peekPastTrivia m setting frame s).map fun r =>
            ⟨none, r.2.missTerm { frame with probe := none } r.1⟩ := by
        simp only [finishExpression, climbing]
        cases OperatorPeg.peekPastTrivia m setting frame s <;> rfl
      rw [reduceAll, bind_apply, peekPastTrivia_load hm h, hfinish]
      cases OperatorPeg.peekPastTrivia m setting frame s with
      | none => rfl
      | some r =>
          have hmiss := expectTerm_load (s := r.2) (h.elsewhere ctx.probeAt none) r.1
          rw [Context.withProbe_probeAt] at hmiss
          simp [hmiss]

theorem lookOn_load (operand : Option Tree) (s : State) :
    lookOn e operand (ctx.load counts s) =
      ((climbing m setting frame operators).probe operand s).map fun r =>
        (r.1, ctx.load counts r.2) := by
  cases operand with
  | none => rfl
  | some operand =>
      simp only [lookOn, map_apply, peekPastTrivia_load hm h]
      show _ = ((OperatorPeg.peekPastTrivia m setting frame s).map _).map _
      rw [Option.map_map, Option.map_map]
      rfl

omit hm h in
/-- One round of the climbing loop of a table. -/
theorem climbing_succ (rounds : Nat) (stack : List Pending) (operand : Option Tree)
    (lastEmpty : Option Nat) (s : State) :
    climb (climbing m setting frame operators) (rounds + 1) stack operand lastEmpty s =
      ((climbing m setting frame operators).probe operand s).bind fun (probe, before) =>
        (matchOperator (m { frame with probe }) operand.isNone operators before).bind
          fun (found, after) =>
            (climbing m setting frame operators).goOn rounds stack operand lastEmpty before found
              after := climb_succ ..

theorem goOn_load {next : List Pending → Option Tree → Option Nat → Engine (Option Tree)}
    {rounds : Nat}
    (hnext : ∀ stack operand lastEmpty s, next stack operand lastEmpty (ctx.load counts s) =
      ctx.resume counts
        (climb (climbing m setting frame operators) rounds stack operand lastEmpty s))
    (stack : List Pending) (operand : Option Tree) (lastEmpty : Option Nat) (before after : State)
    (found : Option (Operator × Tree)) (hrunning : after.isAborted = false) :
    goOn e next stack operand lastEmpty before.cursor.offset found (ctx.load counts after) =
      ctx.resume counts ((climbing m setting frame operators).goOn rounds stack operand lastEmpty
        before found after) := by
  unfold Climbing.goOn
  cases found with
  | none => simpa [goOn, hrunning] using reduceAll_load hm h operators stack operand after
  | some match' =>
      obtain ⟨op, mid⟩ := match'
      by_cases hrepeats : (after.cursor.offset == before.cursor.offset &&
          repeatsState op lastEmpty before.cursor.offset) = true
      · simp only [goOn, bind_apply, get_apply, Option.bind_some, ite_apply, cursor_load, hrepeats,
          hrunning, if_true, if_false, Bool.false_eq_true, abort_load]
        rfl
      · simp only [goOn, bind_apply, get_apply, Option.bind_some, ite_apply, cursor_load, hrepeats,
          hrunning, if_false, Bool.false_eq_true, emit_load _ _ _ (.operator _ _) rfl,
          giveOperand_load]
        obtain ⟨⟨rest, left⟩, s'⟩ :=
          takeOperand op stack operand (after.add (.operator op.name mid.offset))
        cases op.fixity.takesRight with
        | true => exact hnext _ _ _ _
        | false =>
            simp only [Bool.false_eq_true, if_false]
            show (emit (.reduced op.name) (ctx.load counts s')).bind _ = _
            rw [emit_load _ _ _ _ rfl]
            exact hnext _ _ _ _

/-- Between rounds no place to look on is set. -/
theorem tryOperators_load (rounds : Nat) (stack : List Pending) (operand : Option Tree)
    (lastEmpty : Option Nat) (s : State) :
    tryOperators e operators rounds stack operand lastEmpty ((ctx.withProbe none).load counts s) =
      (ctx.withProbe none).resume counts
        (climb (climbing m setting frame operators) rounds stack operand lastEmpty s) := by
  have hsuits : (ctx.withProbe none).Suits counts setting frame := h.elsewhere none frame.probe
  induction rounds generalizing stack operand lastEmpty s with
  | zero => rfl
  | succ rounds ih =>
      rw [climbing_succ, tryOperators, bind_apply, lookOn_load hm hsuits operators]
      cases (climbing m setting frame operators).probe operand s with
      | none => rfl
      | some looked =>
          obtain ⟨probe, before⟩ := looked
          have hoperator := tryOperator_load (hm _ _ (h.probing probe)) operand.isNone operators
            before
          simp only [Option.map_some, Option.bind_some, bind_apply, setProbe_load,
            Context.withProbe_withProbe, get_apply, cursor_load, hoperator]
          cases matchOperator (m { frame with probe }) operand.isNone operators before with
          | none => rfl
          | some r =>
              obtain ⟨found, after⟩ := r
              simp only [Option.map_some, Option.bind_some, setProbe_load, ite_apply,
                Context.withProbe_withProbe, isSome_fatal_load]
              by_cases hended : after.isAborted = true
              · simp [Climbing.goOn, hended]
              · rw [if_neg hended]
                exact goOn_load hm hsuits operators ih stack operand lastEmpty before after found
                  (by simpa using hended)

omit h in
theorem tryTable_load (h : ctx.Fits counts setting frame) (operators : List Operator) (s : State) :
    tryTable e operators (ctx.load counts s) =
      ctx.resume counts (matchExpression
        ⟨m, OperatorPeg.peekPastTrivia m setting frame, frame, operators⟩ s) := by
  unfold tryTable
  have hloop := tryOperators_load hm h.toSuits operators (2 * s.cursor.ahead.length + 3) [] none
    none s
  simp only [bind_apply, setProbe_load, Option.bind_some, get_apply, cursor_load, hloop]
  show _ = ctx.resume counts (climb (climbing m setting frame operators) _ _ _ _ _)
  generalize climb (climbing m setting frame operators) _ _ _ _ _ = r
  cases r <;> rfl

end Expressions

/-! ## Layers -/

section Layers

variable {e : Pattern → Engine (Option Tree)} {m : Matcher} (hm : Mirrors counts setting e m)
  (h : ctx.Fits counts setting frame)

include h

theorem traceTerminal_load (t : Terminal) (matched : Option String) (s : State) :
    traceTerminal t matched (ctx.load counts s) =
      some ((), ctx.load counts (s.tried frame t matched)) := by
  have hinside : frame.inTrivia = (ctx.load counts s).inTrivia := h.inTrivia
  unfold traceTerminal State.tried
  rw [hinside]
  by_cases hin : (ctx.load counts s).inTrivia = true <;>
    simp [hin, emit_load _ _ _ (.tried _ _ _) rfl]

theorem tryTerminal_load (t : Terminal) (s : State) :
    tryTerminal t (ctx.load counts s) =
      ctx.resume counts (some (matchTerminal setting frame t s)) := by
  have hbeyond := h.beyond_load s
  unfold tryTerminal
  cases hend : t.matchEnd? (ctx.load counts s).beyond s.cursor with
  | none =>
      rw [matchTerminal_of_missed (hbeyond ▸ hend)]
      simp [hend, traceTerminal_load h, expectToken_load h]
  | some stop =>
      rw [matchTerminal_of_matched (hbeyond ▸ hend)]
      simp [hend, traceTerminal_load h, State.textUpTo]

include hm

theorem tryLookup_load (key : String) (s : State) :
    tryLookup e key (ctx.load counts s) =
      ctx.resume counts (matchLookup m setting frame key s) := by
  unfold tryLookup matchLookup
  rw [h.rules_load s]
  simp only [bind_apply, get_apply, Option.bind_some]
  cases (ctx.load counts s).rules.get? key with
  | none => simp
  | some p =>
      by_cases hdeep : setting.depthLimit.any (· ≤ frame.depth) = true
      · simp [enterRule_load h.toSuits, hdeep]
      · have hinner := hm _ _ h.deeper p (s.add (.entered key s.cursor.offset))
        rcases hrun : m { frame with depth := frame.depth + 1 } p
          (s.add (.entered key s.cursor.offset)) with _ | ⟨_ | child, after⟩ <;>
          simp [enterRule_load h.toSuits, hdeep, emit_load _ _ _ (.entered _ _) rfl, hinner, hrun,
            exitRule_load, emit_load _ _ _ (.left _ _) rfl]

theorem tryLookahead_load (inner : Pattern) (wanted : Bool) (s : State) :
    tryLookahead e inner wanted (ctx.load counts s) =
      ctx.resume counts (matchLookahead m frame inner wanted s) := by
  have hquietly := quietly_load ctx (hm _ _ h.toSuits.quietly inner s)
  unfold tryLookahead matchLookahead
  simp only [bind_apply, get_apply, Option.bind_some, hquietly]
  cases m { frame with quiet := true } inner s with
  | none => rfl
  | some o =>
      -- the cursor goes back before the test, which does not look at it
      have hended : ({ o.state with cursor := s.cursor } : State).isAborted = o.state.isAborted :=
        rfl
      simp only [Context.resume_some, Option.bind_some, cursor_load, setCursor_load, ite_apply,
        isSome_fatal_load, hended]
      split <;> rfl

theorem tryLabel_load (name : String) (inner : Pattern) (s : State) :
    tryLabel e name inner (ctx.load counts s) =
      ctx.resume counts ((m frame inner s).map fun o =>
        { o with tree? := o.tree?.map (.label s.cursor.offset name) }) := by
  unfold tryLabel
  simp only [bind_apply, get_apply, Option.bind_some, hm _ _ h inner s]
  cases m frame inner s <;> rfl

/-- What a pattern says is matched alike. -/
theorem tryBody_load (p : Pattern) (s : State) :
    tryBody e p (ctx.load counts s) = ctx.resume counts (matchBody m setting frame p s) := by
  have hfollow := hm _ _ h
  cases p with
  | terminal t => exact tryTerminal_load h t s
  | sequence steps => exact trySteps_load hfollow s.cursor.offset [] steps s
  | choice alternatives => exact tryAlternatives_load hfollow s.cursor.offset 0 alternatives s
  | quantifier inner least most => exact tryQuantifier_load hfollow least most s
  | lookup key => exact tryLookup_load hm h key s
  | label name inner => exact tryLabel_load hm h name inner s
  | lookahead inner wanted => exact tryLookahead_load hm h inner wanted s
  | table operators => exact tryTable_load hm h operators s

end Layers

/-- **Matching in one context comes to what the matcher comes to.** All that is set on
the way is put back, since the context after takes in the state after and keeps the rest. -/
theorem tryMatch_mirrors (counts : Bool) (setting : Setting) (layers : Nat) :
    Mirrors counts setting (tryMatch layers) (matchPattern setting layers) := by
  induction layers with
  | zero => exact fun _ _ _ _ _ => rfl
  | succ layers ih =>
      intro ctx frame h p s
      show tryMatch (layers + 1) p (ctx.load counts s) =
        ctx.resume counts (matchOnce (matchPattern setting layers) setting frame p s)
      unfold matchOnce
      rw [tryMatch, bind_apply, consumeFuel_load]
      rcases hc : s.charge with ⟨_ | _, charged⟩
      · rfl
      · have hstart : charged.cursor = s.cursor := State.cursor_of_charge hc
        simp only [Option.bind_some, ite_apply, if_true, bind_apply, get_apply,
          skipTrivia_load ih h.toSuits]
        cases OperatorPeg.skipTrivia (matchPattern setting layers) setting frame charged with
        | none => rfl
        | some ready =>
            simp only [Option.map_some, Option.bind_some, tryBody_load ih h]
            cases matchBody (matchPattern setting layers) setting frame p ready with
            | none => rfl
            | some o =>
                simp only [Context.resume_some, Option.bind_some, setCursor_load, cursor_load,
                  hstart]
                split <;> rfl

end Engine

end OperatorPeg
