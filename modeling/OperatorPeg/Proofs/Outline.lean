import Mathlib.Data.List.Forall2
import OperatorPeg.Proofs.Grammar.Printable
import OperatorPeg.Proofs.ParseRuns

/-!
# Outlines

Which steps a sequence keeps decides which children its node has, and nothing else:
what matches, up to where and what happens on the way are the same. The outline of a
tree leaves the children of sequences out, so it does not depend on the steps kept.
-/

namespace OperatorPeg

namespace Tree

mutual
/-- The tree without what the steps of its sequences matched. -/
def outline : Tree → Tree
  | value o text => .value o text
  | sequence o _ => .sequence o []
  | choice o chosen child => .choice o chosen child.outline
  | quantifier o children => .quantifier o (outlineAll children)
  | label o name child => .label o name child.outline
  | lookup o key child => .lookup o key child.outline
  | lookahead o child => .lookahead o (outlineSide child)
  | expression o operator left mid right =>
      .expression o operator (outlineSide left) mid.outline (outlineSide right)

def outlineAll : List Tree → List Tree
  | [] => []
  | t :: ts => t.outline :: outlineAll ts

def outlineSide : Option Tree → Option Tree
  | none => none
  | some t => some t.outline
end

theorem outlineAll_eq_map (ts : List Tree) : outlineAll ts = ts.map outline := by
  induction ts with
  | nil => rfl
  | cons t ts ih => rw [outlineAll, ih, List.map_cons]

theorem offset_outline (t : Tree) : t.outline.offset = t.offset := by
  cases t <;> rfl

/-- Trees of one outline start at one place. -/
theorem offset_eq_of_outline {t t' : Tree} (h : t'.outline = t.outline) :
    t'.offset = t.offset := by
  rw [← offset_outline t', h, offset_outline]

end Tree

/-- The operator with the steps of its pattern kept anew. -/
def Operator.rekeep (op : Operator) : Operator := { op with pattern := op.pattern.rekeep }

theorem Pattern.rekeepOperators_eq_map (ops : List Operator) :
    rekeepOperators ops = ops.map Operator.rekeep := by
  induction ops with
  | nil => rfl
  | cons op ops ih =>
      obtain ⟨name, left, right, p⟩ := op
      rw [rekeepOperators, ih]
      rfl

namespace Pattern

theorem isDiscardable_rekeep (p : Pattern) : p.rekeep.isDiscardable = p.isDiscardable := by
  cases p with
  | quantifier inner least most => cases inner <;> rfl
  | _ => rfl

theorem all_isDiscardable_rekeepSteps (keepAll : Bool) (steps : List Step) :
    (rekeepSteps keepAll steps).all (·.pattern.isDiscardable)
      = steps.all (·.pattern.isDiscardable) := by
  induction steps with
  | nil => rfl
  | cons step steps ih =>
      obtain ⟨keep, p⟩ := step
      simp only [rekeepSteps, List.all_cons, ih, isDiscardable_rekeep]

mutual
/-- Steps that were kept anew stay as they are. -/
theorem rekeep_rekeep : ∀ p : Pattern, p.rekeep.rekeep = p.rekeep
  | .terminal _ => rfl
  | .lookup _ => rfl
  | .sequence steps => by
      simp only [rekeep, all_isDiscardable_rekeepSteps, rekeepSteps_rekeepSteps steps]
  | .choice alternatives => by simp only [rekeep, rekeepAll_rekeepAll alternatives]
  | .quantifier inner _ _ => by simp only [rekeep, rekeep_rekeep inner]
  | .label _ inner => by simp only [rekeep, rekeep_rekeep inner]
  | .lookahead inner _ => by simp only [rekeep, rekeep_rekeep inner]
  | .table operators => by simp only [rekeep, rekeepOperators_rekeepOperators operators]

theorem rekeepSteps_rekeepSteps : ∀ (steps : List Step) (keepAll : Bool),
    rekeepSteps keepAll (rekeepSteps keepAll steps) = rekeepSteps keepAll steps
  | [], _ => rfl
  | ⟨_, p⟩ :: steps, keepAll => by
      simp only [rekeepSteps, isDiscardable_rekeep, rekeep_rekeep p,
        rekeepSteps_rekeepSteps steps]

theorem rekeepAll_rekeepAll : ∀ ps : List Pattern, rekeepAll (rekeepAll ps) = rekeepAll ps
  | [] => rfl
  | p :: ps => by simp only [rekeepAll, rekeep_rekeep p, rekeepAll_rekeepAll ps]

theorem rekeepOperators_rekeepOperators : ∀ ops : List Operator,
    rekeepOperators (rekeepOperators ops) = rekeepOperators ops
  | [] => rfl
  | ⟨_, _, _, p⟩ :: ops => by
      simp only [rekeepOperators, rekeep_rekeep p, rekeepOperators_rekeepOperators ops]
end

end Pattern

theorem Rules.rekeep_rekeep (rules : Rules) : rules.rekeep.rekeep = rules.rekeep := by
  simp only [Rules.rekeep, List.map_map, Function.comp_def, Pattern.rekeep_rekeep]

theorem Pattern.isLookahead_rekeep (p : Pattern) : p.rekeep.isLookahead = p.isLookahead := by
  cases p <;> rfl

theorem Rules.get?_rekeep (rules : Rules) (name : String) :
    rules.rekeep.get? name = (rules.get? name).map Pattern.rekeep := by
  simp only [Rules.get?, Rules.rekeep]
  induction rules.entries with
  | nil => rfl
  | cons entry entries ih =>
      rw [List.map_cons, List.lookup_cons, List.lookup_cons, ih]
      cases name == entry.1 <;> rfl

theorem Rules.trivia?_rekeep (rules : Rules) :
    rules.rekeep.trivia? = rules.trivia?.map Pattern.rekeep := rules.get?_rekeep _

/-! ## Results of one outline -/

/-- Two runs that come to the same, up to the outline of the tree. -/
inductive Resembles : Option Outcome → Option Outcome → Prop
  | endless : Resembles none none
  | missed (s : State) : Resembles (some ⟨none, s⟩) (some ⟨none, s⟩)
  | matched {t t' : Tree} (s : State) :
      t'.outline = t.outline → Resembles (some ⟨some t', s⟩) (some ⟨some t, s⟩)

/-- What `g` does with a pattern whose steps are kept anew resembles what `f` does with it. -/
def Mirrors (g f : Pattern → State → Option Outcome) : Prop :=
  ∀ p s, Resembles (g p.rekeep s) (f p s)

section Loops

variable {g f : Pattern → State → Option Outcome} (hgf : Mirrors g f)

include hgf

theorem matchSteps_resembles (keepAll : Bool) (offset : Nat) (kept kept' : List Tree)
    (steps : List Step) (s : State) :
    Resembles (matchSteps g offset kept' (Pattern.rekeepSteps keepAll steps) s)
      (matchSteps f offset kept steps s) := by
  induction steps generalizing kept kept' s with
  | nil => exact .matched s rfl
  | cons step steps ih =>
      obtain ⟨keep, p⟩ := step
      simp only [Pattern.rekeepSteps, matchSteps]
      have h := hgf p s
      generalize g p.rekeep s = y at h ⊢
      generalize f p s = x at h ⊢
      cases h with
      | endless => exact .endless
      | missed s => exact .missed s
      | matched s _ => exact ih _ _ s

theorem matchAlternatives_resembles (offset index : Nat) (ps : List Pattern) (s : State) :
    Resembles (matchAlternatives g offset index (Pattern.rekeepAll ps) s)
      (matchAlternatives f offset index ps s) := by
  induction ps generalizing index s with
  | nil => exact .missed s
  | cons p ps ih =>
      simp only [Pattern.rekeepAll, matchAlternatives]
      have h := hgf p s
      generalize g p.rekeep s = y at h ⊢
      generalize f p s = x at h ⊢
      cases h with
      | endless => exact .endless
      | matched s ht => exact .matched s (by simp only [Tree.outline, ht])
      | missed s =>
          dsimp only
          split
          · exact .missed s
          · exact ih _ _

/-- Rounds that come to the same, up to the outlines of their nodes. -/
inductive RoundsResemble : Option Rounds → Option Rounds → Prop
  | endless : RoundsResemble none none
  | ended (count : Nat) {nodes nodes' : List Tree} (s : State) :
      nodes'.map Tree.outline = nodes.map Tree.outline →
      RoundsResemble (some ⟨count, nodes', s⟩) (some ⟨count, nodes, s⟩)

theorem matchUpTo_resembles (p : Pattern) (n count : Nat) {nodes nodes' : List Tree} (s : State)
    (hnodes : nodes'.map Tree.outline = nodes.map Tree.outline) :
    RoundsResemble (matchUpTo (g p.rekeep) n ⟨count, nodes', s⟩)
      (matchUpTo (f p) n ⟨count, nodes, s⟩) := by
  induction n generalizing count nodes nodes' s with
  | zero => exact .ended count s hnodes
  | succ n ih =>
      simp only [matchUpTo]
      have h := hgf p s
      generalize g p.rekeep s = y at h ⊢
      generalize f p s = x at h ⊢
      cases h with
      | endless => exact .endless
      | missed s => exact .ended count s hnodes
      | matched s ht => exact ih _ s (by simp only [List.map_cons, ht, hnodes])

theorem matchWhile_resembles (p : Pattern) (budget : List Char) (count : Nat)
    {nodes nodes' : List Tree} (s : State)
    (hnodes : nodes'.map Tree.outline = nodes.map Tree.outline) :
    RoundsResemble (matchWhile (g p.rekeep) budget ⟨count, nodes', s⟩)
      (matchWhile (f p) budget ⟨count, nodes, s⟩) := by
  induction budget generalizing count nodes nodes' s with
  | nil =>
      rw [matchWhile, matchWhile]
      have h := hgf p s
      dsimp only
      generalize g p.rekeep s = y at h ⊢
      generalize f p s = x at h ⊢
      cases h with
      | endless => exact .endless
      | missed s => exact .ended count s hnodes
      | matched s' ht =>
          dsimp only
          split
          · exact .ended count _ hnodes
          · exact .endless
  | cons c budget ih =>
      rw [matchWhile, matchWhile]
      have h := hgf p s
      dsimp only
      generalize g p.rekeep s = y at h ⊢
      generalize f p s = x at h ⊢
      cases h with
      | endless => exact .endless
      | missed s => exact .ended count s hnodes
      | matched s' ht =>
          dsimp only
          split
          · exact .ended count _ hnodes
          · exact ih _ s' (by simp only [List.map_cons, ht, hnodes])

omit hgf in
private theorem roundsEnd_resembles (y x : Option Rounds) (least offset : Nat) :
    RoundsResemble y x → Resembles
      (match y with
        | none => none
        | some r =>
            if r.state.isAborted || r.count < least then some ⟨none, r.state⟩
            else some ⟨some (.quantifier offset r.nodes.reverse), r.state⟩)
      (match x with
        | none => none
        | some r =>
            if r.state.isAborted || r.count < least then some ⟨none, r.state⟩
            else some ⟨some (.quantifier offset r.nodes.reverse), r.state⟩) := by
  intro h
  cases h with
  | endless => exact .endless
  | ended count s hnodes =>
      dsimp only
      split
      · exact .missed s
      · refine .matched s ?_
        simp only [Tree.outline, Tree.outlineAll_eq_map, List.map_reverse, hnodes]

theorem matchQuantifier_resembles (p : Pattern) (least : Nat) (most : Option Nat) (s : State) :
    Resembles (matchQuantifier (g p.rekeep) least most s)
      (matchQuantifier (f p) least most s) := by
  cases most with
  | some n => exact roundsEnd_resembles _ _ least _ (matchUpTo_resembles hgf p n 0 s rfl)
  | none => exact roundsEnd_resembles _ _ least _ (matchWhile_resembles hgf p _ 0 s rfl)

end Loops

/-! ## Expressions -/

/-- Operators found in both runs, the one with the steps of its pattern kept anew. -/
inductive FoundResembles :
    Option (Option (Operator × Tree) × State) → Option (Option (Operator × Tree) × State) → Prop
  | endless : FoundResembles none none
  | exhausted (s : State) : FoundResembles (some (none, s)) (some (none, s))
  | found (op : Operator) {mid mid' : Tree} (s : State) :
      mid'.outline = mid.outline →
      FoundResembles (some (some (op.rekeep, mid'), s)) (some (some (op, mid), s))

theorem matchOperator_resembles {g f : Pattern → State → Option Outcome} (hgf : Mirrors g f)
    (wantOperand : Bool) (ops : List Operator) (s : State) :
    FoundResembles (matchOperator g wantOperand (ops.map Operator.rekeep) s)
      (matchOperator f wantOperand ops s) := by
  induction ops generalizing s with
  | nil => exact .exhausted s
  | cons op ops ih =>
      have hkind : op.rekeep.fixity = op.fixity := rfl
      simp only [List.map_cons, matchOperator, hkind]
      split
      · exact ih s
      · have h := hgf op.pattern s
        simp only [Operator.rekeep]
        generalize g op.pattern.rekeep s = y at h ⊢
        generalize f op.pattern s = x at h ⊢
        cases h with
        | endless => exact .endless
        | missed s => exact ih s
        | matched s ht => exact .found op s ht

/-- Operators that wait in both runs. -/
structure Pending.Resembles (p' p : Pending) : Prop where
  operator : p'.operator = p.operator.rekeep
  mid : p'.mid.outline = p.mid.outline
  left : p'.left.map Tree.outline = p.left.map Tree.outline

theorem Tree.outlineSide_eq_map (side : Option Tree) : outlineSide side = side.map outline := by
  cases side <;> rfl

theorem Pending.Resembles.complete {p' p : Pending} (h : p'.Resembles p)
    {right right' : Option Tree} (hright : right'.map Tree.outline = right.map Tree.outline) :
    (p'.complete right').outline = (p.complete right).outline := by
  rcases p' with ⟨op', mid', left'⟩
  rcases p with ⟨op, mid, left⟩
  obtain ⟨rfl, hmid, hleft⟩ := h
  dsimp only at hmid hleft
  cases left with
  | none =>
      rw [Option.map_none, Option.map_eq_none_iff] at hleft
      subst hleft
      simp only [Pending.complete, Tree.outline, Tree.outlineSide_eq_map, hmid, hright,
        Tree.offset_eq_of_outline hmid, Operator.rekeep]
  | some t =>
      obtain ⟨t', rfl, ht⟩ := Option.map_eq_some_iff.mp hleft
      simp only [Pending.complete, Tree.outline, Tree.outlineSide_eq_map, hmid, hright,
        Tree.offset_eq_of_outline ht, Operator.rekeep, Option.map_some, ht]

/-- Stacks of operators that wait in both runs. -/
abbrev StackResembles : List Pending → List Pending → Prop := List.Forall₂ Pending.Resembles

theorem completeBefore_resembles (next : Operator) {stack stack' : List Pending}
    (hstack : StackResembles stack' stack) {t t' : Tree} (ht : t'.outline = t.outline)
    (s : State) :
    StackResembles (completeBefore next.rekeep stack' t' s).1.1
        (completeBefore next stack t s).1.1 ∧
      (completeBefore next.rekeep stack' t' s).1.2.outline
        = (completeBefore next stack t s).1.2.outline ∧
      (completeBefore next.rekeep stack' t' s).2 = (completeBefore next stack t s).2 := by
  induction hstack generalizing t t' s with
  | nil => exact ⟨.nil, ht, rfl⟩
  | @cons top' top stack' stack htop hstack ih =>
      have hbefore : top'.operator.isEvaluatedBefore next.rekeep
          = top.operator.isEvaluatedBefore next := by rw [htop.operator]; rfl
      have hname : top'.operator.name = top.operator.name := by rw [htop.operator]; rfl
      simp only [completeBefore, hbefore, hname]
      split
      · exact ih (htop.complete (by simp only [Option.map_some, ht])) _
      · exact ⟨.cons htop hstack, ht, rfl⟩

theorem takeOperand_resembles (op : Operator) {stack stack' : List Pending}
    (hstack : StackResembles stack' stack) {operand operand' : Option Tree}
    (hoperand : operand'.map Tree.outline = operand.map Tree.outline) (s : State) :
    StackResembles (takeOperand op.rekeep stack' operand' s).1.1
        (takeOperand op stack operand s).1.1 ∧
      (takeOperand op.rekeep stack' operand' s).1.2.map Tree.outline
        = (takeOperand op stack operand s).1.2.map Tree.outline ∧
      (takeOperand op.rekeep stack' operand' s).2 = (takeOperand op stack operand s).2 := by
  cases operand with
  | none =>
      rw [Option.map_none, Option.map_eq_none_iff] at hoperand
      subst hoperand
      exact ⟨hstack, rfl, rfl⟩
  | some t =>
      obtain ⟨t', rfl, ht⟩ := Option.map_eq_some_iff.mp hoperand
      obtain ⟨hrest, hcurrent, hstate⟩ := completeBefore_resembles op hstack ht s
      exact ⟨hrest, congrArg some hcurrent, hstate⟩

theorem completeAll_resembles {stack stack' : List Pending}
    (hstack : StackResembles stack' stack) {t t' : Tree} (ht : t'.outline = t.outline)
    (s : State) :
    (completeAll stack' t' s).1.outline = (completeAll stack t s).1.outline ∧
      (completeAll stack' t' s).2 = (completeAll stack t s).2 := by
  induction hstack generalizing t t' s with
  | nil => exact ⟨ht, rfl⟩
  | @cons top' top stack' stack htop _ ih =>
      have hname : top'.operator.name = top.operator.name := by rw [htop.operator]; rfl
      simp only [completeAll, hname]
      exact ih (htop.complete (by simp only [Option.map_some, ht])) _

/-- The climbing loop `d` is `c` with the steps of all patterns kept anew. -/
structure Climbing.Mirrors (d c : Climbing) : Prop where
  matcher : ∀ frame, OperatorPeg.Mirrors (d.matcher frame) (c.matcher frame)
  peek : d.peek = c.peek
  frame : d.frame = c.frame
  operators : d.operators = c.operators.map Operator.rekeep

section Expressions

variable {d c : Climbing} (hdc : d.Mirrors c)

include hdc

theorem finishExpression_resembles {stack stack' : List Pending}
    (hstack : StackResembles stack' stack) {operand operand' : Option Tree}
    (hoperand : operand'.map Tree.outline = operand.map Tree.outline) (s : State) :
    Resembles (finishExpression d stack' operand' s) (finishExpression c stack operand s) := by
  cases operand with
  | some t =>
      obtain ⟨t', rfl, ht⟩ := Option.map_eq_some_iff.mp hoperand
      obtain ⟨htree, hstate⟩ := completeAll_resembles hstack ht s
      simp only [finishExpression, hstate]
      exact .matched _ htree
  | none =>
      rw [Option.map_none, Option.map_eq_none_iff] at hoperand
      subst hoperand
      simp only [finishExpression, hdc.peek, hdc.frame]
      cases c.peek s with
      | none => exact .endless
      | some r => exact .missed _

omit hdc in
theorem goOn_resembles {rounds : Nat}
    (hclimb : ∀ {stack stack' : List Pending}, StackResembles stack' stack →
      ∀ {operand operand' : Option Tree},
        operand'.map Tree.outline = operand.map Tree.outline → ∀ lastEmpty s,
        Resembles (climb d rounds stack' operand' lastEmpty s)
          (climb c rounds stack operand lastEmpty s))
    {stack stack' : List Pending} (hstack : StackResembles stack' stack)
    {operand operand' : Option Tree}
    (hoperand : operand'.map Tree.outline = operand.map Tree.outline) (lastEmpty : Option Nat)
    (before after : State) (op : Operator) {mid mid' : Tree}
    (hmid : mid'.outline = mid.outline) :
    Resembles (d.goOn rounds stack' operand' lastEmpty before (some (op.rekeep, mid')) after)
      (c.goOn rounds stack operand lastEmpty before (some (op, mid)) after) := by
  have hrepeats : ∀ offset, repeatsState op.rekeep lastEmpty offset
      = repeatsState op lastEmpty offset := fun _ => rfl
  have hname : op.rekeep.name = op.name := rfl
  have hright : op.rekeep.fixity = op.fixity := rfl
  simp only [Climbing.goOn, hrepeats, hname, hright, Tree.offset_eq_of_outline hmid]
  split
  · exact .missed _
  split
  · exact .missed _
  obtain ⟨hrest, hleft, hstate⟩ := takeOperand_resembles op hstack hoperand
    (after.add (.operator op.name mid.offset))
  have hpending : ∀ {left left' : Option Tree},
      left'.map Tree.outline = left.map Tree.outline →
      Pending.Resembles ⟨op.rekeep, mid', left'⟩ ⟨op, mid, left⟩ := fun h => ⟨rfl, hmid, h⟩
  rw [hstate]
  split
  · exact hclimb (.cons (hpending hleft) hrest) rfl _ _
  · refine hclimb hrest ?_ _ _
    rw [Option.map_some, Option.map_some, (hpending hleft).complete rfl]

theorem climb_resembles (rounds : Nat) {stack stack' : List Pending}
    (hstack : StackResembles stack' stack) {operand operand' : Option Tree}
    (hoperand : operand'.map Tree.outline = operand.map Tree.outline) (lastEmpty : Option Nat)
    (s : State) :
    Resembles (climb d rounds stack' operand' lastEmpty s)
      (climb c rounds stack operand lastEmpty s) := by
  induction rounds generalizing stack stack' operand operand' lastEmpty s with
  | zero => exact .endless
  | succ rounds ih =>
      have hnone : operand'.isNone = operand.isNone := by
        rw [← Option.isNone_map (f := Tree.outline), hoperand, Option.isNone_map]
      have hprobe : d.probe operand' s = c.probe operand s := by
        simp only [Climbing.probe, hnone, hdc.peek]
      rw [climb_succ, climb_succ, hprobe, hnone, hdc.operators]
      cases c.probe operand s with
      | none => exact .endless
      | some r =>
          obtain ⟨probe, before⟩ := r
          simp only [Option.bind_some, hdc.frame]
          have h := matchOperator_resembles (hdc.matcher { c.frame with probe }) operand.isNone
            c.operators before
          generalize matchOperator (d.matcher { c.frame with probe }) operand.isNone
            (c.operators.map Operator.rekeep) before = y at h ⊢
          generalize matchOperator (c.matcher { c.frame with probe }) operand.isNone c.operators
            before = x at h ⊢
          cases h with
          | endless => exact .endless
          | exhausted after =>
              simp only [Option.bind_some, Climbing.goOn]
              split
              · exact .missed after
              · exact finishExpression_resembles hdc hstack hoperand after
          | found op after hmid => exact goOn_resembles ih hstack hoperand _ _ _ op hmid

end Expressions

/-! ## Layers -/

/-- The matcher `g` does with the patterns whose steps are kept anew what `f` does with them. -/
def Matcher.Mirrors (g f : Matcher) : Prop := ∀ frame, OperatorPeg.Mirrors (g frame) (f frame)

section Layer

variable {g f : Matcher} (hgf : g.Mirrors f) {rules : Rules} {beyond : List Char}
  {depthLimit : Option Nat}

include hgf

theorem skipTrivia_rekeep (frame : Frame) (s : State) :
    skipTrivia g ⟨rules.rekeep, beyond, depthLimit⟩ frame s
      = skipTrivia f ⟨rules, beyond, depthLimit⟩ frame s := by
  simp only [skipTrivia, Rules.trivia?_rekeep]
  split
  · rfl
  · cases rules.trivia? with
    | none => rfl
    | some trivia =>
        dsimp only [Option.map_some]
        have h := hgf { frame with inTrivia := true, quiet := true } trivia s
        generalize g { frame with inTrivia := true, quiet := true } trivia.rekeep s = y at h ⊢
        generalize f { frame with inTrivia := true, quiet := true } trivia s = x at h ⊢
        cases h <;> rfl

theorem matchLookup_resembles (frame : Frame) (key : String) (s : State) :
    Resembles (matchLookup g ⟨rules.rekeep, beyond, depthLimit⟩ frame key s)
      (matchLookup f ⟨rules, beyond, depthLimit⟩ frame key s) := by
  simp only [matchLookup, Rules.get?_rekeep]
  cases rules.get? key with
  | none => exact .missed _
  | some p =>
      dsimp only [Option.map_some]
      split
      · exact .missed _
      · have h := hgf { frame with depth := frame.depth + 1 } p
          (s.add (.entered key s.cursor.offset))
        generalize g { frame with depth := frame.depth + 1 } p.rekeep
          (s.add (.entered key s.cursor.offset)) = y at h ⊢
        generalize f { frame with depth := frame.depth + 1 } p
          (s.add (.entered key s.cursor.offset)) = x at h ⊢
        cases h with
        | endless => exact .endless
        | missed s => exact .missed _
        | matched s ht => exact .matched _ (by simp only [Tree.outline, ht])

theorem matchLookahead_resembles (frame : Frame) (inner : Pattern) (wanted : Bool) (s : State) :
    Resembles (matchLookahead g frame inner.rekeep wanted s)
      (matchLookahead f frame inner wanted s) := by
  simp only [matchLookahead]
  have h := hgf { frame with quiet := true } inner s
  generalize g { frame with quiet := true } inner.rekeep s = y at h ⊢
  generalize f { frame with quiet := true } inner s = x at h ⊢
  cases h with
  | endless => exact .endless
  | missed s' =>
      dsimp only
      split
      · exact .missed _
      · exact .matched _ rfl
  | matched s' ht =>
      dsimp only [Option.isSome_some]
      split
      · exact .missed _
      · exact .matched _ (by simp only [Tree.outline, Tree.outlineSide, ht])

theorem matchBody_resembles (frame : Frame) (p : Pattern) (s : State) :
    Resembles (matchBody g ⟨rules.rekeep, beyond, depthLimit⟩ frame p.rekeep s)
      (matchBody f ⟨rules, beyond, depthLimit⟩ frame p s) := by
  cases p with
  | terminal t =>
      have hsame : matchTerminal ⟨rules.rekeep, beyond, depthLimit⟩ frame t s
          = matchTerminal ⟨rules, beyond, depthLimit⟩ frame t s := rfl
      simp only [Pattern.rekeep, matchBody, hsame]
      rcases matchTerminal ⟨rules, beyond, depthLimit⟩ frame t s with ⟨_ | tree, s'⟩
      · exact .missed s'
      · exact .matched s' rfl
  | sequence steps =>
      simp only [Pattern.rekeep, matchBody]
      exact matchSteps_resembles (hgf frame) _ _ _ _ steps s
  | choice alternatives =>
      simp only [Pattern.rekeep, matchBody]
      exact matchAlternatives_resembles (hgf frame) _ _ alternatives s
  | quantifier inner least most =>
      simp only [Pattern.rekeep, matchBody]
      exact matchQuantifier_resembles (hgf frame) inner least most s
  | lookup key =>
      simp only [Pattern.rekeep, matchBody]
      exact matchLookup_resembles hgf frame key s
  | label name inner =>
      simp only [Pattern.rekeep, matchBody]
      have h := hgf frame inner s
      generalize g frame inner.rekeep s = y at h ⊢
      generalize f frame inner s = x at h ⊢
      cases h with
      | endless => exact .endless
      | missed s => exact .missed s
      | matched s ht => exact .matched s (by simp only [Tree.outline, ht])
  | lookahead inner wanted =>
      simp only [Pattern.rekeep, matchBody]
      exact matchLookahead_resembles hgf frame inner wanted s
  | table operators =>
      simp only [Pattern.rekeep, matchBody, matchExpression, Pattern.rekeepOperators_eq_map]
      have hpeek : peekPastTrivia g ⟨rules.rekeep, beyond, depthLimit⟩ frame
          = peekPastTrivia f ⟨rules, beyond, depthLimit⟩ frame := by
        funext s
        simp only [peekPastTrivia, skipTrivia_rekeep hgf]
      have hdc : Climbing.Mirrors
          ⟨g, peekPastTrivia g ⟨rules.rekeep, beyond, depthLimit⟩ frame,
            { frame with probe := none }, operators.map Operator.rekeep⟩
          ⟨f, peekPastTrivia f ⟨rules, beyond, depthLimit⟩ frame,
            { frame with probe := none }, operators⟩ := ⟨hgf, hpeek, rfl, rfl⟩
      exact climb_resembles hdc _ .nil rfl none s

theorem matchOnce_mirrors :
    (matchOnce g ⟨rules.rekeep, beyond, depthLimit⟩).Mirrors
      (matchOnce f ⟨rules, beyond, depthLimit⟩) := by
  intro frame p s
  simp only [matchOnce, skipTrivia_rekeep hgf, Pattern.isLookahead_rekeep]
  split
  · exact .missed _
  · next charged hc =>
      cases skipTrivia f ⟨rules, beyond, depthLimit⟩ frame charged with
      | none => exact .endless
      | some ready =>
          dsimp only
          have h : Resembles
              (matchBody g ⟨rules.rekeep, beyond, depthLimit⟩ frame p.rekeep ready)
              (matchBody f ⟨rules, beyond, depthLimit⟩ frame p ready) :=
            matchBody_resembles hgf frame p ready
          generalize matchBody g ⟨rules.rekeep, beyond, depthLimit⟩ frame p.rekeep ready = y at h ⊢
          generalize matchBody f ⟨rules, beyond, depthLimit⟩ frame p ready = x at h ⊢
          cases h with
          | endless => exact .endless
          | missed s' => exact .missed _
          | matched s' ht =>
              dsimp only [Option.isNone_some]
              split
              · exact .matched _ ht
              · exact .matched _ ht

end Layer

/-- **The steps that sequences keep do not matter to what matches.** -/
theorem matchPattern_mirrors (rules : Rules) (beyond : List Char) (depthLimit : Option Nat)
    (layers : Nat) :
    (matchPattern ⟨rules.rekeep, beyond, depthLimit⟩ layers).Mirrors
      (matchPattern ⟨rules, beyond, depthLimit⟩ layers) := by
  induction layers with
  | zero => exact fun _ _ _ => .endless
  | succ layers ih => exact matchOnce_mirrors ih

/-! ## Parses -/

/-- The report with the outline of its tree. -/
def Report.outline (r : Report) : Report := ⟨r.result.map Tree.outline, r.events⟩

theorem conclude_outline {g f : Matcher} (hgf : g.Mirrors f) {rules : Rules}
    {beyond : List Char} {depthLimit : Option Nat} {start : Start} {y x : Option Outcome}
    (h : Resembles y x) :
    (y.bind fun o => conclude g ⟨rules.rekeep, beyond, depthLimit⟩ (start.leave o)).map
        Report.outline =
      (x.bind fun o => conclude f ⟨rules, beyond, depthLimit⟩ (start.leave o)).map
        Report.outline := by
  cases h with
  | endless => rfl
  | missed s =>
      simp only [Option.bind_some, conclude, Start.tree?_leave]
  | @matched t t' s ht =>
      have hstate : (start.leave ⟨some t', s⟩).state = (start.leave ⟨some t, s⟩).state := by
        cases start <;> rfl
      simp only [Option.bind_some, conclude, Start.tree?_leave, hstate, skipTrivia_rekeep hgf]
      cases skipTrivia f ⟨rules, beyond, depthLimit⟩ .outermost (start.leave ⟨some t, s⟩).state with
      | none => rfl
      | some s' =>
          dsimp only
          split
          · simp only [Option.map_some, Report.outline, Except.map, ht]
          · rfl

/-- **Parses of rules whose steps are kept anew** have the reports of the old ones, up to
the outlines of their trees. -/
theorem parseWindow_outline (layers : Nat) (rules : Rules) (limits : Limits) (name : String)
    (window : Window) :
    (parseWindow layers rules.rekeep limits (.rule name) window).map Report.outline =
      (parseWindow layers rules limits (.rule name) window).map Report.outline := by
  have hget : (Start.rule name).pattern? rules.rekeep
      = ((Start.rule name).pattern? rules).map Pattern.rekeep := rules.get?_rekeep name
  cases hp : (Start.rule name).pattern? rules with
  | none =>
      have hp' : (Start.rule name).pattern? rules.rekeep = none := by rw [hget, hp]; rfl
      have hnone : rules.get? name = none := hp
      have hnone' : rules.rekeep.get? name = none := hp'
      simp only [parseWindow, hnone, hnone']
  | some p =>
      have hp' : (Start.rule name).pattern? rules.rekeep = some p.rekeep := by rw [hget, hp]; rfl
      rw [parseWindow_of_defined hp, parseWindow_of_defined hp']
      have hmirrors := matchPattern_mirrors rules window.beyond limits.depth layers
      exact conclude_outline hmirrors (hmirrors .outermost p _)

namespace Pattern

mutual
theorem height_rekeep : ∀ p : Pattern, p.rekeep.height = p.height
  | .terminal _ => rfl
  | .lookup _ => rfl
  | .sequence steps => by simp only [rekeep, height, heightOfSteps_rekeep steps]
  | .choice alternatives => by simp only [rekeep, height, heightOfAll_rekeep alternatives]
  | .quantifier inner _ _ => by simp only [rekeep, height, height_rekeep inner]
  | .label _ inner => by simp only [rekeep, height, height_rekeep inner]
  | .lookahead inner _ => by simp only [rekeep, height, height_rekeep inner]
  | .table operators => by simp only [rekeep, height, heightOfOperators_rekeep operators]

theorem heightOfSteps_rekeep : ∀ (steps : List Step) (keepAll : Bool),
    heightOfSteps (rekeepSteps keepAll steps) = heightOfSteps steps
  | [], _ => rfl
  | ⟨_, p⟩ :: steps, keepAll => by
      simp only [rekeepSteps, heightOfSteps, height_rekeep p, heightOfSteps_rekeep steps]

theorem heightOfAll_rekeep : ∀ ps : List Pattern, heightOfAll (rekeepAll ps) = heightOfAll ps
  | [] => rfl
  | p :: ps => by simp only [rekeepAll, heightOfAll, height_rekeep p, heightOfAll_rekeep ps]

theorem heightOfOperators_rekeep : ∀ ops : List Operator,
    heightOfOperators (rekeepOperators ops) = heightOfOperators ops
  | [] => rfl
  | ⟨_, _, _, p⟩ :: ops => by
      simp only [rekeepOperators, heightOfOperators, height_rekeep p, heightOfOperators_rekeep ops]
end

end Pattern

/-- Rules with other steps kept need as many layers. -/
theorem layersFor_rekeep (rules : Rules) (limits : Limits) (start : Start) (source : String) :
    layersFor rules.rekeep limits start source = layersFor rules limits start source := by
  simp only [layersFor, Rules.height, Rules.size, Rules.rekeep, List.length_map, List.foldl_map,
    Pattern.height_rekeep]

/-- The same of a range of a source text. -/
theorem parseRange_outline (rules : Rules) (limits : Limits) (name source : String)
    (first last : Nat) :
    (parseRange rules.rekeep limits (.rule name) source first last).map Report.outline =
      (parseRange rules limits (.rule name) source first last).map Report.outline := by
  simp only [parseRange, parseWithin, layersFor_rekeep, parseWindow_outline]

end OperatorPeg
