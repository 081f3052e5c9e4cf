import OperatorPeg.Proofs.Runs
import OperatorPeg.Proofs.Skeleton
import OperatorPeg.Tree.SExpr

/-!
# Precedence climbing groups by precedence

The climbing loop compares an operator with the top of its stack only. That this
gives the one tree that the precedences of all operators allow is shown by
following the loop with an `Assembly`: the loop's stack and operand are the
trees of the assembly's, and each round of the loop is one `shift`.
-/

namespace OperatorPeg

@[simp] theorem takesLeft_fixity (op : Operator) : op.fixity.takesLeft = op.left.isSome := by
  unfold Operator.fixity
  cases op.left <;> cases op.right <;> rfl

@[simp] theorem takesRight_fixity (op : Operator) : op.fixity.takesRight = op.right.isSome := by
  unfold Operator.fixity
  cases op.left <;> cases op.right <;> rfl

theorem OperatorsRun.takesLeft_ne {m : Pattern → State → Option Outcome} {wantOperand : Bool}
    {ops : List Operator} {s s' : State} {found : Operator × Tree}
    (h : OperatorsRun m wantOperand ops s (some found, s')) :
    found.1.left.isSome ≠ wantOperand := by
  generalize hr : (some found, s') = r at h
  induction h with
  | exhausted => cases hr
  | passed _ _ ih => exact ih hr
  | matched hk _ =>
      cases hr
      simpa using hk
  | missed _ _ _ ih => exact ih hr

/-- An operator that is found takes a left operand just where one is at hand. -/
theorem Climbing.Finds.takesLeft {c : Climbing} {operand : Option Tree} {s before after : State}
    {found : Operator × Tree} (h : c.Finds operand s before (some found) after) :
    found.1.left.isSome = operand.isSome := by
  obtain ⟨probe, -, hops⟩ := h
  rw [Bool.eq_not_of_ne hops.takesLeft_ne]
  cases operand <;> rfl

/-! ## The loop's stack and the assembly's -/

theorem completeBefore_map_pending (next : Operator) (stack : List Waiting)
    (operand : Skeleton) (current : Tree) (hc : operand.tree? = some current) (s : State) :
    ∃ tree s', completeBefore next (stack.map Waiting.pending) current s
        = (((Assembly.reduceBefore next stack operand).stack.map Waiting.pending, tree), s') ∧
      (Assembly.reduceBefore next stack operand).operand.tree? = some tree := by
  induction stack generalizing operand current s with
  | nil => exact ⟨current, s, rfl, hc⟩
  | cons top stack ih =>
      have hop : top.pending.operator = top.operator := rfl
      simp only [List.map_cons, completeBefore, Assembly.reduceBefore, hop]
      cases top.operator.isEvaluatedBefore next with
      | true =>
          simp only [if_true]
          refine ih (top.fill operand) _ ?_ _
          rw [Waiting.tree?_fill, hc]
      | false => exact ⟨current, s, rfl, hc⟩

theorem takeOperand_map_pending (op : Operator) (a : Assembly) (s : State) :
    ∃ s', takeOperand op (a.stack.map Waiting.pending) a.operand.tree? s
      = (((a.make op).stack.map Waiting.pending, (a.make op).operand.tree?), s') := by
  obtain ⟨stack, operand⟩ := a
  cases operand with
  | absent => exact ⟨s, rfl⟩
  | node left op' mid right =>
      obtain ⟨tree, s', hrun, htree⟩ := completeBefore_map_pending op stack
        (.node left op' mid right) _ rfl s
      refine ⟨s', ?_⟩
      simp only [takeOperand, Skeleton.tree?, hrun, Assembly.make, Skeleton.isPresent, if_true,
        htree]

theorem completeAll_map_pending (stack : List Waiting) (operand : Skeleton) (current : Tree)
    (hc : operand.tree? = some current) (s : State) :
    (Assembly.reduceAll stack operand).tree?
      = some (completeAll (stack.map Waiting.pending) current s).1 := by
  induction stack generalizing operand current s with
  | nil => exact hc
  | cons top stack ih =>
      simp only [List.map_cons, completeAll, Assembly.reduceAll]
      refine ih (top.fill operand) _ ?_ _
      rw [Waiting.tree?_fill, hc]

/-! ## Runs -/

/-- One round of the loop is one `shift` of the assembly. -/
theorem shift_of_finds {c : Climbing} {a : Assembly} (ha : a.Grouped)
    {s before after s₁ s₂ : State} {found : Operator × Tree} {rest : List Pending}
    {left : Option Tree} (hfinds : c.Finds a.operand.tree? s before (some found) after)
    (htake : takeOperand found.1 (a.stack.map Waiting.pending) a.operand.tree? s₁
      = ((rest, left), s₂)) :
    (a.shift found).Grouped ∧ (a.shift found).inorder = a.inorder ++ [found] ∧
      rest = (a.make found.1).stack.map Waiting.pending ∧
      left = (a.make found.1).operand.tree? := by
  have hleft : found.1.left.isSome = a.operand.isPresent :=
    hfinds.takesLeft.trans (Skeleton.isSome_tree? _)
  obtain ⟨s', htake'⟩ := takeOperand_map_pending found.1 a s₁
  rw [htake'] at htake
  cases htake
  obtain ⟨hgrouped, horder⟩ := ha.shift hleft
  exact ⟨hgrouped, horder, rfl, rfl⟩

/-- **A run of the loop assembles its operators.** -/
theorem ClimbRun.assembles {c : Climbing} {rounds : Nat} {stack : List Pending}
    {operand : Option Tree} {lastEmpty : Option Nat} {s : State}
    {ms : List (Operator × Tree)} {o : Outcome}
    (h : ClimbRun c rounds stack operand lastEmpty s ms o) {tree : Tree}
    (ho : o.tree? = some tree) {a : Assembly} (ha : a.Grouped)
    (hstack : stack = a.stack.map Waiting.pending) (hoperand : operand = a.operand.tree?) :
    (ms.foldl Assembly.shift a).Grouped ∧
      (ms.foldl Assembly.shift a).inorder = a.inorder ++ ms ∧
      (ms.foldl Assembly.shift a).operand.isPresent = true ∧
      (Assembly.reduceAll (ms.foldl Assembly.shift a).stack
        (ms.foldl Assembly.shift a).operand).tree? = some tree := by
  induction h generalizing a with
  | aborted => cases ho
  | repeated => cases ho
  | finished hfinds hna hfinish =>
      subst hstack hoperand
      cases ht : a.operand.tree? with
      | none =>
          -- without an operand the run would have missed a term
          simp only [finishExpression, ht] at hfinish
          split at hfinish
          · cases hfinish
          · cases hfinish
            cases ho
      | some current =>
          simp only [finishExpression, ht] at hfinish
          cases hfinish
          refine ⟨ha, (List.append_nil _).symm, ?_, ?_⟩
          · have := Skeleton.isSome_tree? a.operand
            rw [ht] at this
            exact this.symm
          · rw [List.foldl_nil, completeAll_map_pending a.stack a.operand current ht]
            exact ho
  | waits hfinds _ _ htake hr _ ih =>
      subst hstack hoperand
      obtain ⟨hgrouped, horder, rfl, rfl⟩ := shift_of_finds ha hfinds htake
      rw [takesRight_fixity] at hr
      obtain ⟨h1, h2, h3⟩ := ih ho hgrouped (by simp [Assembly.shift, hr]; rfl)
        (by simp [Assembly.shift, hr]; rfl)
      refine ⟨h1, ?_, h3⟩
      rw [List.foldl_cons, h2, horder, List.append_assoc, List.singleton_append]
  | completes hfinds _ _ htake hr _ ih =>
      subst hstack hoperand
      obtain ⟨hgrouped, horder, rfl, rfl⟩ := shift_of_finds ha hfinds htake
      rw [takesRight_fixity] at hr
      obtain ⟨h1, h2, h3⟩ := ih ho hgrouped (by simp [Assembly.shift, hr])
        (by simp [Assembly.shift, hr]; rfl)
      refine ⟨h1, ?_, h3⟩
      rw [List.foldl_cons, h2, horder, List.append_assoc, List.singleton_append]

/-- **Precedence climbing builds the one correct tree**: what an expression matches is
the tree of a skeleton that has the operators in the order of their matches, is
grouped by their precedences, and is the only such skeleton. -/
theorem expression_uniquely_grouped {c : Climbing} {s s' : State} {tree : Tree}
    (h : matchExpression c s = some ⟨some tree, s'⟩) :
    ∃ found sk, ExpressionRun c s found ⟨some tree, s'⟩ ∧ Skeleton.tree? sk = some tree ∧
      sk.inorder = found ∧ sk.Shaped ∧ sk.LeftGrouped ∧ sk.RightGrouped ∧
      ∀ sk' : Skeleton, sk'.inorder = found → sk'.Shaped → sk'.LeftGrouped →
        sk'.RightGrouped → sk' = sk := by
  obtain ⟨found, hrun⟩ := matchExpression_eq_some_iff.mp h
  obtain ⟨hgrouped, horder, hpresent, htree⟩ :=
    ClimbRun.assembles hrun rfl Assembly.Grouped.empty rfl rfl
  obtain ⟨hsk, hsk'⟩ := hgrouped.reduceAll hpresent
  have hfound : (Skeleton.assemble found).inorder = found := by
    rw [Skeleton.assemble, hsk', horder]
    rfl
  refine ⟨found, Skeleton.assemble found, hrun, htree, hfound, hsk.shaped, hsk.left, hsk.right, ?_⟩
  intro sk' horder' hshaped hleft hright
  rw [← horder']
  exact (Skeleton.Grouped.assemble_inorder ⟨hshaped, hleft, hright⟩).symm

/-- A table with an operator of each fixity. -/
private def sampleOperators : List Operator := [
  ⟨"one", none, none, .terminal (.literal "1")⟩,
  ⟨"negate", none, some 2, .terminal (.literal "-")⟩,
  ⟨"square", some 1, none, .terminal (.literal "!")⟩,
  ⟨"add", some 3, some 3, .terminal (.literal "+")⟩]

private def sampleClimbing : Climbing :=
  let setting : Setting := ⟨.empty, [], none⟩
  ⟨matchPattern setting 1, peekPastTrivia (matchPattern setting 1) setting .outermost,
    .outermost, sampleOperators⟩

/-- In `1+-1!+1` the postfix operator is evaluated first, then the sign, then the two
sums from left to right. -/
theorem expression_uniquely_grouped_sample :
    ∃ s s' tree, matchExpression sampleClimbing s = some ⟨some tree, s'⟩ ∧
      tree.sexpr = "(add (add 1 (negate (square 1))) 1)" ∧
      ∃ found sk, ExpressionRun sampleClimbing s found ⟨some tree, s'⟩ ∧
        Skeleton.tree? sk = some tree ∧ sk.inorder = found ∧ sk.Shaped ∧
        sk.LeftGrouped ∧ sk.RightGrouped ∧
        ∀ sk' : Skeleton, sk'.inorder = found → sk'.Shaped → sk'.LeftGrouped →
          sk'.RightGrouped → sk' = sk := by
  have hsexpr : ((matchExpression sampleClimbing (.start (.atStart "1+-1!+1".toList) none)).bind
      Outcome.tree?).map Tree.sexpr = some "(add (add 1 (negate (square 1))) 1)" := by
    decide +kernel
  obtain ⟨tree, htree, hwritten⟩ := Option.map_eq_some_iff.mp hsexpr
  obtain ⟨⟨_, s'⟩, h, rfl⟩ := Option.bind_eq_some_iff.mp htree
  exact ⟨_, s', tree, h, hwritten, expression_uniquely_grouped h⟩

end OperatorPeg
