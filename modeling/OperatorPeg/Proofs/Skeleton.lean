import OperatorPeg.Engine.Expression

/-!
# Skeletons of expressions

How the operators of an expression are grouped. A skeleton keeps the operators
of an expression tree with what their own patterns matched, and forgets what is
inside those matches. Two laws say which groupings the precedences allow;
together with the order of the operators they leave exactly one skeleton, and
`assemble` computes it, one operator after the other.
-/

namespace OperatorPeg

/-- Operators put together, each with its operands. `absent` stands where there is
no operand. -/
inductive Skeleton where
  | absent
  | node (left : Skeleton) (operator : Operator) (mid : Tree) (right : Skeleton)

namespace Skeleton

def isPresent : Skeleton → Bool
  | absent => false
  | node _ _ _ _ => true

/-- The expression tree with this skeleton. -/
def tree? : Skeleton → Option Tree
  | absent => none
  | node left op mid right => some (Pending.complete ⟨op, mid, left.tree?⟩ right.tree?)

/-- The operators with their matches, from left to right. -/
def inorder : Skeleton → List (Operator × Tree)
  | absent => []
  | node left op mid right => left.inorder ++ (op, mid) :: right.inorder

/-- The operators met on the way down over right operands. -/
def rightChain : Skeleton → List Operator
  | absent => []
  | node _ op _ right => op :: right.rightChain

/-- The operators met on the way down over left operands. -/
def leftChain : Skeleton → List Operator
  | absent => []
  | node left op _ _ => op :: left.leftChain

/-- Every operator has an operand on each side that it declares a precedence for, and
on no other side. -/
def Shaped : Skeleton → Prop
  | absent => True
  | node left op _ right =>
      left.isPresent = op.left.isSome ∧ right.isPresent = op.right.isSome ∧
        left.Shaped ∧ right.Shaped

/-- What an operator takes on its left binds at least as tight there as the operator
does: along the right edge of the left operand, right precedences stay up to the
operator's left one. -/
def LeftGrouped : Skeleton → Prop
  | absent => True
  | node left op _ right =>
      (∀ p ∈ left.rightChain, ∀ x ∈ p.right, ∀ y ∈ op.left, x ≤ y) ∧
        left.LeftGrouped ∧ right.LeftGrouped

/-- What an operator takes on its right binds tighter there than the operator does:
along the left edge of the right operand, left precedences stay below the
operator's right one. -/
def RightGrouped : Skeleton → Prop
  | absent => True
  | node left op _ right =>
      (∀ m ∈ right.leftChain, ∀ x ∈ m.left, ∀ y ∈ op.right, x < y) ∧
        left.RightGrouped ∧ right.RightGrouped

/-- The precedences allow this grouping. -/
structure Grouped (sk : Skeleton) : Prop where
  shaped : sk.Shaped
  left : sk.LeftGrouped
  right : sk.RightGrouped

theorem isSome_tree? (sk : Skeleton) : sk.tree?.isSome = sk.isPresent := by
  cases sk <;> rfl

theorem Grouped.absent : Skeleton.absent.Grouped := ⟨trivial, trivial, trivial⟩

theorem Grouped.leftOperand {left right : Skeleton} {op : Operator} {mid : Tree}
    (h : (node left op mid right).Grouped) : left.Grouped :=
  ⟨h.shaped.2.2.1, h.left.2.1, h.right.2.1⟩

theorem Grouped.rightOperand {left right : Skeleton} {op : Operator} {mid : Tree}
    (h : (node left op mid right).Grouped) : right.Grouped :=
  ⟨h.shaped.2.2.2, h.left.2.2, h.right.2.2⟩

end Skeleton

/-! ## Assembling -/

/-- An operator that has its left operand and waits for its right one. -/
structure Waiting where
  left : Skeleton
  operator : Operator
  mid : Tree

namespace Waiting

def fill (w : Waiting) (right : Skeleton) : Skeleton := .node w.left w.operator w.mid right

/-- The operators on the left edge of the skeleton to come. -/
def leftChain (w : Waiting) : List Operator := w.operator :: w.left.leftChain

def pending (w : Waiting) : Pending := ⟨w.operator, w.mid, w.left.tree?⟩

theorem tree?_fill (w : Waiting) (right : Skeleton) :
    (w.fill right).tree? = some (w.pending.complete right.tree?) := rfl

end Waiting

/-- A skeleton in the making: operators that wait, latest first, and the operand at
hand. -/
structure Assembly where
  stack : List Waiting
  operand : Skeleton

namespace Assembly

def empty : Assembly := ⟨[], .absent⟩

/-- The operator on top of the stack completes with the operand at hand, as long as it
is evaluated before `next`. -/
def reduceBefore (next : Operator) : List Waiting → Skeleton → Assembly
  | [], operand => ⟨[], operand⟩
  | top :: stack, operand =>
      if top.operator.isEvaluatedBefore next then reduceBefore next stack (top.fill operand)
      else ⟨top :: stack, operand⟩

/-- All operators on the stack complete. -/
def reduceAll : List Waiting → Skeleton → Skeleton
  | [], operand => operand
  | top :: stack, operand => reduceAll stack (top.fill operand)

/-- What `op` finds: where an operand is at hand, it becomes the left one. -/
def make (op : Operator) (a : Assembly) : Assembly :=
  if a.operand.isPresent then reduceBefore op a.stack a.operand else a

/-- Add an operator at the right end. -/
def shift (a : Assembly) (found : Operator × Tree) : Assembly :=
  let ready := a.make found.1
  if found.1.right.isSome then ⟨⟨ready.operand, found.1, found.2⟩ :: ready.stack, .absent⟩
  else ⟨ready.stack, .node ready.operand found.1 found.2 .absent⟩

end Assembly

/-- The skeleton of a list of operators. -/
def Skeleton.assemble (found : List (Operator × Tree)) : Skeleton :=
  let a := found.foldl Assembly.shift .empty
  Assembly.reduceAll a.stack a.operand

/-! ## Grouped skeletons are what `assemble` makes of their operators -/

namespace Skeleton

/-- The operators that still wait when the last operator of the skeleton has come. -/
def spine : Skeleton → List Waiting
  | absent => []
  | node left op mid right =>
      if right.isPresent then right.spine ++ [⟨left, op, mid⟩] else []

/-- The operand at hand by then. -/
def tip : Skeleton → Skeleton
  | absent => absent
  | node left op mid right => if right.isPresent then right.tip else node left op mid right

theorem isPresent_tip (sk : Skeleton) : sk.tip.isPresent = sk.isPresent := by
  induction sk with
  | absent => rfl
  | node left op mid right _ ih =>
      simp only [tip]
      cases h : right.isPresent with
      | true =>
          simp only [if_true, ih, h]
          rfl
      | false => rfl

theorem reduceAll_spine (sk : Skeleton) (stack : List Waiting) :
    Assembly.reduceAll (sk.spine ++ stack) sk.tip = Assembly.reduceAll stack sk := by
  induction sk generalizing stack with
  | absent => rfl
  | node left op mid right _ ih =>
      simp only [spine, tip]
      cases h : right.isPresent with
      | true =>
          simp only [if_true, List.append_assoc, ih]
          rfl
      | false => rfl

theorem mem_rightChain_of_mem_spine {sk : Skeleton} {w : Waiting} (h : w ∈ sk.spine) :
    w.operator ∈ sk.rightChain := by
  induction sk with
  | absent => simp [spine] at h
  | node left op mid right _ ih =>
      simp only [spine] at h
      cases hr : right.isPresent with
      | true =>
          simp only [hr, if_true, List.mem_append, List.mem_singleton] at h
          rcases h with h | rfl
          · exact List.mem_cons_of_mem _ (ih h)
          · exact List.mem_cons_self
      | false => simp [hr] at h

end Skeleton

/-- The operators of `chain` that take a left operand leave the top of the stack
waiting. -/
def Above (stack : List Waiting) (chain : List Operator) : Prop :=
  ∀ top ∈ stack.head?, ∀ m ∈ chain, m.left.isSome →
    top.operator.isEvaluatedBefore m = false

theorem isEvaluatedBefore_of_le {p m : Operator}
    (h : ∀ x ∈ p.right, ∀ y ∈ m.left, x ≤ y) : p.isEvaluatedBefore m = true := by
  unfold Operator.isEvaluatedBefore
  split
  · next right left hp hm => simpa using h right hp left hm
  · rfl

theorem isEvaluatedBefore_eq_false_iff {p m : Operator} :
    p.isEvaluatedBefore m = false ↔
      ∃ x ∈ p.right, ∃ y ∈ m.left, y < x := by
  unfold Operator.isEvaluatedBefore
  split
  · next right left hp hm => simp [hp, hm]
  · next h =>
      constructor
      · intro hf
        cases hf
      · rintro ⟨x, hx, y, hy, _⟩
        exact absurd hy (h x y hx)

namespace Assembly

/-- Operators that all go before `next` complete up to the stack below them. -/
theorem reduceBefore_append {next : Operator} {upper stack : List Waiting}
    (hupper : ∀ w ∈ upper, w.operator.isEvaluatedBefore next = true)
    (hstack : ∀ top ∈ stack.head?, top.operator.isEvaluatedBefore next = false)
    (operand : Skeleton) :
    reduceBefore next (upper ++ stack) operand = ⟨stack, reduceAll upper operand⟩ := by
  induction upper generalizing operand with
  | nil =>
      cases stack with
      | nil => rfl
      | cons top stack => simp [reduceBefore, reduceAll, hstack top rfl]
  | cons w upper ih =>
      have hw := hupper w List.mem_cons_self
      simp only [List.cons_append, reduceBefore, hw, if_true, reduceAll]
      exact ih (fun v hv => hupper v (List.mem_cons_of_mem _ hv)) (w.fill operand)

/-- An operator finds its whole left operand, taken apart as it is, and no more. -/
theorem make_spine {left right : Skeleton} {op : Operator} {mid : Tree}
    (h : (Skeleton.node left op mid right).Grouped) {stack : List Waiting}
    (habove : Above stack (op :: left.leftChain)) :
    make op ⟨left.spine ++ stack, left.tip⟩ = ⟨stack, left⟩ := by
  simp only [make, Skeleton.isPresent_tip]
  cases hl : left.isPresent with
  | false =>
      cases left with
      | absent => rfl
      | node => cases hl
  | true =>
      have hop : op.left.isSome := by rw [← h.shaped.1, hl]
      have hspine := Skeleton.reduceAll_spine left []
      rw [List.append_nil] at hspine
      rw [if_pos rfl, reduceBefore_append, hspine]
      · rfl
      · intro w hw
        exact isEvaluatedBefore_of_le
          (h.left.1 w.operator (Skeleton.mem_rightChain_of_mem_spine hw))
      · intro top ht
        exact habove top ht op List.mem_cons_self hop

/-- The right operand stays above the operator that waits for it. -/
theorem above_right {left right : Skeleton} {op : Operator} {mid : Tree}
    (h : (Skeleton.node left op mid right).Grouped) (hr : right.isPresent = true)
    (stack : List Waiting) : Above (⟨left, op, mid⟩ :: stack) right.leftChain := by
  intro top ht m hm hml
  obtain rfl : _ = top := by simpa using ht
  have hor : op.right.isSome := by rw [← h.shaped.2.1, hr]
  obtain ⟨x, hx⟩ := Option.isSome_iff_exists.mp hor
  obtain ⟨y, hy⟩ := Option.isSome_iff_exists.mp hml
  exact isEvaluatedBefore_eq_false_iff.mpr ⟨x, hx, y, hy, h.right.1 m hm y hy x hx⟩

/-- **Replaying a grouped skeleton**: its operators, added one after the other, leave
its right edge on the stack. -/
theorem foldl_shift_inorder {sk : Skeleton} (h : sk.Grouped) {stack : List Waiting}
    (habove : Above stack sk.leftChain) :
    sk.inorder.foldl shift ⟨stack, .absent⟩ = ⟨sk.spine ++ stack, sk.tip⟩ := by
  induction sk generalizing stack with
  | absent => rfl
  | node left op mid right ihleft ihright =>
      -- the left operand is complete when the operator comes
      have hleft : left.inorder.foldl shift ⟨stack, .absent⟩ = ⟨left.spine ++ stack, left.tip⟩ :=
        ihleft h.leftOperand fun top ht m hm => habove top ht m (List.mem_cons_of_mem _ hm)
      simp only [Skeleton.inorder, List.foldl_append, List.foldl_cons, hleft, shift,
        make_spine h habove, Skeleton.spine, Skeleton.tip, ← h.shaped.2.1]
      cases hr : right.isPresent with
      | false =>
          cases right with
          | absent => rfl
          | node => cases hr
      | true =>
          simp only [if_true, ihright h.rightOperand (above_right h hr stack),
            List.append_assoc, List.singleton_append]

end Assembly

/-- A grouped skeleton is the one that is assembled from its operators. -/
theorem Skeleton.Grouped.assemble_inorder {sk : Skeleton} (h : sk.Grouped) :
    assemble sk.inorder = sk := by
  have hrun : sk.inorder.foldl Assembly.shift ⟨[], .absent⟩ = ⟨sk.spine ++ [], sk.tip⟩ :=
    Assembly.foldl_shift_inorder h (by simp [Above])
  simp only [Assembly.empty, assemble, hrun]
  exact Skeleton.reduceAll_spine sk []

/-! ## What `assemble` makes is grouped -/

/-- The part of a node that is there before its right operand allows for one. -/
structure Waiting.Grouped (w : Waiting) : Prop where
  left : w.left.Grouped
  shaped : w.left.isPresent = w.operator.left.isSome
  waits : w.operator.right.isSome
  below : ∀ p ∈ w.left.rightChain, ∀ x ∈ p.right, ∀ y ∈ w.operator.left, x ≤ y

namespace Assembly

/-- Each operator on the stack is grouped and stays above the one below it. -/
def StackGrouped : List Waiting → Prop
  | [] => True
  | w :: stack => w.Grouped ∧ Above stack w.leftChain ∧ StackGrouped stack

/-- **The invariant of assembling**: the stack and the operand at hand can still be
completed to a grouped skeleton, and nothing is missing inside the operand. -/
structure Grouped (a : Assembly) : Prop where
  stack : StackGrouped a.stack
  operand : a.operand.Grouped
  above : Above a.stack a.operand.leftChain
  complete : ∀ p ∈ a.operand.rightChain, p.right = none

/-- The operators on the stack with what is on their left. -/
def stackInorder : List Waiting → List (Operator × Tree)
  | [] => []
  | w :: stack => stackInorder stack ++ (w.left.inorder ++ [(w.operator, w.mid)])

/-- The operators so far, from left to right. -/
def inorder (a : Assembly) : List (Operator × Tree) :=
  stackInorder a.stack ++ a.operand.inorder

theorem stackInorder_fill (w : Waiting) (stack : List Waiting) (operand : Skeleton) :
    stackInorder stack ++ (w.fill operand).inorder
      = stackInorder (w :: stack) ++ operand.inorder := by
  simp [stackInorder, Waiting.fill, Skeleton.inorder]

/-- The operator on top of the stack may take the operand at hand. -/
theorem grouped_fill {w : Waiting} {stack : List Waiting} {operand : Skeleton}
    (hw : w.Grouped) (ho : operand.Grouped) (hp : operand.isPresent = true)
    (habove : Above (w :: stack) operand.leftChain) : (w.fill operand).Grouped where
  shaped := ⟨hw.shaped, by rw [hp, hw.waits], hw.left.shaped, ho.shaped⟩
  left := ⟨hw.below, hw.left.left, ho.left⟩
  right := by
    refine ⟨?_, hw.left.right, ho.right⟩
    intro m hm y hy x hx
    obtain ⟨x', hx', y', hy', hlt⟩ := isEvaluatedBefore_eq_false_iff.mp
      (habove w rfl m hm (Option.isSome_of_mem hy))
    obtain rfl := Option.mem_unique hx hx'
    obtain rfl := Option.mem_unique hy hy'
    exact hlt

/-- What `reduceBefore next` leaves behind: a left operand for `next`, above the
stack. -/
structure Ready (next : Operator) (a : Assembly) : Prop where
  stack : StackGrouped a.stack
  operand : a.operand.Grouped
  present : a.operand.isPresent = next.left.isSome
  above : Above a.stack (next :: a.operand.leftChain)
  below : ∀ p ∈ a.operand.rightChain, ∀ x ∈ p.right, ∀ y ∈ next.left, x ≤ y

theorem ready_reduceBefore {next : Operator} (hnext : next.left.isSome)
    {stack : List Waiting} {operand : Skeleton} (hs : StackGrouped stack)
    (ho : operand.Grouped) (hp : operand.isPresent = true)
    (habove : Above stack operand.leftChain)
    (hbelow : ∀ p ∈ operand.rightChain, ∀ x ∈ p.right, ∀ y ∈ next.left, x ≤ y) :
    Ready next (reduceBefore next stack operand) ∧
      (reduceBefore next stack operand).inorder = stackInorder stack ++ operand.inorder := by
  induction stack generalizing operand with
  | nil => exact ⟨⟨hs, ho, by rw [hnext]; exact hp, by simp [reduceBefore, Above], hbelow⟩, rfl⟩
  | cons w stack ih =>
      simp only [reduceBefore]
      cases he : w.operator.isEvaluatedBefore next with
      | true =>
          simp only [if_true]
          rw [← stackInorder_fill]
          refine ih hs.2.2 (grouped_fill hs.1 ho hp habove) rfl hs.2.1 ?_
          intro p hpmem x hx y hy
          rcases List.mem_cons.mp hpmem with rfl | hpmem
          · -- the completed operator itself went before `next`
            have hn : ¬ (w.operator.isEvaluatedBefore next = false) := by simp [he]
            rw [isEvaluatedBefore_eq_false_iff] at hn
            exact Nat.not_lt.mp fun hlt => hn ⟨x, hx, y, hy, hlt⟩
          · exact hbelow p hpmem x hx y hy
      | false =>
          simp only [Bool.false_eq_true, if_false]
          refine ⟨⟨hs, ho, by rw [hnext]; exact hp, ?_, hbelow⟩, rfl⟩
          intro top ht m hm hml
          obtain rfl : w = top := by simpa using ht
          rcases List.mem_cons.mp hm with rfl | hm
          · exact he
          · exact habove w rfl m hm hml

theorem Grouped.make {a : Assembly} (h : a.Grouped) {op : Operator}
    (hop : op.left.isSome = a.operand.isPresent) :
    Ready op (a.make op) ∧ (a.make op).inorder = a.inorder := by
  unfold Assembly.make
  cases hp : a.operand.isPresent with
  | true =>
      refine ready_reduceBefore (by rw [hop, hp]) h.stack h.operand hp h.above ?_
      intro p hpmem x hx
      rw [h.complete p hpmem] at hx
      cases hx
  | false =>
      simp only [Bool.false_eq_true, if_false]
      refine ⟨⟨h.stack, h.operand, hop.symm, ?_, ?_⟩, trivial⟩
      · intro top ht m hm hml
        rcases List.mem_cons.mp hm with rfl | hm
        · rw [hop, hp] at hml
          cases hml
        · exact h.above top ht m hm hml
      · intro p _ x _ y hy
        have := Option.isSome_of_mem hy
        rw [hop, hp] at this
        cases this

/-- **One operator more** keeps the invariant and comes last in order. -/
theorem Grouped.shift {a : Assembly} (h : a.Grouped) {found : Operator × Tree}
    (hop : found.1.left.isSome = a.operand.isPresent) :
    (a.shift found).Grouped ∧ (a.shift found).inorder = a.inorder ++ [found] := by
  obtain ⟨op, mid⟩ := found
  obtain ⟨hready, horder⟩ := h.make hop
  simp only [Assembly.inorder] at horder
  simp only [Assembly.shift]
  cases hr : op.right.isSome with
  | true =>
      simp only [if_true]
      refine ⟨⟨⟨⟨hready.operand, hready.present, hr, hready.below⟩, hready.above, hready.stack⟩,
        .absent, by simp [Above, Skeleton.leftChain], by simp [Skeleton.rightChain]⟩, ?_⟩
      simp [Assembly.inorder, stackInorder, Skeleton.inorder, ← List.append_assoc, horder]
  | false =>
      simp only [Bool.false_eq_true, if_false]
      refine ⟨⟨hready.stack, ⟨⟨hready.present, by rw [hr]; rfl, hready.operand.shaped, trivial⟩,
        ⟨hready.below, hready.operand.left, trivial⟩,
        ⟨by simp [Skeleton.leftChain], hready.operand.right, trivial⟩⟩, hready.above, ?_⟩, ?_⟩
      · intro p hpmem
        obtain rfl : p = op := by simpa [Skeleton.rightChain] using hpmem
        simpa using hr
      · simp [Assembly.inorder, Skeleton.inorder, ← List.append_assoc, horder]

/-- With an operand at hand everything completes. -/
theorem grouped_reduceAll {stack : List Waiting} {operand : Skeleton}
    (hs : StackGrouped stack) (ho : operand.Grouped) (hp : operand.isPresent = true)
    (habove : Above stack operand.leftChain) :
    (reduceAll stack operand).Grouped ∧
      (reduceAll stack operand).inorder = stackInorder stack ++ operand.inorder := by
  induction stack generalizing operand with
  | nil => exact ⟨ho, rfl⟩
  | cons w stack ih =>
      rw [← stackInorder_fill]
      exact ih hs.2.2 (grouped_fill hs.1 ho hp habove) rfl hs.2.1

theorem Grouped.reduceAll {a : Assembly} (h : a.Grouped) (hp : a.operand.isPresent = true) :
    (Assembly.reduceAll a.stack a.operand).Grouped ∧
      (Assembly.reduceAll a.stack a.operand).inorder = a.inorder :=
  grouped_reduceAll h.stack h.operand hp h.above

theorem Grouped.empty : Assembly.empty.Grouped :=
  ⟨trivial, .absent, by simp [Above, Assembly.empty], by
    simp [Assembly.empty, Skeleton.rightChain]⟩

end Assembly

end OperatorPeg
