import Mathlib.Order.Bounds.Defs
import OperatorPeg.Proofs.Trees
import OperatorPeg.Tree.SExpr
import OperatorPeg.Tree.Visitor

/-!
# Traversals of a tree

Values, extents, s-expressions and visitors each go through a tree in a way of their own. At an
inner node all of them do what they do at the nodes right below it, in order, and none of them
goes into a lookahead. So they agree: the pairs that a visitor receives are the leaves, and
whatever else is read off a tree is read off these, its offset and its expressions.
-/

namespace OperatorPeg

open OperatorPeg.Tree (Visit)

/-- The pair that is received, if the node is a value. -/
def Tree.Visit.value? : Visit → Option (Nat × String)
  | .value o text => some (o, text)
  | _ => none

/-- Whether the node is an expression. -/
def Tree.Visit.isExpression : Visit → Bool
  | .expression .. => true
  | _ => false

/-! ## Visitors -/

namespace Visitor

section

variable {σ : Type} (meet : Visit → σ → σ)

mutual
/-- A walk meets the visits of a tree, one after the other. -/
theorem walk_everywhere : ∀ (t : Tree) (s : σ),
    (everywhere meet).walk t s = t.visits.foldl (fun s visit => meet visit s) s
  | .value _ _, _ | .lookahead _ _, _ => rfl
  | .sequence _ cs, _ | .quantifier _ cs, _ => walkAll_everywhere cs _
  | .choice _ _ c, _ | .label _ _ c, _ | .lookup _ _ c, _ => walk_everywhere c _
  | .expression _ _ l m r, s => by
      simp only [Tree.visits, List.foldl_cons, List.foldl_append, ← walkSide_everywhere l,
        ← walk_everywhere m, ← walkSide_everywhere r]
      rfl

theorem walkAll_everywhere : ∀ (ts : List Tree) (s : σ),
    (everywhere meet).walkAll ts s =
      (Tree.visitsOfAll ts).foldl (fun s visit => meet visit s) s
  | [], _ => rfl
  | t :: ts, s => by
      simp only [Tree.visitsOfAll, List.foldl_append, ← walk_everywhere t,
        ← walkAll_everywhere ts]
      rfl

theorem walkSide_everywhere : ∀ (t : Option Tree) (s : σ),
    (everywhere meet).walkSide t s =
      (Tree.visitsOfSide t).foldl (fun s visit => meet visit s) s
  | none, _ => rfl
  | some t, s => walk_everywhere t s
end

end

/-- A visitor that overrides the hook for values only receives the values that a walk meets. -/
theorem visit_value {σ : Type} (receive : Nat → String → σ → σ) (t : Tree) (s : σ) :
    ({ value := receive } : Visitor σ).visit t s =
      t.visitedValues.foldl (fun s pair => receive pair.1 pair.2 s) s := by
  have hvisitor : ({ value := receive } : Visitor σ) =
      everywhere fun | .value o text => receive o text | _ => fun s => s := rfl
  show ({ value := receive } : Visitor σ).walk t s = _
  rw [hvisitor, walk_everywhere, Tree.visitedValues, List.foldl_filterMap]
  congr 1
  funext s visit
  cases visit <;> rfl

end Visitor

namespace Tree

/-! ## The values that a walk meets -/

mutual
/-- A walk meets the leaves. -/
theorem filterMap_visits : ∀ t : Tree, t.visits.filterMap Visit.value? = t.leaves
  | value _ _ | lookahead _ _ => rfl
  | sequence _ cs | quantifier _ cs => filterMap_visitsOfAll cs
  | choice _ _ c | label _ _ c | lookup _ _ c => filterMap_visits c
  | expression _ _ l m r => by
      rw [visits, leaves, List.filterMap_cons_none rfl, List.filterMap_append,
        List.filterMap_append, filterMap_visitsOfSide l, filterMap_visits m,
        filterMap_visitsOfSide r]

theorem filterMap_visitsOfAll :
    ∀ ts : List Tree, (visitsOfAll ts).filterMap Visit.value? = leavesOfAll ts
  | [] => rfl
  | t :: ts => by
      rw [visitsOfAll, leavesOfAll, List.filterMap_append, filterMap_visits t,
        filterMap_visitsOfAll ts]

theorem filterMap_visitsOfSide :
    ∀ t : Option Tree, (visitsOfSide t).filterMap Visit.value? = leavesOfSide t
  | none => rfl
  | some t => filterMap_visits t
end

theorem visitedValues_eq_leaves (t : Tree) : t.visitedValues = t.leaves := filterMap_visits t

/-- The extent ends where the last leaf does, but not before it starts. -/
theorem isGreatest_extent_stop (t : Tree) :
    IsGreatest {n | n = t.offset ∨ ∃ leaf ∈ t.leaves, n = leafEnd leaf} t.extent.stop := by
  have hle := (lastEnd_le_iff t).mp (Nat.le_refl _)
  refine ⟨?_, ?_⟩
  · show max t.offset t.lastEnd = _ ∨ ∃ leaf ∈ t.leaves, max t.offset t.lastEnd = _
    rcases Nat.le_total t.lastEnd t.offset with h | h
    · exact .inl (Nat.max_eq_left h)
    · rw [Nat.max_eq_right h]
      rcases lastEnd_eq_zero_or t with hzero | ⟨leaf, hleaf, heq⟩
      · exact .inl (by omega)
      · exact .inr ⟨leaf, hleaf, heq.symm⟩
  · rintro n (rfl | ⟨leaf, hleaf, rfl⟩)
    · exact offset_le_extent_stop t
    · exact Nat.le_trans (hle leaf hleaf) (lastEnd_le_extent_stop t)

/-! ## S-expressions -/

mutual
/-- If a walk meets no expression then none is written. -/
theorem innerSexprs_eq_nil :
    ∀ t : Tree, (∀ visit ∈ t.visits, visit.isExpression = false) → t.innerSexprs = []
  | value _ _, _ | lookahead _ _, _ => rfl
  | sequence _ cs, h | quantifier _ cs, h =>
      innerSexprsOfAll_eq_nil cs fun visit hvisit => h visit (.tail _ hvisit)
  | choice _ _ c, h | label _ _ c, h | lookup _ _ c, h =>
      innerSexprs_eq_nil c fun visit hvisit => h visit (.tail _ hvisit)
  | expression _ _ _ _ _, h => nomatch h _ (.head _)

theorem innerSexprsOfAll_eq_nil :
    ∀ ts : List Tree, (∀ visit ∈ visitsOfAll ts, visit.isExpression = false) →
      innerSexprsOfAll ts = []
  | [], _ => rfl
  | t :: ts, h => by
      obtain ⟨ht, hts⟩ := List.forall_mem_append.mp h
      rw [innerSexprsOfAll, innerSexprs_eq_nil t ht, innerSexprsOfAll_eq_nil ts hts,
        List.append_nil]
end

theorem joinWith_eq_intercalate (separator : String) (pieces : List String) :
    Text.joinWith separator pieces = separator.intercalate pieces := by
  cases pieces with
  | nil => rfl
  | cons piece pieces =>
      induction pieces generalizing piece with
      | nil => exact String.intercalate_singleton.symm
      | cons next pieces ih =>
          calc Text.joinWith separator ((piece ++ separator ++ next) :: pieces)
            _ = separator.intercalate ((piece ++ separator ++ next) :: pieces) := ih _
            _ = separator.intercalate (piece :: next :: pieces) := by
                rw [String.intercalate_cons_append, String.intercalate_cons_cons]

theorem innerSexprsOfAll_eq_flatMap (ts : List Tree) :
    innerSexprsOfAll ts = ts.flatMap innerSexprs := by
  induction ts with
  | nil => rfl
  | cons t ts ih => rw [innerSexprsOfAll, ih, List.flatMap_cons]

/-- Without expressions the values are written. -/
theorem sexpr_eq_intercalate {t : Tree} (h : ∀ visit ∈ t.visits, visit.isExpression = false) :
    t.sexpr = " ".intercalate t.values := by
  rw [sexpr, innerSexprs_eq_nil t h, joinWith_eq_intercalate]

/-! ## Lookaheads with other contents -/

/-- One lookahead of the tree, wherever it is, has other contents, or none. -/
inductive Refilled : Tree → Tree → Prop
  | here {o : Nat} {c c' : Option Tree} : Refilled (lookahead o c) (lookahead o c')
  | sequence {o : Nat} {c c' : Tree} (before after : List Tree) : Refilled c c' →
      Refilled (sequence o (before ++ c :: after)) (sequence o (before ++ c' :: after))
  | quantifier {o : Nat} {c c' : Tree} (before after : List Tree) : Refilled c c' →
      Refilled (quantifier o (before ++ c :: after)) (quantifier o (before ++ c' :: after))
  | choice {o i : Nat} {c c' : Tree} : Refilled c c' → Refilled (choice o i c) (choice o i c')
  | label {o : Nat} {n : String} {c c' : Tree} : Refilled c c' →
      Refilled (label o n c) (label o n c')
  | lookup {o : Nat} {k : String} {c c' : Tree} : Refilled c c' →
      Refilled (lookup o k c) (lookup o k c')
  | left {o : Nat} {op : String} {c c' m : Tree} {r : Option Tree} : Refilled c c' →
      Refilled (expression o op (some c) m r) (expression o op (some c') m r)
  | mid {o : Nat} {op : String} {l : Option Tree} {c c' : Tree} {r : Option Tree} :
      Refilled c c' → Refilled (expression o op l c r) (expression o op l c' r)
  | right {o : Nat} {op : String} {l : Option Tree} {m c c' : Tree} : Refilled c c' →
      Refilled (expression o op l m (some c)) (expression o op l m (some c'))

namespace Refilled

variable {t t' : Tree}

theorem offset (h : t.Refilled t') : t'.offset = t.offset := by cases h <;> rfl

theorem text? (h : t.Refilled t') : t'.text? = t.text? := by cases h <;> rfl

theorem leaves (h : t.Refilled t') : t'.leaves = t.leaves := by
  induction h with
  | here => rfl
  | sequence _ _ _ ih | quantifier _ _ _ ih => simp [Tree.leaves, leavesOfAll_eq_flatMap, ih]
  | choice _ ih | label _ ih | lookup _ ih => exact ih
  | left _ ih | mid _ ih | right _ ih => simp [Tree.leaves, leavesOfSide, ih]

theorem values (h : t.Refilled t') : t'.values = t.values := by
  rw [values_eq_map_leaves, values_eq_map_leaves, h.leaves]

theorem lastEnd (h : t.Refilled t') : t'.lastEnd = t.lastEnd := by
  have hle : ∀ n, t'.lastEnd ≤ n ↔ t.lastEnd ≤ n := fun n => by
    rw [lastEnd_le_iff, h.leaves, lastEnd_le_iff]
  exact Nat.le_antisymm ((hle _).mpr (Nat.le_refl _)) ((hle _).mp (Nat.le_refl _))

theorem extent (h : t.Refilled t') : t'.extent = t.extent := by
  rw [Tree.extent, h.offset, h.lastEnd, Tree.extent]

theorem innerSexprs (h : t.Refilled t') : t'.innerSexprs = t.innerSexprs := by
  induction h with
  | here => rfl
  | sequence _ _ _ ih | quantifier _ _ _ ih =>
      simp [Tree.innerSexprs, innerSexprsOfAll_eq_flatMap, ih]
  | choice _ ih | label _ ih | lookup _ ih => exact ih
  | left h ih | right h ih => simp [Tree.innerSexprs, sideSexpr, ih, h.values]
  | mid h ih => simp [Tree.innerSexprs, sexprOf, ih, h.text?]

theorem sexpr (h : t.Refilled t') : t'.sexpr = t.sexpr := by
  rw [Tree.sexpr, h.innerSexprs, h.values, Tree.sexpr]

end Refilled

end Tree

/-- **All traversals of a tree agree.** What a visitor of values receives are the values with
their offsets. These say where the extent ends, and are what is written of a tree without
expressions. What is in lookaheads makes no difference to any of this. -/
theorem traversals_agree (t : Tree) :
    (∀ (σ : Type) (meet : Visit → σ → σ) (s : σ),
      (Visitor.everywhere meet).visit t s = t.visits.foldl (fun s visit => meet visit s) s) ∧
    (∀ (σ : Type) (receive : Nat → String → σ → σ) (s : σ),
      ({ value := receive } : Visitor σ).visit t s =
        t.visitedValues.foldl (fun s pair => receive pair.1 pair.2 s) s) ∧
    t.visitedValues.map (·.2) = t.values ∧
    t.extent.start = t.offset ∧
    IsGreatest {n | n = t.offset ∨ ∃ pair ∈ t.visitedValues, n = pair.1 + pair.2.utf8ByteSize}
      t.extent.stop ∧
    ((∀ visit ∈ t.visits, visit.isExpression = false) → t.sexpr = " ".intercalate t.values) ∧
    ∀ t', t.Refilled t' →
      t'.values = t.values ∧ t'.visitedValues = t.visitedValues ∧ t'.extent = t.extent ∧
      t'.sexpr = t.sexpr := by
  refine ⟨fun _ meet s => Visitor.walk_everywhere meet t s,
    fun _ receive s => Visitor.visit_value receive t s, ?_, rfl, ?_, Tree.sexpr_eq_intercalate, ?_⟩
  · rw [Tree.visitedValues_eq_leaves, Tree.values_eq_map_leaves]
  · rw [Tree.visitedValues_eq_leaves]
    exact t.isGreatest_extent_stop
  · intro t' h
    refine ⟨h.values, ?_, h.extent, h.sexpr⟩
    rw [Tree.visitedValues_eq_leaves, Tree.visitedValues_eq_leaves, h.leaves]

/-- The lookahead saw what is then consumed, and is emptied. -/
theorem traversals_agree_sample :
    let tree (seen : Option Tree) := Tree.sequence 0
      [.value 0 "a", .lookahead 2 seen, .quantifier 2 [.value 2 "é", .sequence 4 []]]
    let t := tree (some (.value 2 "é"))
    t.Refilled (tree none) ∧ t.sexpr = "a é" ∧ (tree none).sexpr = t.sexpr ∧
      t.visitedValues.map (·.2) = t.values ∧
      ({ value := fun o text met => met ++ [(o, text)] } : Visitor (List (Nat × String))).visit
        t [] = [(0, "a"), (2, "é")] ∧
      IsGreatest {n | n = t.offset ∨ ∃ pair ∈ t.visitedValues, n = pair.1 + pair.2.utf8ByteSize}
        4 := by
  intro tree t
  obtain ⟨-, hreceived, hvalues, -, hextent, hsexpr, hrefilled⟩ := traversals_agree t
  have h : t.Refilled (tree none) := .sequence [.value 0 "a"] _ .here
  refine ⟨h, hsexpr (by decide), (hrefilled _ h).2.2.2, hvalues, hreceived _ _ _, ?_⟩
  have hstop : t.extent.stop = 4 := by decide
  rw [← hstop]
  exact hextent

end OperatorPeg
