import OperatorPeg.Tree.Basic

/-!
# Trees and their leaves

The leaves of a tree are the texts that it consumed, in order. What the values are, and
where the last of them ends, is read off the leaves. If the nodes below each node are in
order, then so are all leaves.
-/

namespace OperatorPeg.Tree

/-! ## What is below a node -/

/-- Whether what is below the node was consumed: it is neither a text nor seen ahead only. -/
def isInner : Tree → Bool
  | value _ _ | lookahead _ _ => false
  | _ => true

theorem leavesOfAll_eq_flatMap (ts : List Tree) : leavesOfAll ts = ts.flatMap leaves := by
  induction ts with
  | nil => rfl
  | cons t ts ih => rw [leavesOfAll, ih, List.flatMap_cons]

theorem leavesOfSide_eq_flatMap (t : Option Tree) : leavesOfSide t = t.toList.flatMap leaves := by
  cases t with
  | none => rfl
  | some t => simp [leavesOfSide]

theorem valuesOfAll_eq_flatMap (ts : List Tree) : valuesOfAll ts = ts.flatMap values := by
  induction ts with
  | nil => rfl
  | cons t ts ih => rw [valuesOfAll, ih, List.flatMap_cons]

theorem valuesOfSide_eq_flatMap (t : Option Tree) : valuesOfSide t = t.toList.flatMap values := by
  cases t with
  | none => rfl
  | some t => simp [valuesOfSide]

/-- The leaves of an inner node are those of the nodes right below. -/
theorem leaves_of_isInner {t : Tree} (h : t.isInner = true) :
    t.leaves = t.children.flatMap leaves := by
  cases t with
  | value | lookahead => cases h
  | sequence _ cs | quantifier _ cs => simp [leaves, children, leavesOfAll_eq_flatMap]
  | choice _ _ c | label _ _ c | lookup _ _ c => simp [leaves, children]
  | expression _ _ l m r => simp [leaves, children, leavesOfSide_eq_flatMap]

/-- A leaf of a tree is the tree itself, or a leaf of a node right below. -/
theorem eq_value_or_of_mem_leaves {t : Tree} {leaf : Nat × String} (h : leaf ∈ t.leaves) :
    t = .value leaf.1 leaf.2 ∨ ∃ child ∈ t.children, leaf ∈ child.leaves := by
  cases hinner : t.isInner with
  | true =>
      rw [leaves_of_isInner hinner] at h
      exact .inr (List.mem_flatMap.mp h)
  | false =>
      cases t with
      | value o text =>
          cases List.mem_singleton.mp h
          exact .inl rfl
      | lookahead => cases h
      | _ => cases hinner

/-- The values of an inner node are those of the nodes right below. -/
theorem values_of_isInner {t : Tree} (h : t.isInner = true) :
    t.values = t.children.flatMap values := by
  cases t with
  | value | lookahead => cases h
  | sequence _ cs | quantifier _ cs => simp [values, children, valuesOfAll_eq_flatMap]
  | choice _ _ c | label _ _ c | lookup _ _ c => simp [values, children]
  | expression _ _ l m r => simp [values, children, valuesOfSide_eq_flatMap]

/-- All consumed text, put together. -/
def consumed (t : Tree) : List Char := t.values.flatMap String.toList

theorem consumed_of_isInner {t : Tree} (h : t.isInner = true) :
    t.consumed = t.children.flatMap consumed := by
  rw [consumed, values_of_isInner h, List.flatMap_assoc]
  rfl

/-- Joined, the values are the consumed text. -/
theorem toList_join_values (t : Tree) : (String.join t.values).toList = t.consumed := by
  have hjoin : ∀ pieces : List String,
      (String.join pieces).toList = pieces.flatMap String.toList := by
    intro pieces
    induction pieces with
    | nil => rfl
    | cons piece pieces ih =>
        rw [String.join_cons, String.toList_append, ih, List.flatMap_cons]
  exact hjoin t.values

/-! ## Values and ends -/

mutual
/-- The values are the texts of the leaves. -/
theorem values_eq_map_leaves : ∀ t : Tree, t.values = t.leaves.map (·.2)
  | value _ _ | lookahead _ _ => rfl
  | sequence _ cs | quantifier _ cs => valuesOfAll_eq_map cs
  | choice _ _ c | label _ _ c | lookup _ _ c => values_eq_map_leaves c
  | expression _ _ l m r => by
      simp only [values, leaves, List.map_append, valuesOfSide_eq_map l, values_eq_map_leaves m,
        valuesOfSide_eq_map r]

theorem valuesOfAll_eq_map : ∀ ts : List Tree, valuesOfAll ts = (leavesOfAll ts).map (·.2)
  | [] => rfl
  | t :: ts => by
      simp only [valuesOfAll, leavesOfAll, List.map_append, values_eq_map_leaves t,
        valuesOfAll_eq_map ts]

theorem valuesOfSide_eq_map : ∀ t : Option Tree, valuesOfSide t = (leavesOfSide t).map (·.2)
  | none => rfl
  | some t => values_eq_map_leaves t
end

/-- Where a leaf ends. -/
def leafEnd (leaf : Nat × String) : Nat := leaf.1 + leaf.2.utf8ByteSize

mutual
/-- The last end is the greatest one. -/
theorem lastEnd_le_iff {n : Nat} : ∀ t : Tree, t.lastEnd ≤ n ↔ ∀ leaf ∈ t.leaves, leafEnd leaf ≤ n
  | value o text => by simp [lastEnd, leaves, leafEnd]
  | lookahead _ _ => by simp [lastEnd, leaves]
  | sequence _ cs | quantifier _ cs => lastEndOfAll_le_iff cs
  | choice _ _ c | label _ _ c | lookup _ _ c => lastEnd_le_iff c
  | expression _ _ l m r => by
      simp only [lastEnd, leaves, Nat.max_le, lastEndOfSide_le_iff l, lastEnd_le_iff m,
        lastEndOfSide_le_iff r, List.forall_mem_append, and_assoc]

theorem lastEndOfAll_le_iff {n : Nat} :
    ∀ ts : List Tree, lastEndOfAll ts ≤ n ↔ ∀ leaf ∈ leavesOfAll ts, leafEnd leaf ≤ n
  | [] => by simp [lastEndOfAll, leavesOfAll]
  | t :: ts => by
      simp only [lastEndOfAll, leavesOfAll, Nat.max_le, lastEnd_le_iff t, lastEndOfAll_le_iff ts,
        List.forall_mem_append]

theorem lastEndOfSide_le_iff {n : Nat} :
    ∀ t : Option Tree, lastEndOfSide t ≤ n ↔ ∀ leaf ∈ leavesOfSide t, leafEnd leaf ≤ n
  | none => by simp [lastEndOfSide, leavesOfSide]
  | some t => lastEnd_le_iff t
end

/-- Where the last leaf ends, if there is one. -/
theorem lastEnd_eq_zero_or (t : Tree) :
    t.lastEnd = 0 ∨ ∃ leaf ∈ t.leaves, leafEnd leaf = t.lastEnd := by
  rcases Nat.eq_zero_or_pos t.lastEnd with hzero | hpos
  · exact .inl hzero
  · have hlate : ¬ t.lastEnd ≤ t.lastEnd - 1 := by omega
    rw [lastEnd_le_iff] at hlate
    obtain ⟨leaf, hleaf⟩ := Classical.not_forall.mp hlate
    obtain ⟨hmem, hlt⟩ := Classical.not_imp.mp hleaf
    have hle := (lastEnd_le_iff t).mp (Nat.le_refl _) leaf hmem
    exact .inr ⟨leaf, hmem, by omega⟩

/-- No text below an inner node ends later than the nodes right below do. -/
theorem lastEnd_le_of_isInner {t : Tree} (h : t.isInner = true) {n : Nat}
    (hn : ∀ child ∈ t.children, child.lastEnd ≤ n) : t.lastEnd ≤ n := by
  rw [lastEnd_le_iff, leaves_of_isInner h]
  intro leaf hleaf
  obtain ⟨child, hchild, hleaf⟩ := List.mem_flatMap.mp hleaf
  exact (lastEnd_le_iff child).mp (hn child hchild) leaf hleaf

theorem offset_le_extent_stop (t : Tree) : t.offset ≤ t.extent.stop := Nat.le_max_left _ _

theorem lastEnd_le_extent_stop (t : Tree) : t.lastEnd ≤ t.extent.stop := Nat.le_max_right _ _

theorem extent_stop_le {t : Tree} {n : Nat} (ho : t.offset ≤ n) (hl : t.lastEnd ≤ n) :
    t.extent.stop ≤ n := Nat.max_le.mpr ⟨ho, hl⟩

/-! ## All nodes of a tree -/

/-- The property holds of the node and of all nodes below it, also of those that were only
seen ahead. -/
inductive Everywhere (P : Tree → Prop) : Tree → Prop
  | intro {t : Tree} : P t → (∀ child ∈ t.children, Everywhere P child) → Everywhere P t

theorem everywhere_iff {P : Tree → Prop} {t : Tree} :
    t.Everywhere P ↔ P t ∧ ∀ child ∈ t.children, child.Everywhere P := by
  constructor
  · rintro ⟨hhere, hbelow⟩
    exact ⟨hhere, hbelow⟩
  · rintro ⟨hhere, hbelow⟩
    exact ⟨hhere, hbelow⟩

theorem Everywhere.here {P : Tree → Prop} {t : Tree} (h : t.Everywhere P) : P t := by
  cases h with
  | intro h _ => exact h

theorem Everywhere.imp {P Q : Tree → Prop} (hpq : ∀ t, P t → Q t) {t : Tree}
    (h : t.Everywhere P) : t.Everywhere Q := by
  induction h with
  | intro h _ ih => exact .intro (hpq _ h) ih

/-- A node does not start behind the nodes right below it, and each of these ends before the
next one starts. -/
structure InOrder (t : Tree) : Prop where
  offset : ∀ child ∈ t.children, t.offset ≤ child.offset
  children : t.children.Pairwise fun a b => a.extent.stop ≤ b.offset

theorem Everywhere.of_mem_leaves {P : Tree → Prop} {t : Tree} (h : t.Everywhere P) :
    ∀ leaf ∈ t.leaves, P (.value leaf.1 leaf.2) := by
  induction h with
  | intro h _ ih =>
      intro leaf hleaf
      rcases eq_value_or_of_mem_leaves hleaf with rfl | ⟨child, hchild, hleaf⟩
      · exact h
      · exact ih child hchild leaf hleaf

/-- In an ordered tree no leaf starts before the tree does. -/
theorem Everywhere.offset_le_of_mem_leaves {t : Tree} (h : t.Everywhere InOrder) :
    ∀ leaf ∈ t.leaves, t.offset ≤ leaf.1 := by
  induction h with
  | intro hordered _ ih =>
      intro leaf hleaf
      rcases eq_value_or_of_mem_leaves hleaf with rfl | ⟨child, hchild, hleaf⟩
      · exact Nat.le_refl _
      · exact Nat.le_trans (hordered.offset child hchild) (ih child hchild leaf hleaf)

/-- **In an ordered tree each leaf ends before the next one starts.** -/
theorem Everywhere.leaves_pairwise {t : Tree} (h : t.Everywhere InOrder) :
    t.leaves.Pairwise fun a b => leafEnd a ≤ b.1 := by
  induction h with
  | @intro t hordered hbelow ih =>
      cases hinner : t.isInner with
      | false =>
          cases t with
          | value => exact List.pairwise_singleton _ _
          | lookahead => exact .nil
          | _ => cases hinner
      | true =>
          rw [leaves_of_isInner hinner, List.pairwise_flatMap]
          refine ⟨ih, hordered.children.imp_of_mem ?_⟩
          intro a b ha hb hab x hx y hy
          have hend : leafEnd x ≤ a.lastEnd := (lastEnd_le_iff a).mp (Nat.le_refl _) x hx
          have hstart : b.offset ≤ y.1 := (hbelow b hb).offset_le_of_mem_leaves y hy
          have hstop := a.lastEnd_le_extent_stop
          omega

end OperatorPeg.Tree
