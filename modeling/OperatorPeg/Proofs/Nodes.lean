import OperatorPeg.Proofs.Building
import OperatorPeg.Proofs.Trees

/-!
# Laws of nodes

A node that is not a text starts where its own match did, or, if it is an expression, where the
first of its operators starts. So a law that is kept by every text just matched, and that
otherwise asks only where a node starts, is a law of every tree that is built, down to the
nodes that were only seen ahead.
-/

namespace OperatorPeg

/-- The tree is more than one text. -/
def Tree.IsComposed (t : Tree) : Prop := ∀ offset text, t ≠ .value offset text

/-- A law of nodes, where matches begin at places. -/
structure Tree.Law (place : Cursor → Prop) (skips : Cursor → Cursor → Prop)
    (P : Tree → Prop) : Prop where
  onward : ∀ {c d}, place c → c.Reaches d → place d
  text : ∀ {c ready after text}, place c → skips c ready → ready.Passes text after →
    P (.value ready.offset (.ofList text))
  composed : ∀ {c ready t}, place c → skips c ready → t.IsComposed → t.offset = ready.offset →
    P t
  expression : ∀ {t part}, t.IsComposed → t.offset = part.offset → P part → P t

theorem Pending.forall_children_complete {p : Pending} {right : Option Tree} {P : Tree → Prop} :
    (∀ child ∈ (p.complete right).children, P child) ↔
      (∀ l, p.left = some l → P l) ∧ P p.mid ∧ ∀ r, right = some r → P r := by
  rw [show (p.complete right).children = p.left.toList ++ p.mid :: right.toList from rfl]
  simp [or_imp, forall_and]

section

variable {place : Cursor → Prop} {skips : Cursor → Cursor → Prop} {P : Tree → Prop}

/-- An expression starts where the first of its operators starts. -/
theorem Skeleton.everywhere (hP : Tree.Law place skips P) {sk : Skeleton}
    (hmids : ∀ mid ∈ sk.inorder.map (·.2), mid.Everywhere P) {tree : Tree}
    (htree : sk.tree? = some tree) : tree.Everywhere P := by
  induction sk generalizing tree with
  | absent => cases htree
  | node left op mid right ihLeft ihRight =>
      simp only [Skeleton.inorder, List.map_append, List.map_cons, List.forall_mem_append,
        List.forall_mem_cons] at hmids
      obtain ⟨hleft, hmid, hright⟩ := hmids
      cases htree
      refine .intro ?_ (Pending.forall_children_complete.mpr
        ⟨fun l hl => ihLeft hleft hl, hmid, fun r hr => ihRight hright hr⟩)
      have hcomposed : (Pending.complete ⟨op, mid, left.tree?⟩ right.tree?).IsComposed :=
        fun _ _ heq => by cases heq
      cases hl : left.tree? with
      | none =>
          rw [hl] at hcomposed
          exact hP.expression hcomposed (by rfl) hmid.here
      | some l =>
          rw [hl] at hcomposed
          exact hP.expression hcomposed (by rfl) (ihLeft hleft hl).here

variable (hP : Tree.Law place skips P) (hskips : ∀ {c d}, skips c d → c.Reaches d)
  {rules : Rules} {beyond : List Char}

include hP hskips

mutual
/-- **What is built obeys the laws of nodes.** -/
theorem Builds.everywhere {p : Pattern} {c c' : Cursor} {tree : Tree} :
    place c → Builds rules beyond skips p c tree c' → tree.Everywhere P
  | hc, .terminal hskip hend => by
      obtain ⟨text, hp⟩ := Terminal.reaches_of_matchEnd? hend
      rw [hp.textUpTo]
      exact .intro (hP.text hc hskip hp) (List.forall_mem_nil _)
  | hc, .sequence hskip hnodes =>
      .intro (hP.composed hc hskip nofun rfl) fun child hchild =>
        BuildsAll.everywhere (hP.onward hc (hskips hskip)) hnodes child
          ((keptNodes_sublist _ _).subset hchild)
  | hc, .choice hskip _ hchild | hc, .lookup hskip _ hchild | hc, .label hskip hchild
  | hc, .seen hskip hchild =>
      .intro (hP.composed hc hskip nofun rfl) (List.forall_mem_singleton.mpr
        (Builds.everywhere (hP.onward hc (hskips hskip)) hchild))
  | hc, .quantifier hskip _ _ hnodes =>
      .intro (hP.composed hc hskip nofun rfl)
        (BuildsAll.everywhere (hP.onward hc (hskips hskip)) hnodes)
  | hc, .unseen hskip => .intro (hP.composed hc hskip nofun rfl) (List.forall_mem_nil _)
  | hc, .table hskip _ hnodes _ htree =>
      Skeleton.everywhere hP (BuildsAll.everywhere (hP.onward hc (hskips hskip)) hnodes) htree

theorem BuildsAll.everywhere {ps : List Pattern} {c c' : Cursor} {nodes : List Tree} :
    place c → BuildsAll rules beyond skips ps c nodes c' → ∀ node ∈ nodes, node.Everywhere P
  | _, .nil _ => List.forall_mem_nil _
  | hc, .cons hnode hnodes =>
      List.forall_mem_cons.mpr ⟨Builds.everywhere hc hnode,
        BuildsAll.everywhere (hP.onward hc (hnode.reaches hskips)) hnodes⟩
end

end

end OperatorPeg
