import Mathlib.Data.List.Forall2
import OperatorPeg.Pattern.Build
import OperatorPeg.Proofs.Building

/-!
# Conformance

A tree has the shape that its pattern asks for: a node for each kept step, one
alternative of a choice, rounds within their bounds, and operators with the operands
that they take.
-/

namespace OperatorPeg

/-- A terminal matches this text somewhere. -/
def Terminal.Accepts (beyond : List Char) (t : Terminal) (text : String) : Prop :=
  ∃ c stop : Cursor, t.matchEnd? beyond c = some stop ∧ text = String.ofList (c.textUpTo stop)

mutual
/-- The tree has the shape that the pattern asks for. -/
inductive Conforms (rules : Rules) (beyond : List Char) : Pattern → Tree → Prop
  | terminal {t : Terminal} {offset : Nat} {text : String} :
      t.Accepts beyond text → Conforms rules beyond (.terminal t) (.value offset text)
  | sequence {steps : List Step} {offset : Nat} {children : List Tree} :
      StepsConform rules beyond steps children →
      Conforms rules beyond (.sequence steps) (.sequence offset children)
  | choice {alternatives : List Pattern} {index offset : Nat} {p : Pattern} {child : Tree} :
      alternatives[index]? = some p → Conforms rules beyond p child →
      Conforms rules beyond (.choice alternatives) (.choice offset index child)
  | quantifier {p : Pattern} {least offset : Nat} {most : Option Nat} {children : List Tree} :
      (∀ child ∈ children, Conforms rules beyond p child) → least ≤ children.length →
      (∀ n, most = some n → children.length ≤ n) →
      Conforms rules beyond (.quantifier p least most) (.quantifier offset children)
  | lookup {key : String} {p : Pattern} {offset : Nat} {child : Tree} :
      rules.get? key = some p → Conforms rules beyond p child →
      Conforms rules beyond (.lookup key) (.lookup offset key child)
  | label {name : String} {p : Pattern} {offset : Nat} {child : Tree} :
      Conforms rules beyond p child →
      Conforms rules beyond (.label name p) (.label offset name child)
  | lookahead {p : Pattern} {wanted : Bool} {offset : Nat} {child : Option Tree} :
      child.isSome = wanted → (∀ tree, child = some tree → Conforms rules beyond p tree) →
      Conforms rules beyond (.lookahead p wanted) (.lookahead offset child)
  | table {operators : List Operator} {op : Operator} {offset : Nat} {left right : Option Tree}
      {mid : Tree} :
      op ∈ operators → Conforms rules beyond op.pattern mid →
      left.isSome = op.left.isSome → right.isSome = op.right.isSome →
      (∀ tree, left = some tree → Conforms rules beyond (.table operators) tree) →
      (∀ tree, right = some tree → Conforms rules beyond (.table operators) tree) →
      Conforms rules beyond (.table operators) (.expression offset op.name left mid right)

/-- The trees are those of the kept steps, in order. -/
inductive StepsConform (rules : Rules) (beyond : List Char) : List Step → List Tree → Prop
  | nil : StepsConform rules beyond [] []
  | kept {step : Step} {steps : List Step} {child : Tree} {children : List Tree} :
      step.keep = true → Conforms rules beyond step.pattern child →
      StepsConform rules beyond steps children →
      StepsConform rules beyond (step :: steps) (child :: children)
  | skipped {step : Step} {steps : List Step} {children : List Tree} :
      step.keep = false → StepsConform rules beyond steps children →
      StepsConform rules beyond (step :: steps) children
end

theorem stepsConform_kept {rules : Rules} {beyond : List Char} {p : Pattern} {steps : List Step}
    {children : List Tree} :
    StepsConform rules beyond (.kept p :: steps) children ↔
      ∃ child rest, children = child :: rest ∧ Conforms rules beyond p child ∧
        StepsConform rules beyond steps rest := by
  constructor
  · intro h
    cases h with
    | kept _ hchild hrest => exact ⟨_, _, rfl, hchild, hrest⟩
    | skipped hkeep => cases hkeep
  · rintro ⟨child, rest, rfl, hchild, hrest⟩
    exact .kept rfl hchild hrest

theorem stepsConform_skipped {rules : Rules} {beyond : List Char} {p : Pattern}
    {steps : List Step} {children : List Tree} :
    StepsConform rules beyond (.skipped p :: steps) children ↔
      StepsConform rules beyond steps children := by
  constructor
  · intro h
    cases h with
    | kept hkeep => cases hkeep
    | skipped _ hrest => exact hrest
  · exact .skipped rfl

section

variable {rules : Rules} {beyond : List Char} {skips : Cursor → Cursor → Prop}

/-- The nodes of all steps conform; then so do those that are kept. -/
theorem stepsConform_keptNodes {steps : List Step} {nodes : List Tree}
    (h : List.Forall₂ (Conforms rules beyond) (steps.map Step.pattern) nodes) :
    StepsConform rules beyond steps (keptNodes steps nodes) := by
  induction steps generalizing nodes with
  | nil =>
      cases h
      exact .nil
  | cons step steps ih =>
      cases h with
      | cons hnode hnodes =>
          rw [keptNodes]
          split
          · next hkeep => exact .kept hkeep hnode (ih hnodes)
          · next hkeep => exact .skipped (by simpa using hkeep) (ih hnodes)

/-- An expression conforms to its table if its operators conform to theirs. -/
theorem Skeleton.conforms {operators : List Operator} {sk : Skeleton} (hshaped : sk.Shaped)
    (hmem : ∀ found ∈ sk.inorder, found.1 ∈ operators)
    (h : ∀ found ∈ sk.inorder, Conforms rules beyond found.1.pattern found.2) {tree : Tree}
    (htree : sk.tree? = some tree) : Conforms rules beyond (.table operators) tree := by
  induction sk generalizing tree with
  | absent => cases htree
  | node left op mid right ihLeft ihRight =>
      obtain ⟨hleft, hright, hshapedLeft, hshapedRight⟩ := hshaped
      simp only [Skeleton.inorder, List.forall_mem_append, List.forall_mem_cons] at h hmem
      obtain ⟨hconformLeft, hconforms, hconformRight⟩ := h
      obtain ⟨hmemLeft, hop, hmemRight⟩ := hmem
      cases htree
      exact .table hop hconforms (by rw [isSome_tree?, hleft]) (by rw [isSome_tree?, hright])
        (fun _ hsome => ihLeft hshapedLeft hmemLeft hconformLeft hsome)
        (fun _ hsome => ihRight hshapedRight hmemRight hconformRight hsome)

mutual
/-- **What is built conforms.** -/
theorem Builds.conforms {p : Pattern} {c stop : Cursor} {tree : Tree} :
    Builds rules beyond skips p c tree stop → Conforms rules beyond p tree
  | .terminal _ hend => .terminal ⟨_, _, hend, rfl⟩
  | .sequence _ hnodes => .sequence (stepsConform_keptNodes hnodes.conform)
  | .choice _ hp hchild => .choice hp hchild.conforms
  | .quantifier _ hleast hmost hnodes => by
      have hall := hnodes.conform
      rw [← List.map_const', List.forall₂_map_left_iff, List.forall₂_same] at hall
      exact .quantifier hall hleast hmost
  | .lookup _ hget hchild => .lookup hget hchild.conforms
  | .label _ hchild => .label hchild.conforms
  | .seen _ hchild => .lookahead rfl fun _ hsome => by
      cases hsome
      exact hchild.conforms
  | .unseen _ => .lookahead rfl nofun
  | .table _ hmem hnodes hshaped htree => by
      refine Skeleton.conforms hshaped hmem ?_ htree
      have hall := hnodes.conform
      rwa [List.forall₂_map_left_iff, List.forall₂_map_right_iff, List.forall₂_same] at hall

theorem BuildsAll.conform {ps : List Pattern} {c stop : Cursor} {nodes : List Tree} :
    BuildsAll rules beyond skips ps c nodes stop →
      List.Forall₂ (Conforms rules beyond) ps nodes
  | .nil _ => .nil
  | .cons hnode hnodes => .cons hnode.conforms hnodes.conform
end

end

/-- The tree of a parse conforms to the pattern that the parse began with. -/
theorem parseWindow_conforms {layers : Nat} {rules : Rules} {limits : Limits} {start : Start}
    {window : Window} {report : Report} {p : Pattern} {tree : Tree}
    (hp : start.pattern? rules = some p)
    (h : parseWindow layers rules limits start window = some report)
    (htree : report.result = .ok tree) : Conforms rules window.beyond p tree := by
  obtain ⟨q, _, _, hq, hbuilds, -, -⟩ := parseWindow_builds h htree
  obtain rfl : p = q := Option.some.inj (hp.symm.trans hq)
  exact hbuilds.conforms

/-- **Trees conform to the grammar that made them.** Whatever a parse begins with is defined, and
the tree that it comes to has the shape that the pattern of it asks for. -/
theorem parsed_trees_conform {layers : Nat} {rules : Rules} {limits : Limits} {start : Start}
    {source : String} {first last : Nat} {report : Report} {tree : Tree}
    (h : parseWithin layers rules limits start source first last = some report)
    (htree : report.result = .ok tree) :
    ∃ p, start.pattern? rules = some p ∧
      Conforms rules (Window.ofRange source.toList first last).beyond p tree := by
  obtain ⟨p, _, _, hp, hbuilds, -, -⟩ := parseWindow_builds h htree
  exact ⟨p, hp, hbuilds.conforms⟩

/-- A sum is an expression. In a list of sums what separates them is not kept, and the full
stop behind them is looked at first. -/
private def listed : Rules :=
  .ofList [
    ("sum", .table [
      ⟨"one", none, none, .terminal (.literal "1")⟩,
      ⟨"negate", none, some 1, .terminal (.literal "-")⟩,
      ⟨"add", some 2, some 2, .terminal (.literal "+")⟩]),
    ("list", .sequence [
      .kept (.label "first" (.lookup "sum")),
      .kept (.quantifier (.sequence [
        .skipped (.choice [.terminal (.literal ";"), .terminal (.literal ",")]),
        .kept (.lookup "sum")]) 1 (some 3)),
      .kept (.lookahead (.terminal (.literal ".")) true),
      .skipped (.terminal (.literal "."))])]

theorem parsed_trees_conform_sample :
    ∃ report tree, parseWithin 9 listed .unlimited (.rule "list") "1+-1,1." 0 7 = some report ∧
      report.result = .ok tree ∧ tree.kind = "Sequence" ∧ tree.children.length = 3 ∧
      ∃ p, (Start.rule "list").pattern? listed = some p ∧
        Conforms listed (Window.ofRange "1+-1,1.".toList 0 7).beyond p tree := by
  have hrun : (parseWithin 9 listed .unlimited (.rule "list") "1+-1,1." 0 7).any
      (fun r => r.result.toOption.any fun tree =>
        tree.kind == "Sequence" && tree.children.length == 3) = true := by
    decide +kernel
  obtain ⟨report, h, hreport⟩ := (Option.any_eq_true _ _).mp hrun
  obtain ⟨tree, htree, hshape⟩ := report.exists_tree hreport
  simp only [Bool.and_eq_true, beq_iff_eq] at hshape
  exact ⟨report, tree, h, htree, hshape.1, hshape.2, parsed_trees_conform h htree⟩

end OperatorPeg
