import OperatorPeg.Tree.Visit

/-!
# Visitors

A visitor has a hook for each kind of node, and one for every node. A hook gets what the node
says and how to go on below it. Where a hook is not overridden the walk just goes on, but not
into a lookahead.
-/

namespace OperatorPeg

open OperatorPeg.Tree (Visit)

/-- What is done at nodes, with a state that is handed on. -/
structure Visitor (σ : Type) where
  node : Tree → (σ → σ) → σ → σ := fun _ go => go
  value : Nat → String → σ → σ := fun _ _ s => s
  sequence : Nat → List Tree → (σ → σ) → σ → σ := fun _ _ go => go
  choice : Nat → Nat → Tree → (σ → σ) → σ → σ := fun _ _ _ go => go
  quantifier : Nat → List Tree → (σ → σ) → σ → σ := fun _ _ go => go
  label : Nat → String → Tree → (σ → σ) → σ → σ := fun _ _ _ go => go
  lookup : Nat → String → Tree → (σ → σ) → σ → σ := fun _ _ _ go => go
  lookahead : Nat → Option Tree → (σ → σ) → σ → σ := fun _ _ _ s => s
  expression : Nat → String → Option Tree → Tree → Option Tree → (σ → σ) → σ → σ :=
    fun _ _ _ _ _ go => go

namespace Visitor

variable {σ : Type} (v : Visitor σ)

mutual
/-- Call the hook of the node's kind. -/
def walk : Tree → σ → σ
  | .value o t => v.value o t
  | .sequence o cs => v.sequence o cs (walkAll cs)
  | .choice o i c => v.choice o i c (v.node c (walk c))
  | .quantifier o cs => v.quantifier o cs (walkAll cs)
  | .label o n c => v.label o n c (v.node c (walk c))
  | .lookup o k c => v.lookup o k c (v.node c (walk c))
  | .lookahead o c => v.lookahead o c (walkSide c)
  | .expression o op l m r =>
      v.expression o op l m r fun s => walkSide r (v.node m (walk m) (walkSide l s))

/-- Visit nodes in their order. -/
def walkAll : List Tree → σ → σ
  | [] => fun s => s
  | t :: ts => fun s => walkAll ts (v.node t (walk t) s)

def walkSide : Option Tree → σ → σ
  | none => fun s => s
  | some t => v.node t (walk t)
end

/-- Visit a node. -/
def visit (t : Tree) : σ → σ := v.node t (v.walk t)

/-- The visitor that does something at every node that it meets, and then goes on as one that
overrides nothing. -/
def everywhere (meet : Visit → σ → σ) : Visitor σ where
  value o t := meet (.value o t)
  sequence o cs go s := go (meet (.sequence o cs.length) s)
  choice o i _ go s := go (meet (.choice o i) s)
  quantifier o cs go s := go (meet (.quantifier o cs.length) s)
  label o n _ go s := go (meet (.label o n) s)
  lookup o k _ go s := go (meet (.lookup o k) s)
  lookahead o c _ := meet (.lookahead o c.isSome)
  expression o op l _ r go s := go (meet (.expression o op (l.isNone && r.isNone)) s)

end Visitor

end OperatorPeg
