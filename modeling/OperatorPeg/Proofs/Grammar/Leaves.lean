import OperatorPeg.Grammar.Read
import OperatorPeg.Proofs.Trees

/-!
# Tokens and leaves

The tokens of a grammar are leaves of the tree that it is read off, with the place that
the tree gives. What the base rules match but the reader has no use for, such as the
signs of a repetition, makes leaves that are no tokens.
-/

namespace OperatorPeg

namespace Grammar

/-! ## The tokens of a grammar -/

mutual
/-- The tokens of an atom, in the order in which they are written. -/
def Atom.tokens : Atom → List Token
  | .regex t | .literal t | .rule t => [t]
  | .group choice => choice.tokens

def Term.tokens : Term → List Token
  | ⟨label, _, atom, _⟩ => label.toList ++ atom.tokens

def tokensInTerms : List Term → List Token
  | [] => []
  | term :: terms => term.tokens ++ tokensInTerms terms

def Sequence.tokens : Sequence → List Token
  | ⟨terms⟩ => tokensInTerms terms

def tokensInAlternatives : List Sequence → List Token
  | [] => []
  | sequence :: rest => sequence.tokens ++ tokensInAlternatives rest

def Choice.tokens : Choice → List Token
  | ⟨alternatives⟩ => tokensInAlternatives alternatives
end

def OperatorDef.tokens (op : OperatorDef) : List Token :=
  op.name :: (op.left.toList ++ (op.right.toList ++ op.pattern.tokens))

def TableDef.tokens (table : TableDef) : List Token := table.operators.flatMap OperatorDef.tokens

def Body.tokens : Body → List Token
  | .choice c => c.tokens
  | .table t => t.tokens

def RuleDef.tokens (rule : RuleDef) : List Token := rule.name :: rule.body.tokens

def Ast.tokens (g : Ast) : List Token := g.rules.flatMap RuleDef.tokens

theorem tokensInTerms_eq_flatMap (terms : List Term) :
    tokensInTerms terms = terms.flatMap Term.tokens := by
  induction terms with
  | nil => rfl
  | cons term terms ih => rw [tokensInTerms, ih, List.flatMap_cons]

theorem tokensInAlternatives_eq_flatMap (sequences : List Sequence) :
    tokensInAlternatives sequences = sequences.flatMap Sequence.tokens := by
  induction sequences with
  | nil => rfl
  | cons s rest ih => rw [tokensInAlternatives, ih, List.flatMap_cons]

/-! ## The tokens of a tree -/

/-- The leaf as a token. -/
def Token.ofLeaf (leaf : Nat × String) : Token := ⟨leaf.2, ⟨leaf.1, Tree.leafEnd leaf⟩⟩

end Grammar

namespace Tree

open Grammar

/-- The leaves that are not empty, as tokens. -/
def tokens (t : Tree) : List Token := (t.leaves.filter (·.2 ≠ "")).map Token.ofLeaf

/-- A token of a tree is one of its leaves, and not empty. -/
theorem exists_leaf_of_mem_tokens {t : Tree} {token : Token} (h : token ∈ t.tokens) :
    ∃ leaf ∈ t.leaves, leaf.2 ≠ "" ∧ Token.ofLeaf leaf = token := by
  obtain ⟨leaf, hleaf, rfl⟩ := List.mem_map.mp h
  obtain ⟨hleaf, hne⟩ := List.mem_filter.mp hleaf
  exact ⟨leaf, hleaf, of_decide_eq_true hne, rfl⟩

theorem tokens_of_isInner {t : Tree} (h : t.isInner = true) :
    t.tokens = t.children.flatMap tokens := by
  rw [tokens, leaves_of_isInner h, List.filter_flatMap, List.map_flatMap]
  rfl

@[simp] theorem tokens_choice (offset chosen : Nat) (child : Tree) :
    (choice offset chosen child).tokens = child.tokens := rfl

@[simp] theorem tokens_label (offset : Nat) (name : String) (child : Tree) :
    (label offset name child).tokens = child.tokens := rfl

@[simp] theorem tokens_lookup (offset : Nat) (key : String) (child : Tree) :
    (lookup offset key child).tokens = child.tokens := rfl

@[simp] theorem tokens_sequence (offset : Nat) (children : List Tree) :
    (sequence offset children).tokens = children.flatMap tokens := tokens_of_isInner rfl

@[simp] theorem tokens_quantifier (offset : Nat) (children : List Tree) :
    (quantifier offset children).tokens = children.flatMap tokens := tokens_of_isInner rfl

theorem tokens_value {offset : Nat} {text : String} (h : text ≠ "") :
    (value offset text).tokens = [⟨text, ⟨offset, offset + text.utf8ByteSize⟩⟩] := by
  simp [tokens, leaves, h, Token.ofLeaf, leafEnd]

/-- The node is in the tree, at any depth. -/
inductive HasNode (node : Tree) : Tree → Prop
  | here : HasNode node node
  | under {t child : Tree} : child ∈ t.children → HasNode node child → HasNode node t

theorem Everywhere.node {P : Tree → Prop} {t node : Tree} (h : t.Everywhere P)
    (hnode : node.HasNode t) : node.Everywhere P := by
  induction hnode with
  | here => exact h
  | under hchild _ ih =>
      cases h with
      | intro _ hbelow => exact ih (hbelow _ hchild)

end Tree

end OperatorPeg
