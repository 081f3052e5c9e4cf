import OperatorPeg.Grammar.Validate
import OperatorPeg.Proofs.Grammar.Tokens

/-!
# Printable rules

What the grammar language can express: rules as text are a grammar when their names
are names, their repetitions have signs and their tables stand on their own. The
text does not show which steps are kept; reading it decides that anew.
-/

namespace OperatorPeg

open Grammar

namespace Pattern

/-! ## Steps kept by rule -/

/-- Literals, repeated literals and lookaheads add nothing to a tree. -/
def isDiscardable : Pattern → Bool
  | terminal t => t.isLiteral
  | quantifier (terminal t) _ _ => t.isLiteral
  | lookahead _ _ => true
  | _ => false

mutual
/-- The pattern with steps kept as the grammar language keeps them: a sequence skips
what is discardable, unless that is all there is. -/
def rekeep : Pattern → Pattern
  | terminal t => .terminal t
  | sequence steps => .sequence (rekeepSteps (steps.all (·.pattern.isDiscardable)) steps)
  | choice alternatives => .choice (rekeepAll alternatives)
  | quantifier inner least most => .quantifier inner.rekeep least most
  | lookup key => .lookup key
  | label name inner => .label name inner.rekeep
  | lookahead inner wanted => .lookahead inner.rekeep wanted
  | table operators => .table (rekeepOperators operators)

def rekeepSteps (keepAll : Bool) : List Step → List Step
  | [] => []
  | ⟨_, p⟩ :: steps => ⟨keepAll || !p.isDiscardable, p.rekeep⟩ :: rekeepSteps keepAll steps

def rekeepAll : List Pattern → List Pattern
  | [] => []
  | p :: ps => p.rekeep :: rekeepAll ps

def rekeepOperators : List Operator → List Operator
  | [] => []
  | ⟨name, left, right, p⟩ :: ops => ⟨name, left, right, p.rekeep⟩ :: rekeepOperators ops
end

/-! ## Printable patterns -/

mutual
/-- Whether the grammar language can express the pattern within a rule, given the
names of all rules. Tables have no place inside other patterns. -/
def Printable (defined : List String) : Pattern → Prop
  | terminal (.literal _) => True
  | terminal (.regex source meaning) => Regex.build source.toList = .ok meaning
  | sequence steps => 2 ≤ steps.length ∧ PrintableSteps defined steps
  | choice alternatives => 2 ≤ alternatives.length ∧ PrintableAll defined alternatives
  | quantifier inner least most =>
      (least, most) ∈ [(0, some 1), (0, none), (1, none)] ∧ inner.Printable defined
  | lookup key => isName key.toList = true ∧ key ∈ defined
  | label _ inner => inner.Printable defined
  | lookahead inner _ => inner.Printable defined
  | table _ => False

def PrintableSteps (defined : List String) : List Step → Prop
  | [] => True
  | ⟨_, p⟩ :: steps => p.Printable defined ∧ PrintableSteps defined steps

def PrintableAll (defined : List String) : List Pattern → Prop
  | [] => True
  | p :: ps => p.Printable defined ∧ PrintableAll defined ps
end

end Pattern

/-- A precedence, if there is one, is below the limit. -/
def PrecedenceFits (precedence : Option Nat) : Prop :=
  ∀ p, precedence = some p → p < precedenceLimit

/-- Whether the grammar language can express the operator. -/
structure Operator.Printable (defined : List String) (op : Operator) : Prop where
  left : PrecedenceFits op.left
  right : PrecedenceFits op.right
  pattern : op.pattern.Printable defined

/-- Whether the grammar language can express the pattern as a rule of its own. -/
def Pattern.PrintableAsRule (defined : List String) : Pattern → Prop
  | .table operators =>
      operators ≠ [] ∧ (operators.map (·.name)).Nodup ∧ ∀ op ∈ operators, op.Printable defined
  | p => p.Printable defined

namespace Rules

/-- The rules with steps kept as the grammar language keeps them. -/
def rekeep (rules : Rules) : Rules := ⟨rules.entries.map fun entry => (entry.1, entry.2.rekeep)⟩

/-- Whether the rules, as text, are a grammar. -/
structure Printable (rules : Rules) : Prop where
  nonempty : rules.entries ≠ []
  nodup : rules.names.Nodup
  named : ∀ name ∈ rules.names, isName name.toList = true
  patterns : ∀ entry ∈ rules.entries, entry.2.PrintableAsRule rules.names

/-! ## Rules replaced -/

theorem names_insert_of_mem {rules : Rules} {name : String} (p : Pattern)
    (h : name ∈ rules.names) : (rules.insert name p).names = rules.names := by
  obtain ⟨entries⟩ := rules
  show (insertInto name p entries).map (·.1) = entries.map (·.1)
  induction entries with
  | nil => cases h
  | cons entry entries ih =>
      rw [insertInto]
      split
      case isTrue heq => simp [heq]
      case isFalse hne =>
        rcases List.mem_cons.mp h with rfl | hmem
        · exact absurd rfl hne
        · rw [List.map_cons, List.map_cons, ih hmem]

theorem mem_insertInto {name : String} {p : Pattern} {entries : List (String × Pattern)}
    {entry : String × Pattern} (h : entry ∈ insertInto name p entries) :
    entry = (name, p) ∨ entry ∈ entries := by
  induction entries with
  | nil => exact .inl (List.mem_singleton.mp h)
  | cons first entries ih =>
      rw [insertInto] at h
      split at h
      · exact (List.mem_cons.mp h).imp_right (List.mem_cons_of_mem _)
      · rcases List.mem_cons.mp h with rfl | hmem
        · exact .inr List.mem_cons_self
        · exact (ih hmem).imp_right (List.mem_cons_of_mem _)

theorem Printable.insert {rules : Rules} (h : rules.Printable) {name : String}
    {p : Pattern} (hname : name ∈ rules.names) (hp : p.PrintableAsRule rules.names) :
    (rules.insert name p).Printable := by
  have hnames := names_insert_of_mem p hname
  refine ⟨fun hempty => ?_, hnames ▸ h.nodup, hnames ▸ h.named, fun entry hentry => ?_⟩
  · rw [Rules.names, hempty] at hnames
    rw [← hnames] at hname
    cases hname
  · rw [hnames]
    rcases mem_insertInto hentry with rfl | hmem
    · exact hp
    · exact h.patterns entry hmem

end Rules

end OperatorPeg
