import OperatorPeg.Grammar.Read

/-!
# The reader on the trees of the base rules

What reading each kind of tree comes to, where the nodes are those that the base rules
make: the labels are found, and the first children are there.
-/

namespace OperatorPeg.Grammar

/-! ## Choices -/

theorem readTerm_eq (readChoice : ChoiceReader) (offset offset' o₁ o₂ o₃ o₄ : Nat)
    (label lead atom suffix : Tree) :
    let term : Tree := .sequence offset' [.label o₁ "label" label, .label o₂ "prefix" lead,
      .label o₃ "atom" atom, .label o₄ "suffix" suffix]
    readTerm readChoice (.lookup offset "term" term)
      = (do
          let label ← readLabel? term
          let lead ← readLead? lead
          let suffix ← readSuffix? suffix
          let atom ← readAtom readChoice atom
          pure ⟨label, lead, atom, suffix⟩) := rfl

/-- The term that an element of a sequence holds. -/
def readElement (readChoice : ChoiceReader) (t : Tree) : Except Malformed Term := do
  readTerm readChoice (← firstBelow "term" t)

theorem readSequence_eq (readChoice : ChoiceReader) (offset offset' : Nat) (trees : List Tree) :
    readSequence readChoice (.lookup offset "sequence" (.quantifier offset' trees))
      = (do pure ⟨← trees.mapM (readElement readChoice)⟩) := rfl

/-- The sequence that an alternative behind a slash holds. -/
def readAlternative (readChoice : ChoiceReader) (t : Tree) : Except Malformed Sequence := do
  readSequence readChoice (← firstBelow "sequence" t)

theorem readChoice_eq (levels offset offset' offset'' : Nat) (head : Tree) (others : List Tree) :
    readChoice (levels + 1)
        (.lookup offset "choice" (.sequence offset' [head, .quantifier offset'' others]))
      = (do
          let head ← readSequence (readChoice levels) head
          let others ← others.mapM (readAlternative (readChoice levels))
          pure ⟨head :: others⟩) := rfl

/-! ## Rules -/

theorem readOperator_eq (levels offset offset' o₁ o₂ o₃ o₄ : Nat)
    (name left right pattern : Tree) :
    readOperator levels (.lookup offset "operator" (.sequence offset'
        [.label o₁ "name" name, .label o₂ "left" left, .label o₃ "right" right,
          .label o₄ "pattern" pattern]))
      = (do
          let name ← readToken "operator name" name
          let left ← readPrecedence left
          let right ← readPrecedence right
          let pattern ← readChoice levels pattern
          pure ⟨name, left, right, pattern⟩) := rfl

/-- The operator that an entry of a table holds. -/
def readEntry (levels : Nat) (t : Tree) : Except Malformed OperatorDef := do
  readOperator levels (← firstBelow "operator" t)

theorem readTable_eq (levels offset offset' offset'' o : Nat) (entries : List Tree) :
    let table : Tree := .sequence offset' [.label o "operators" (.quantifier offset'' entries)]
    readTable levels (.lookup offset "table" table)
      = (do pure ⟨table.extent, ← entries.mapM (readEntry levels)⟩) := rfl

/-- The body that a tree holds, as its rule says. -/
def readBody (levels : Nat) (t : Tree) : Except Malformed Body :=
  match t with
  | .lookup _ "table" _ => return .table (← readTable levels t)
  | _ => return .choice (← readChoice levels t)

theorem readRule_eq (levels offset offset' o₁ o₂ offset'' index : Nat) (name body : Tree) :
    readRule levels (.lookup offset "rule" (.sequence offset'
        [.label o₁ "name" name, .label o₂ "body" (.choice offset'' index body)]))
      = (do
          let name ← readToken "rule name" name
          let body ← readBody levels body
          pure ⟨name, body⟩) := by
  show (do
    let name ← readToken "rule name" name
    match body with
    | .lookup _ "table" _ => return (⟨name, .table (← readTable levels body)⟩ : RuleDef)
    | _ => return ⟨name, .choice (← readChoice levels body)⟩) = _
  unfold readBody
  cases readToken "rule name" name with
  | error => rfl
  | ok name =>
      show (match body with
        | .lookup _ "table" _ => do return (⟨name, .table (← readTable levels body)⟩ : RuleDef)
        | _ => do return ⟨name, .choice (← readChoice levels body)⟩) = _
      split
      · cases readTable levels _ <;> rfl
      · cases readChoice levels _ <;> rfl

end OperatorPeg.Grammar
