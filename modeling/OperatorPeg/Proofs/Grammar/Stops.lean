import OperatorPeg.Proofs.Grammar.Lowering

/-!
# Where checks and lowering stop

Both walk over a grammar from left to right and stop at the first thing that is in
their way. `Ast.met` lists what they meet, in that order: texts to be taken out of
their quotes, and parts that make no pattern. The checks take regexes and names of
operators out of their quotes, lowering all quoted texts; so the error of either is the
first that its list gives.
-/

namespace OperatorPeg.Grammar

open Diagnostics

/-! ## Quoted texts -/

/-- The token has two bytes or more, and the first or the last of them is a part of a
character only. -/
def Token.isBroken (t : Token) : Bool :=
  2 ≤ t.text.utf8ByteSize &&
    !(t.text.toList.head?.all (·.utf8Size == 1) && t.text.toList.getLast?.all (·.utf8Size == 1))

def Token.broken? (t : Token) : Option Unquotable := if t.isBroken then some ⟨t⟩ else none

/-- The error of a result, if it is one. -/
def error? {ε α : Type} : Except ε α → Option ε
  | .error e => some e
  | .ok _ => none

theorem isNone_content? (t : Token) : t.content?.isNone = t.isBroken := by
  unfold Token.content? Token.isBroken
  by_cases hshort : t.text.utf8ByteSize < 2
  · simp [hshort, Nat.not_le.mpr hshort]
  · have hlong : 2 ≤ t.text.utf8ByteSize := Nat.not_lt.mp hshort
    simp only [hshort, if_false, hlong, decide_true, Bool.true_and]
    generalize (t.text.toList.head?.all _ && t.text.toList.getLast?.all _) = whole
    cases whole <;> rfl

theorem isNone_unescaped? (t : Token) : t.unescaped?.isNone = t.isBroken := by
  rw [← isNone_content?, Token.unescaped?]
  cases htext : t.text.toList with
  | nil =>
      have hempty : t.text.utf8ByteSize = 0 := by
        rw [← Text.byteLength_toList, htext]
        rfl
      simp [Token.content?, hempty]
  | cons delimiter rest => simp

/-- **A token quotes a text unless it is broken.** -/
theorem error?_unescaped (t : Token) : error? t.unescaped = t.broken? := by
  unfold Token.unescaped Token.broken?
  rw [← isNone_unescaped?]
  cases t.unescaped? <;> rfl

/-! ## What is met -/

/-- What is met on the way through a grammar. -/
inductive Met where
  /-- A regex or the name of an operator. -/
  | checked (token : Token)
  /-- A literal or a label. -/
  | quoted (token : Token)
  /-- Parts that make no pattern. -/
  | fault (cause : PatternError)

/-- What is in the way of the checks. -/
def Met.refused? : Met → Option Unquotable
  | .checked t => t.broken?
  | .quoted _ | .fault _ => none

/-- What is in the way of lowering. -/
def Met.stop? : Met → Option LowerError
  | .checked t | .quoted t => t.broken?.map .unquotable
  | .fault cause => some (.pattern cause)

/-- Nothing can be put together of no parts. -/
def faultOfNone {α : Type} (parts : List α) (cause : PatternError) : List Met :=
  if parts.isEmpty then [.fault cause] else []

/-- A quoted regex that cannot be built. -/
def Token.regexFaults (t : Token) : List Met :=
  match t.unescaped with
  | .error _ => []
  | .ok source => (error? (Pattern.ofRegex? source)).toList.map .fault

mutual
def Atom.met : Atom → List Met
  | .regex t => .checked t :: t.regexFaults
  | .literal t => [.quoted t]
  | .group choice => choice.met
  | .rule _ => []

/-- The label comes after what it is the label of. -/
def Term.met : Term → List Met
  | ⟨label, _, atom, _⟩ => atom.met ++ label.toList.map .quoted

def metInTerms : List Term → List Met
  | [] => []
  | term :: terms => term.met ++ metInTerms terms

def metInAlternatives : List Sequence → List Met
  | [] => []
  | ⟨terms⟩ :: rest =>
      (metInTerms terms ++ faultOfNone terms .allStepsDiscarded) ++ metInAlternatives rest

def Choice.met : Choice → List Met
  | ⟨alternatives⟩ => metInAlternatives alternatives ++ faultOfNone alternatives .emptyChoice
end

def OperatorDef.met (op : OperatorDef) : List Met := .checked op.name :: op.pattern.met

def Body.met : Body → List Met
  | .choice c => c.met
  | .table t => t.operators.flatMap OperatorDef.met ++ faultOfNone t.operators .emptyOperatorTable

def Ast.met (ast : Ast) : List Met := ast.rules.flatMap fun rule => rule.body.met

/-! ## Errors one after the other -/

section Errors

variable {α β ε ε' : Type} {g : Met → Option ε} {here there : List Met}

theorem error?_eq_some {x : Except ε α} {e : ε} : error? x = some e ↔ x = .error e := by
  cases x <;> simp [error?]

theorem error?_mapError (f : ε → ε') (x : Except ε α) :
    error? (x.mapError f) = (error? x).map f := by
  cases x <;> rfl

/-- What is made of a result does not stop it. -/
theorem error?_map (f : α → β) (x : Except ε α) :
    error? (do
      let a ← x
      pure (f a)) = error? x := by
  cases x <;> rfl

/-- What goes on only if the first part goes through stops at the first stop of both. -/
theorem error?_bind {x : Except ε α} {f : α → Except ε β} (hx : error? x = here.findSome? g)
    (hf : ∀ a, x = .ok a → error? (f a) = there.findSome? g) :
    error? (x >>= f) = (here ++ there).findSome? g := by
  rw [List.findSome?_append, ← hx]
  cases x with
  | error e => rfl
  | ok a => exact hf a rfl

theorem error?_append {x y : Except ε (List Finding)} (hx : error? x = here.findSome? g)
    (hy : error? y = there.findSome? g) :
    error? (do
      let fs ← x
      let gs ← y
      pure (fs ++ gs)) = (here ++ there).findSome? g :=
  error?_bind hx fun _ _ => by
    rw [← hy]
    exact error?_map ..

theorem error?_mapM {f : α → Except ε β} {met : α → List Met} {xs : List α}
    (h : ∀ x ∈ xs, error? (f x) = (met x).findSome? g) :
    error? (xs.mapM f) = (xs.flatMap met).findSome? g := by
  induction xs with
  | nil => rfl
  | cons x xs ih =>
      obtain ⟨hx, hxs⟩ := List.forall_mem_cons.mp h
      rw [List.mapM_cons, List.flatMap_cons]
      refine error?_bind hx fun y _ => ?_
      rw [← ih hxs]
      exact error?_map ..

end Errors

/-! ## The checks -/

section Checks

variable {defined : List String}

theorem refused?_faultOfNone {α : Type} (parts : List α) (cause : PatternError) :
    (faultOfNone parts cause).findSome? Met.refused? = none := by
  unfold faultOfNone
  split <;> rfl

theorem refused?_regexFaults (t : Token) : t.regexFaults.findSome? Met.refused? = none := by
  unfold Token.regexFaults
  split
  · rfl
  · cases error? (Pattern.ofRegex? _) <;> rfl

theorem refused?_label (label : Option Token) :
    (label.toList.map Met.quoted).findSome? Met.refused? = none := by
  cases label <;> rfl

theorem error?_checkRegex (t : Token) : error? (checkRegex t) = t.broken? := by
  rw [← error?_unescaped, checkRegex]
  cases t.unescaped with
  | error _ => rfl
  | ok source =>
      simp only [bind, Except.bind]
      split
      · rfl
      · split <;> rfl

mutual
theorem error?_checkAtom : ∀ atom : Atom,
    error? (checkAtom defined atom) = atom.met.findSome? Met.refused?
  | .regex t => by
      rw [checkAtom, error?_checkRegex, Atom.met, List.findSome?_cons, refused?_regexFaults]
      cases h : t.broken? <;> simp [Met.refused?, h]
  | .literal t => by
      rw [checkAtom, Atom.met]
      rfl
  | .group choice => by
      rw [checkAtom, Atom.met]
      exact error?_checkChoice choice
  | .rule t => by
      rw [checkAtom, Atom.met]
      split <;> rfl

theorem error?_checkTerms : ∀ terms : List Term,
    error? (checkTerms defined terms) = (metInTerms terms).findSome? Met.refused?
  | [] => by
      rw [checkTerms, metInTerms]
      rfl
  | ⟨label, lead, atom, suffix⟩ :: terms => by
      rw [checkTerms, metInTerms, Term.met]
      refine error?_append ?_ (error?_checkTerms terms)
      rw [List.findSome?_append, refused?_label, Option.or_none]
      exact error?_checkAtom atom

theorem error?_checkAlternatives : ∀ sequences : List Sequence,
    error? (checkAlternatives defined sequences) =
      (metInAlternatives sequences).findSome? Met.refused?
  | [] => by
      rw [checkAlternatives, metInAlternatives]
      rfl
  | ⟨terms⟩ :: rest => by
      rw [checkAlternatives, metInAlternatives]
      refine error?_append ?_ (error?_checkAlternatives rest)
      rw [List.findSome?_append, refused?_faultOfNone, Option.or_none]
      exact error?_checkTerms terms

theorem error?_checkChoice : ∀ choice : Choice,
    error? (checkChoice defined choice) = choice.met.findSome? Met.refused?
  | ⟨alternatives⟩ => by
      rw [checkChoice, Choice.met, List.findSome?_append, refused?_faultOfNone, Option.or_none]
      exact error?_checkAlternatives alternatives
end

theorem error?_checkOperators (defined : List String) (earlier : List (String × Token))
    (ops : List OperatorDef) :
    error? (checkOperators defined earlier ops) =
      (ops.flatMap OperatorDef.met).findSome? Met.refused? := by
  induction ops generalizing earlier with
  | nil => rfl
  | cons op ops ih =>
      rw [checkOperators, List.flatMap_cons, OperatorDef.met, List.cons_append,
        ← List.singleton_append]
      refine error?_bind ?_ fun name _ => ?_
      · rw [error?_unescaped]
        cases h : op.name.broken? <;> simp [Met.refused?, h]
      · have hrest : ∀ doubled earlier', error? (do
            let inside ← checkChoice defined op.pattern
            let rest ← checkOperators defined earlier' ops
            pure (doubled ++ checkPrecedence op.left ++ checkPrecedence op.right ++ inside ++ rest))
            = (op.pattern.met ++ ops.flatMap OperatorDef.met).findSome? Met.refused? := by
          intro doubled earlier'
          refine error?_bind (error?_checkChoice op.pattern) fun inside _ => ?_
          rw [← ih earlier']
          exact error?_map ..
        cases earlier.lookup name <;> exact hrest _ _

theorem error?_checkBody (body : Body) :
    error? (checkBody defined body) = body.met.findSome? Met.refused? := by
  cases body with
  | choice c => exact error?_checkChoice c
  | table t =>
      rw [checkBody, checkTable, Body.met, List.findSome?_append, refused?_faultOfNone,
        Option.or_none]
      cases hops : t.operators with
      | nil => rfl
      | cons op ops =>
          simp only [List.isEmpty_cons, Bool.false_eq_true, if_false]
          rw [← error?_checkOperators defined []]
          cases checkOperators defined [] (op :: ops) with
          | error _ => rfl
          | ok findings =>
              show error? (if _ then _ else _) = none
              split <;> rfl

/-- **The checks stop at the first broken token of a regex or of an operator's name.** -/
theorem error?_validate (ast : Ast) :
    error? (validate ast) = ast.met.findSome? Met.refused? := by
  have hbodies : ∀ (defined : List String) (rules : List RuleDef),
      error? (checkBodies defined rules) =
        (rules.flatMap fun rule => rule.body.met).findSome? Met.refused? := by
    intro defined rules
    induction rules with
    | nil => rfl
    | cons rule rules ih =>
        rw [checkBodies, List.flatMap_cons]
        exact error?_append (error?_checkBody rule.body) ih
  rw [Ast.met, ← hbodies (ast.rules.map (·.name.text)), validate]
  exact error?_map ..

end Checks

/-! ## Lowering -/

section Lowering

theorem error?_quotedText (t : Token) :
    error? (quotedText t) = [Met.quoted t].findSome? Met.stop? := by
  rw [quotedText, error?_mapError, error?_unescaped]
  cases h : t.broken? <;> simp [Met.stop?, h]

theorem error?_checkedPattern (p : Except PatternError Pattern) :
    error? (checkedPattern p) = ((error? p).toList.map Met.fault).findSome? Met.stop? := by
  rw [checkedPattern, error?_mapError]
  cases error? p <;> rfl

theorem length_lowerAlternatives {sequences : List Sequence} {ps : List Pattern}
    (h : lowerAlternatives sequences = .ok ps) : ps.length = sequences.length := by
  induction sequences generalizing ps with
  | nil =>
      rw [lowerAlternatives] at h
      cases h
      rfl
  | cons s rest ih =>
      obtain ⟨terms⟩ := s
      rw [lowerAlternatives] at h
      obtain ⟨p, -, h⟩ := bind_eq_ok.mp h
      obtain ⟨ps, hps, h⟩ := bind_eq_ok.mp h
      cases h
      rw [List.length_cons, List.length_cons, ih hps]

theorem keep_lowerSteps {keepAll : Bool} {terms : List Term} {steps : List Step}
    (h : lowerSteps keepAll terms = .ok steps) :
    steps.map (·.keep) = terms.map fun term => keepAll || !term.isDiscardable := by
  induction terms generalizing steps with
  | nil =>
      rw [lowerSteps] at h
      cases h
      rfl
  | cons term terms ih =>
      rw [lowerSteps] at h
      obtain ⟨p, -, h⟩ := bind_eq_ok.mp h
      obtain ⟨rest, hrest, h⟩ := bind_eq_ok.mp h
      cases h
      rw [List.map_cons, List.map_cons, ih hrest]

theorem stop?_faultOfNone_of_ne {α : Type} {parts : List α} (h : parts ≠ [])
    (cause : PatternError) : (faultOfNone parts cause).findSome? Met.stop? = none := by
  rw [faultOfNone, if_neg (by simpa using h)]
  rfl

mutual
theorem error?_lowerAtom : ∀ atom : Atom,
    error? (lowerAtom atom) = atom.met.findSome? Met.stop?
  | .regex t => by
      rw [lowerAtom, Atom.met, ← List.singleton_append]
      refine error?_bind (error?_quotedText t) fun source hsource => ?_
      rw [error?_checkedPattern, Token.regexFaults, mapError_eq_ok.mp hsource]
  | .literal t => by
      rw [lowerAtom, Atom.met, ← error?_quotedText]
      exact error?_map ..
  | .group choice => by
      rw [lowerAtom, Atom.met]
      exact error?_lowerChoice choice
  | .rule t => by
      rw [lowerAtom, Atom.met]
      rfl

theorem error?_lowerTerm : ∀ term : Term,
    error? (lowerTerm term) = term.met.findSome? Met.stop?
  | ⟨label, lead, atom, suffix⟩ => by
      rw [lowerTerm, Term.met]
      refine error?_bind (error?_lowerAtom atom) fun p _ => ?_
      cases label with
      | none => rfl
      | some t =>
          rw [Option.toList_some, List.map_singleton, ← error?_quotedText]
          exact error?_map ..

theorem error?_lowerSteps (keepAll : Bool) : ∀ terms : List Term,
    error? (lowerSteps keepAll terms) = (metInTerms terms).findSome? Met.stop?
  | [] => by
      rw [lowerSteps, metInTerms]
      rfl
  | term :: terms => by
      rw [lowerSteps, metInTerms]
      refine error?_bind (error?_lowerTerm term) fun p _ => ?_
      rw [← error?_lowerSteps keepAll terms]
      exact error?_map ..

theorem error?_lowerSequence : ∀ terms : List Term,
    error? (lowerSequence terms) =
      (metInTerms terms ++ faultOfNone terms .allStepsDiscarded).findSome? Met.stop?
  | [] => by
      rw [lowerSequence]
      · rw [lowerSteps, metInTerms]
        rfl
      · nofun
  | [term] => by
      rw [lowerSequence, metInTerms, metInTerms, List.append_nil, List.findSome?_append,
        stop?_faultOfNone_of_ne (List.cons_ne_nil _ _), Option.or_none]
      exact error?_lowerTerm term
  | first :: second :: terms => by
      rw [lowerSequence]
      · refine error?_bind (error?_lowerSteps _ _) fun steps hsteps => ?_
        have hne := List.cons_ne_nil first (second :: terms)
        rw [stop?_faultOfNone_of_ne hne, Pattern.sequence?, if_pos (any_keep hne
          (keep_lowerSteps hsteps))]
        rfl
      · nofun

theorem error?_lowerAlternatives : ∀ sequences : List Sequence,
    error? (lowerAlternatives sequences) = (metInAlternatives sequences).findSome? Met.stop?
  | [] => by
      rw [lowerAlternatives, metInAlternatives]
      rfl
  | ⟨terms⟩ :: rest => by
      rw [lowerAlternatives, metInAlternatives]
      refine error?_bind (error?_lowerSequence terms) fun p _ => ?_
      rw [← error?_lowerAlternatives rest]
      exact error?_map ..

theorem error?_lowerChoice : ∀ choice : Choice,
    error? (lowerChoice choice) = choice.met.findSome? Met.stop?
  | ⟨alternatives⟩ => by
      rw [lowerChoice, Choice.met]
      refine error?_bind (error?_lowerAlternatives alternatives) fun ps hps => ?_
      have hlength := length_lowerAlternatives hps
      cases alternatives with
      | nil =>
          cases List.length_eq_zero_iff.mp hlength
          rfl
      | cons s rest =>
          rw [stop?_faultOfNone_of_ne (List.cons_ne_nil s rest)]
          split
          · rfl
          · rw [Pattern.choice?, if_neg]
            · rfl
            · rw [List.isEmpty_iff]
              rintro rfl
              cases hlength
end

theorem error?_lowerOperator (op : OperatorDef) :
    error? (lowerOperator op) = op.met.findSome? Met.stop? := by
  rw [lowerOperator, OperatorDef.met, ← List.singleton_append]
  refine error?_bind (error?_quotedText op.name) fun name _ => ?_
  rw [← error?_lowerChoice]
  exact error?_map ..

theorem error?_lowerBody (body : Body) :
    error? (lowerBody body) = body.met.findSome? Met.stop? := by
  cases body with
  | choice c => exact error?_lowerChoice c
  | table t =>
      rw [lowerBody, Body.met]
      refine error?_bind (error?_mapM fun op _ => error?_lowerOperator op) fun ops hops => ?_
      have hlength := (forall₂_of_mapM hops).length_eq
      cases hrows : t.operators with
      | nil =>
          rw [hrows] at hlength
          cases List.length_eq_zero_iff.mp hlength.symm
          rfl
      | cons row rows =>
          rw [stop?_faultOfNone_of_ne (List.cons_ne_nil row rows), Pattern.table?, if_neg]
          · rfl
          · rw [List.isEmpty_iff]
            rintro rfl
            rw [hrows] at hlength
            cases hlength

/-- **Lowering stops at the first broken token, or the first parts that make no pattern.** -/
theorem error?_lower (ast : Ast) : error? (lower ast) = ast.met.findSome? Met.stop? := by
  rw [lower, error?_map, Ast.met]
  refine error?_mapM fun rule _ => ?_
  rw [error?_map]
  exact error?_lowerBody rule.body

end Lowering

end OperatorPeg.Grammar
