import OperatorPeg.Proofs.Grammar.Compiled
import OperatorPeg.Proofs.Grammar.Quoting

/-!
# Lowering what has passed the checks

The checks look at a sound grammar without coming upon a token that quotes nothing, and
unless they find errors it can be lowered. The precedences that its tables declare are
then those of the operators, with the values that their digits stand for.
-/

namespace OperatorPeg.Grammar

open Diagnostics

/-- The check goes through, and unless it finds errors there is a result as described. -/
structure Vets {α : Type} (check : Except Unquotable (List Finding))
    (result : Except LowerError α) (good : α → Prop) : Prop where
  checked : Gives check fun _ => True
  lowered : Passes check → Gives result good

section Vets

variable {α β γ : Type} {check check' : Except Unquotable (List Finding)}
  {x : Except LowerError α} {y : Except LowerError β} {f : α → Except LowerError β}
  {good : α → Prop} {fine : β → Prop}

theorem Vets.bind (h : Vets check x good) (hf : ∀ a, good a → Gives (f a) fine) :
    Vets check (x >>= f) fine where
  checked := h.checked
  lowered hpasses := (h.lowered hpasses).bind hf

/-- Two checks vet two results that are put together. -/
theorem Vets.append {g : α → β → γ} {great : γ → Prop} (h : Vets check x good)
    (h' : Vets check' y fine) (hg : ∀ a b, good a → fine b → great (g a b)) :
    Vets (do
      let here ← check
      let there ← check'
      pure (here ++ there)) (do
        let a ← x
        let b ← y
        pure (g a b)) great where
  checked := h.checked.bind fun _ _ => h'.checked.bind fun _ _ => .pure trivial
  lowered hpasses :=
    have ⟨hfirst, hsecond⟩ := passes_append.mp hpasses
    (h.lowered hfirst).bind fun a ha => (h'.lowered hsecond).bind fun b hb => .pure (hg a b ha hb)

/-- A check with nothing behind it. -/
theorem Vets.alone (h : Vets check x good) :
    Vets (do
      let here ← check
      let there ← Except.ok []
      pure (here ++ there)) x good where
  checked := h.checked.bind fun _ _ => ⟨_, rfl, trivial⟩
  lowered hpasses := h.lowered (passes_append.mp hpasses).1

end Vets

/-! ## Choices -/

variable {defined : List String}

theorem Token.Quotes.quotedText {t : Token} {delimiter : Char} (h : t.Quotes delimiter)
    (hdelimiter : delimiter.utf8Size = 1) : Gives (quotedText t) fun _ => True := by
  obtain ⟨text, span⟩ := t
  obtain ⟨inside, rfl⟩ := h
  exact ⟨inside, mapError_eq_ok.mpr (Token.unescaped_quote hdelimiter inside span), trivial⟩

theorem hasErrors_regexFinding (t : Token) (e : Regex.SyntaxError) :
    Finding.hasErrors [regexFinding t e] = true := by
  unfold regexFinding
  simp only
  split <;> rfl

/-- A regex that the check has built is built again. -/
theorem vets_regex {t : Token} (h : t.Quotes '`') :
    Vets (checkAtom defined (.regex t)) (lowerAtom (.regex t)) fun _ => True := by
  obtain ⟨source, hquoted, -⟩ := h.quotedText rfl
  have hsource : t.unescaped = .ok source := mapError_eq_ok.mp hquoted
  rw [checkAtom, checkRegex, lowerAtom, hsource, hquoted]
  constructor
  · simp only [bind, Except.bind]
    split
    · exact ⟨_, rfl, trivial⟩
    · split <;> exact ⟨_, rfl, trivial⟩
  · intro hpasses
    simp only [bind, Except.bind] at hpasses
    split at hpasses
    · rw [passes_pure, hasErrors_regexFinding] at hpasses
      cases hpasses
    · split at hpasses
      · cases passes_pure.mp hpasses
      · next hbuild => exact ⟨_, mapError_eq_ok.mpr (ofRegex?_of_build hbuild), trivial⟩

theorem vets_rule {t : Token} :
    Vets (checkAtom defined (.rule t)) (lowerAtom (.rule t)) fun _ => True where
  checked := by
    rw [checkAtom]
    split <;> exact ⟨_, rfl, trivial⟩
  lowered _ := ⟨_, by rw [lowerAtom], trivial⟩

/-- Where every term is discardable, all are kept; otherwise one is that is not. -/
theorem any_keep {terms : List Term} {steps : List Step} (hne : terms ≠ [])
    (h : steps.map (·.keep) = terms.map fun term =>
      terms.all Term.isDiscardable || !term.isDiscardable) : steps.any (·.keep) = true := by
  have hany : (steps.map (·.keep)).any id = true := by
    rw [h, List.any_map, List.any_eq_true]
    cases hall : terms.all Term.isDiscardable with
    | true =>
        obtain ⟨term, hterm⟩ := List.exists_mem_of_ne_nil terms hne
        exact ⟨term, hterm, rfl⟩
    | false =>
        obtain ⟨term, hterm, hkept⟩ := List.all_eq_false.mp hall
        exact ⟨term, hterm, by simpa using hkept⟩
  rwa [List.any_map] at hany

theorem gives_sequence {terms : List Term} {steps : List Step} (hne : terms ≠ [])
    (h : steps.map (·.keep) = terms.map fun term =>
      terms.all Term.isDiscardable || !term.isDiscardable) :
    Gives (checkedPattern (Pattern.sequence? steps)) fun _ => True := by
  rw [Pattern.sequence?, if_pos (any_keep hne h)]
  exact ⟨_, rfl, trivial⟩

theorem gives_choice {ps : List Pattern} (hne : ps ≠ []) :
    Gives (checkedPattern (Pattern.choice? ps)) fun _ => True := by
  rw [Pattern.choice?, if_neg (by rwa [List.isEmpty_iff])]
  exact ⟨_, rfl, trivial⟩

mutual
theorem vets_atom : ∀ {atom : Atom}, atom.IsSound →
    Vets (checkAtom defined atom) (lowerAtom atom) fun _ => True
  | .regex _, .regex ht => vets_regex ht
  | .literal t, .literal ht => by
      rw [checkAtom, lowerAtom]
      exact ⟨⟨[], rfl, trivial⟩, fun _ => (ht.quotedText rfl).bind fun _ _ => .pure trivial⟩
  | .rule t, _ => vets_rule
  | .group choice, .group hchoice => by
      rw [checkAtom, lowerAtom]
      exact vets_choice hchoice

theorem vets_term : ∀ {term : Term}, term.IsSound →
    Vets (checkAtom defined term.atom) (lowerTerm term) fun _ => True
  | ⟨label, lead, atom, suffix⟩, .term hlabel hatom => by
      rw [lowerTerm]
      refine (vets_atom hatom).bind fun p _ => ?_
      cases label with
      | none => exact .pure trivial
      | some t => exact ((hlabel t rfl).quotedText rfl).bind fun _ _ => .pure trivial

theorem vets_steps (keepAll : Bool) : ∀ {terms : List Term}, (∀ term ∈ terms, term.IsSound) →
    Vets (checkTerms defined terms) (lowerSteps keepAll terms) fun steps =>
      steps.map (·.keep) = terms.map fun term => keepAll || !term.isDiscardable
  | [], _ => by
      rw [checkTerms, lowerSteps]
      exact ⟨⟨[], rfl, trivial⟩, fun _ => ⟨[], rfl, rfl⟩⟩
  | ⟨label, lead, atom, suffix⟩ :: terms, h => by
      rw [checkTerms, lowerSteps]
      obtain ⟨hterm, hterms⟩ := List.forall_mem_cons.mp h
      refine (vets_term hterm).append (vets_steps keepAll hterms) fun p steps _ hsteps => ?_
      rw [List.map_cons, List.map_cons, hsteps]

theorem vets_sequence : ∀ {terms : List Term}, terms ≠ [] → (∀ term ∈ terms, term.IsSound) →
    Vets (checkTerms defined terms) (lowerSequence terms) fun _ => True
  | [], hne, _ => absurd rfl hne
  | [⟨label, lead, atom, suffix⟩], _, h => by
      -- a single term is lowered on its own, not as a step
      have hterm := vets_term (h _ List.mem_cons_self)
      rw [checkTerms, lowerSequence]
      exact hterm.alone
  | first :: second :: terms, hne, h => by
      rw [lowerSequence]
      · exact (vets_steps _ h).bind fun steps hsteps => gives_sequence hne hsteps
      · nofun

theorem vets_alternatives : ∀ {sequences : List Sequence}, (∀ s ∈ sequences, s.IsSound) →
    Vets (checkAlternatives defined sequences) (lowerAlternatives sequences) fun ps =>
      ps.length = sequences.length
  | [], _ => by
      rw [checkAlternatives, lowerAlternatives]
      exact ⟨⟨[], rfl, trivial⟩, fun _ => ⟨[], rfl, rfl⟩⟩
  | ⟨terms⟩ :: rest, h => by
      rw [checkAlternatives, lowerAlternatives]
      obtain ⟨hsequence, hrest⟩ := List.forall_mem_cons.mp h
      cases hsequence with
      | sequence hne hterms =>
          refine (vets_sequence hne hterms).append (vets_alternatives hrest) fun p ps _ hps => ?_
          rw [List.length_cons, List.length_cons, hps]

theorem vets_choice : ∀ {choice : Choice}, choice.IsSound →
    Vets (checkChoice defined choice) (lowerChoice choice) fun _ => True
  | ⟨sequences⟩, .choice hne hsequences => by
      rw [checkChoice, lowerChoice]
      refine (vets_alternatives hsequences).bind fun ps hps => ?_
      -- a single alternative stands for itself, and none is impossible
      split
      · exact .pure trivial
      · refine gives_choice ?_
        rintro rfl
        exact hne (List.length_eq_zero_iff.mp hps.symm)
end

/-! ## Tables -/

/-- The token is decimal digits, one or more, and their value is below the limit. -/
structure Token.Denotes (t : Token) (n : Nat) : Prop where
  digits : t.text.toList ≠ [] ∧ ∀ ch ∈ t.text.toList, ch.isDigit = true
  value : Nat.ofDigitChars 10 t.text.toList 0 = n
  fits : n < precedenceLimit

/-- The precedence that is declared is there, with its value; none is if none is declared. -/
def KeepsPrecedence (declared : Option Token) (precedence : Option Nat) : Prop :=
  match declared with
  | none => precedence = none
  | some t => ∃ n, t.Denotes n ∧ precedence = some n

/-- The operator has the name and the precedences of the row. -/
structure OperatorDef.Keeps (row : OperatorDef) (op : Operator) : Prop where
  name : row.name.unescaped = .ok op.name
  left : KeepsPrecedence row.left op.left
  right : KeepsPrecedence row.right op.right

theorem Token.IsNumber.denotes {t : Token} {n : Nat} (h : t.IsNumber)
    (hvalue : precedenceValue? t.text = some n) : t.Denotes n := by
  obtain ⟨text, span⟩ := t
  unfold precedenceValue? at hvalue
  split at hvalue
  · next rest hplus =>
      -- a number does not begin with a sign
      simp only [Token.IsNumber, hplus, isNumber, Bool.and_eq_true] at h
      exact absurd h.1 (by decide +kernel)
  · simp only at hvalue
    split at hvalue
    · cases hvalue
    · next hdigits =>
        simp only [Bool.or_eq_true, not_or, List.isEmpty_iff, Bool.not_eq_true',
          Bool.not_eq_false, List.all_eq_true] at hdigits
        split at hvalue
        · next hfits =>
            cases hvalue
            refine ⟨hdigits, ?_, hfits⟩
            simp only [Nat.ofDigitChars_eq_foldl, Nat.mul_comm]
        · cases hvalue

theorem keepsPrecedence_of_checkPrecedence {declared : Option Token}
    (hnumber : ∀ t ∈ declared, t.IsNumber)
    (h : Finding.hasErrors (checkPrecedence declared) = false) :
    KeepsPrecedence declared (precedenceOf declared) := by
  cases declared with
  | none => rfl
  | some t =>
      unfold checkPrecedence at h
      simp only at h
      split at h
      · next n hvalue => exact ⟨n, (hnumber t rfl).denotes hvalue, hvalue⟩
      · cases h

theorem exists_of_forall₂ {α β : Type} {r : α → β → Prop} {xs : List α} {ys : List β}
    (h : List.Forall₂ r xs ys) : ∀ x ∈ xs, ∃ y, r x y := by
  induction h with
  | nil => nofun
  | cons hxy _ ih => exact List.forall_mem_cons.mpr ⟨⟨_, hxy⟩, ih⟩

theorem gives_operator {row : OperatorDef} {name : String} (hsound : row.IsSound)
    (h : row.Passes defined name) : Gives (lowerOperator row) row.Keeps := by
  refine .bind_ok (mapError_eq_ok.mpr h.name) ?_
  refine ((vets_choice hsound.pattern).lowered h.pattern).bind fun p _ => .pure ⟨h.name, ?_, ?_⟩
  · exact keepsPrecedence_of_checkPrecedence hsound.left h.left
  · exact keepsPrecedence_of_checkPrecedence hsound.right h.right

theorem checked_operators {rows : List OperatorDef} (hsound : ∀ row ∈ rows, row.IsSound)
    (earlier : List (String × Token)) :
    Gives (checkOperators defined earlier rows) fun _ => True := by
  induction rows generalizing earlier with
  | nil => exact ⟨[], rfl, trivial⟩
  | cons row rows ih =>
      obtain ⟨hrow, hrows⟩ := List.forall_mem_cons.mp hsound
      obtain ⟨name, hname, -⟩ := hrow.name.quotedText rfl
      rw [checkOperators]
      refine .bind_ok (mapError_eq_ok.mp hname) ?_
      cases earlier.lookup name <;>
        exact (vets_choice hrow.pattern).checked.bind fun _ _ =>
          (ih hrows _).bind fun _ _ => .pure trivial

/-- The operators of the table have the names and the precedences of the rows. -/
def Body.Keeps : Body → Pattern → Prop
  | .choice _, _ => True
  | .table t, .table ops => List.Forall₂ OperatorDef.Keeps t.operators ops
  | .table _, _ => False

theorem checked_table {span : Span} {rows : List OperatorDef}
    (hsound : ∀ row ∈ rows, row.IsSound) :
    Gives (checkTable defined ⟨span, rows⟩) fun _ => True := by
  rw [checkTable]
  split
  · exact ⟨_, rfl, trivial⟩
  · refine (checked_operators hsound []).bind fun findings _ => ?_
    split <;> exact .pure trivial

theorem gives_table {span : Span} {rows : List OperatorDef} (hsound : ∀ row ∈ rows, row.IsSound)
    (h : Passes (checkTable defined ⟨span, rows⟩)) :
    Gives (lowerBody (.table ⟨span, rows⟩)) (Body.table ⟨span, rows⟩).Keeps := by
  obtain ⟨hne, hoperators⟩ := passes_checkTable.mp h
  obtain ⟨names, hrows, -⟩ := passes_checkOperators.mp hoperators
  have hlowered : Gives (rows.mapM lowerOperator) (List.Forall₂ OperatorDef.Keeps rows) := by
    refine Gives.mapM fun row hrow => ?_
    obtain ⟨name, hname⟩ := exists_of_forall₂ hrows row hrow
    exact gives_operator (hsound row hrow) hname
  refine hlowered.bind fun ops hops => ?_
  have hsome : ops.isEmpty = false := by
    rw [List.isEmpty_eq_false_iff]
    rintro rfl
    cases hops
    exact hne rfl
  refine ⟨.table ops, ?_, hops⟩
  rw [Pattern.table?, hsome]
  rfl

theorem vets_body {body : Body} (hsound : body.IsSound) :
    Vets (checkBody defined body) (lowerBody body) body.Keeps := by
  cases body with
  | choice choice => exact vets_choice hsound
  | table table => exact ⟨checked_table hsound, gives_table hsound⟩

/-! ## Grammars -/

theorem checked_bodies {rules : List RuleDef} (hsound : ∀ rule ∈ rules, rule.IsSound) :
    Gives (checkBodies defined rules) fun _ => True := by
  induction rules with
  | nil => exact ⟨[], rfl, trivial⟩
  | cons rule rules ih =>
      obtain ⟨hrule, hrules⟩ := List.forall_mem_cons.mp hsound
      rw [checkBodies]
      exact (vets_body hrule.body).checked.bind fun _ _ =>
        (ih hrules).bind fun _ _ => .pure trivial

/-- The rules have the names and the precedences of the grammar as written. -/
def Ast.Keeps (ast : Ast) (rules : Rules) : Prop :=
  List.Forall₂ (fun rule entry => entry.1 = rule.name.text ∧ rule.body.Keeps entry.2)
    ast.rules rules.entries

/-- **A sound grammar is checked, and unless it has errors it is lowered.** -/
theorem vets_ast {ast : Ast} (hsound : ast.IsSound) :
    Vets (validate ast) (lower ast) ast.Keeps where
  checked := (checked_bodies hsound.each).bind fun _ _ => .pure trivial
  lowered hpasses := by
    obtain ⟨hnodup, hbodies⟩ := passes_validate.mp hpasses
    obtain ⟨entries, hentries, hkeeps⟩ : Gives (ast.rules.mapM fun rule => do
        let p ← lowerBody rule.body
        pure (rule.name.text, p)) (List.Forall₂ (fun rule entry =>
          entry.1 = rule.name.text ∧ rule.body.Keeps entry.2) ast.rules) :=
      Gives.mapM fun rule hrule =>
        ((vets_body (hsound.each rule hrule).body).lowered (hbodies rule hrule)).bind
          fun p hp => .pure ⟨rfl, hp⟩
    rw [← (lower_entries hentries).1] at hnodup
    refine .bind_ok hentries (.pure ?_)
    rw [Rules.ofList_of_nodup hnodup]
    exact hkeeps

end OperatorPeg.Grammar
