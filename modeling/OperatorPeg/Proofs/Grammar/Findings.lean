import Mathlib.Data.Prod.Lex
import OperatorPeg.Proofs.Grammar.Stops

/-!
# What the checks find

The findings about a grammar can be told from its parts: a name that an earlier rule or an
earlier operator of the table has, a reference to no rule, an empty table, a precedence that
does not fit, a table without operands, and a regex that cannot be read or built. The checks
walk over the grammar from left to right, keep only the first part of each name, and sort
what they find; yet they find each of these once, and nothing else.
-/

namespace OperatorPeg

/-! ## The order of findings -/

namespace Diagnostics.Finding

/-- What findings are sorted by: start, kind and end. -/
def key (f : Finding) : ℕ ×ₗ ℕ ×ₗ ℕ := toLex (f.span.start, toLex (f.kind.rank, f.span.stop))

theorem precedes_iff {f g : Finding} : f.precedes g = true ↔ f.key ≤ g.key := by
  simp only [key, Prod.Lex.toLex_le_toLex, precedes, Bool.or_eq_true, Bool.and_eq_true,
    decide_eq_true_eq, beq_iff_eq]

theorem perm_insertSorted (f : Finding) (fs : List Finding) :
    (insertSorted f fs).Perm (f :: fs) := by
  induction fs with
  | nil => exact .refl _
  | cons g gs ih =>
      unfold insertSorted
      split
      · exact .refl _
      · exact (ih.cons g).trans (.swap f g gs)

theorem perm_sort (fs : List Finding) : (sort fs).Perm fs := by
  induction fs with
  | nil => exact .refl _
  | cons f fs ih => exact (perm_insertSorted f _).trans (ih.cons f)

theorem pairwise_insertSorted (f : Finding) {fs : List Finding}
    (h : fs.Pairwise fun f g => f.key ≤ g.key) :
    (insertSorted f fs).Pairwise fun f g => f.key ≤ g.key := by
  induction fs with
  | nil => exact List.pairwise_singleton _ _
  | cons g gs ih =>
      obtain ⟨hg, hgs⟩ := List.pairwise_cons.mp h
      unfold insertSorted
      split
      case isTrue hle =>
        have hfg := precedes_iff.mp hle
        refine List.pairwise_cons.mpr ⟨List.forall_mem_cons.mpr ⟨hfg, ?_⟩, h⟩
        exact fun other hother => hfg.trans (hg other hother)
      case isFalse hle =>
        have hgf : g.key ≤ f.key := (not_le.mp (precedes_iff.not.mp hle)).le
        refine List.pairwise_cons.mpr ⟨fun other hother => ?_, ih hgs⟩
        rcases List.mem_cons.mp ((perm_insertSorted f gs).mem_iff.mp hother) with rfl | hmem
        · exact hgf
        · exact hg other hmem

theorem pairwise_sort (fs : List Finding) : (sort fs).Pairwise fun f g => f.key ≤ g.key := by
  induction fs with
  | nil => exact .nil
  | cons f fs ih => exact pairwise_insertSorted f ih

theorem severity_eq_error {f : Finding} :
    f.severity = .error ↔ f.kind ≠ .noNullaryOperator := by
  unfold severity Kind.severity
  split <;> simp_all

theorem hasErrors_iff {fs : List Finding} :
    hasErrors fs = true ↔ ∃ f ∈ fs, f.kind ≠ .noNullaryOperator := by
  simp only [hasErrors_eq_any, List.any_eq_true, beq_iff_eq, severity_eq_error]

end Diagnostics.Finding

namespace Grammar

open Diagnostics

/-! ## The parts of a grammar -/

mutual
/-- The atoms that are no groups, at any depth of groups. -/
def Atom.atoms : Atom → List Atom
  | .regex t => [.regex t]
  | .literal t => [.literal t]
  | .group choice => choice.atoms
  | .rule t => [.rule t]

def atomsInTerms : List Term → List Atom
  | [] => []
  | ⟨_, _, atom, _⟩ :: terms => atom.atoms ++ atomsInTerms terms

def atomsInAlternatives : List Sequence → List Atom
  | [] => []
  | ⟨terms⟩ :: rest => atomsInTerms terms ++ atomsInAlternatives rest

def Choice.atoms : Choice → List Atom
  | ⟨alternatives⟩ => atomsInAlternatives alternatives
end

def Atom.reference? : Atom → Option Token
  | .rule t => some t
  | .regex _ | .literal _ | .group _ => none

def Atom.regex? : Atom → Option Token
  | .regex t => some t
  | .rule _ | .literal _ | .group _ => none

def Body.atoms : Body → List Atom
  | .choice c => c.atoms
  | .table t => t.operators.flatMap (·.pattern.atoms)

def Body.table? : Body → Option TableDef
  | .choice _ => none
  | .table t => some t

def OperatorDef.precedences (op : OperatorDef) : List Token := op.left.toList ++ op.right.toList

namespace Ast

def atoms (g : Ast) : List Atom := g.rules.flatMap (·.body.atoms)

/-- The references to rules, in the patterns of operators too. -/
def references (g : Ast) : List Token := g.atoms.filterMap Atom.reference?

def regexes (g : Ast) : List Token := g.atoms.filterMap Atom.regex?

def tables (g : Ast) : List TableDef := g.rules.filterMap (·.body.table?)

def operatorNames (g : Ast) : List Token := g.tables.flatMap (·.operators.map (·.name))

/-- The names of all rules, wherever they are defined. -/
def defined (g : Ast) : List String := g.rules.map (·.name.text)

end Ast

/-! ## What is to be found -/

/-- The elements whose name an earlier one has, each with the first that has it. -/
def repeated {α β : Type} [DecidableEq β] (name : α → β) (xs : List α) : List (α × α) :=
  xs.zipIdx.filterMap fun (x, i) =>
    ((xs.take i).find? fun first => name first = name x).map (x, ·)

def duplicateRule : RuleDef × RuleDef → Finding
  | (rule, first) =>
      .make .duplicateRule rule.name.span (some rule.name.text) [definedNote first.name]

def undefinedRule (reference : Token) : Finding :=
  .make .undefinedRule reference.span (some reference.text) []

def duplicateOperator : OperatorDef × OperatorDef → Finding
  | (op, first) =>
      .make .duplicateOperator op.name.span op.name.unescaped? [definedNote first.name]

def precedenceOutOfRange (precedence : Token) : Finding :=
  .make .precedenceOutOfRange precedence.span (some precedence.text) []

/-- The precedences that do not fit. -/
def outOfRange (ops : List OperatorDef) : List Finding :=
  ((ops.flatMap OperatorDef.precedences).filter fun t =>
    (precedenceValue? t.text).isNone).map precedenceOutOfRange

/-- What is wrong with a regex that the reader rejects, or else the engine. -/
def Token.regexFinding? (t : Token) : Option Finding :=
  t.unescaped?.bind fun source =>
    ((error? (Regex.Ast.read source.toList)).map (regexFinding t)).or
      ((error? (Regex.build source.toList)).map fun e =>
        .make .regexCompile t.span (some e.message) [])

/-- What is to be found in a table, but for the patterns of its operators. -/
def TableDef.findings (table : TableDef) : List Finding :=
  if table.operators.isEmpty then [.make .emptyOperatorTable table.span none []]
  else
    (repeated (·.name.unescaped?) table.operators).map duplicateOperator ++
      outOfRange table.operators ++
      if table.operators.all fun op => op.left.isSome || op.right.isSome then
        [.make .noNullaryOperator table.span none []]
      else []

/-- What is to be found in a grammar. -/
def Ast.findings (g : Ast) : List Finding :=
  (repeated (·.name.text) g.rules).map duplicateRule ++
    (g.references.filter (·.text ∉ g.defined)).map undefinedRule ++
    g.tables.flatMap TableDef.findings ++
    g.regexes.filterMap Token.regexFinding?

/-! ## Names on the way -/

section Repeated

variable {α β : Type} [DecidableEq β] {name : α → β} {before : List α} {x : α}

/-- The elements with repeated names in `xs`, which stand behind others. -/
def repeatedAfter (name : α → β) (before xs : List α) : List (α × α) :=
  (xs.zipIdx before.length).filterMap fun (x, i) =>
    (((before ++ xs).take i).find? fun first => name first = name x).map (x, ·)

theorem repeated_eq (name : α → β) (xs : List α) : repeated name xs = repeatedAfter name [] xs :=
  rfl

theorem repeatedAfter_cons (xs : List α) :
    repeatedAfter name before (x :: xs) =
      ((before.find? fun first => name first = name x).map (x, ·)).toList ++
        repeatedAfter name (before ++ [x]) xs := by
  have hlater : repeatedAfter name (before ++ [x]) xs =
      (xs.zipIdx (before.length + 1)).filterMap fun (y, i) =>
        (((before ++ x :: xs).take i).find? fun first => name first = name y).map (y, ·) := by
    rw [repeatedAfter, List.append_assoc, List.singleton_append, List.length_append,
      List.length_singleton]
  rw [hlater, repeatedAfter, List.zipIdx_cons, List.filterMap_cons]
  simp only [List.take_left]
  cases (before.find? fun first => name first = name x).map (x, ·) <;> rfl

/-- An element whose name is known is not the first of any name. -/
theorem find?_append_of_isSome (h : (before.find? fun first => name first = name x).isSome)
    (n : β) :
    (before ++ [x]).find? (name · = n) = before.find? (name · = n) := by
  rw [List.find?_append]
  by_cases hn : name x = n
  · subst hn
    exact Option.or_of_isSome h
  · simp [hn]

theorem mem_of_mem_repeated {xs : List α} {first : α} (h : (x, first) ∈ repeated name xs) :
    x ∈ xs ∧ first ∈ xs := by
  obtain ⟨⟨y, i⟩, hy, hfound⟩ := List.mem_filterMap.mp h
  obtain ⟨_, hfirst, heq⟩ := Option.map_eq_some_iff.mp hfound
  cases heq
  exact ⟨List.fst_mem_of_mem_zipIdx hy,
    List.mem_of_mem_take (List.mem_of_find?_eq_some hfirst)⟩

end Repeated

/-! ## What the checks find -/

section Found

variable {defined : List String}

/-- What is wrong with an atom, if it is no group. -/
def Atom.finding? (defined : List String) : Atom → Option Finding
  | .regex t => t.regexFinding?
  | .literal _ | .group _ => none
  | .rule t => if t.text ∈ defined then none else some (undefinedRule t)

theorem checkNames_eq {earlier : List Token} (before : List RuleDef)
    (hearlier : ∀ n, earlier.find? (·.text == n) =
      (before.find? (·.name.text = n)).map (·.name)) (rules : List RuleDef) :
    checkNames earlier rules =
      (repeatedAfter (·.name.text) before rules).map duplicateRule := by
  induction rules generalizing earlier before with
  | nil => rfl
  | cons rule rules ih =>
      rw [checkNames, hearlier, repeatedAfter_cons, List.map_append]
      cases hfirst : before.find? (·.name.text = rule.name.text) with
      | some first =>
          -- the list of known names stays, as it has this one
          refine congrArg (duplicateRule (rule, first) :: ·) (ih _ fun n => ?_)
          rw [hearlier, find?_append_of_isSome (by rw [hfirst, Option.isSome_some])]
      | none =>
          refine ih _ fun n => ?_
          rw [List.find?_append, List.find?_append, hearlier, Option.map_or]
          by_cases hn : rule.name.text = n <;> simp [hn]

theorem unescaped_eq_ok {t : Token} {text : String} :
    t.unescaped = .ok text ↔ t.unescaped? = some text := by
  unfold Token.unescaped
  cases t.unescaped? <;> simp

theorem checkRegex_eq {t : Token} {findings : List Finding} (h : checkRegex t = .ok findings) :
    findings = t.regexFinding?.toList := by
  obtain ⟨source, hsource, h⟩ := bind_eq_ok.mp h
  rw [Token.regexFinding?, unescaped_eq_ok.mp hsource, Option.bind_some]
  cases hread : Regex.Ast.read source.toList with
  | error e =>
      simp only [hread] at h
      exact (Except.ok.inj h).symm
  | ok ast =>
      simp only [hread] at h
      cases hbuild : Regex.build source.toList with
      | error e =>
          simp only [hbuild] at h
          exact (Except.ok.inj h).symm
      | ok meaning =>
          simp only [hbuild] at h
          exact (Except.ok.inj h).symm

/-- Two checks, one after the other, find what each of them finds. -/
theorem found_append {first second : Except Unquotable (List Finding)}
    {here there findings : List Finding} (hfirst : ∀ fs, first = .ok fs → fs = here)
    (hsecond : ∀ fs, second = .ok fs → fs = there)
    (h : (do
      let here ← first
      let there ← second
      pure (here ++ there)) = .ok findings) : findings = here ++ there := by
  obtain ⟨fs, hfs, h⟩ := bind_eq_ok.mp h
  obtain ⟨gs, hgs, h⟩ := bind_eq_ok.mp h
  rw [← hfirst fs hfs, ← hsecond gs hgs]
  exact (Except.ok.inj h).symm

mutual
theorem checkAtom_eq : ∀ (atom : Atom) (findings : List Finding),
    checkAtom defined atom = .ok findings →
      findings = atom.atoms.filterMap (Atom.finding? defined)
  | .regex t, findings, h => by
      rw [checkAtom] at h
      rw [checkRegex_eq h, Atom.atoms, List.filterMap_cons, Atom.finding?]
      cases t.regexFinding? <;> rfl
  | .literal t, findings, h => by
      rw [checkAtom] at h
      rw [← Except.ok.inj h, Atom.atoms]
      rfl
  | .group choice, findings, h => by
      rw [checkAtom] at h
      rw [Atom.atoms]
      exact checkChoice_eq choice findings h
  | .rule t, findings, h => by
      rw [checkAtom] at h
      rw [Atom.atoms, List.filterMap_cons, Atom.finding?]
      by_cases hmem : t.text ∈ defined
      · simp only [List.contains_iff_mem.mpr hmem, if_true] at h
        rw [← Except.ok.inj h, if_pos hmem]
        rfl
      · rw [if_neg (by simpa using hmem)] at h
        rw [← Except.ok.inj h, if_neg hmem]
        rfl

theorem checkTerms_eq : ∀ (terms : List Term) (findings : List Finding),
    checkTerms defined terms = .ok findings →
      findings = (atomsInTerms terms).filterMap (Atom.finding? defined)
  | [], findings, h => by
      rw [checkTerms] at h
      rw [← Except.ok.inj h, atomsInTerms]
      rfl
  | ⟨label, lead, atom, suffix⟩ :: terms, findings, h => by
      rw [checkTerms] at h
      rw [atomsInTerms, List.filterMap_append]
      exact found_append (checkAtom_eq atom) (checkTerms_eq terms) h

theorem checkAlternatives_eq : ∀ (sequences : List Sequence) (findings : List Finding),
    checkAlternatives defined sequences = .ok findings →
      findings = (atomsInAlternatives sequences).filterMap (Atom.finding? defined)
  | [], findings, h => by
      rw [checkAlternatives] at h
      rw [← Except.ok.inj h, atomsInAlternatives]
      rfl
  | ⟨terms⟩ :: rest, findings, h => by
      rw [checkAlternatives] at h
      rw [atomsInAlternatives, List.filterMap_append]
      exact found_append (checkTerms_eq terms) (checkAlternatives_eq rest) h

theorem checkChoice_eq : ∀ (choice : Choice) (findings : List Finding),
    checkChoice defined choice = .ok findings →
      findings = choice.atoms.filterMap (Atom.finding? defined)
  | ⟨alternatives⟩, findings, h => by
      rw [checkChoice] at h
      rw [Choice.atoms]
      exact checkAlternatives_eq alternatives findings h
end

theorem checkPrecedence_eq (token : Option Token) :
    checkPrecedence token =
      (token.toList.filter fun t => (precedenceValue? t.text).isNone).map
        precedenceOutOfRange := by
  cases token with
  | none => rfl
  | some t =>
      rw [checkPrecedence, Option.toList_some, List.filter_cons]
      cases precedenceValue? t.text <;> rfl

/-- What is to be found in operators next to repeated names. -/
def operatorFindings (defined : List String) (ops : List OperatorDef) : List Finding :=
  outOfRange ops ++ (ops.flatMap (·.pattern.atoms)).filterMap (Atom.finding? defined)

/-- What is found in an operator stands before what is found in the operators behind it. -/
theorem perm_operator {earlier : List (String × Token)} {op : OperatorDef}
    {ops : List OperatorDef} {doubled doubles findings : List Finding}
    (hrest : ∀ fs, checkOperators defined earlier ops = .ok fs →
      fs.Perm (doubles ++ operatorFindings defined ops))
    (h : (do
      let inside ← checkChoice defined op.pattern
      let rest ← checkOperators defined earlier ops
      pure (doubled ++ checkPrecedence op.left ++ checkPrecedence op.right ++ inside ++ rest)) =
        .ok findings) :
    findings.Perm ((doubled ++ doubles) ++ operatorFindings defined (op :: ops)) := by
  obtain ⟨inside, hinside, h⟩ := bind_eq_ok.mp h
  obtain ⟨rest, hfound, h⟩ := bind_eq_ok.mp h
  have hrest := List.perm_iff_count.mp (hrest rest hfound)
  rw [← Except.ok.inj h, checkChoice_eq op.pattern inside hinside, checkPrecedence_eq,
    checkPrecedence_eq]
  refine List.perm_iff_count.mpr fun f => ?_
  have hcount := hrest f
  simp only [operatorFindings, outOfRange, OperatorDef.precedences, List.flatMap_cons,
    List.filter_append, List.map_append, List.filterMap_append, List.count_append] at hcount ⊢
  omega

theorem perm_checkOperators {earlier : List (String × Token)} (before : List OperatorDef)
    {ops : List OperatorDef} {findings : List Finding}
    (hearlier : ∀ n, earlier.lookup n =
      (before.find? (·.name.unescaped? = some n)).map (·.name))
    (h : checkOperators defined earlier ops = .ok findings) :
    findings.Perm ((repeatedAfter (·.name.unescaped?) before ops).map duplicateOperator ++
      operatorFindings defined ops) := by
  induction ops generalizing earlier before findings with
  | nil => exact .of_eq (Except.ok.inj h).symm
  | cons op ops ih =>
      rw [checkOperators] at h
      obtain ⟨name, hname, h⟩ := bind_eq_ok.mp h
      have hname := unescaped_eq_ok.mp hname
      have hlookup := hearlier name
      rw [repeatedAfter_cons, List.map_append, hname]
      cases hfirst : before.find? (·.name.unescaped? = some name) with
      | some first =>
          rw [hfirst, Option.map_some] at hlookup
          simp only [hlookup] at h
          rw [Option.map_some, Option.toList_some, List.map_singleton, duplicateOperator, hname]
          refine perm_operator (fun fs => ih _ fun n => ?_) h
          rw [hearlier, find?_append_of_isSome (by simp only [hname, hfirst, Option.isSome_some])]
      | none =>
          rw [hfirst, Option.map_none] at hlookup
          simp only [hlookup] at h
          refine perm_operator (fun fs => ih _ fun n => ?_) h
          rw [List.lookup_append, List.find?_append, hearlier, Option.map_or]
          by_cases hn : name = n
          · simp [hname, hn]
          · have hne : (n == name) = false := beq_false_of_ne (Ne.symm hn)
            simp [hname, hn, List.lookup_cons, hne]

theorem perm_checkTable {table : TableDef} {findings : List Finding}
    (h : checkTable defined table = .ok findings) :
    findings.Perm (table.findings ++
      (table.operators.flatMap (·.pattern.atoms)).filterMap (Atom.finding? defined)) := by
  rw [checkTable] at h
  rw [TableDef.findings]
  split at h
  case isTrue hempty =>
    rw [if_pos hempty, List.isEmpty_iff.mp hempty, ← Except.ok.inj h]
    exact .refl _
  case isFalse hne =>
    obtain ⟨fs, hfs, h⟩ := bind_eq_ok.mp h
    have hfound := List.perm_iff_count.mp (perm_checkOperators [] (fun _ => rfl) hfs)
    have hnone : (table.operators.any fun op => op.left.isNone && op.right.isNone) =
        !table.operators.all fun op => op.left.isSome || op.right.isSome := by
      simp [List.not_all_eq_any_not]
    rw [hnone] at h
    refine List.perm_iff_count.mpr fun f => ?_
    have hcount := hfound f
    rw [if_neg hne, repeated_eq]
    rw [operatorFindings] at hcount
    cases hall : table.operators.all fun op => op.left.isSome || op.right.isSome with
    | true =>
        simp only [hall, Bool.not_true, Bool.false_eq_true, if_false] at h
        rw [← Except.ok.inj h]
        simp only [if_true, List.count_append] at hcount ⊢
        omega
    | false =>
        simp only [hall, Bool.not_false, if_true] at h
        rw [← Except.ok.inj h]
        simp only [Bool.false_eq_true, if_false, List.append_nil, List.count_append] at hcount ⊢
        omega

theorem perm_checkBody {body : Body} {findings : List Finding}
    (h : checkBody defined body = .ok findings) :
    findings.Perm (body.table?.toList.flatMap TableDef.findings ++
      body.atoms.filterMap (Atom.finding? defined)) := by
  cases body with
  | choice c => exact .of_eq (checkChoice_eq c findings h)
  | table t =>
      rw [Body.table?, Option.toList_some, List.flatMap_singleton, Body.atoms]
      exact perm_checkTable h

theorem perm_checkBodies {rules : List RuleDef} {findings : List Finding}
    (h : checkBodies defined rules = .ok findings) :
    findings.Perm ((rules.filterMap (·.body.table?)).flatMap TableDef.findings ++
      (rules.flatMap (·.body.atoms)).filterMap (Atom.finding? defined)) := by
  induction rules generalizing findings with
  | nil => exact .of_eq (Except.ok.inj h).symm
  | cons rule rules ih =>
      obtain ⟨here, hhere, h⟩ := bind_eq_ok.mp h
      obtain ⟨there, hthere, h⟩ := bind_eq_ok.mp h
      have htables : (rule :: rules).filterMap (·.body.table?) =
          rule.body.table?.toList ++ rules.filterMap (·.body.table?) := by
        rw [List.filterMap_cons]
        cases rule.body.table? <;> rfl
      rw [← Except.ok.inj h, htables]
      refine List.perm_iff_count.mpr fun f => ?_
      have hfirst := (perm_checkBody hhere).count_eq f
      have hrest := (ih hthere).count_eq f
      simp only [List.flatMap_cons, List.flatMap_append, List.filterMap_append,
        List.count_append] at hfirst hrest ⊢
      omega

theorem perm_atoms (defined : List String) (atoms : List Atom) :
    (atoms.filterMap (Atom.finding? defined)).Perm
      (((atoms.filterMap Atom.reference?).filter (·.text ∉ defined)).map undefinedRule ++
        (atoms.filterMap Atom.regex?).filterMap Token.regexFinding?) := by
  induction atoms with
  | nil => exact .refl _
  | cons atom atoms ih =>
      simp only [List.filterMap_cons]
      cases atom with
      | regex t =>
          simp only [Atom.finding?, Atom.reference?, Atom.regex?, List.filterMap_cons]
          cases t.regexFinding? with
          | none => exact ih
          | some f => exact (ih.cons f).trans List.perm_middle.symm
      | literal t => exact ih
      | group choice => exact ih
      | rule t =>
          simp only [Atom.finding?, Atom.reference?, Atom.regex?, List.filter_cons]
          by_cases hmem : t.text ∈ defined
          · simpa [hmem] using ih
          · simpa [hmem] using ih

end Found

theorem perm_validate {g : Ast} {findings : List Finding} (h : validate g = .ok findings) :
    findings.Perm g.findings := by
  obtain ⟨inside, hinside, h⟩ := bind_eq_ok.mp h
  rw [← Except.ok.inj h]
  refine (Finding.perm_sort _).trans (List.perm_iff_count.mpr fun f => ?_)
  have hbodies := (perm_checkBodies hinside).count_eq f
  have hatoms := (perm_atoms g.defined g.atoms).count_eq f
  rw [checkNames_eq [] (fun _ => rfl), ← repeated_eq, Ast.findings]
  simp only [Ast.tables, Ast.references, Ast.regexes, Ast.defined, Ast.atoms,
    List.count_append] at hbodies hatoms ⊢
  omega

end Grammar

end OperatorPeg
