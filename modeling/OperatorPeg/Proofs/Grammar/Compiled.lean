import OperatorPeg.Proofs.Grammar.Printable
import OperatorPeg.Proofs.Grammar.Reading

/-!
# Compiled rules

Whatever the compiler makes of a text, the grammar language can express: what has
passed the checks and could be lowered is printable.
-/

namespace OperatorPeg.Grammar

variable {defined : List String}

/-! ## Patterns -/

theorem printable_regex {t : Token} {p : Pattern} (h : lowerAtom (.regex t) = .ok p) :
    p.Printable defined := by
  rw [lowerAtom, bind_eq_ok] at h
  obtain ⟨source, -, h⟩ := h
  have hpattern := mapError_eq_ok.mp h
  unfold Pattern.ofRegex? at hpattern
  split at hpattern
  · next hbuild =>
      cases hpattern
      exact hbuild
  · cases hpattern

theorem printable_suffix {p : Pattern} (h : p.Printable defined) (s : Option Suffix) :
    (Suffix.apply s p).Printable defined := by
  cases s with
  | none => exact h
  | some s => cases s <;> exact ⟨by decide, h⟩

theorem printable_lead {p : Pattern} (h : p.Printable defined) (l : Option Prefix) :
    (Prefix.apply l p).Printable defined := by
  cases l with
  | none => exact h
  | some l => cases l <;> exact h

/-- Steps that keep one make a sequence, of one step or more. -/
theorem printable_of_steps {steps : List Step} {p : Pattern}
    (hsteps : Pattern.PrintableSteps defined steps) (hlength : steps.length ≠ 1)
    (h : checkedPattern (Pattern.sequence? steps) = .ok p) : p.Printable defined := by
  have hsequence := mapError_eq_ok.mp h
  unfold Pattern.sequence? at hsequence
  split at hsequence
  · next hkeeps =>
      cases hsequence
      have hne : steps ≠ [] := by
        rintro rfl
        cases hkeeps
      have hpos := List.length_pos_iff.mpr hne
      exact ⟨by omega, hsteps⟩
  · cases hsequence

/-- Several alternatives make a choice; a single one is the pattern itself. -/
theorem printable_of_alternatives {ps : List Pattern} {p : Pattern}
    (hps : Pattern.PrintableAll defined ps)
    (h : (match ps with
      | [single] => Except.ok single
      | several => checkedPattern (Pattern.choice? several)) = .ok p) : p.Printable defined := by
  match ps with
  | [] => cases h
  | [single] =>
      cases h
      exact hps.1
  | first :: second :: rest =>
      cases h
      exact ⟨by simp, hps⟩

theorem precedenceFits_precedenceOf (t : Option Token) : PrecedenceFits (precedenceOf t) := by
  intro value hvalue
  obtain ⟨token, -, hvalue⟩ := Option.bind_eq_some_iff.mp hvalue
  have hdigits : ∀ digits : List Char,
      (if digits.isEmpty || !digits.all Char.isDigit then none
        else
          let value := digits.foldl (fun n c => n * 10 + (c.toNat - '0'.toNat)) 0
          if value < precedenceLimit then some value else none) = some value →
      value < precedenceLimit := by
    intro digits h
    split at h
    · cases h
    · simp only at h
      split at h
      · next hlt =>
          cases h
          exact hlt
      · cases h
  exact hdigits _ hvalue

theorem printableAsRule_of_printable {p : Pattern} (h : p.Printable defined) :
    p.PrintableAsRule defined := by
  cases p with
  | table ops => cases h
  | _ => exact h

section Named

variable (hnamed : ∀ key ∈ defined, isName key.toList = true)

include hnamed

theorem printable_rule {t : Token} (h : Passes (checkAtom defined (.rule t))) :
    (Pattern.lookup t.text).Printable defined := by
  rw [checkAtom] at h
  split at h
  · next hmem =>
      have hkey := List.contains_iff_mem.mp hmem
      exact ⟨hnamed _ hkey, hkey⟩
  · obtain ⟨_, hfindings, herrors⟩ := h
    cases hfindings
    cases herrors

-- the linter does not see that the theorems below use `hnamed` through one another
set_option linter.unusedSectionVars false in
mutual
theorem printable_atom :
    ∀ {atom : Atom} {p : Pattern}, Passes (checkAtom defined atom) → lowerAtom atom = .ok p →
      p.Printable defined
  | .regex _, _, _, h => printable_regex h
  | .literal t, p, _, h => by
      rw [lowerAtom, bind_eq_ok] at h
      obtain ⟨text, -, h⟩ := h
      cases h
      trivial
  | .rule t, p, hpasses, h => by
      rw [lowerAtom] at h
      cases h
      exact printable_rule hnamed hpasses
  | .group choice, p, hpasses, h => by
      rw [lowerAtom] at h
      rw [checkAtom] at hpasses
      exact printable_choice hpasses h

theorem printable_term :
    ∀ (term : Term) {p : Pattern}, Passes (checkAtom defined term.atom) → lowerTerm term = .ok p →
      p.Printable defined
  | ⟨label, lead, atom, suffix⟩, p, hpasses, h => by
      rw [lowerTerm, bind_eq_ok] at h
      obtain ⟨q, hatom, h⟩ := h
      have hq := printable_lead (printable_suffix (printable_atom hpasses hatom) suffix) lead
      cases label with
      | none =>
          cases h
          exact hq
      | some t =>
          obtain ⟨name, -, h⟩ := bind_eq_ok.mp h
          cases h
          exact hq

theorem printable_steps :
    ∀ {terms : List Term} {keepAll : Bool} {steps : List Step}, Passes (checkTerms defined terms) →
      lowerSteps keepAll terms = .ok steps →
      Pattern.PrintableSteps defined steps ∧ steps.length = terms.length
  | [], _, _, _, h => by
      rw [lowerSteps] at h
      cases h
      exact ⟨trivial, rfl⟩
  | ⟨label, lead, atom, suffix⟩ :: terms, keepAll, steps, hpasses, h => by
      rw [checkTerms, passes_append] at hpasses
      rw [lowerSteps, bind_eq_ok] at h
      obtain ⟨p, hterm, h⟩ := h
      obtain ⟨rest, hrest, h⟩ := bind_eq_ok.mp h
      cases h
      have hp := printable_term ⟨label, lead, atom, suffix⟩ hpasses.1 hterm
      obtain ⟨hsteps, hlength⟩ := printable_steps hpasses.2 hrest
      exact ⟨⟨hp, hsteps⟩, by rw [List.length_cons, List.length_cons, hlength]⟩

theorem printable_sequence :
    ∀ {terms : List Term} {p : Pattern}, Passes (checkTerms defined terms) →
      lowerSequence terms = .ok p → p.Printable defined
  | [], _, _, h => by
      -- without terms there is no sequence
      rw [lowerSequence, lowerSteps] at h
      · cases h
      · nofun
  | [⟨label, lead, atom, suffix⟩], _, hpasses, h => by
      rw [checkTerms, passes_append] at hpasses
      rw [lowerSequence] at h
      exact printable_term ⟨label, lead, atom, suffix⟩ hpasses.1 h
  | term :: next :: terms, _, hpasses, h => by
      rw [lowerSequence, bind_eq_ok] at h
      · obtain ⟨steps, hlower, h⟩ := h
        obtain ⟨hsteps, hlength⟩ := printable_steps hpasses hlower
        exact printable_of_steps hsteps (by simp [hlength]) h
      · nofun

theorem printable_alternatives :
    ∀ {sequences : List Sequence} {ps : List Pattern},
      Passes (checkAlternatives defined sequences) → lowerAlternatives sequences = .ok ps →
      Pattern.PrintableAll defined ps
  | [], _, _, h => by
      rw [lowerAlternatives] at h
      cases h
      trivial
  | ⟨terms⟩ :: rest, _, hpasses, h => by
      rw [checkAlternatives, passes_append] at hpasses
      rw [lowerAlternatives, bind_eq_ok] at h
      obtain ⟨p, hsequence, h⟩ := h
      obtain ⟨ps, hrest, h⟩ := bind_eq_ok.mp h
      cases h
      exact ⟨printable_sequence hpasses.1 hsequence, printable_alternatives hpasses.2 hrest⟩

theorem printable_choice :
    ∀ {choice : Choice} {p : Pattern}, Passes (checkChoice defined choice) →
      lowerChoice choice = .ok p → p.Printable defined
  | ⟨sequences⟩, p, hpasses, h => by
      rw [checkChoice] at hpasses
      rw [lowerChoice, bind_eq_ok] at h
      obtain ⟨ps, halternatives, h⟩ := h
      exact printable_of_alternatives (printable_alternatives hpasses halternatives) h
end

/-! ## Rules -/

theorem printable_operators {rows : List OperatorDef} {names : List String} {ops : List Operator}
    (hrows : List.Forall₂ (OperatorDef.Passes defined) rows names)
    (h : rows.mapM lowerOperator = .ok ops) :
    ops.map (·.name) = names ∧ ∀ op ∈ ops, op.Printable defined := by
  induction hrows generalizing ops with
  | nil =>
      cases h
      exact ⟨rfl, nofun⟩
  | @cons row name rows names hrow _ ih =>
      rw [List.mapM_cons, bind_eq_ok] at h
      obtain ⟨op, hop, h⟩ := h
      obtain ⟨rest, hrest, h⟩ := bind_eq_ok.mp h
      cases h
      obtain ⟨hnames, hprintable⟩ := ih hrest
      rw [lowerOperator, bind_eq_ok] at hop
      obtain ⟨name', hname, hop⟩ := hop
      obtain ⟨p, hpattern, hop⟩ := bind_eq_ok.mp hop
      cases hop
      have hsame : name' = name :=
        Except.ok.inj ((mapError_eq_ok.mp hname).symm.trans hrow.name)
      refine ⟨by rw [List.map_cons, hnames, hsame], List.forall_mem_cons.mpr ⟨?_, hprintable⟩⟩
      exact ⟨precedenceFits_precedenceOf _, precedenceFits_precedenceOf _,
        printable_choice hnamed hrow.pattern hpattern⟩

theorem printable_body {body : Body} {p : Pattern} (hpasses : Passes (checkBody defined body))
    (h : lowerBody body = .ok p) : p.PrintableAsRule defined := by
  cases body with
  | choice choice => exact printableAsRule_of_printable (printable_choice hnamed hpasses h)
  | table table =>
      obtain ⟨hne, hoperators⟩ := passes_checkTable.mp hpasses
      obtain ⟨names, hrows, hnodup, -⟩ := passes_checkOperators.mp hoperators
      rw [lowerBody, bind_eq_ok] at h
      obtain ⟨ops, hops, h⟩ := h
      obtain ⟨hnames, hprintable⟩ := printable_operators hnamed hrows hops
      have htable := mapError_eq_ok.mp h
      unfold Pattern.table? at htable
      split at htable
      · cases htable
      · next hsome =>
          cases htable
          rw [List.isEmpty_iff] at hsome
          exact ⟨hsome, by rw [hnames]; exact hnodup, hprintable⟩

end Named

/-- Each rule makes one entry. -/
theorem lower_entries {rules : List RuleDef} {entries : List (String × Pattern)}
    (h : (rules.mapM fun rule => do
      let p ← lowerBody rule.body
      pure (rule.name.text, p)) = Except.ok entries) :
    entries.map (·.1) = rules.map (·.name.text) ∧
      ∀ entry ∈ entries, ∃ rule ∈ rules, lowerBody rule.body = .ok entry.2 := by
  have hlowered := forall₂_of_mapM h
  clear h
  induction hlowered with
  | nil => exact ⟨rfl, nofun⟩
  | @cons rule entry rules entries hentry _ ih =>
      obtain ⟨p, hp, hentry⟩ := bind_eq_ok.mp hentry
      cases hentry
      obtain ⟨hnames, hbodies⟩ := ih
      refine ⟨by rw [List.map_cons, List.map_cons, hnames], List.forall_mem_cons.mpr ⟨?_, ?_⟩⟩
      · exact ⟨rule, List.mem_cons_self, hp⟩
      · intro entry hmem
        obtain ⟨rule', hmem', hp'⟩ := hbodies entry hmem
        exact ⟨rule', List.mem_cons_of_mem _ hmem', hp'⟩

/-- What is sound, passes the checks and can be lowered is printable. -/
theorem printable_of_lower {ast : Ast} {rules : Rules} (hsound : ast.IsSound)
    (hpasses : Passes (validate ast)) (h : lower ast = .ok rules) : rules.Printable := by
  obtain ⟨hnodup, hbodies⟩ := passes_validate.mp hpasses
  rw [lower, bind_eq_ok] at h
  obtain ⟨entries, hentries, h⟩ := h
  obtain ⟨hnames, hlowered⟩ := lower_entries hentries
  rw [← hnames] at hnodup hbodies
  rw [Rules.ofList_of_nodup hnodup] at h
  cases h
  have hdefined : ∀ key ∈ entries.map (·.1), isName key.toList = true := by
    rw [hnames]
    intro key hmem
    obtain ⟨rule, hrule, rfl⟩ := List.mem_map.mp hmem
    exact (hsound.each rule hrule).name
  refine ⟨?_, hnodup, hdefined, fun entry hmem => ?_⟩
  · rintro rfl
    exact hsound.rules (List.map_eq_nil_iff.mp hnames.symm)
  · obtain ⟨rule, hrule, hp⟩ := hlowered entry hmem
    exact printable_body hdefined (hbodies rule hrule) hp

/-! ## Texts -/

/-- **Whatever compiles is printable.** -/
theorem printable_of_compile {text : String} {g : Grammar} (h : compile text = .ok g) :
    g.rules.Printable := by
  rw [compile_eq] at h
  obtain ⟨ast, hast, hgrammar⟩ := bind_eq_ok.mp h
  obtain ⟨tree, htree, hread⟩ := bind_eq_ok.mp hast
  obtain ⟨hpasses, hlower⟩ := ofAst_ok.mp ⟨g.findings, hgrammar⟩
  have hsound := isSound_of_parseTree htree (mapError_eq_ok.mp hread)
  exact printable_of_lower hsound hpasses hlower

end OperatorPeg.Grammar
