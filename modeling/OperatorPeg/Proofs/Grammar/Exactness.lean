import OperatorPeg.Proofs.Grammar.AnyLanguage
import OperatorPeg.Proofs.Grammar.Findings

/-!
# Exact checks

Checks that come to an end have found what there is to be found in a grammar, in order, and
the grammar is refused for its errors. They come to an end unless they take a broken token
out of its quotes, and then they find nothing at all.
-/

namespace OperatorPeg.Grammar

open Diagnostics

/-! ## The tokens that the checks take out of their quotes -/

section Checked

variable {t : Token}

theorem checked_notMem_faultOfNone {α : Type} (parts : List α) (cause : PatternError) :
    .checked t ∉ faultOfNone parts cause := by
  unfold faultOfNone
  split <;> simp

theorem checked_notMem_regexFaults (regex : Token) : .checked t ∉ regex.regexFaults := by
  unfold Token.regexFaults
  split <;> simp

mutual
theorem checked_mem_metOfAtom : ∀ atom : Atom, .checked t ∈ atom.met ↔ .regex t ∈ atom.atoms
  | .regex regex => by
      simp [Atom.met, Atom.atoms, checked_notMem_regexFaults]
  | .literal literal => by
      simp [Atom.met, Atom.atoms]
  | .group choice => by
      rw [Atom.met, Atom.atoms]
      exact checked_mem_metOfChoice choice
  | .rule reference => by
      simp [Atom.met, Atom.atoms]

theorem checked_mem_metInTerms : ∀ terms : List Term,
    .checked t ∈ metInTerms terms ↔ .regex t ∈ atomsInTerms terms
  | [] => by simp [metInTerms, atomsInTerms]
  | ⟨label, lead, atom, suffix⟩ :: terms => by
      have hlabel : Met.checked t ∉ label.toList.map Met.quoted := by simp
      rw [metInTerms, Term.met, atomsInTerms, List.mem_append, List.mem_append, List.mem_append,
        or_iff_left hlabel, checked_mem_metOfAtom atom, checked_mem_metInTerms terms]

theorem checked_mem_metInAlternatives : ∀ sequences : List Sequence,
    .checked t ∈ metInAlternatives sequences ↔ .regex t ∈ atomsInAlternatives sequences
  | [] => by simp [metInAlternatives, atomsInAlternatives]
  | ⟨terms⟩ :: rest => by
      rw [metInAlternatives, atomsInAlternatives, List.mem_append, List.mem_append, List.mem_append,
        or_iff_left (checked_notMem_faultOfNone _ _), checked_mem_metInTerms terms,
        checked_mem_metInAlternatives rest]

theorem checked_mem_metOfChoice : ∀ choice : Choice,
    .checked t ∈ choice.met ↔ .regex t ∈ choice.atoms
  | ⟨alternatives⟩ => by
      rw [Choice.met, Choice.atoms, List.mem_append, or_iff_left (checked_notMem_faultOfNone _ _)]
      exact checked_mem_metInAlternatives alternatives
end

theorem checked_mem_metOfBody (body : Body) :
    .checked t ∈ body.met ↔
      .regex t ∈ body.atoms ∨ ∃ table ∈ body.table?, ∃ op ∈ table.operators, op.name = t := by
  cases body with
  | choice c => simpa [Body.met, Body.atoms, Body.table?] using checked_mem_metOfChoice c
  | table table =>
      simp only [Body.met, Body.atoms, Body.table?, OperatorDef.met, List.mem_append,
        checked_notMem_faultOfNone, or_false, List.mem_flatMap, List.mem_cons,
        Met.checked.injEq, checked_mem_metOfChoice, Option.mem_def, Option.some.injEq,
        exists_eq_left']
      grind

/-- The checks take regexes and names of operators out of their quotes, and no other tokens. -/
theorem checked_mem_met (g : Ast) : .checked t ∈ g.met ↔ t ∈ g.regexes ++ g.operatorNames := by
  have hregex : t ∈ g.regexes ↔ .regex t ∈ g.atoms := by
    rw [Ast.regexes, List.mem_filterMap]
    constructor
    · rintro ⟨atom, hatom, h⟩
      cases atom with
      | regex t' => exact Option.some.inj h ▸ hatom
      | literal | group | rule => cases h
    · exact fun h => ⟨_, h, rfl⟩
  simp only [List.mem_append, hregex, Ast.met, Ast.atoms, Ast.operatorNames, Ast.tables,
    List.mem_flatMap, List.mem_filterMap, List.mem_map, checked_mem_metOfBody, Option.mem_def]
  grind

end Checked

/-! ## Exactness -/

/-- A regex gives a finding if the reader rejects it or the engine does. -/
theorem isSome_regexFinding? {t : Token} {source : String} (h : t.unescaped = .ok source) :
    t.regexFinding?.isSome = true ↔ (∃ e, Regex.Ast.read source.toList = .error e) ∨
      ∃ e, Pattern.ofRegex? source = .error e := by
  rw [Token.regexFinding?, unescaped_eq_ok.mp h, Option.bind_some, Option.isSome_or,
    Option.isSome_map, Option.isSome_map, Bool.or_eq_true, Pattern.ofRegex?]
  refine or_congr ?_ ?_
  · cases Regex.Ast.read source.toList <;> simp [error?]
  · cases Regex.build source.toList <;> simp [error?]

/-- The kinds of findings about regexes. -/
def regexKinds : List Kind :=
  [.regexSyntaxError, .regexLookaround, .regexBackreference, .regexCompile]

theorem kind_regexFinding? {t : Token} {f : Finding} (h : f ∈ t.regexFinding?) :
    f.kind ∈ regexKinds := by
  obtain ⟨source, -, h⟩ := Option.bind_eq_some_iff.mp h
  rcases Option.or_eq_some_iff.mp h with h | ⟨-, h⟩
  · obtain ⟨e, -, rfl⟩ := Option.map_eq_some_iff.mp h
    unfold regexFinding
    simp only
    split <;> simp [Finding.make, regexKinds]
  · obtain ⟨e, -, rfl⟩ := Option.map_eq_some_iff.mp h
    simp [Finding.make, regexKinds]

/-- The findings are those that the parts of the grammar give, in order. A regex gives one if
it is rejected by the reader or by the engine. A grammar is refused for any finding but a table
without operands. -/
structure Ast.FoundExactly (g : Ast) (findings : List Finding) : Prop where
  exact : findings.Perm g.findings
  ordered : findings.Pairwise fun f f' => f.key ≤ f'.key
  regexes : ∀ t ∈ g.regexes, (∀ f ∈ t.regexFinding?, f.kind ∈ regexKinds) ∧
    ∃ source, t.unescaped = .ok source ∧
      (t.regexFinding?.isSome = true ↔ (∃ e, Regex.Ast.read source.toList = .error e) ∨
        ∃ e, Pattern.ofRegex? source = .error e)
  refused : ofAst g = .error (.invalid findings) ↔ ∃ f ∈ findings, f.kind ≠ .noNullaryOperator
  compiled : ∀ text, readAst base text = .ok g →
    ((∃ e, compile text = .error e) ↔ ∃ f ∈ findings, f.kind ≠ .noNullaryOperator)

theorem ofAst_refused_iff {g : Ast} {findings : List Finding} (h : validate g = .ok findings) :
    ofAst g = .error (.invalid findings) ↔ Finding.hasErrors findings = true := by
  rw [ofAst_of_validate h]
  cases Finding.hasErrors findings with
  | true => exact iff_of_true rfl rfl
  | false =>
      refine iff_of_false (fun hrefused => ?_) Bool.false_ne_true
      simp only [Bool.false_eq_true, if_false] at hrefused
      cases hlower : lower g with
      | ok rules =>
          rw [hlower] at hrefused
          cases hrefused
      | error e =>
          rw [hlower] at hrefused
          cases e <;> cases hrefused

/-- A text of the grammar language is refused for its errors only. -/
theorem compile_refused_iff {g : Ast} {text : String} {findings : List Finding}
    (hread : readAst base text = .ok g) (h : validate g = .ok findings) :
    (∃ e, compile text = .error e) ↔ Finding.hasErrors findings = true := by
  have hcompile := compile_of_readAst hread
  have hsame : ∀ {tree ast found}, parseTree base text = .ok tree → Ast.ofTree tree = .ok ast →
      validate ast = .ok found → found = findings := by
    intro tree ast found htree hast hfound
    cases hread.symm.trans (readAst_of_parseTree htree hast)
    exact Except.ok.inj (hfound.symm.trans h)
  have hways := compilesTo_base text
  rw [← compile_eq, hcompile] at hways
  rw [hcompile]
  generalize ofAst g = outcome at hways
  cases hways with
  | notParsed hparse =>
      rw [readAst, hparse] at hread
      cases hread
  | invalid htree hast hfound herrors =>
      exact iff_of_true ⟨_, rfl⟩ (hsame htree hast hfound ▸ herrors)
  | compiled htree hast hfound herrors =>
      refine iff_of_false ?_ ?_
      · rintro ⟨_, ⟨⟩⟩
      · rw [← hsame htree hast hfound, herrors]
        exact Bool.false_ne_true

/-- **The checks are exact.** They come to an end with the findings that the parts of a grammar
give, and no others, just if no regex and no name of an operator is broken. -/
theorem checks_are_exact (g : Ast) :
    (∀ t ∈ g.regexes ++ g.operatorNames, t.isBroken = false) ↔
      ∃ findings, validate g = .ok findings ∧ g.FoundExactly findings := by
  have hwhole : (∀ t ∈ g.regexes ++ g.operatorNames, t.isBroken = false) ↔
      error? (validate g) = none := by
    rw [error?_validate, refused?_eq_none]
    simp only [checked_mem_met]
  constructor
  · intro h
    cases hvalidate : validate g with
    | error u =>
        rw [hwhole, hvalidate] at h
        cases h
    | ok findings =>
        obtain ⟨inside, -, hsorted⟩ := bind_eq_ok.mp hvalidate
        refine ⟨findings, rfl, perm_validate hvalidate, ?_, fun t ht => ?_, ?_,
          fun text htext => ?_⟩
        · exact Except.ok.inj hsorted ▸ Finding.pairwise_sort _
        · have hquotes : error? t.unescaped = none := by
            rw [error?_unescaped]
            exact broken?_eq_none.mpr (h t (List.mem_append_left _ ht))
          cases hsource : t.unescaped with
          | error u =>
              rw [hsource] at hquotes
              cases hquotes
          | ok source =>
              exact ⟨fun f => kind_regexFinding?, source, rfl, isSome_regexFinding? hsource⟩
        · rw [ofAst_refused_iff hvalidate, Finding.hasErrors_iff]
        · rw [compile_refused_iff htext hvalidate, Finding.hasErrors_iff]
  · rintro ⟨findings, h, -⟩
    rw [hwhole, h]
    rfl

/-- Where regexes stand between guillemets, the checks of a grammar with a regex find nothing: they
do not come to an end. -/
theorem guillemets_are_not_checked :
    ∃ text, ∃ language : Grammar, ∃ g, compile text = .ok language ∧
      readAst language.rules "a -> «x»\n" = .ok g ∧
      validate g = .error ⟨⟨"«x»", ⟨5, 10⟩⟩⟩ ∧
      ¬ ∃ findings, validate g = .ok findings ∧ g.FoundExactly findings := by
  obtain ⟨found, hcompile⟩ := compile_guillemets
  obtain ⟨g, hread, hrefused⟩ := readAst_guillemets
  have hbroken : validate g = .error ⟨guillemetToken⟩ := by
    rw [← error?_validate] at hrefused
    exact error?_eq_some.mp hrefused
  refine ⟨_, _, g, hcompile, hread, hbroken, ?_⟩
  rintro ⟨findings, h, -⟩
  rw [hbroken] at h
  cases h

end OperatorPeg.Grammar
