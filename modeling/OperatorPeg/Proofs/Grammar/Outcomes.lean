import OperatorPeg.Proofs.Grammar.Lowering
import OperatorPeg.Proofs.Grammar.SelfHosting
import OperatorPeg.Proofs.Grammar.Termination

/-!
# The outcomes of compiling

Compiling a text goes wrong in two ways only: the text is not in the grammar language,
or the checks find errors. Of the other ways that the types allow none is taken, since
the base rules, the reader, the checks and the lowering agree on what a grammar is.
-/

namespace OperatorPeg.Grammar

open Diagnostics

/-- The ways to compile a text: the text has no tree, or the grammar that is read off its tree
has errors, or it is lowered and keeps the precedences that it declares. -/
inductive CompilesTo (language : Rules) (text : String) : Except CompileError Grammar → Prop
  | notParsed {cause : ParseError} :
      parseTree language text = .error (.notParsed cause) →
      CompilesTo language text (.error (.notParsed cause))
  | invalid {tree : Tree} {ast : Ast} {findings : List Finding} :
      parseTree language text = .ok tree → Ast.ofTree tree = .ok ast →
      validate ast = .ok findings → Finding.hasErrors findings = true →
      CompilesTo language text (.error (.invalid findings))
  | compiled {tree : Tree} {ast : Ast} {findings : List Finding} {rules : Rules} :
      parseTree language text = .ok tree → Ast.ofTree tree = .ok ast →
      validate ast = .ok findings → Finding.hasErrors findings = false →
      lower ast = .ok rules → ast.Keeps rules →
      CompilesTo language text (.ok ⟨rules, findings⟩)

/-- The grammar can be checked, and unless it has errors it can be lowered, which keeps the
precedences that it declares. -/
def Ast.IsAccountedFor (ast : Ast) : Prop :=
  ∃ findings, validate ast = .ok findings ∧
    (Finding.hasErrors findings = false → ∃ rules, lower ast = .ok rules ∧ ast.Keeps rules)

theorem Ast.IsSound.isAccountedFor {ast : Ast} (h : ast.IsSound) : ast.IsAccountedFor := by
  obtain ⟨⟨findings, hchecked, -⟩, hlowered⟩ := vets_ast h
  exact ⟨findings, hchecked, fun hnone => hlowered ⟨findings, hchecked, hnone⟩⟩

/-- The tree of a text is read, and the grammar that is read is accounted for. -/
theorem isAccountedFor_of_parseTree {text : String} {tree : Tree}
    (h : parseTree base text = .ok tree) : Gives (Ast.ofTree tree) Ast.IsAccountedFor := by
  obtain ⟨_, hconforms⟩ := conforms_of_parseTree h
  obtain ⟨ast, hread, hsound, -⟩ := reads_tree hconforms
  exact ⟨ast, hread, hsound.sound.isAccountedFor⟩

theorem ofAst_of_validate {ast : Ast} {findings : List Finding}
    (h : validate ast = .ok findings) :
    ofAst ast = (do
      if Finding.hasErrors findings then throw (.invalid findings)
      let rules ← (lower ast).mapError LowerError.asCompileError
      pure ⟨rules, findings⟩) := by
  rw [ofAst, h]
  rfl

theorem compilesTo_of_parseTree {text : String} {tree : Tree} (h : parseTree base text = .ok tree) :
    CompilesTo base text (compileWith base text) := by
  obtain ⟨ast, hread, findings, hchecked, hlowered⟩ := isAccountedFor_of_parseTree h
  have hcompile : compileWith base text = ofAst ast := by
    rw [compileWith, readAst_of_parseTree h hread]
    rfl
  rw [hcompile, ofAst_of_validate hchecked]
  cases herrors : Finding.hasErrors findings with
  | true => exact .invalid h hread hchecked herrors
  | false =>
      obtain ⟨rules, hrules, hkeeps⟩ := hlowered herrors
      rw [hrules]
      exact .compiled h hread hchecked herrors hrules hkeeps

theorem compilesTo_base (text : String) : CompilesTo base text (compileWith base text) := by
  obtain ⟨result, hparse⟩ := parseTree_base text
  cases result with
  | error cause =>
      rw [compileWith, readAst, hparse]
      exact .notParsed hparse
  | ok tree => exact compilesTo_of_parseTree hparse

/-- **Compiling has three outcomes.** The base rules and those that the language compiles itself
to are the same. Every tree that they make of a text is read; what is read is checked, and
unless the checks find errors it is lowered to rules whose operators have the precedences that
were declared. So a text is compiled, is not in the language, or has errors. -/
theorem compiling_has_three_outcomes :
    ∃ language, baseLanguage = .ok language ∧ selfHostedLanguage = .ok language ∧
      ∀ text, CompilesTo language text (compileWith language text) ∧
        ∀ tree, parseTree language text = .ok tree →
          ∃ ast, Ast.ofTree tree = .ok ast ∧ ast.IsAccountedFor :=
  ⟨base, baseLanguage_eq, selfHostedLanguage_eq, fun text =>
    ⟨compilesTo_base text, fun _ htree => isAccountedFor_of_parseTree htree⟩⟩

end OperatorPeg.Grammar
