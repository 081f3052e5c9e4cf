import OperatorPeg.Proofs.Grammar.Compiled
import OperatorPeg.Proofs.Grammar.PrintingRules
import OperatorPeg.Proofs.Grammar.Rendering
import OperatorPeg.Proofs.Outline

/-!
# Grammars printed and compiled again

A compiled grammar as text compiles to rules that match the same, fail the same and make
trees of the same outlines. Which children the sequences in these trees have may change,
once: a term in parentheses is kept whatever it is, and the text of the rules has no
parentheses where none are needed.
-/

namespace OperatorPeg.Grammar

/-- **Printing and compiling again keeps what a grammar matches.** The parses of the new rules
have the same errors, and trees with the same outlines. They have the same trees if the steps
that sequences keep are the ones that their text says. After one round this is so. -/
theorem display_parses_alike {text : String} {g : Grammar} (h : compile text = .ok g) :
    ∃ g', compile g.rules.display = .ok g' ∧
      (∀ limits name source first last,
        (parseRange g'.rules limits (.rule name) source first last).map Report.outline
          = (parseRange g.rules limits (.rule name) source first last).map Report.outline) ∧
      (g.rules.rekeep = g.rules → ∀ limits start source first last,
        parseRange g'.rules limits start source first last
          = parseRange g.rules limits start source first last) ∧
      ∃ findings, compile g'.rules.display = .ok ⟨g'.rules, findings⟩ := by
  obtain ⟨findings, hcompile⟩ := compile_display (printable_of_compile h)
  obtain ⟨findings', hagain⟩ := compile_display (printable_of_compile hcompile)
  refine ⟨_, hcompile, fun limits name => parseRange_outline g.rules limits name, ?_, ?_⟩
  · intro hkept limits start source first last
    show parseRange g.rules.rekeep limits start source first last = _
    rw [hkept]
  · rw [Rules.rekeep_rekeep] at hagain
    exact ⟨findings', hagain⟩

/-! ## A term in parentheses -/

private def groupedText : String := "a -> ('x') y\ny -> 'b'\n"

private def groupedAst : Ast :=
  ⟨[⟨⟨"a", ⟨0, 1⟩⟩, .choice ⟨[⟨[
        ⟨none, none, .group ⟨[⟨[⟨none, none, .literal ⟨"'x'", ⟨6, 9⟩⟩, none⟩]⟩]⟩, none⟩,
        ⟨none, none, .rule ⟨"y", ⟨11, 12⟩⟩, none⟩]⟩]⟩⟩,
    ⟨⟨"y", ⟨13, 14⟩⟩, .choice ⟨[⟨[⟨none, none, .literal ⟨"'b'", ⟨18, 21⟩⟩, none⟩]⟩]⟩⟩]⟩

private def groupedParts : List (List Char × Piece) :=
  [[], [' '], [' '], [], [], [' '], ['\n'], [' '], [' ']].zip
    (groupedAst.rules.flatMap (RuleDef.pieces false))

/-- The literal in parentheses is kept. -/
private def groupedRules : Rules :=
  ⟨[("a", .sequence [.kept (.ofLiteral "x"), .kept (.lookup "y")]), ("y", .ofLiteral "b")]⟩

private theorem grouped_layout : IsLayout groupedParts ['\n'] groupedText.toList where
  text := by decide
  blank := by
    have hgaps : ∀ gap ∈ ['\n'] :: groupedParts.map (·.1),
        gap = [] ∨ gap = [' '] ∨ gap = ['\n'] := by decide
    intro gap hgap
    rcases hgaps gap hgap with rfl | rfl | rfl
    · exact .nil
    · exact .space (by decide) .nil
    · exact .space (by decide) .nil
  apart := by decide
  placed := by decide

private theorem compile_grouped :
    ∃ findings, compile groupedText = .ok ⟨groupedRules, findings⟩ := by
  have hfull : groupedAst.IsFull := by
    refine ⟨nofun, ?_⟩
    simp [groupedAst, Body.IsFull, Choice.IsFull, SequencesFull, TermsFull, Term.IsFull,
      Atom.IsFull]
  obtain ⟨tree, rules, htree, hread, hsame⟩ :=
    grouped_layout.parseTree hfull (.cons false (.cons false .nil)) (by decide +kernel)
  -- without a table the rules read are the rules written
  obtain rfl : rules = groupedAst.rules := by
    rcases hsame with _ | ⟨⟨_, rfl⟩, _ | ⟨⟨_, rfl⟩, _ | _⟩⟩
    rfl
  have hvalid : Passes (validate groupedAst) := by
    rw [passes_validate]
    refine ⟨by decide, ?_⟩
    simp only [groupedAst, List.forall_mem_cons]
    exact ⟨.of_none rfl, .of_none rfl, List.forall_mem_nil _⟩
  have hlower : lower groupedAst = .ok groupedRules := by
    have hx : quotedText ⟨"'x'", ⟨6, 9⟩⟩ = .ok "x" := by decide +kernel
    have hb : quotedText ⟨"'b'", ⟨18, 21⟩⟩ = .ok "b" := by decide +kernel
    simp only [lower, groupedAst, List.mapM_cons, List.mapM_nil, lowerBody, lowerChoice,
      lowerAlternatives, lowerSequence, lowerSteps, lowerTerm, lowerAtom, hx, hb]
    rfl
  obtain ⟨findings, hcompiled⟩ := ofAst_ok.mpr ⟨hvalid, hlower⟩
  exact ⟨findings, (compile_of_readAst (readAst_of_parseTree htree hread)).trans hcompiled⟩

/-- The grammar with parentheses, and the one that is compiled from its text, whose steps are kept
as that says. -/
theorem display_parses_alike_sample :
    ∃ g : Grammar, compile groupedText = .ok g ∧ ∃ g', compile g.rules.display = .ok g' ∧
      (∀ limits name source first last,
        (parseRange g'.rules limits (.rule name) source first last).map Report.outline
          = (parseRange g.rules limits (.rule name) source first last).map Report.outline) ∧
      g'.rules.rekeep = g'.rules ∧ ∃ g'', compile g'.rules.display = .ok g'' ∧
        ∀ limits start source first last,
          parseRange g''.rules limits start source first last
            = parseRange g'.rules limits start source first last := by
  obtain ⟨findings, h⟩ := compile_grouped
  obtain ⟨g', hcompile, hparses, -, -⟩ := display_parses_alike h
  obtain ⟨findings', hdisplay⟩ := compile_display (printable_of_compile h)
  obtain rfl : g' = ⟨groupedRules.rekeep, findings'⟩ :=
    Except.ok.inj (hcompile.symm.trans hdisplay)
  have hkept : groupedRules.rekeep.rekeep = groupedRules.rekeep := Rules.rekeep_rekeep _
  obtain ⟨g'', hcompile', -, hsame, -⟩ := display_parses_alike hcompile
  exact ⟨⟨groupedRules, findings⟩, h, _, hcompile, hparses, hkept, g'', hcompile', hsame hkept⟩

/-- The texts in a tree, if there is one. -/
private def valuesOf (result : Option (Except ParseError Tree)) : Option (List String) :=
  result.bind fun result => result.toOption.map Tree.values

/-- A literal in parentheses leaves a child in the tree, which is lost when the grammar is
printed and compiled again. -/
theorem display_drops_grouped_literal :
    ∃ text source : String, ∃ g g' : Grammar, compile text = .ok g ∧
      compile g.rules.display = .ok g' ∧
      (parse g'.rules .unlimited (.rule "a") source).map Report.result
        ≠ (parse g.rules .unlimited (.rule "a") source).map Report.result := by
  obtain ⟨findings, h⟩ := compile_grouped
  obtain ⟨findings', hdisplay⟩ := compile_display (printable_of_compile h)
  refine ⟨groupedText, "xb", _, _, h, hdisplay, fun hsame => ?_⟩
  have hkept : valuesOf ((parse groupedRules .unlimited (.rule "a") "xb").map Report.result)
      = some ["x", "b"] := by decide +kernel
  have hlost : valuesOf ((parse groupedRules.rekeep .unlimited (.rule "a") "xb").map Report.result)
      = some ["b"] := by decide +kernel
  exact absurd (hlost.symm.trans ((congrArg valuesOf hsame).trans hkept)) (by decide)

end OperatorPeg.Grammar
