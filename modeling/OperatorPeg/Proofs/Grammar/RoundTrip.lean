import OperatorPeg.Proofs.Grammar.Compiled
import OperatorPeg.Proofs.Grammar.PrintingRules

/-!
# Printing and compiling

Rules that the grammar language can express are the same rules after they were
printed and compiled, but for the steps that the text does not tell apart. All
compiled rules are of this kind.
-/

namespace OperatorPeg.Grammar

/-- **Printed rules compile to themselves**, with steps kept as the language keeps them:
those that add nothing to a tree are skipped, unless that would skip a whole sequence.
What the compiler makes of any text can be printed. -/
theorem display_compile_roundTrip :
    (∀ rules : Rules, rules.Printable →
      ∃ findings, compile rules.display = .ok ⟨rules.rekeep, findings⟩) ∧
    ∀ (text : String) (g : Grammar), compile text = .ok g → g.rules.Printable :=
  ⟨fun _ h => compile_display h, fun _ _ h => printable_of_compile h⟩

/-- Rules with delimiters inside quotes, a table, and patterns inside one another. -/
private def sampleRules : Rules :=
  ⟨[("quote", .terminal (.regex "`+" (.rounds (.oneOf (.singleton '`')) 1 none true))),
    ("sum", .table [
      ⟨"it's", none, none, .lookup "item"⟩,
      ⟨"plus", some 2, some 2, .ofLiteral "+"⟩]),
    ("item", .choice [
      .sequence [
        .kept (.lookahead (.sequence [.kept (.ofLiteral "a"), .skipped (.ofLiteral "'")]) false),
        .kept (.label "all" (Pattern.choice [.lookup "quote", .lookup "sum"]).star)],
      .ofLiteral ""])]⟩

private theorem printable_sampleRules : sampleRules.Printable where
  nonempty := nofun
  nodup := by decide
  named := by decide
  patterns := by
    have hnames : sampleRules.names = ["quote", "sum", "item"] := rfl
    rw [hnames]
    simp only [sampleRules, List.forall_mem_cons]
    refine ⟨rfl, ⟨nofun, by decide, ?_⟩, ?_, nofun⟩
    · simp only [List.forall_mem_cons]
      exact ⟨⟨nofun, nofun, by decide, by decide⟩,
        ⟨by simp [PrecedenceFits, precedenceLimit], by simp [PrecedenceFits, precedenceLimit],
          trivial⟩, nofun⟩
    · refine ⟨by decide, ⟨by decide, ⟨by decide, trivial, trivial, trivial⟩, ?_, trivial⟩, trivial,
        trivial⟩
      exact ⟨by decide, by decide, ⟨rfl, by decide⟩, ⟨rfl, by decide⟩, trivial⟩

theorem display_compile_roundTrip_sample :
    sampleRules.Printable ∧
      (∃ findings, compile sampleRules.display = .ok ⟨sampleRules.rekeep, findings⟩) ∧
      ∃ text g, compile text = .ok g ∧ g.rules.Printable := by
  obtain ⟨findings, h⟩ := display_compile_roundTrip.1 sampleRules printable_sampleRules
  exact ⟨printable_sampleRules, ⟨findings, h⟩, _, _, h, display_compile_roundTrip.2 _ _ h⟩

end OperatorPeg.Grammar
