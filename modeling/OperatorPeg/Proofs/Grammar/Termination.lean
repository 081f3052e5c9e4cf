import OperatorPeg.Proofs.Grammar.ParsingRules
import OperatorPeg.Proofs.ParseRuns
import OperatorPeg.Proofs.Termination

/-!
# Parsing a grammar comes to an end

The base rules refer to themselves in one place only: a group is a choice in
parentheses. So each group costs a fixed number of layers and stands behind a character
of its own, and the layers that a parse may have are enough for every text.
-/

namespace OperatorPeg.Grammar

section Base

variable {setting : Setting} (hrules : setting.rules = base)

include hrules

theorem skipsWithin_base : SkipsWithin setting 1 := by
  refine skipsWithin_of_terminal fun p hp => ?_
  rw [hrules] at hp
  exact ⟨Base.trivia, (Option.some.inj hp).symm⟩

theorem answers_base_literal {layers : Nat} (hle : 2 ≤ layers) (length : Nat) (text : String) :
    Answers setting layers length (.ofLiteral text) :=
  (answers_terminal (skipsWithin_base hrules) (Nat.le_refl 1) _).mono hle (Nat.le_refl length)

/-- A rule that is a terminal. -/
theorem answers_base_token {key : String} {t : Terminal} (hget : base.get? key = some (.terminal t))
    {layers : Nat} (hle : 3 ≤ layers) (length : Nat) :
    Answers setting layers length (.lookup key) := by
  have hskip := skipsWithin_base hrules
  exact (answers_lookup hskip (by decide) (hrules ▸ hget)
    (answers_terminal hskip (Nat.le_refl 1) t)).mono hle (Nat.le_refl length)

/-- A choice of literals. -/
theorem answers_base_sign (texts : List String) (length : Nat) :
    Answers setting 4 length (Pattern.choice (texts.map .ofLiteral)).optional := by
  have hskip := skipsWithin_base hrules
  refine answers_quantifier hskip (by decide) (answers_choice hskip (by decide) ?_) 0 (some 1)
  intro p hp
  obtain ⟨text, -, rfl⟩ := List.mem_map.mp hp
  exact answers_base_literal hrules (Nat.le_refl 2) length text

/-- A term needs as many layers as a group in it, and a few more. -/
theorem answers_base_term {layers length : Nat} (hle : 3 ≤ layers)
    (hgroup : Answers setting layers length Base.group) :
    Answers setting (layers + 4) length Base.term := by
  have hskip := skipsWithin_base hrules
  have hatom : Answers setting (layers + 2) length (.lookup "atom") := by
    refine answers_lookup hskip (by omega) (by rw [hrules]; rfl)
      (answers_choice hskip (by omega) ?_)
    simp only [List.forall_mem_cons]
    exact ⟨answers_base_token hrules rfl hle length, answers_base_token hrules rfl hle length,
      hgroup, answers_base_token hrules rfl hle length, nofun⟩
  have hlabelling : Answers setting 5 length Base.labelling.optional := by
    refine answers_quantifier hskip (by decide) (answers_sequence hskip (by decide) ?_) 0 (some 1)
    simp only [List.forall_mem_cons]
    exact ⟨answers_base_token hrules rfl (Nat.le_refl 3) length,
      answers_base_literal hrules (by decide) length _, nofun⟩
  have hlead : Answers setting 4 length Base.lead.optional :=
    answers_base_sign hrules ["!", "&"] length
  have hsuffix : Answers setting 4 length Base.suffix.optional :=
    answers_base_sign hrules ["?", "*", "+"] length
  refine answers_sequence hskip (by omega) ?_
  simp only [List.forall_mem_cons]
  exact ⟨(answers_label hskip (by decide) hlabelling _).mono (by omega) (Nat.le_refl length),
    (answers_label hskip (by decide) hlead _).mono (by omega) (Nat.le_refl length),
    answers_label hskip (by omega) hatom _,
    (answers_label hskip (by decide) hsuffix _).mono (by omega) (Nat.le_refl length), nofun⟩

theorem answers_base_sequence {layers length : Nat} (hle : 3 ≤ layers)
    (hgroup : Answers setting layers length Base.group) :
    Answers setting (layers + 8) length (.lookup "sequence") := by
  have hskip := skipsWithin_base hrules
  have hterm : Answers setting (layers + 5) length (.lookup "term") :=
    answers_lookup hskip (by omega) (by rw [hrules]; rfl)
      (answers_base_term hrules hle hgroup)
  have hhead : Answers setting 4 length Base.head := by
    refine answers_sequence hskip (by decide) ?_
    simp only [List.forall_mem_cons]
    exact ⟨answers_base_token hrules rfl (Nat.le_refl 3) length,
      answers_base_literal hrules (by decide) length _, nofun⟩
  refine answers_lookup hskip (by omega) (by rw [hrules]; rfl)
    (answers_quantifier hskip (by omega) (answers_sequence hskip (by omega) ?_) 1 none)
  simp only [List.forall_mem_cons]
  exact ⟨(answers_lookahead hskip (by decide) hhead false).mono (by omega) (Nat.le_refl length),
    hterm, nofun⟩

/-- Each character ahead may open a group. -/
theorem answers_base_choice (length : Nat) :
    Answers setting (13 * length + 15) length (.lookup "choice") := by
  have hskip := skipsWithin_base hrules
  induction length using Nat.strongRecOn with
  | ind length ih =>
      -- behind the parenthesis of a group less is ahead
      have hgroup : Answers setting (13 * length + 3) length Base.group := by
        refine answers_sequence_behind hskip (by omega) (by decide) ?_
        simp only [List.forall_mem_cons]
        exact ⟨fun length' hless => (ih length' hless).mono (by omega) (Nat.le_refl length'),
          fun length' _ => answers_base_literal hrules (by omega) length' _, nofun⟩
      have hsequence := answers_base_sequence hrules (by omega) hgroup
      have halternative : Answers setting (13 * length + 12) length Base.alternative := by
        refine answers_sequence hskip (by omega) ?_
        simp only [List.forall_mem_cons]
        exact ⟨answers_base_literal hrules (by omega) length _, hsequence, nofun⟩
      refine answers_lookup hskip (by omega) (by rw [hrules]; rfl)
        (answers_sequence hskip (by omega) ?_)
      simp only [List.forall_mem_cons]
      exact ⟨hsequence.mono (by omega) (Nat.le_refl length),
        answers_quantifier hskip (by omega) halternative 0 none, nofun⟩

theorem answers_base_table {layers length : Nat} (hle : 6 ≤ layers)
    (hchoice : Answers setting layers length (.lookup "choice")) :
    Answers setting (layers + 8) length (.lookup "table") := by
  have hskip := skipsWithin_base hrules
  have hprecedence : Answers setting 4 length (.lookup "precedence") := by
    refine answers_lookup hskip (by decide) (by rw [hrules]; rfl)
      (answers_choice hskip (by decide) ?_)
    simp only [List.forall_mem_cons]
    exact ⟨answers_terminal hskip (Nat.le_refl 1) _,
      answers_base_literal hrules (Nat.le_refl 2) length _, nofun⟩
  have hoperator : Answers setting (layers + 3) length (.lookup "operator") := by
    refine answers_lookup hskip (by omega) (by rw [hrules]; rfl)
      (answers_sequence hskip (by omega) ?_)
    simp only [List.forall_mem_cons]
    exact ⟨answers_label hskip (by omega) (answers_base_token hrules rfl (by omega) length) _,
      answers_label hskip (by omega) (hprecedence.mono (by omega) (Nat.le_refl length)) _,
      answers_label hskip (by omega) (hprecedence.mono (by omega) (Nat.le_refl length)) _,
      answers_label hskip (by omega) hchoice _, nofun⟩
  have hentry : Answers setting (layers + 4) length Base.entry := by
    refine answers_sequence hskip (by omega) ?_
    simp only [List.forall_mem_cons]
    exact ⟨hoperator, (answers_quantifier hskip (by decide)
      (answers_base_literal hrules (Nat.le_refl 2) length _) 0 (some 1)).mono (by omega)
        (Nat.le_refl length), nofun⟩
  refine answers_lookup hskip (by omega) (by rw [hrules]; rfl)
    (answers_sequence hskip (by omega) ?_)
  simp only [List.forall_mem_cons]
  exact ⟨answers_base_literal hrules (by omega) length _,
    answers_label hskip (by omega) (answers_quantifier hskip (by omega) hentry 0 none) _,
    answers_base_literal hrules (by omega) length _, nofun⟩

theorem answers_base_grammar (length : Nat) :
    Answers setting (13 * length + 28) length (Pattern.lookup "rule").plus := by
  have hskip := skipsWithin_base hrules
  have hchoice := answers_base_choice hrules length
  have htable := answers_base_table hrules (by omega) hchoice
  refine answers_quantifier hskip (by omega)
    (answers_lookup hskip (by omega) (by rw [hrules]; rfl)
      (answers_sequence hskip (by omega) ?_)) 1 none
  simp only [List.forall_mem_cons]
  refine ⟨answers_label hskip (by omega) (answers_base_token hrules rfl (by omega) length) _,
    answers_base_literal hrules (by omega) length _,
    answers_label hskip (by omega) (answers_choice hskip (by omega) ?_) _, nofun⟩
  simp only [List.forall_mem_cons]
  exact ⟨htable, hchoice.mono (by omega) (Nat.le_refl length), nofun⟩

end Base

/-- **Parsing a grammar text comes to an end**, whatever the text is. -/
theorem parse_base_isSome (text : String) :
    ∃ report, parse base .unlimited (.rule startRule) text = some report := by
  let layers := layersFor base .unlimited (.rule startRule) text
  have hlayers : 28 * text.length + 30 ≤ layers := le_layersFor text
  have hstart : (Start.rule startRule).pattern? base = some (Pattern.lookup "rule").plus := rfl
  let entered := Start.enter (.rule startRule) (State.start (.atStart text.toList) none)
  have hahead : entered.cursor.ahead.length ≤ text.length := by
    rw [Start.cursor_enter]
    exact Nat.le_of_eq String.length_toList
  have hanswers :
      Answers reading (13 * text.length + 28) text.length (Pattern.lookup "rule").plus :=
    answers_base_grammar rfl text.length
  have hskip : SkipsWithin reading 1 := skipsWithin_base rfl
  obtain ⟨o, ho⟩ := hanswers layers (by omega) .outermost entered hahead
  obtain ⟨report, hreport⟩ := conclude_of_skipRun (o := Start.leave (.rule startRule) o)
    (hskip layers (by omega) .outermost _)
  refine ⟨report, ?_⟩
  show parseWindow layers base .unlimited (.rule startRule) (.ofRange _ _ _) = _
  rw [Window.ofRange_whole, parseWindow_of_defined hstart]
  show (matchPattern reading layers .outermost _ entered).bind _ = _
  rw [ho]
  exact hreport

end OperatorPeg.Grammar
