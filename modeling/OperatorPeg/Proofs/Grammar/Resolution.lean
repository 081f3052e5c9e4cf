import OperatorPeg.Proofs.FirstAbort
import OperatorPeg.Proofs.Grammar.Compiled
import OperatorPeg.Proofs.Grammar.SelfHosting
import OperatorPeg.Proofs.Moments

/-!
# References of compiled grammars

The checks look for the rules that a grammar refers to in the grammar as written, and
parses look for them by the patterns that it is lowered to. Every reference in these
patterns has passed the check, wherever it stands, so a parse with a compiled grammar
finds each rule that it looks for.
-/

namespace OperatorPeg

namespace Pattern

variable {defined : List String}

mutual
/-- What is printable refers to defined rules only. -/
theorem mem_of_references : ∀ (p : Pattern), p.Printable defined →
    ∀ key ∈ p.references, key ∈ defined
  | .terminal _, _ => nofun
  | .sequence steps, h => mem_of_referencesOfSteps steps h.2
  | .choice alternatives, h => mem_of_referencesOfAll alternatives h.2
  | .quantifier inner _ _, h => mem_of_references inner h.2
  | .lookup _, h => List.forall_mem_singleton.mpr h.2
  | .label _ inner, h => mem_of_references inner h
  | .lookahead inner _, h => mem_of_references inner h
  | .table _, h => h.elim

theorem mem_of_referencesOfSteps : ∀ (steps : List Step), PrintableSteps defined steps →
    ∀ key ∈ referencesOfSteps steps, key ∈ defined
  | [], _ => nofun
  | ⟨_, p⟩ :: steps, h =>
      List.forall_mem_append.mpr
        ⟨mem_of_references p h.1, mem_of_referencesOfSteps steps h.2⟩

theorem mem_of_referencesOfAll : ∀ (ps : List Pattern), PrintableAll defined ps →
    ∀ key ∈ referencesOfAll ps, key ∈ defined
  | [], _ => nofun
  | p :: ps, h =>
      List.forall_mem_append.mpr ⟨mem_of_references p h.1, mem_of_referencesOfAll ps h.2⟩
end

theorem mem_of_referencesOfOperators {ops : List Operator}
    (h : ∀ op ∈ ops, op.Printable defined) : ∀ key ∈ referencesOfOperators ops, key ∈ defined := by
  induction ops with
  | nil => nofun
  | cons op ops ih =>
      obtain ⟨name, left, right, p⟩ := op
      obtain ⟨hop, hops⟩ := List.forall_mem_cons.mp h
      exact List.forall_mem_append.mpr ⟨mem_of_references p hop.pattern, ih hops⟩

end Pattern

/-- There is a rule for every reference of printable rules. -/
theorem Rules.Printable.closed {rules : Rules} (h : rules.Printable) : rules.Closed := by
  intro entry hentry key hkey
  rw [Rules.contains_iff_mem_names]
  have hbody := h.patterns entry hentry
  obtain ⟨name, p⟩ := entry
  cases p with
  | table operators => exact Pattern.mem_of_referencesOfOperators hbody.2.2 key hkey
  | _ => exact Pattern.mem_of_references _ hbody key hkey

namespace Grammar

/-- **Parses with a compiled grammar find every rule they look for.** Each reference in the
patterns of the grammar is to one of its rules. So no parse that begins with one of them
meets a rule that is not there, and none reports one. -/
theorem compiled_references_resolve {text : String} {g : Grammar} (h : compile text = .ok g) :
    (∀ entry ∈ g.rules.entries, ∀ key ∈ entry.2.references, g.rules.contains key = true) ∧
      ∀ name ∈ g.rules.names, ∀ layers limits source first last,
        (∀ e ∈ parseAborts layers g.rules limits (.rule name) source first last,
          ∀ key, e.2 ≠ .undefinedRule key) ∧
        ∀ report, parseWithin layers g.rules limits (.rule name) source first last = some report →
          ∀ offset key, report.result ≠ .error (.aborted offset (.undefinedRule key)) := by
  have hclosed := (printable_of_compile h).closed
  refine ⟨hclosed, fun name hname layers limits source first last => ?_⟩
  have hmet := parse_noneUndefined hclosed hname layers limits source first last
  refine ⟨hmet, fun report hrun offset key herror => ?_⟩
  obtain ⟨-, hreports⟩ := parseWindow_first_abort layers g.rules limits (.rule name)
    (.ofRange source.toList first last)
  have hfirst := ((hreports report hrun).1 (offset, .undefinedRule key)).mp herror
  exact hmet _ (List.mem_of_head? hfirst) key rfl

/-- The grammar of the language itself, with a text that it does not match. -/
theorem compiled_references_resolve_sample :
    ∃ g, compile languageText = .ok g ∧
      (∀ entry ∈ g.rules.entries, ∀ key ∈ entry.2.references, g.rules.contains key = true) ∧
      startRule ∈ g.rules.names ∧
      ∃ report, parseWithin 30 g.rules .unlimited (.rule startRule) "a -> (b" 0 7 = some report ∧
        ∀ offset key, report.result ≠ .error (.aborted offset (.undefinedRule key)) := by
  obtain ⟨findings, h⟩ := compile_languageText
  obtain ⟨hclosed, hparses⟩ := compiled_references_resolve h
  have hstart : startRule ∈ base.names := by decide
  have hrun : (parseWithin 30 base .unlimited (.rule startRule) "a -> (b" 0 7).isSome := by
    decide +kernel
  obtain ⟨report, hreport⟩ := Option.isSome_iff_exists.mp hrun
  exact ⟨_, h, hclosed, hstart, report, hreport,
    (hparses startRule hstart 30 .unlimited _ 0 7).2 report hreport⟩

end Grammar

end OperatorPeg
