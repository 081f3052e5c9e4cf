import OperatorPeg.Proofs.Grammar.PrintingRules
import OperatorPeg.Proofs.Grammar.Termination

/-!
# The language compiles itself

The text of the grammar language's own grammar is the base rules printed, behind a
comment. So what it compiles to are the base rules again, and a compiler that reads
grammars with these reads them as the base compiler does. That both give an answer at
all is due to the base rules, with which every parse comes to an end.
-/

namespace OperatorPeg.Grammar

theorem rekeep_base : base.rekeep = base := by rfl

theorem blank_languageComment : Blank "# Grammar of Prattle grammars.\n".toList :=
  @Blank.comment " Grammar of Prattle grammars.".toList [] (by decide) .nil

/-- The base rules printed are the text of the language behind its comment. -/
theorem languageText_eq :
    languageText = "# Grammar of Prattle grammars.\n" ++ base.display := by
  -- line by line, so that no long text has to be computed
  have hlines : (base.entries.map fun entry => entry.1 ++ " -> " ++ entry.2.display ++ "\n") =
      ["_ -> `(?:\\s|#[^\\n]*)*`\n",
        "grammar -> rule+\n",
        "rule -> 'name':ident '->' 'body':(table / choice)\n",
        "table -> '[' 'operators':(operator ','?)* ']'\n",
        "operator -> 'name':literal 'left':precedence 'right':precedence 'pattern':choice\n",
        "precedence -> `\\d+` / 'none'\n",
        "choice -> sequence ('/' sequence)*\n",
        "sequence -> (!(ident '->') term)+\n",
        "term -> 'label':(literal ':')? 'prefix':('!' / '&')? 'atom':atom " ++
          "'suffix':('?' / '*' / '+')?\n",
        "atom -> regex / literal / '(' choice ')' / ident\n",
        "ident -> `[A-Za-z_][A-Za-z0-9_]*`\n",
        "literal -> `'(?:[^']|'')*'`\n",
        "regex -> `\\x60(?:[^\\x60]|\\x60\\x60)*\\x60`\n"] := by decide +kernel
  have hjoin : ∀ z a b c d e f g h i i' j k l m : String,
      z ++ String.join [a, b, c, d, e, f, g, h, i ++ i', j, k, l, m] =
        z ++ a ++ b ++ c ++ d ++ e ++ f ++ g ++ h ++ i ++ i' ++ j ++ k ++ l ++ m := by
    intros
    simp only [String.join_cons, String.join_nil, String.append_assoc, String.append_empty]
  rw [Rules.display, hlines, hjoin]
  rfl

theorem printable_base : base.Printable where
  nonempty := nofun
  nodup := by decide
  named := by decide
  patterns := by
    have hlookup : ∀ key ∈ base.names, (Pattern.lookup key).Printable base.names := fun key h =>
      ⟨(by decide : ∀ name ∈ base.names, isName name.toList = true) key h, h⟩
    have hnames : base.names = ["_", "grammar", "rule", "table", "operator", "precedence",
      "choice", "sequence", "term", "atom", "ident", "literal", "regex"] := rfl
    simp only [hnames, List.forall_mem_cons] at hlookup
    obtain ⟨-, -, hrule, htable, hoperator, hprecedence, hchoice, hsequence, hterm, hatom,
      hident, hliteral, hregex, -⟩ := hlookup
    simp only [base, List.forall_mem_cons]
    refine ⟨rfl, ⟨by decide, hrule⟩, ?rule, ?table, ?operator, ?precedence, ?choice, ?sequence,
      ?term, ?atom, rfl, rfl, rfl, nofun⟩
    case rule => exact ⟨by decide, hident, trivial, ⟨by decide, htable, hchoice, trivial⟩, trivial⟩
    case table =>
      exact ⟨by decide, trivial, ⟨by decide, by decide, hoperator, ⟨by decide, trivial⟩, trivial⟩,
        trivial, trivial⟩
    case operator =>
      exact ⟨by decide, hliteral, hprecedence, hprecedence, hchoice, trivial⟩
    case precedence => exact ⟨by decide, rfl, trivial, trivial⟩
    case choice =>
      exact ⟨by decide, hsequence, ⟨by decide, by decide, trivial, hsequence, trivial⟩, trivial⟩
    case sequence =>
      exact ⟨by decide, by decide, ⟨by decide, hident, trivial, trivial⟩, hterm, trivial⟩
    case term =>
      exact ⟨by decide, ⟨by decide, by decide, hliteral, trivial, trivial⟩,
        ⟨by decide, by decide, trivial, trivial, trivial⟩, hatom,
        ⟨by decide, by decide, trivial, trivial, trivial, trivial⟩, trivial⟩
    case atom =>
      exact ⟨by decide, hregex, hliteral, ⟨by decide, trivial, hchoice, trivial, trivial⟩, hident,
        trivial⟩

/-- **The grammar of the language compiles to the base rules.** -/
theorem compile_languageText : ∃ findings, compile languageText = .ok ⟨base, findings⟩ := by
  have htext : languageText.toList
      = "# Grammar of Prattle grammars.\n".toList ++ base.display.toList := by
    rw [languageText_eq, String.toList_append]
  have h := compile_gap_display blank_languageComment printable_base htext
  rwa [rekeep_base] at h

theorem selfHostedLanguage_eq : selfHostedLanguage = .ok base := by
  obtain ⟨findings, h⟩ := compile_languageText
  rw [compile_eq] at h
  -- for any text, so that none is compiled here
  have hrules : ∀ text, compileWith base text = .ok ⟨base, findings⟩ →
      (do pure (← compileWith (← Except.ok base) text).rules : Except CompileError Rules)
        = .ok base := by
    intro text htext
    show (compileWith base text >>= fun grammar => pure grammar.rules) = _
    rw [htext]
    rfl
  rw [selfHostedLanguage, baseLanguage_eq]
  exact hrules _ h

/-- The trees or errors that the base rules make of texts. None of these parses is endless. -/
theorem parseTree_base (text : String) :
    ∃ result : Except ParseError Tree, parseTree base text = result.mapError .notParsed := by
  obtain ⟨report, hreport⟩ := parse_base_isSome text
  exact ⟨report.result, by rw [parseTree, hreport]⟩

/-- **Self-hosting changes nothing.** The base compiler compiles the language's own grammar, and
the compiler that reads with the rules it gets compiles it once more. Of every text
all three compilers make the same tree, or report the same error, and what they
compile it to is the same: rules with the steps that they keep, findings, or error. -/
theorem self_hosting_changes_nothing :
    ∃ language hosted again, baseLanguage = .ok language ∧ selfHostedLanguage = .ok hosted.rules ∧
      compileWith language languageText = .ok hosted ∧
      compileWith hosted.rules languageText = .ok again ∧
      ∀ text,
        (∃ result : Except ParseError Tree,
          parseTree language text = result.mapError .notParsed ∧
          parseTree hosted.rules text = result.mapError .notParsed ∧
          parseTree again.rules text = result.mapError .notParsed) ∧
        compileWith hosted.rules text = compileWith language text ∧
        compileWith again.rules text = compileWith language text := by
  obtain ⟨findings, hcompiled⟩ := compile_languageText
  rw [compile_eq] at hcompiled
  refine ⟨base, ⟨base, findings⟩, ⟨base, findings⟩, baseLanguage_eq, selfHostedLanguage_eq,
    hcompiled, hcompiled, fun text => ⟨?_, rfl, rfl⟩⟩
  obtain ⟨result, hparsed⟩ := parseTree_base text
  exact ⟨result, hparsed, hparsed, hparsed⟩

end OperatorPeg.Grammar
