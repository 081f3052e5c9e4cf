import OperatorPeg.Proofs.EnoughLayers
import OperatorPeg.Proofs.Grammar.Outcomes
import OperatorPeg.Proofs.Grammar.Stops

/-!
# Grammar languages of all kinds

Grammars can be read with the rules of any grammar. Nothing makes the literals or
regexes of such a language begin and end with a delimiter of one byte; but what they
quote is cut out as if they did. So compiling a text settles it unless the parse is
endless or a broken token is taken out of its quotes, and both can come about.
-/

namespace OperatorPeg.Grammar

open Diagnostics

/-! ## Texts that are settled -/

/-- Whether the caller is told of it. Otherwise compiling ends without an answer. -/
def CompileError.isReported : CompileError → Bool
  | notParsed _ | invalid _ | pattern _ | malformed _ => true
  | unquotable _ | endless => false

/-- Compiling gives a grammar or reports why it does not. -/
def Settles {α : Type} (result : Except CompileError α) : Prop :=
  ∀ e, result = .error e → e.isReported = true

theorem settles_ok {α : Type} (a : α) : Settles (.ok a : Except CompileError α) := nofun

theorem settles_error {α : Type} {e : CompileError} :
    Settles (.error e : Except CompileError α) ↔ e.isReported = true :=
  ⟨fun h => h e rfl, fun h _ heq => Except.error.inj heq ▸ h⟩

/-- No broken token is taken out of its quotes: the checks meet none, and if they find no
errors, all broken literals and labels stand behind parts at which lowering stops. -/
structure Ast.IsQuotable (ast : Ast) : Prop where
  checked : ∀ t, .checked t ∈ ast.met → t.isBroken = false
  lowered : Passes (validate ast) → ∀ before t after, ast.met = before ++ .quoted t :: after →
    t.isBroken = true → ∃ cause, .fault cause ∈ before

section Met

variable {met : List Met}

theorem broken?_eq_none {t : Token} : t.broken? = none ↔ t.isBroken = false := by
  unfold Token.broken?
  cases t.isBroken <;> simp

theorem refused?_eq_none :
    met.findSome? Met.refused? = none ↔ ∀ t, .checked t ∈ met → t.isBroken = false := by
  rw [List.findSome?_eq_none_iff]
  constructor
  · exact fun h t hmem => broken?_eq_none.mp (h _ hmem)
  · rintro h (t | t | cause) hmem
    · exact broken?_eq_none.mpr (h t hmem)
    · rfl
    · rfl

/-- What stops lowering before all parts that make no pattern is a broken token. -/
theorem stop?_of_no_fault {u : LowerError} (hfault : ∀ cause, .fault cause ∉ met)
    (h : met.findSome? Met.stop? = some u) : ∃ t, u = .unquotable ⟨t⟩ := by
  have hbroken : ∀ t : Token, t.broken?.map LowerError.unquotable = some u →
      ∃ t, u = .unquotable ⟨t⟩ := by
    intro t ht
    obtain ⟨⟨t'⟩, -, rfl⟩ := Option.map_eq_some_iff.mp ht
    exact ⟨t', rfl⟩
  obtain ⟨m, hmem, hm⟩ := List.exists_of_findSome?_eq_some h
  cases m with
  | checked t => exact hbroken t hm
  | quoted t => exact hbroken t hm
  | fault cause => exact absurd hmem (hfault cause)

/-- Lowering is stopped by a broken token if it comes upon one before it comes upon parts that
make no pattern. -/
theorem stop?_eq_unquotable (hchecked : ∀ t, .checked t ∈ met → t.isBroken = false) :
    (∃ t, met.findSome? Met.stop? = some (.unquotable t)) ↔
      ∃ before t after, met = before ++ .quoted t :: after ∧ t.isBroken = true ∧
        ∀ cause, .fault cause ∉ before := by
  constructor
  · rintro ⟨u, h⟩
    obtain ⟨before, m, after, rfl, hm, hbefore⟩ := List.findSome?_eq_some_iff.mp h
    cases m with
    | checked t =>
        have ht := broken?_eq_none.mpr (hchecked t (by simp))
        rw [Met.stop?, ht] at hm
        cases hm
    | quoted t =>
        refine ⟨before, t, after, rfl, ?_, fun cause hmem => ?_⟩
        · by_contra hwhole
          rw [Met.stop?, broken?_eq_none.mpr (Bool.eq_false_iff.mpr hwhole)] at hm
          cases hm
        · cases hbefore _ hmem
    | fault cause => cases hm
  · rintro ⟨before, t, after, rfl, hbroken, hfault⟩
    rw [List.findSome?_append]
    cases hbefore : before.findSome? Met.stop? with
    | none => exact ⟨⟨t⟩, by simp [Met.stop?, Token.broken?, hbroken]⟩
    | some u =>
        obtain ⟨t', rfl⟩ := stop?_of_no_fault hfault hbefore
        exact ⟨⟨t'⟩, rfl⟩

end Met

theorem settles_lower {ast : Ast} (findings : List Finding) :
    Settles (do
      let rules ← (lower ast).mapError LowerError.asCompileError
      pure (⟨rules, findings⟩ : Grammar)) ↔
      ¬ ∃ u, ast.met.findSome? Met.stop? = some (.unquotable u) := by
  rw [← error?_lower]
  cases lower ast with
  | ok rules => exact iff_of_true (settles_ok _) nofun
  | error e =>
      show Settles (.error e.asCompileError) ↔ _
      rw [settles_error]
      cases e with
      | pattern cause => exact iff_of_true rfl nofun
      | unquotable u => exact iff_of_false nofun fun h => h ⟨u, rfl⟩

theorem ofAst_of_refused {ast : Ast} {u : Unquotable} (h : error? (validate ast) = some u) :
    ofAst ast = .error (.unquotable u) := by
  rw [ofAst]
  cases hvalidate : validate ast with
  | error u' =>
      rw [hvalidate] at h
      cases h
      rfl
  | ok findings =>
      rw [hvalidate] at h
      cases h

/-- A grammar as written is settled if no broken token is taken out of its quotes. -/
theorem settles_ofAst (ast : Ast) : Settles (ofAst ast) ↔ ast.IsQuotable := by
  cases hvalidate : validate ast with
  | error u =>
      have hrefused : error? (validate ast) = some u := congrArg error? hvalidate
      rw [ofAst_of_refused hrefused, settles_error]
      refine iff_of_false nofun fun h => ?_
      rw [error?_validate, refused?_eq_none.mpr h.checked] at hrefused
      cases hrefused
  | ok findings =>
      have hnone : error? (validate ast) = none := congrArg error? hvalidate
      have hchecked := refused?_eq_none.mp (error?_validate ast ▸ hnone)
      rw [ofAst_of_validate hvalidate]
      cases herrors : Finding.hasErrors findings with
      | true =>
          refine iff_of_true (settles_error.mpr rfl) ⟨hchecked, fun hpasses => ?_⟩
          rw [hvalidate, passes_ok, herrors] at hpasses
          cases hpasses
      | false =>
          refine (settles_lower findings).trans ((stop?_eq_unquotable hchecked).not.trans ?_)
          constructor
          · intro h
            refine ⟨hchecked, fun _ before t after hmet hbroken => ?_⟩
            by_contra hfault
            exact h ⟨before, t, after, hmet, hbroken, not_exists.mp hfault⟩
          · rintro h ⟨before, t, after, hmet, hbroken, hfault⟩
            obtain ⟨cause, hmem⟩ :=
              h.lowered ⟨findings, hvalidate, herrors⟩ before t after hmet hbroken
            exact hfault cause hmem

/-- A text is read as a grammar or not, which is reported, unless its parse is endless. -/
theorem settles_readAst (language : Rules) (text : String) :
    Settles (readAst language text) ↔
      ∃ layers report, parseWithin layers language .unlimited (.rule startRule) text 0
        text.utf8ByteSize = some report := by
  rw [exists_comm]
  simp only [← parseRange_eq_some_iff]
  show _ ↔ ∃ report, parse language .unlimited (.rule startRule) text = some report
  rw [readAst, parseTree]
  cases parse language .unlimited (.rule startRule) text with
  | none =>
      refine iff_of_false (fun h => ?_) ?_
      · cases h _ rfl
      · rintro ⟨_, ⟨⟩⟩
  | some report =>
      refine iff_of_true ?_ ⟨report, rfl⟩
      obtain ⟨result, events⟩ := report
      cases result with
      | error cause => exact settles_error.mpr rfl
      | ok tree =>
          show Settles ((Ast.ofTree tree).mapError .malformed)
          cases Ast.ofTree tree with
          | error cause => exact settles_error.mpr rfl
          | ok ast => exact settles_ok ast

/-- **What settles a text, whatever the grammar language.** With the rules of any language,
compiling a text gives a grammar or reports an error just if the parse comes to an end and
no broken token is taken out of its quotes. -/
theorem compileWith_settles_iff {language : Rules} {text : String} :
    Settles (compileWith language text) ↔
      (∃ layers report, parseWithin layers language .unlimited (.rule startRule) text 0
        text.utf8ByteSize = some report) ∧
      ∀ ast, readAst language text = .ok ast → ast.IsQuotable := by
  rw [← settles_readAst, compileWith]
  cases readAst language text with
  | error e =>
      show Settles (.error e) ↔ _
      rw [settles_error, settles_error]
      refine ⟨fun h => ⟨h, fun _ heq => ?_⟩, And.left⟩
      cases heq
  | ok ast =>
      show Settles (ofAst ast) ↔ _
      rw [settles_ofAst]
      exact ⟨fun h => ⟨settles_ok ast, fun _ heq => Except.ok.inj heq ▸ h⟩, fun h => h.2 ast rfl⟩

/-! ## A language with other quotation marks -/

/-- Regexes stand between guillemets, which have two bytes each. -/
private def guillemetRegex : Terminal :=
  .regex "«[^»]*»" (.seq (.oneOf (.singleton '«'))
    (.seq (.rounds (.oneOf (CharSet.singleton '»').complement) 0 none true)
      (.oneOf (.singleton '»'))))

/-- The base rules with regexes between guillemets. -/
def guillemets : Rules := base.insert "regex" (.terminal guillemetRegex)

theorem compile_guillemets :
    ∃ findings, compile guillemets.display = .ok ⟨guillemets, findings⟩ := by
  have hprintable : guillemets.Printable := printable_base.insert (by decide) rfl
  have hkept : guillemets.rekeep = guillemets := by rfl
  simpa only [hkept] using compile_display hprintable

def guillemetToken : Token := ⟨"«x»", ⟨5, 10⟩⟩

theorem readAst_guillemets : ∃ ast, readAst guillemets "a -> «x»\n" = .ok ast ∧
    ast.met.findSome? Met.refused? = some ⟨guillemetToken⟩ := by
  have hread : (match readAst guillemets "a -> «x»\n" with
      | .error _ => false
      | .ok ast => decide (ast.met.findSome? Met.refused? = some ⟨guillemetToken⟩)) = true := by
    decide +kernel
  split at hread
  case h_1 => cases hread
  case h_2 ast hast => exact ⟨ast, hast, of_decide_eq_true hread⟩

/-- Where regexes stand between guillemets, a text with a regex is settled neither as a grammar nor
by a report. -/
theorem guillemets_settle_nothing :
    ∃ text, ∃ g : Grammar, compile text = .ok g ∧
      compileWith g.rules "a -> «x»\n" = .error (.unquotable ⟨⟨"«x»", ⟨5, 10⟩⟩⟩) ∧
      ¬ Settles (compileWith g.rules "a -> «x»\n") := by
  obtain ⟨findings, h⟩ := compile_guillemets
  obtain ⟨ast, hread, hrefused⟩ := readAst_guillemets
  have hbroken : compileWith guillemets "a -> «x»\n" = .error (.unquotable ⟨guillemetToken⟩) := by
    rw [compileWith, hread]
    exact ofAst_of_refused ((error?_validate ast).trans hrefused)
  refine ⟨_, _, h, hbroken, ?_⟩
  rw [hbroken, settles_error]
  exact Bool.false_ne_true

end OperatorPeg.Grammar
