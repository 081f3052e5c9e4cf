import OperatorPeg.Proofs.Grammar.Checks
import OperatorPeg.Proofs.Grammar.Printing

/-!
# Printed rules

From patterns to operator tables, to rules and to whole registries: printable rules
as text spell rules that pass all checks and are lowered to the same rules, steps
kept anew.
-/

namespace OperatorPeg.Grammar

open Diagnostics (Finding)

variable {r r₁ r₂ r' d e : Cursor} {defined : List String}

/-! ## Operators -/

theorem isNumber_toString (n : Nat) : isNumber (toString n).toList = true := by
  obtain ⟨hne, hdigits⟩ := toString_digits n
  cases htext : (toString n).toList with
  | nil => exact absurd htext hne
  | cons ch text =>
      rw [htext] at hdigits
      simp only [isNumber, Bool.and_eq_true, List.all_eq_true]
      exact List.forall_mem_cons.mp fun ch hch => isDecimal_of_isDigit (hdigits ch hch)

theorem writes_precedence {precedence : Option Nat} (h : PrecedenceFits precedence) :
    Writes SpellsPrecedence (fun t => precedenceOf t = precedence ∧
      Finding.hasErrors (checkPrecedence t) = false) (Pattern.precedenceSign precedence) := by
  intro r e r' hpasses hclear hleads
  cases precedence with
  | none => exact ⟨none, ⟨e, hpasses, hleads⟩, rfl, rfl⟩
  | some n =>
      let t : Token := ⟨toString n, ⟨r.offset, e.offset⟩⟩
      have hspells : t.Spells isDecimal r r' :=
        Token.spells_of_passes hpasses hleads (hclear.stop (by decide +kernel))
      have hvalue : precedenceValue? t.text = some n := precedenceValue?_toString (h n rfl)
      refine ⟨some t, ⟨hspells, isNumber_toString n⟩, hvalue, ?_⟩
      rw [checkPrecedence, hvalue]
      rfl

theorem SpellsPrecedence.significant {precedence : Option Token}
    (h : SpellsPrecedence precedence r r') : Significant r.ahead := by
  intro ch hch
  cases precedence with
  | none =>
      cases (Stands.begins h rfl).symm.trans hch
      decide
  | some t =>
      obtain ⟨e, he, -⟩ := h.spells.passes
      have hnumber := h.number
      cases htext : t.text.toList with
      | nil =>
          rw [htext] at hnumber
          cases hnumber
      | cons first rest =>
          rw [htext] at he hnumber
          rw [he.ahead] at hch
          cases hch
          exact isDecimal_significant (Bool.and_eq_true_iff.mp hnumber).1

/-- The row of a table says what the operator is. -/
structure OperatorDef.Renders (defined : List String) (op : Operator) (row : OperatorDef) :
    Prop where
  passes : row.Passes defined op.name
  left : precedenceOf row.left = op.left
  right : precedenceOf row.right = op.right
  lowered : lowerChoice row.pattern = .ok op.pattern.rekeep

theorem writes_operator {op : Operator} (h : op.Printable defined) :
    Writes OperatorDef.Spells (OperatorDef.Renders defined op)
      (Text.quote '\'' op.name ++ " " ++ Pattern.precedenceSign op.left ++ " " ++
        Pattern.precedenceSign op.right ++ " " ++ op.pattern.display) := by
  intro r e r' hpasses hclear hleads
  simp only [String.toList_append, List.append_assoc] at hpasses
  obtain ⟨d₁, hname, hpasses⟩ := hpasses.split
  obtain ⟨s₁, hspace₁, hpasses⟩ := hpasses.split
  obtain ⟨d₂, hleft, hpasses⟩ := hpasses.split
  obtain ⟨s₂, hspace₂, hpasses⟩ := hpasses.split
  obtain ⟨d₃, hright, hpasses⟩ := hpasses.split
  obtain ⟨s₃, hspace₃, hpattern⟩ := hpasses.split
  -- from the right, since a gap ends where the next part begins
  obtain ⟨pattern, hpattern, hrenders⟩ :=
    (shown_of_printable _ h.pattern).choice s₃ e r' hpattern hclear hleads
  obtain ⟨right, hright, hrightValue, hrightPasses⟩ := writes_precedence h.right s₂ d₃ s₃ hright
    (.of_passes hspace₃ (by decide)) (.space hspace₃ (.of_begins hpattern.begins))
  obtain ⟨left, hleft, hleftValue, hleftPasses⟩ := writes_precedence h.left s₁ d₂ s₂ hleft
    (.of_passes hspace₂ (by decide)) (.space hspace₂ hright.significant)
  let name : Token := ⟨Text.quote '\'' op.name, ⟨r.offset, d₁.offset⟩⟩
  have hspells : name.Spells (· == '\'') r s₁ := Token.spells_of_passes hname
    (.space hspace₁ hleft.significant) ((Clear.of_passes hspace₁ (by decide)).stop (by decide))
  refine ⟨⟨name, left, right, pattern⟩,
    .operator ⟨hspells, op.name, rfl⟩ hleft hright hpattern, ?_⟩
  exact {
    passes := ⟨Token.unescaped_quote (by decide) _ _, hleftPasses, hrightPasses,
      .of_none hrenders.checked⟩
    left := hleftValue
    right := hrightValue
    lowered := hrenders.lowered }

theorem displayOperators_eq_map (ops : List Operator) :
    Pattern.displayOperators ops = ops.map fun op =>
      Text.quote '\'' op.name ++ " " ++ Pattern.precedenceSign op.left ++ " " ++
        Pattern.precedenceSign op.right ++ " " ++ op.pattern.display := by
  induction ops with
  | nil => rw [Pattern.displayOperators, List.map_nil]
  | cons op ops ih =>
      obtain ⟨name, left, right, p⟩ := op
      rw [Pattern.displayOperators, ih, List.map_cons]

theorem OperatorDef.Spells.significant {row : OperatorDef} (h : row.Spells r r') :
    Significant r.ahead := by
  intro ch hch
  cases h with
  | operator hname =>
      cases hname.begins.symm.trans hch
      decide

theorem OperatorsSpell.significant {rows : List OperatorDef} (hne : rows ≠ [])
    (h : OperatorsSpell rows r r') : Significant r.ahead := by
  cases h with
  | none => exact absurd rfl hne
  | last hrow => exact hrow.significant
  | comma hrow _ _ => exact hrow.significant

theorem separates_operators : Separates ", " OperatorDef.Spells OperatorsSpell := by
  intro rows d d' r' hseparator hne hrows
  obtain ⟨d₁, hcomma, hspace⟩ := hseparator.cons
  have hstands : Stands "," d d' := ⟨d₁, hcomma, .space hspace (hrows.significant hne)⟩
  exact ⟨d, .of_passes hcomma (by decide), .refl (.of_head hcomma (by decide)),
    fun _ _ hrow => .comma hrow hstands hrows⟩

theorem writes_operators {ops : List Operator} (hne : ops ≠ [])
    (h : ∀ op ∈ ops, op.Printable defined) :
    Writes OperatorsSpell (List.Forall₂ (OperatorDef.Renders defined) ops)
      (Text.joinWith ", " (Pattern.displayOperators ops)) := by
  rw [displayOperators_eq_map]
  exact writes_joined separates_operators (fun _ _ _ => .last) hne fun op hmem =>
    writes_operator (h op hmem)

theorem OperatorDef.Renders.lowerOperator {op : Operator} {row : OperatorDef}
    (h : row.Renders defined op) :
    Grammar.lowerOperator row = .ok ⟨op.name, op.left, op.right, op.pattern.rekeep⟩ := by
  rw [Grammar.lowerOperator, quotedText, h.passes.name, h.lowered, h.left, h.right]
  rfl

/-- Rows that say what the operators of a table are. -/
theorem lower_rows {ops : List Operator} {rows : List OperatorDef}
    (h : List.Forall₂ (OperatorDef.Renders defined) ops rows) :
    rows.mapM lowerOperator = .ok (Pattern.rekeepOperators ops) := by
  induction h with
  | nil => rw [Pattern.rekeepOperators]; rfl
  | @cons op _ _ _ hrow _ ih =>
      obtain ⟨name, left, right, p⟩ := op
      rw [Pattern.rekeepOperators]
      exact mapM_cons_ok hrow.lowerOperator ih

/-! ## Rules -/

/-- The body of a rule says what the pattern is. -/
structure Body.Renders (defined : List String) (p : Pattern) (body : Body) : Prop where
  passes : Passes (checkBody defined body)
  lowered : lowerBody body = .ok p.rekeep

/-- It makes no difference where a table stops. -/
theorem Body.Renders.stopAt {p : Pattern} {body : Body} (h : body.Renders defined p) (stop : Nat) :
    (body.stopAt stop).Renders defined p := by
  cases body with
  | choice => exact h
  | table table => exact ⟨passes_checkTable.mpr (passes_checkTable.mp h.passes), h.lowered⟩

theorem renders_table {ops : List Operator} {rows : List OperatorDef} (hne : ops ≠ [])
    (hnodup : (ops.map (·.name)).Nodup)
    (h : List.Forall₂ (OperatorDef.Renders defined) ops rows) (span : Span) :
    Body.Renders defined (.table ops) (.table ⟨span, rows⟩) where
  passes := by
    have hrows : rows ≠ [] := by
      rintro rfl
      cases h
      exact hne rfl
    have hpasses : List.Forall₂ (OperatorDef.Passes defined) rows (ops.map (·.name)) := by
      rw [List.forall₂_map_right_iff]
      exact h.flip.imp fun _ _ hrow => hrow.passes
    exact passes_checkTable.mpr ⟨hrows, passes_checkOperators.mpr
      ⟨ops.map (·.name), hpasses, hnodup, fun _ _ hmem => nomatch hmem⟩⟩
  lowered := by
    have hops : Pattern.rekeepOperators ops ≠ [] := by
      cases ops with
      | nil => exact absurd rfl hne
      | cons op ops =>
          obtain ⟨name, left, right, p⟩ := op
          rw [Pattern.rekeepOperators]
          nofun
    rw [lowerBody, lower_rows h, Pattern.rekeep]
    simp only [bind, Except.bind, Pattern.table?, List.isEmpty_iff, hops, if_false]
    rfl

theorem writes_body {p : Pattern} (h : p.PrintableAsRule defined) :
    Writes Body.Spells (Body.Renders defined p) p.display := by
  have hchoice : p.Printable defined →
      Writes Body.Spells (Body.Renders defined p) p.display := by
    intro hp r e r' hpasses hclear hleads
    obtain ⟨choice, hspells, hrenders⟩ :=
      (shown_of_printable p hp).choice r e r' hpasses hclear hleads
    exact ⟨.choice choice, .choice hspells, .of_none hrenders.checked, hrenders.lowered⟩
  cases p with
  | table ops =>
      obtain ⟨hne, hnodup, hops⟩ := h
      intro r e r' hpasses hclear hleads
      rw [Pattern.display, String.toList_append, String.toList_append, List.append_assoc] at hpasses
      obtain ⟨d, hopen, hrest⟩ := hpasses.split
      obtain ⟨d', htext, hclose⟩ := hrest.split
      obtain ⟨rows, hspells, hrenders⟩ := writes_operators hne hops d d' d' htext
        (.of_passes hclose (by decide)) (.refl (.of_head hclose (by decide)))
      have hrows : rows ≠ [] := by
        rintro rfl
        cases hrenders
        exact hne rfl
      have hsig := hspells.significant hrows
      exact ⟨.table ⟨.empty r.offset, rows⟩,
        .table ⟨d, hopen, .refl hsig⟩ hspells ⟨e, hclose, hleads⟩,
        renders_table hne hnodup hrenders _⟩
  | _ => exact hchoice h

/-- A rule says what an entry of a registry is. -/
structure RuleDef.Renders (defined : List String) (entry : String × Pattern) (rule : RuleDef) :
    Prop where
  name : rule.name.text = entry.1
  body : rule.body.Renders defined entry.2

/-- A rule in a line of its own. -/
theorem ruleSpells_of_passes {entry : String × Pattern} (hname : isName entry.1.toList = true)
    (hprintable : entry.2.PrintableAsRule defined)
    (hpasses : r.Passes (entry.1 ++ " -> " ++ entry.2.display ++ "\n").toList e)
    (he : Significant e.ahead) :
    ∃ rule : RuleDef, rule.Spells r e ∧ rule.Renders defined entry := by
  simp only [String.toList_append, List.append_assoc] at hpasses
  obtain ⟨d₁, hnameText, hpasses⟩ := hpasses.split
  obtain ⟨d₄, harrow, hpasses⟩ := hpasses.split
  obtain ⟨d₅, hbody, hline⟩ := hpasses.split
  -- the arrow stands between two gaps
  obtain ⟨d₂, hspace, harrow⟩ := harrow.cons
  replace harrow : d₂.Passes ("->".toList ++ [' ']) d₄ := harrow
  obtain ⟨d₃, harrow, hspace'⟩ := harrow.split
  have hend : Leads d₅ e := ⟨⟨['\n'], .space (by decide) .nil, hline⟩, he⟩
  obtain ⟨body, hspells, hrenders⟩ :=
    writes_body hprintable d₄ d₅ e hbody (.of_passes hline (by decide)) hend
  have hsig : Significant d₄.ahead := by
    cases hspells with
    | choice hchoice => exact .of_begins hchoice.begins
    | table hopen =>
        intro ch hch
        cases (hopen.begins rfl).symm.trans hch
        decide
  have hstands : Stands "->" d₂ d₄ := ⟨d₃, harrow, .space hspace' hsig⟩
  let name : Token := ⟨entry.1, ⟨r.offset, d₁.offset⟩⟩
  have hnameSpells : name.Spells isNamePart r d₂ := Token.spells_of_passes hnameText
    (.space hspace (.of_head harrow (by decide)))
    ((Clear.of_passes hspace (by decide)).stop (by decide))
  exact ⟨⟨name, body⟩, .rule ⟨d₂, ⟨hnameSpells, hname⟩, hstands⟩ hspells, rfl, hrenders⟩

theorem RulesSpell.significant {rules : List RuleDef} (h : RulesSpell rules r r') :
    Significant r.ahead := by
  obtain ⟨_, _, _, hname, -⟩ := h.head
  intro ch hch
  obtain ⟨ch', hch', hstart⟩ := hname.begins
  cases hch'.symm.trans hch
  exact isNameStart_significant hstart

/-- Rules, one in a line, up to the end of the last line. -/
theorem rulesSpell_of_passes {entries : List (String × Pattern)} (hne : entries ≠ [])
    (hnamed : ∀ entry ∈ entries, isName entry.1.toList = true)
    (hprintable : ∀ entry ∈ entries, entry.2.PrintableAsRule defined)
    (hpasses : r.Passes
      (String.join (entries.map fun entry =>
        entry.1 ++ " -> " ++ entry.2.display ++ "\n")).toList e)
    (he : Significant e.ahead) :
    ∃ rules, RulesSpell rules r e ∧ List.Forall₂ (RuleDef.Renders defined) entries rules := by
  induction entries generalizing r with
  | nil => exact absurd rfl hne
  | cons entry entries ih =>
      rw [List.map_cons, String.join_cons, String.toList_append] at hpasses
      obtain ⟨d, hline, hrest⟩ := hpasses.split
      have hname := hnamed entry List.mem_cons_self
      have hentry := hprintable entry List.mem_cons_self
      by_cases hlast : entries = []
      · subst hlast
        cases hrest.eq_of_nil
        obtain ⟨rule, hspells, hrenders⟩ := ruleSpells_of_passes hname hentry hline he
        exact ⟨[rule], .one hspells, .cons hrenders .nil⟩
      · obtain ⟨rules, hrules, hrenderRest⟩ := ih hlast
          (fun entry hmem => hnamed entry (List.mem_cons_of_mem _ hmem))
          (fun entry hmem => hprintable entry (List.mem_cons_of_mem _ hmem)) hrest
        obtain ⟨rule, hspells, hrenders⟩ :=
          ruleSpells_of_passes hname hentry hline hrules.significant
        exact ⟨rule :: rules, .more hspells hrules, .cons hrenders hrenderRest⟩

/-! ## Registries -/

/-- Rules as read say what the entries are, too. -/
theorem renders_of_sameRules {entries : List (String × Pattern)} {rules rules' : List RuleDef}
    (h : List.Forall₂ (RuleDef.Renders defined) entries rules) (hsame : SameRules rules rules') :
    List.Forall₂ (RuleDef.Renders defined) entries rules' := by
  induction h generalizing rules' with
  | nil => cases hsame; exact .nil
  | cons hrule _ ih =>
      cases hsame with
      | cons hplace hrest =>
          obtain ⟨stop, rfl⟩ := hplace
          exact .cons ⟨hrule.name, hrule.body.stopAt stop⟩ (ih hrest)

theorem names_of_renders {entries : List (String × Pattern)} {rules : List RuleDef}
    (h : List.Forall₂ (RuleDef.Renders defined) entries rules) :
    rules.map (·.name.text) = entries.map (·.1) := by
  induction h with
  | nil => rfl
  | cons hrule _ ih => rw [List.map_cons, List.map_cons, hrule.name, ih]

theorem passes_of_renders {entries : List (String × Pattern)} {rules : List RuleDef}
    (h : List.Forall₂ (RuleDef.Renders defined) entries rules) :
    ∀ rule ∈ rules, Passes (checkBody defined rule.body) := by
  induction h with
  | nil => nofun
  | cons hrule _ ih => exact List.forall_mem_cons.mpr ⟨hrule.body.passes, ih⟩

theorem lower_of_renders {entries : List (String × Pattern)} {rules : List RuleDef}
    (h : List.Forall₂ (RuleDef.Renders defined) entries rules)
    (hnodup : (entries.map (·.1)).Nodup) : lower ⟨rules⟩ = .ok (Rules.rekeep ⟨entries⟩) := by
  have hentries : (rules.mapM fun rule => do
      let p ← lowerBody rule.body
      pure (rule.name.text, p)) = .ok (entries.map fun entry => (entry.1, entry.2.rekeep)) := by
    clear hnodup
    induction h with
    | nil => rfl
    | cons hrule _ ih =>
        refine mapM_cons_ok ?_ ih
        rw [hrule.body.lowered, hrule.name]
        rfl
  have hnames : (entries.map fun entry => (entry.1, entry.2.rekeep)).map (·.1)
      = entries.map (·.1) := by
    rw [List.map_map]
    rfl
  rw [← hnames] at hnodup
  rw [lower, hentries]
  show Except.ok (Rules.ofList _) = _
  rw [Rules.ofList_of_nodup hnodup]
  rfl

/-- Printable rules as text are compiled to the same rules, steps kept anew. A gap may stand
before them. -/
theorem compile_gap_display {gap : List Char} (hgap : Blank gap) {rules : Rules}
    (h : rules.Printable) {text : String} (htext : text.toList = gap ++ rules.display.toList) :
    ∃ findings, compile text = .ok ⟨rules.rekeep, findings⟩ := by
  obtain ⟨r, hskipped, hahead⟩ : ∃ r, (Cursor.atStart text.toList).Passes gap r ∧
      r.ahead = rules.display.toList :=
    Cursor.Passes.exists_of_ahead htext
  obtain ⟨e, hpasses, hend⟩ : ∃ e, r.Passes rules.display.toList e ∧ e.ahead = [] :=
    Cursor.Passes.exists_of_ahead (hahead.trans (List.append_nil _).symm)
  have he : Significant e.ahead := by
    rw [hend]
    nofun
  obtain ⟨asts, hspells, hrenders⟩ := rulesSpell_of_passes h.nonempty
    (fun entry hmem => h.named _ (List.mem_map_of_mem hmem)) h.patterns hpasses he
  obtain ⟨read, hsame, hread⟩ :=
    hspells.readAst ⟨⟨gap, hgap, hskipped⟩, hspells.significant⟩ hend
  have hrenders := renders_of_sameRules hrenders hsame
  have hnames : read.map (·.name.text) = rules.names := names_of_renders hrenders
  have hvalid : Passes (validate ⟨read⟩) := by
    rw [passes_validate, hnames]
    exact ⟨h.nodup, passes_of_renders hrenders⟩
  obtain ⟨findings, hcompiled⟩ := ofAst_ok.mpr ⟨hvalid, lower_of_renders hrenders h.nodup⟩
  exact ⟨findings, (compile_of_readAst hread).trans hcompiled⟩

theorem compile_display {rules : Rules} (h : rules.Printable) :
    ∃ findings, compile rules.display = .ok ⟨rules.rekeep, findings⟩ :=
  compile_gap_display .nil h rfl

end OperatorPeg.Grammar
