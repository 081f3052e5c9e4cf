import Mathlib.Data.List.Forall2
import OperatorPeg.Proofs.Grammar.Parsing

/-!
# Parsing whole grammars

From choices to operator tables, to rules and to whole texts: a text that spells
rules is read as these rules. Only where the extent that is noted for a table stops is
left open.
-/

namespace OperatorPeg.Grammar

variable {r r₁ r₂ r' : Cursor}

/-! ## Operators -/

theorem parses_precedence {precedence : Option Token} (h : SpellsPrecedence precedence r r') :
    ∃ node, Parses 4 (.lookup "precedence") r node r' ∧ readPrecedence node = .ok precedence := by
  cases precedence with
  | none =>
      have hdigits : Misses 2 (.terminal Base.digits) r := by
        refine Misses.terminal (digits_matchEnd?_of_not fun ch hch => ?_)
        rw [Stands.begins h rfl] at hch
        cases hch
        decide +kernel
      exact ⟨_, .lookup rfl (.choice (.missed hdigits (.chosen (Stands.parses h)))), rfl⟩
  | some t =>
      obtain ⟨e, he, hleads, hstop, hspan⟩ := h.spells.passes
      have hend : Base.digits.matchEnd? [] r = some e :=
        digits_matchEnd? he h.number hstop
      have hparses := Parses.terminal he hend hleads
      rw [String.ofList_toList] at hparses
      refine ⟨_, .lookup rfl (.choice (.chosen hparses)), ?_⟩
      have hnumber : (t.text == "none") = false := by
        rw [beq_eq_false_iff_ne]
        intro hnone
        have hnumber := h.number
        rw [hnone] at hnumber
        revert hnumber
        decide +kernel
      simp [readPrecedence, firstBelow, Tree.unwrapLookup, Tree.children, h.spells.readValue,
        hnumber, bind, Except.bind, pure, Except.pure]

theorem SpellsPrecedence.shorter {precedence : Option Token}
    (h : SpellsPrecedence precedence r r') : r'.ahead.length < r.ahead.length := by
  cases precedence with
  | none => exact Stands.shorter h (by decide)
  | some t =>
      apply h.spells.shorter
      intro hnil
      have hnumber := h.number
      rw [hnil] at hnumber
      cases hnumber

theorem OperatorDef.Spells.shorter {op : OperatorDef} (h : op.Spells r r') :
    r'.ahead.length < r.ahead.length := by
  cases h with
  | operator hname hleft hright hpattern =>
      have hname := hname.shorter
      have hleft := hleft.shorter
      have hright := hright.shorter
      have hpattern := hpattern.shorter
      omega

theorem OperatorsSpell.length_le {ops : List OperatorDef} (h : OperatorsSpell ops r r') :
    r'.ahead.length ≤ r.ahead.length := by
  induction h with
  | none => exact Nat.le_refl _
  | last hop => exact Nat.le_of_lt hop.shorter
  | comma hop hcomma _ ih =>
      have hop := hop.shorter
      have hcomma := hcomma.shorter (by decide)
      omega

theorem OperatorDef.Spells.parses {op : OperatorDef} (h : op.Spells r r') (hends : ChoiceEnds r') :
    ReadsAs (16 * r.ahead.length + 19) (.lookup "operator") readOperator r op r' := by
  cases h with
  | @operator name left right pattern _ r₁ r₂ r₃ _ hname hleft hright hpattern =>
      have hlen₁ := hname.shorter
      have hlen₂ := hleft.shorter
      have hlen₃ := hright.shorter
      obtain ⟨leftNode, hleft, hreadLeft⟩ := parses_precedence hleft
      obtain ⟨rightNode, hright, hreadRight⟩ := parses_precedence hright
      obtain ⟨node, hpattern, hreadPattern⟩ := hpattern.parses hends
      have hsteps : Parses (16 * r.ahead.length + 18) Base.operator r (.sequence r.offset
          [.label r.offset "name" (.lookup r.offset "literal" (.value r.offset name.text)),
            .label r₁.offset "left" leftNode,
            .label r₂.offset "right" rightNode,
            .label r₃.offset "pattern" (.lookup r₃.offset "choice" node)]) r' :=
        .sequence (.step (((parses_literal hname).label "name").mono (by omega))
          (.step ((hleft.label "left").mono (by omega))
            (.step ((hright.label "right").mono (by omega))
              (.step ((hpattern.label "pattern").mono (by omega)) (.done _ _ _ _)))))
      refine ⟨_, hsteps.lookup rfl, fun levels hlevels => ?_⟩
      simp only [Tree.height, Tree.heightOfAll] at hlevels
      rw [readOperator_eq, hname.spells.readToken, hreadLeft, hreadRight,
        hreadPattern levels (by omega)]
      rfl

/-- No operator begins where the table ends. -/
theorem misses_entry (h : r.ahead.head? = some ']') : Misses 7 Base.entry r :=
  have hname : Misses 4 (.label "name" (.lookup "literal")) r :=
    (misses_literal (by rw [h]; decide)).label "name"
  .sequence (.first (.lookup rfl (.sequence (.first hname))))

/-- An operator and the comma behind it, or the lack of one. -/
theorem parses_entry {op : OperatorDef} {comma : Tree} (hop : op.Spells r r₁)
    (hends : ChoiceEnds r₁) (hcomma : Parses 3 (Pattern.ofLiteral ",").optional r₁ comma r') :
    ReadsAs (16 * r.ahead.length + 20) Base.entry readEntry r op r' := by
  obtain ⟨node, hparses, hread⟩ := hop.parses hends
  refine ⟨_, .sequence (.step hparses (.step (hcomma.mono (by omega)) (.done _ _ _ _))),
    fun levels hlevels => ?_⟩
  simp only [Step.skipped, Step.kept, Tree.height, Tree.heightOfAll, if_true, List.reverse_cons,
    List.reverse_nil, List.nil_append, Bool.false_eq_true, if_false] at hlevels ⊢
  simp only [readEntry, firstBelow, Tree.unwrapLookup, Tree.children, bind, Except.bind]
  exact hread levels (by omega)

theorem OperatorsSpell.parses {ops : List OperatorDef} (h : OperatorsSpell ops r r')
    (hends : r'.ahead.head? = some ']') :
    RoundsReadAs (16 * r.ahead.length + 20) Base.entry readEntry r ops r' := by
  induction h with
  | none => exact .nil ((misses_entry hends).mono (by omega))
  | @last op r r' hop =>
      have hclose : ChoiceEnds r' := .inr (.inl ⟨']', by decide, hends⟩)
      have hnoComma : Misses 2 (.ofLiteral ",") r' := .literal rfl (by rw [hends]; decide)
      have hentry := parses_entry hop hclose (.absent hnoComma)
      exact .cons hentry hop.shorter (.nil ((misses_entry hends).mono (by omega)))
  | @comma op ops r r₁ r₂ r' hop hcomma _ ih =>
      have hends' : ChoiceEnds r₁ := .inr (.inl ⟨',', by decide, hcomma.begins rfl⟩)
      have hentry := parses_entry hop hends' (.once hcomma.parses)
      have hshorter := hop.shorter
      have hshorter' := hcomma.shorter (by decide)
      exact .cons hentry (by omega) ((ih hends).mono (by omega))

/-! ## Rules -/

/-- The body with its table, if it is one, stopping elsewhere. -/
def Body.stopAt (stop : Nat) : Body → Body
  | .choice c => .choice c
  | .table t => .table ⟨⟨t.span.start, stop⟩, t.operators⟩

/-- The rule with its table, if it has one, stopping elsewhere. -/
def RuleDef.stopAt (rule : RuleDef) (stop : Nat) : RuleDef := ⟨rule.name, rule.body.stopAt stop⟩

theorem Choice.Spells.begins {choice : Choice} (h : choice.Spells r r') : Begins isTermStart r := by
  cases h with
  | choice hterms _ => exact hterms.begins

theorem parses_table {ops : List OperatorDef} (hopen : Stands "[" r r₁)
    (hops : OperatorsSpell ops r₁ r₂) (hclose : Stands "]" r₂ r') :
    ∃ node, Parses (16 * r.ahead.length + 24) (.lookup "table") r
        (.lookup r.offset "table" node) r' ∧
      ∃ stop, ∀ levels, node.height ≤ levels →
        readTable levels (.lookup r.offset "table" node) = .ok ⟨⟨r.offset, stop⟩, ops⟩ := by
  obtain ⟨trees, hrounds, -, hread⟩ := hops.parses (hclose.begins rfl)
  have hlen := hopen.shorter (by decide)
  let node : Tree := .sequence r.offset [.label r₁.offset "operators" (.quantifier r₁.offset trees)]
  have hsteps : Parses (16 * r.ahead.length + 23) Base.table r node r' :=
    .sequence (.step (hopen.parses.mono (by omega))
      (.step (((Parses.rounds hrounds (Nat.zero_le _)).label "operators").mono (by omega))
        (.step (hclose.parses.mono (by omega)) (.done _ _ _ _))))
  refine ⟨node, hsteps.lookup rfl, node.extent.stop, fun levels hlevels => ?_⟩
  simp only [node, Tree.height, Tree.heightOfAll] at hlevels
  rw [readTable_eq, hread levels (by omega)]
  rfl

theorem Body.Spells.parses {body : Body} (h : body.Spells r r') (hends : ChoiceEnds r') :
    ∃ index key node, Parses (16 * r.ahead.length + 25)
        (.choice [.lookup "table", .lookup "choice"]) r
        (.choice r.offset index (.lookup r.offset key node)) r' ∧
      ∃ stop, ∀ levels, node.height < levels →
        readBody levels (.lookup r.offset key node) = .ok (body.stopAt stop) := by
  cases h with
  | @choice choice _ _ hchoice =>
      obtain ⟨node, hparses, hread⟩ := hchoice.parses hends
      have hnoBracket : Misses 2 (.ofLiteral "[") r :=
        .literal rfl (hchoice.begins.head?_ne (by decide))
      have hnoTable : Misses 4 (.lookup "table") r := .lookup rfl (.sequence (.first hnoBracket))
      refine ⟨1, "choice", node, ?_, 0, fun levels hlevels => ?_⟩
      · exact (Parses.choice (.missed (hnoTable.mono (by omega)) (.chosen hparses))).mono (by omega)
      · show (do return Body.choice (← readChoice levels (.lookup r.offset "choice" node))) = _
        rw [hread levels hlevels]
        rfl
  | @table _ ops _ r₁ r₂ _ hopen hops hclose =>
      obtain ⟨node, hparses, stop, hread⟩ := parses_table hopen hops hclose
      refine ⟨0, "table", node, .choice (.chosen hparses), stop, fun levels hlevels => ?_⟩
      show (do return Body.table (← readTable levels (.lookup r.offset "table" node))) = _
      rw [hread levels (Nat.le_of_lt hlevels)]
      rfl

theorem SpellsHead.shorter {name : Token} (h : SpellsHead name r r') :
    r'.ahead.length < r.ahead.length := by
  obtain ⟨r₁, hname, harrow⟩ := h
  have hname := hname.shorter
  have harrow := harrow.shorter (by decide)
  omega

theorem RuleDef.Spells.shorter {rule : RuleDef} (h : rule.Spells r r') :
    r'.ahead.length < r.ahead.length := by
  cases h with
  | rule hhead hbody =>
      have hhead := hhead.shorter
      cases hbody with
      | choice hchoice => exact Nat.lt_trans hchoice.shorter hhead
      | table hopen hops hclose =>
          have hopen := hopen.shorter (by decide)
          have hops := hops.length_le
          have hclose := hclose.shorter (by decide)
          omega

/-- A rule is taken apart; its table, if it has one, stops where its tree does. -/
theorem RuleDef.Spells.parses {rule : RuleDef} (h : rule.Spells r r') (hends : ChoiceEnds r') :
    ∃ stop,
      ReadsAs (16 * r.ahead.length + 28) (.lookup "rule") readRule r (rule.stopAt stop) r' := by
  cases h with
  | @rule name body _ r₁ _ hhead hbody =>
      have hlen := hhead.shorter
      obtain ⟨r₂, hname, harrow⟩ := hhead
      obtain ⟨index, key, node, hbody, stop, hread⟩ := hbody.parses hends
      have hsteps : Parses (16 * r.ahead.length + 27) Base.rule r (.sequence r.offset
          [.label r.offset "name" (.lookup r.offset "ident" (.value r.offset name.text)),
            .label r₁.offset "body" (.choice r₁.offset index (.lookup r₁.offset key node))]) r' :=
        .sequence (.step (((parses_name hname).label "name").mono (by omega))
          (.step (harrow.parses.mono (by omega))
            (.step ((hbody.label "body").mono (by omega)) (.done _ _ _ _))))
      refine ⟨stop, _, hsteps.lookup rfl, fun levels hlevels => ?_⟩
      simp only [Tree.height, Tree.heightOfAll] at hlevels
      rw [readRule_eq, hname.spells.readToken, hread levels (by omega)]
      rfl

theorem misses_rule (h : r.ahead = []) : Misses 6 (.lookup "rule") r := by
  have hname : Misses 3 (.lookup "ident") r :=
    misses_name fun ch hch => by rw [h] at hch; cases hch
  exact .lookup rfl (.sequence (.first (hname.label "name")))

/-- What follows a rule: nothing, or the head of the next one. -/
theorem RulesSpell.head {rules : List RuleDef} (h : RulesSpell rules r r') :
    ∃ name r₁, SpellsHead name r r₁ := by
  cases h with
  | one hrule =>
      cases hrule with
      | rule hhead _ => exact ⟨_, _, hhead⟩
  | more hrule _ =>
      cases hrule with
      | rule hhead _ => exact ⟨_, _, hhead⟩

/-- The rules, but for where their tables stop. -/
abbrev SameRules : List RuleDef → List RuleDef → Prop :=
  List.Forall₂ fun rule rule' => ∃ stop, rule' = rule.stopAt stop

theorem RulesSpell.parses {rules : List RuleDef} (h : RulesSpell rules r r')
    (hend : r'.ahead = []) :
    ∃ rules', SameRules rules rules' ∧ 0 < rules'.length ∧
      RoundsReadAs (16 * r.ahead.length + 28) (.lookup "rule") readRule r rules' r' := by
  induction h with
  | @one rule r r' hrule =>
      obtain ⟨stop, hread⟩ := hrule.parses (.inl hend)
      refine ⟨[rule.stopAt stop], .cons ⟨stop, rfl⟩ .nil, Nat.one_pos, ?_⟩
      exact .cons hread hrule.shorter (.nil ((misses_rule hend).mono (by omega)))
  | @more rule rules r r₁ r' hrule hrules ih =>
      obtain ⟨stop, hread⟩ := hrule.parses (.inr (.inr hrules.head))
      obtain ⟨rules', hsame, -, hrest⟩ := ih hend
      have hshorter := hrule.shorter
      refine ⟨rule.stopAt stop :: rules', .cons ⟨stop, rfl⟩ hsame, Nat.succ_pos _, ?_⟩
      exact .cons hread hshorter (hrest.mono (by omega))

/-! ## Texts -/

/-- The layers of a parse grow with the text. -/
theorem le_layersFor (text : String) :
    28 * text.length + 30 ≤ layersFor base .unlimited (.rule startRule) text := by
  have hsize : base.size = 13 := rfl
  have hheight : 1 ≤ max base.height (Start.rule startRule).height + 1 := Nat.le_add_left _ _
  -- heights are no less than one, so the product is no less than the other factor
  have hmul := Nat.mul_le_mul_right (28 * text.length + 30) hheight
  have hcalls : 2 * (base.size + 1) * (text.length + 1) + 2 = 28 * text.length + 30 := by
    rw [hsize]
    omega
  simp only [layersFor, Limits.unlimited, Option.getD_none, Nat.mul_zero, Nat.add_zero, hcalls]
  omega

/-- What the pattern of a rule makes of a whole text is what parsing comes to. -/
theorem parseTree_of_parses {text : String} {p : Pattern} {tree : Tree} {n : Nat}
    (hget : base.get? startRule = some p) (hstart : Leads (.atStart text.toList) r)
    (hparses : Parses n p r tree r') (hend : r'.ahead = []) (hn : n ≤ 28 * text.length + 30) :
    parseTree base text = .ok tree := by
  let layers := layersFor base .unlimited (.rule startRule) text
  have hlayers : 28 * text.length + 30 ≤ layers := le_layersFor text
  let entered := (State.start (.atStart text.toList) none).add (.entered startRule 0)
  have hentered : entered.At (.atStart text.toList) := ⟨rfl, rfl, rfl⟩
  obtain ⟨c', hc', hyields⟩ := hparses _ hstart
  obtain ⟨s, hmatch, hat⟩ := hyields layers (by omega) .outermost rfl entered hentered
  replace hmatch : matchPattern reading layers .outermost p entered = some ⟨some tree, s⟩ := hmatch
  let left := s.add (.left startRule (some s.cursor.offset))
  obtain ⟨s', hskip, hat'⟩ :=
    (hc'.skips_of_le (Nat.le_refl 1)) layers (by omega) .outermost rfl left (hat.add _)
  have hconclude : conclude (matchPattern reading layers) reading ⟨some tree, left⟩
      = some ⟨.ok tree, s'.events.reverse⟩ := by
    simp only [conclude, hskip, hat'.isAborted, hat'.cursor, hend, List.isEmpty_nil, Bool.not_false,
      Bool.and_self, if_true]
  have hparse : parse base .unlimited (.rule startRule) text
      = some ⟨.ok tree, s'.events.reverse⟩ := by
    show parseWindow layers base .unlimited (.rule startRule) (.ofRange _ _ _) = _
    rw [Window.ofRange_whole]
    simp only [parseWindow, hget]
    show (matchPattern reading layers .outermost p entered).bind _ = _
    rw [hmatch]
    exact hconclude
  rw [parseTree, hparse]
  rfl

/-- A text that spells rules has a tree, which is read as these rules. -/
theorem RulesSpell.parseTree {text : String} {rules : List RuleDef} (h : RulesSpell rules r r')
    (hstart : Leads (.atStart text.toList) r) (hend : r'.ahead = []) :
    ∃ tree rules', Grammar.parseTree base text = .ok tree ∧ SameRules rules rules' ∧
      Ast.ofTree tree = .ok ⟨rules'⟩ := by
  obtain ⟨rules', hsame, hpos, trees, hrounds, hcount, hread⟩ := h.parses hend
  have hlength : r.ahead.length ≤ text.length := by
    have hreaches := hstart.reaches.length_le
    rwa [Cursor.atStart, String.length_toList] at hreaches
  have hparses := Parses.rounds hrounds (show 1 ≤ trees.length by omega)
  refine ⟨_, rules', parseTree_of_parses rfl hstart hparses hend (by omega), hsame, ?_⟩
  show (do return ⟨← trees.mapM _⟩ : Except Malformed Ast) = _
  rw [hread _ (by simp [Tree.height])]
  rfl

/-- A text is read as its tree is. -/
theorem readAst_of_parseTree {text : String} {tree : Tree} {ast : Ast}
    (htree : parseTree base text = .ok tree) (hread : Ast.ofTree tree = .ok ast) :
    readAst base text = .ok ast := by
  rw [readAst, htree]
  show (Ast.ofTree tree).mapError _ = _
  rw [hread]
  rfl

/-- Compiling a text comes to what is made of it as it is read. -/
theorem compile_of_readAst {text : String} {ast : Ast} (h : readAst base text = .ok ast) :
    compile text = ofAst ast := by
  rw [compile_eq, compileWith, h]
  rfl

/-- A text that spells rules is read as these rules. -/
theorem RulesSpell.readAst {text : String} {rules : List RuleDef} (h : RulesSpell rules r r')
    (hstart : Leads (.atStart text.toList) r) (hend : r'.ahead = []) :
    ∃ rules', SameRules rules rules' ∧ Grammar.readAst base text = .ok ⟨rules'⟩ := by
  obtain ⟨tree, rules', htree, hsame, hread⟩ := h.parseTree hstart hend
  exact ⟨rules', hsame, readAst_of_parseTree htree hread⟩

end OperatorPeg.Grammar
