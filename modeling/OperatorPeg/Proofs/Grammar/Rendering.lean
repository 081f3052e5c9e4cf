import OperatorPeg.Proofs.Grammar.Layout
import OperatorPeg.Proofs.Grammar.ParsingRules

/-!
# Grammars written out

Any layout of a grammar is parsed and read as that grammar: the pieces from a place on
spell the part that they are the pieces of, and what they spell is what is read.
-/

namespace OperatorPeg.Grammar

variable {rest : List Piece} {r : Cursor}

/-! ## Tokens and signs -/

theorem Piece.Stands.spells {t : Token} {kind : Piece.Kind} {r' : Cursor}
    (h : (t.piece kind).Stands r r') : t.Spells kind.goesOn r r' := by
  obtain ⟨e, he, hleads, hstop, hspan⟩ := h.passes
  exact ⟨e, he, hleads, hstop, hspan t.span rfl⟩

theorem Piece.Stands.stands {p : Piece} {r' : Cursor} (h : p.Stands r r') :
    Grammar.Stands p.text r r' := by
  obtain ⟨e, he, hleads, -⟩ := h.passes
  exact ⟨e, he, hleads⟩

theorem Lies.cons_inv {p : Piece} (h : Lies (p :: rest) r) :
    ∃ r', p.Stands r r' ∧ Lies rest r' := by
  cases h with
  | cons hp hrest => exact ⟨_, hp, hrest⟩

theorem Lies.sign {text : String} (h : Lies (.sign text :: rest) r) :
    ∃ r', Stands text r r' ∧ Lies rest r' := by
  obtain ⟨r', hp, hrest⟩ := h.cons_inv
  exact ⟨r', hp.stands, hrest⟩

theorem Lies.name {t : Token} (h : Lies (t.piece .name :: rest) r) :
    ∃ r', t.SpellsName r r' ∧ Lies rest r' := by
  obtain ⟨r', hp, hrest⟩ := h.cons_inv
  exact ⟨r', ⟨hp.spells, hp.proper⟩, hrest⟩

theorem Lies.quoted {t : Token} (h : Lies (t.piece .quoted :: rest) r) :
    ∃ r', t.SpellsQuoted '\'' r r' ∧ Lies rest r' := by
  obtain ⟨r', hp, hrest⟩ := h.cons_inv
  exact ⟨r', ⟨hp.spells, hp.proper⟩, hrest⟩

theorem Lies.regex {t : Token} (h : Lies (t.piece .regex :: rest) r) :
    ∃ r', t.SpellsQuoted '`' r r' ∧ Lies rest r' := by
  obtain ⟨r', hp, hrest⟩ := h.cons_inv
  exact ⟨r', ⟨hp.spells, hp.proper⟩, hrest⟩

theorem Lies.signs {sign : Option String} (h : Lies (signPieces sign ++ rest) r) :
    ∃ r', SpellsSign sign r r' ∧ Lies rest r' := by
  cases sign with
  | none => exact ⟨r, rfl, h⟩
  | some text => exact h.sign

theorem Lies.label {label : Option Token} (h : Lies (labelPieces label ++ rest) r) :
    ∃ r', SpellsLabel label r r' ∧ Lies rest r' := by
  cases label with
  | none => exact ⟨r, rfl, h⟩
  | some t =>
      obtain ⟨r₁, hname, h⟩ := h.quoted
      obtain ⟨r', hcolon, h⟩ := h.sign
      exact ⟨r', ⟨r₁, hname, hcolon⟩, h⟩

theorem Lies.precedence {precedence : Option Token}
    (h : Lies (precedencePiece precedence :: rest) r) :
    ∃ r', SpellsPrecedence precedence r r' ∧ Lies rest r' := by
  obtain ⟨r', hp, hrest⟩ := h.cons_inv
  cases precedence with
  | none => exact ⟨r', hp.stands, hrest⟩
  | some t => exact ⟨r', ⟨hp.spells, hp.proper⟩, hrest⟩

/-! ## Choices -/

mutual
theorem Atom.spells_of_lies (atom : Atom) {rest : List Piece} {r : Cursor} (hfull : atom.IsFull)
    (h : Lies (atom.pieces ++ rest) r) : ∃ r', atom.Spells r r' ∧ Lies rest r' := by
  cases atom with
  | regex t =>
      obtain ⟨r', ht, h⟩ := Lies.regex h
      exact ⟨r', .regex ht, h⟩
  | literal t =>
      obtain ⟨r', ht, h⟩ := Lies.quoted h
      exact ⟨r', .literal ht, h⟩
  | rule t =>
      obtain ⟨r', ht, h⟩ := Lies.name h
      exact ⟨r', .rule ht, h⟩
  | group choice =>
      rw [Atom.pieces, List.cons_append, List.append_assoc] at h
      obtain ⟨r₁, hopen, h⟩ := h.sign
      obtain ⟨r₂, hchoice, h⟩ := choice.spells_of_lies hfull h
      obtain ⟨r', hclose, h⟩ := Lies.sign h
      exact ⟨r', .group hopen hchoice hclose, h⟩

theorem Term.spells_of_lies (term : Term) {rest : List Piece} {r : Cursor} (hfull : term.IsFull)
    (h : Lies (term.pieces ++ rest) r) : ∃ r', term.Spells r r' ∧ Lies rest r' := by
  obtain ⟨label, lead, atom, suffix⟩ := term
  rw [Term.pieces, List.append_assoc, List.append_assoc, List.append_assoc] at h
  obtain ⟨r₁, hlabel, h⟩ := h.label
  obtain ⟨r₂, hlead, h⟩ := h.signs
  obtain ⟨r₃, hatom, h⟩ := atom.spells_of_lies hfull h
  obtain ⟨r', hsuffix, h⟩ := h.signs
  exact ⟨r', .term hlabel hlead hatom hsuffix, h⟩

theorem termsSpell_of_lies (terms : List Term) {rest : List Piece} {r : Cursor}
    (hne : terms ≠ []) (hfull : TermsFull terms) (h : Lies (piecesOfTerms terms ++ rest) r) :
    ∃ r', TermsSpell terms r r' ∧ Lies rest r' := by
  cases terms with
  | nil => exact absurd rfl hne
  | cons term terms =>
      rw [piecesOfTerms, List.append_assoc] at h
      obtain ⟨r₁, hterm, h⟩ := term.spells_of_lies hfull.1 h
      cases terms with
      | nil => exact ⟨r₁, .one hterm, h⟩
      | cons next terms =>
          obtain ⟨r', hterms, h⟩ :=
            termsSpell_of_lies (next :: terms) (List.cons_ne_nil _ _) hfull.2 h
          exact ⟨r', .more hterm hterms, h⟩

theorem othersSpell_of_lies (others : List Sequence) {rest : List Piece} {r : Cursor}
    (hfull : SequencesFull others) (h : Lies (piecesOfOthers others ++ rest) r) :
    ∃ r', OthersSpell others r r' ∧ Lies rest r' := by
  match others with
  | [] => exact ⟨r, .none, h⟩
  | ⟨terms⟩ :: others =>
      obtain ⟨⟨hne, hterms⟩, hothers⟩ := hfull
      rw [piecesOfOthers, List.cons_append, List.append_assoc] at h
      obtain ⟨r₁, hslash, h⟩ := h.sign
      obtain ⟨r₂, hterms, h⟩ := termsSpell_of_lies terms hne hterms h
      obtain ⟨r', hothers, h⟩ := othersSpell_of_lies others hothers h
      exact ⟨r', .more hslash hterms hothers, h⟩

theorem Choice.spells_of_lies (choice : Choice) {rest : List Piece} {r : Cursor}
    (hfull : choice.IsFull) (h : Lies (choice.pieces ++ rest) r) :
    ∃ r', choice.Spells r r' ∧ Lies rest r' := by
  match choice with
  | ⟨[]⟩ => exact absurd rfl hfull.1
  | ⟨⟨terms⟩ :: others⟩ =>
      obtain ⟨-, ⟨hne, hterms⟩, hothers⟩ := hfull
      rw [Choice.pieces, List.append_assoc] at h
      obtain ⟨r₁, hterms, h⟩ := termsSpell_of_lies terms hne hterms h
      obtain ⟨r', hothers, h⟩ := othersSpell_of_lies others hothers h
      exact ⟨r', .choice hterms hothers, h⟩
end

/-! ## Rules -/

theorem OperatorDef.spells_of_lies (op : OperatorDef) (hfull : op.pattern.IsFull)
    (h : Lies (op.pieces ++ rest) r) : ∃ r', op.Spells r r' ∧ Lies rest r' := by
  obtain ⟨name, left, right, pattern⟩ := op
  obtain ⟨r₁, hname, h⟩ := Lies.quoted h
  obtain ⟨r₂, hleft, h⟩ := Lies.precedence h
  obtain ⟨r₃, hright, h⟩ := Lies.precedence h
  obtain ⟨r', hpattern, h⟩ := pattern.spells_of_lies hfull h
  exact ⟨r', .operator hname hleft hright hpattern, h⟩

theorem operatorsSpell_of_lies (trailing : Bool) (ops : List OperatorDef)
    (hfull : ∀ op ∈ ops, op.pattern.IsFull)
    (h : Lies (piecesOfOperators trailing ops ++ rest) r) :
    ∃ r', OperatorsSpell ops r r' ∧ Lies rest r' := by
  induction ops generalizing r with
  | nil => exact ⟨r, .none, h⟩
  | cons op ops ih =>
      have hop := hfull op List.mem_cons_self
      cases ops with
      | nil =>
          rw [piecesOfOperators, List.append_assoc] at h
          obtain ⟨r₁, hop, h⟩ := op.spells_of_lies hop h
          cases trailing with
          | false => exact ⟨r₁, .last hop, h⟩
          | true =>
              obtain ⟨r', hcomma, h⟩ := Lies.sign h
              exact ⟨r', .comma hop hcomma .none, h⟩
      | cons next ops =>
          rw [piecesOfOperators, List.append_assoc] at h
          · obtain ⟨r₁, hop, h⟩ := op.spells_of_lies hop h
            obtain ⟨r₂, hcomma, h⟩ := Lies.sign h
            obtain ⟨r', hops, h⟩ := ih (fun op hmem => hfull op (List.mem_cons_of_mem _ hmem)) h
            exact ⟨r', .comma hop hcomma hops, h⟩
          · exact List.cons_ne_nil _ _

theorem Body.spells_of_lies (trailing : Bool) (body : Body) (hfull : body.IsFull)
    (h : Lies (body.pieces trailing ++ rest) r) : ∃ r', body.Spells r r' ∧ Lies rest r' := by
  cases body with
  | choice c =>
      obtain ⟨r', hchoice, h⟩ := c.spells_of_lies hfull h
      exact ⟨r', .choice hchoice, h⟩
  | table t =>
      obtain ⟨⟨start, stop⟩, ops⟩ := t
      rw [Body.pieces, List.cons_append, List.append_assoc] at h
      obtain ⟨r₁, hopen, hafter⟩ := h.cons_inv
      obtain ⟨r₂, hops, hafter⟩ := operatorsSpell_of_lies trailing ops hfull hafter
      obtain ⟨r', hclose, hafter⟩ := Lies.sign hafter
      obtain ⟨e, -, -, -, hspan⟩ := hopen.passes
      obtain rfl : start = r.offset := congrArg Span.start (hspan _ rfl)
      exact ⟨r', .table hopen.stands hops hclose, hafter⟩

theorem RuleDef.spells_of_lies (trailing : Bool) (rule : RuleDef) (hfull : rule.body.IsFull)
    (h : Lies (rule.pieces trailing ++ rest) r) : ∃ r', rule.Spells r r' ∧ Lies rest r' := by
  obtain ⟨name, body⟩ := rule
  obtain ⟨r₁, hname, h⟩ := Lies.name h
  obtain ⟨r₂, harrow, h⟩ := Lies.sign h
  obtain ⟨r', hbody, h⟩ := body.spells_of_lies trailing hfull h
  exact ⟨r', .rule ⟨r₁, hname, harrow⟩ hbody, h⟩

theorem rulesSpell_of_lies {rules : List RuleDef} {pieces : List Piece}
    (hpieces : ArePieces rules pieces) (hne : rules ≠ [])
    (hfull : ∀ rule ∈ rules, rule.body.IsFull) (h : Lies pieces r) :
    ∃ r', RulesSpell rules r r' ∧ r'.ahead = [] := by
  induction hpieces generalizing r with
  | nil => exact absurd rfl hne
  | @cons rule rules pieces trailing hpieces ih =>
      obtain ⟨r₁, hrule, h⟩ :=
        rule.spells_of_lies trailing (hfull rule List.mem_cons_self) h
      cases hpieces with
      | nil =>
          cases h with
          | nil hend => exact ⟨r₁, .one hrule, hend⟩
      | cons =>
          obtain ⟨r', hrules, hend⟩ := ih (List.cons_ne_nil _ _)
            (fun rule hmem => hfull rule (List.mem_cons_of_mem _ hmem)) h
          exact ⟨r', .more hrule hrules, hend⟩

/-! ## Texts -/

/-- A layout of a grammar has a tree, which is read as the grammar. -/
theorem IsLayout.parseTree {ast : Ast} {parts : List (List Char × Piece)} {last : List Char}
    {text : String} (h : IsLayout parts last text.toList) (hfull : ast.IsFull)
    (hpieces : ArePieces ast.rules (parts.map (·.2)))
    (hproper : ∀ part ∈ parts, part.2.IsProper) :
    ∃ tree rules, Grammar.parseTree base text = .ok tree ∧ Ast.ofTree tree = .ok ⟨rules⟩ ∧
      SameRules ast.rules rules := by
  obtain ⟨-, r, hleads, hlies⟩ :=
    lies_of_weave h.blank h.apart h.placed hproper (c := .atStart text.toList) h.text rfl
  obtain ⟨r', hspells, hend⟩ := rulesSpell_of_lies hpieces hfull.rules hfull.bodies hlies
  obtain ⟨tree, rules, htree, hsame, hread⟩ := hspells.parseTree hleads hend
  exact ⟨tree, rules, htree, hread, hsame⟩

/-- **The grammar language inverts every way to write a grammar.** A text that has the tokens of
a grammar in order, with whatever gaps around them, has a tree, which is read as the grammar,
each token where it was written. Only where the extent of a table stops is left open. -/
theorem every_layout_is_read_back {ast : Ast} {parts : List (List Char × Piece)}
    {last : List Char} {text : String} (hfull : ast.IsFull)
    (hpieces : ArePieces ast.rules (parts.map (·.2)))
    (hproper : ∀ part ∈ parts, part.2.IsProper) (hlayout : IsLayout parts last text.toList) :
    ∃ language tree rules, baseLanguage = .ok language ∧
      Grammar.parseTree language text = .ok tree ∧ Ast.ofTree tree = .ok ⟨rules⟩ ∧
      SameRules ast.rules rules := by
  obtain ⟨tree, rules, htree, hread, hsame⟩ := hlayout.parseTree hfull hpieces hproper
  exact ⟨base, tree, rules, baseLanguage_eq, htree, hread, hsame⟩

private def tokenAt (offset : Nat) (text : String) : Token :=
  ⟨text, ⟨offset, offset + text.utf8ByteSize⟩⟩

/-- A table, a label, a group and all kinds of tokens, closely packed. -/
private def sampleText : String := "#'\na->['x'none 2 b,]b->!`c`'d':('e'/b?)\n"

private def sampleAst : Ast :=
  ⟨[⟨tokenAt 3 "a", .table ⟨⟨6, 18⟩, [⟨tokenAt 7 "'x'", none, some (tokenAt 15 "2"),
      ⟨[⟨[⟨none, none, .rule (tokenAt 17 "b"), none⟩]⟩]⟩⟩]⟩⟩,
    ⟨tokenAt 20 "b", .choice ⟨[⟨[⟨none, some .not, .regex (tokenAt 24 "`c`"), none⟩,
      ⟨some (tokenAt 27 "'d'"), none, .group
        ⟨[⟨[⟨none, none, .literal (tokenAt 32 "'e'"), none⟩]⟩,
          ⟨[⟨none, none, .rule (tokenAt 36 "b"), some .optional⟩]⟩]⟩, none⟩]⟩]⟩⟩]⟩

/-- The gaps before the tokens of the sample. -/
private def sampleGaps : List (List Char) :=
  ["#'\n".toList, [], [], [], [], [' '], [' '], [], [], [], [], [], [], [], [], [], [], [], [], [],
    []]

private def sampleParts : List (List Char × Piece) :=
  sampleGaps.zip (sampleAst.rules.flatMap (RuleDef.pieces true))

private theorem sample_isFull : sampleAst.IsFull where
  rules := nofun
  bodies := by
    simp [sampleAst, Body.IsFull, Choice.IsFull, SequencesFull, TermsFull, Term.IsFull,
      Atom.IsFull]

private theorem sample_proper : ∀ part ∈ sampleParts, part.2.IsProper := by
  decide +kernel

private theorem sample_layout : IsLayout sampleParts ['\n'] sampleText.toList where
  text := by decide
  blank := by
    have hgaps : ∀ gap ∈ ['\n'] :: sampleParts.map (·.1),
        gap = [] ∨ gap = [' '] ∨ gap = ['\n'] ∨ gap = '#' :: (['\''] ++ ['\n']) := by decide
    intro gap hgap
    rcases hgaps gap hgap with rfl | rfl | rfl | rfl
    · exact .nil
    · exact .space (by decide) .nil
    · exact .space (by decide) .nil
    · exact .comment (by decide) .nil
  apart := by decide
  placed := by decide

theorem every_layout_is_read_back_sample :
    sampleAst.IsFull ∧ ArePieces sampleAst.rules (sampleParts.map (·.2)) ∧
      (∀ part ∈ sampleParts, part.2.IsProper) ∧ IsLayout sampleParts ['\n'] sampleText.toList ∧
      ∃ language tree rules, baseLanguage = .ok language ∧
        Grammar.parseTree language sampleText = .ok tree ∧ Ast.ofTree tree = .ok ⟨rules⟩ ∧
        SameRules sampleAst.rules rules := by
  have hpieces : ArePieces sampleAst.rules (sampleParts.map (·.2)) :=
    .cons true (.cons true .nil)
  exact ⟨sample_isFull, hpieces, sample_proper, sample_layout,
    every_layout_is_read_back sample_isFull hpieces sample_proper sample_layout⟩

end OperatorPeg.Grammar
