import OperatorPeg.Proofs.Grammar.Reader
import OperatorPeg.Proofs.Grammar.Spelling

/-!
# Parsing what is spelled

The base rules take a text apart into the parts that it spells, and the tree is read
as these parts.
-/

namespace OperatorPeg.Grammar

variable {r r₁ r₂ r' : Cursor}

/-! ## Tokens -/

theorem Token.Spells.readValue {t : Token} {goesOn : Char → Bool} (h : t.Spells goesOn r r')
    (what : String) : Grammar.readToken what (.value r.offset t.text) = .ok t := by
  obtain ⟨e, he, -, -, hspan⟩ := h.passes
  obtain ⟨text, span⟩ := t
  simp only at hspan he
  simp only [Grammar.readToken, Tree.unwrapLookup, ← Text.byteLength_toList, hspan, he.offset]

theorem Token.Spells.readToken {t : Token} {goesOn : Char → Bool} (h : t.Spells goesOn r r')
    (what key : String) :
    Grammar.readToken what (.lookup r.offset key (.value r.offset t.text)) = .ok t :=
  h.readValue what

/-- A rule that is a terminal, at a token. -/
theorem parses_token {t : Token} {goesOn : Char → Bool} {terminal : Terminal} {key : String}
    (h : t.Spells goesOn r r') (hget : base.get? key = some (.terminal terminal))
    (hend : ∀ e, r.Passes t.text.toList e →
      (∀ ch, e.ahead.head? = some ch → goesOn ch = false) → terminal.matchEnd? [] r = some e) :
    Parses 3 (.lookup key) r (.lookup r.offset key (.value r.offset t.text)) r' := by
  obtain ⟨e, he, hleads, hstop, -⟩ := h.passes
  have hparses := Parses.terminal he (hend e he hstop) hleads
  rw [String.ofList_toList] at hparses
  exact hparses.lookup hget

theorem parses_name {t : Token} (h : t.SpellsName r r') :
    Parses 3 (.lookup "ident") r (.lookup r.offset "ident" (.value r.offset t.text)) r' :=
  parses_token h.spells rfl fun _ he hstop => name_matchEnd? he h.name hstop

theorem misses_name (h : ∀ ch, r.ahead.head? = some ch → isNameStart ch = false) :
    Misses 3 (.lookup "ident") r :=
  .lookup rfl (.terminal (name_matchEnd?_of_not h))

theorem Token.SpellsQuoted.matchEnd? {t : Token} {delimiter : Char}
    (h : t.SpellsQuoted delimiter r r') {e : Cursor} (he : r.Passes t.text.toList e)
    (hstop : ∀ ch, e.ahead.head? = some ch → (ch == delimiter) = false) :
    (quotedMeaning delimiter).matchEnd? [] r = some e := by
  obtain ⟨text, htext⟩ := h.quoted
  rw [htext, Text.quote, String.toList_ofList] at he
  apply quoted_matchEnd? he
  intro heq
  have := hstop delimiter heq
  simp at this

theorem parses_literal {t : Token} (h : t.SpellsQuoted '\'' r r') :
    Parses 3 (.lookup "literal") r (.lookup r.offset "literal" (.value r.offset t.text)) r' :=
  parses_token h.spells rfl fun _ => h.matchEnd?

theorem misses_literal (h : r.ahead.head? ≠ some '\'') : Misses 3 (.lookup "literal") r :=
  .lookup rfl (.terminal (quoted_matchEnd?_of_ne h))

theorem parses_regex {t : Token} (h : t.SpellsQuoted '`' r r') :
    Parses 3 (.lookup "regex") r (.lookup r.offset "regex" (.value r.offset t.text)) r' :=
  parses_token h.spells rfl fun _ => h.matchEnd?

theorem misses_regex (h : r.ahead.head? ≠ some '`') : Misses 3 (.lookup "regex") r :=
  .lookup rfl (.terminal (quoted_matchEnd?_of_ne h))

theorem Stands.parses {text : String} (h : Stands text r r') :
    Parses 2 (.ofLiteral text) r (.value r.offset text) r' :=
  let ⟨_, he, hleads⟩ := h.passes
  .literal he hleads

/-! ## Parts of a term -/

/-- A label with its colon, or the lack of one. -/
theorem SpellsLabel.parses {label : Option Token} (h : SpellsLabel label r r₁)
    (hnone : label = none → Misses 4 Base.labelling r) :
    ∃ entries, Parses 6 (.label "label" Base.labelling.optional) r
        (.label r.offset "label" (.quantifier r.offset entries)) r₁ ∧
      ∀ rest, readLabel? (.sequence r.offset
        (.label r.offset "label" (.quantifier r.offset entries) :: rest)) = .ok label := by
  cases label with
  | none =>
      cases h
      exact ⟨[], .label "label" (.absent (hnone rfl)), fun _ => rfl⟩
  | some t =>
      obtain ⟨r₂, hname, hcolon⟩ := h
      have hentry : Parses 4 Base.labelling r
          (.sequence r.offset [.lookup r.offset "literal" (.value r.offset t.text)]) r₁ :=
        .sequence (.step (parses_literal hname)
          (.step (hcolon.parses.mono (by omega)) (.done _ _ _ _)))
      refine ⟨_, .label "label" (.once hentry), fun _ => ?_⟩
      have hread := hname.spells.readToken "label name" "literal"
      simp [readLabel?, labelled, Tree.findLabel?, Tree.findLabelIn?, rounds, Tree.unwrapLookup,
        firstBelow, Tree.children, hread, bind, Except.bind, pure, Except.pure]

/-- A choice of signs, at one of them. -/
theorem parses_signs {signs : List String} (hsigns : ∀ s ∈ signs, ∃ ch, s.toList = [ch])
    {sign : String} (hmem : sign ∈ signs) (h : Stands sign r r₁) (offset index : Nat) :
    ∃ chosen, AlternativesParse 2 offset index (signs.map .ofLiteral) r
      (.choice offset chosen (.value r.offset sign)) r₁ := by
  induction signs generalizing index with
  | nil => cases hmem
  | cons s signs ih =>
      by_cases heq : s = sign
      · subst heq
        exact ⟨index, .chosen h.parses⟩
      · -- each sign is one character, so another one is missed at its first
        have hmem' : sign ∈ signs := (List.mem_cons.mp hmem).resolve_left fun h => heq h.symm
        obtain ⟨chosen, hchosen⟩ :=
          ih (fun t ht => hsigns t (List.mem_cons_of_mem s ht)) hmem' (index + 1)
        obtain ⟨ch, hch⟩ := hsigns s List.mem_cons_self
        obtain ⟨ch', hch'⟩ := hsigns sign hmem
        have hmiss : Misses 2 (.ofLiteral s) r := by
          apply Misses.literal (by rw [hch]; rfl : s.toList.head? = some ch)
          rw [h.begins (by rw [hch']; rfl : sign.toList.head? = some ch')]
          rintro hsame
          cases hsame
          exact heq (String.toList_inj.mp (hch.trans hch'.symm))
        exact ⟨chosen, .missed hmiss hchosen⟩

/-- A sign, or the lack of one. -/
theorem SpellsSign.parses {signs : List String} (hsigns : ∀ s ∈ signs, ∃ ch, s.toList = [ch])
    {sign : Option String} (h : SpellsSign sign r r₁) (hmem : ∀ s, sign = some s → s ∈ signs)
    (hnone : sign = none → ∀ s ∈ signs, Misses 2 (.ofLiteral s) r) :
    ∃ rounds, Parses 4 (Pattern.choice (signs.map .ofLiteral)).optional r
        (.quantifier r.offset rounds) r₁ ∧
      readSymbol? (.quantifier r.offset rounds) = .ok sign := by
  cases sign with
  | none =>
      cases h
      refine ⟨[], .absent (.choice ?_), rfl⟩
      intro p hp
      obtain ⟨s, hs, rfl⟩ := List.mem_map.mp hp
      exact hnone rfl s hs
  | some s =>
      obtain ⟨chosen, hchosen⟩ := parses_signs hsigns (hmem s rfl) h r.offset 0
      exact ⟨_, .once (.choice hchosen), rfl⟩

/-! ## How parts begin and what may follow them -/

/-- The characters that an atom begins with. -/
def isAtomStart (ch : Char) : Bool := ch == '`' || ch == '\'' || ch == '(' || isNameStart ch

/-- The characters that a term begins with. -/
def isTermStart (ch : Char) : Bool := isAtomStart ch || ch == '!' || ch == '&'

/-- No sign of repetition, no colon and no arrow follows. -/
def Follows (r : Cursor) : Prop :=
  ∀ ch, r.ahead.head? = some ch → ch ∉ [':', '?', '*', '+', '-']

theorem isNameStart_not_mark {ch : Char} (h : isNameStart ch = true) :
    ch ∉ [':', '?', '*', '+', '-', '\'', '`', '(', '!', '&', '[', ']', ')', '/', ','] := by
  intro hmem
  simp only [List.mem_cons, List.not_mem_nil, or_false] at hmem
  rcases hmem with rfl | rfl | rfl | rfl | rfl | rfl | rfl | rfl | rfl | rfl | rfl | rfl | rfl |
    rfl | rfl <;> revert h <;> decide

theorem Atom.Spells.begins {atom : Atom} (h : atom.Spells r r') : Begins isAtomStart r := by
  cases h with
  | regex ht => exact ⟨_, ht.begins, rfl⟩
  | literal ht => exact ⟨_, ht.begins, rfl⟩
  | rule ht =>
      obtain ⟨ch, hch, hstart⟩ := ht.begins
      exact ⟨ch, hch, by simp [isAtomStart, hstart]⟩
  | group hopen => exact ⟨'(', hopen.begins rfl, rfl⟩

theorem Term.Spells.begins {term : Term} (h : term.Spells r r') : Begins isTermStart r := by
  cases h with
  | @term label lead atom suffix r r₁ r₂ _ _ hlabel hlead hatom _ =>
      cases label with
      | some t =>
          obtain ⟨_, hname, -⟩ := hlabel
          exact ⟨_, hname.begins, rfl⟩
      | none =>
          cases hlabel
          cases lead with
          | none =>
              cases hlead
              obtain ⟨ch, hch, hstart⟩ := hatom.begins
              exact ⟨ch, hch, by simp [isTermStart, hstart]⟩
          | some lead => cases lead <;> exact ⟨_, Stands.begins hlead rfl, rfl⟩

theorem isTermStart_not_mark {ch : Char} (h : isTermStart ch = true) :
    ch ∉ [':', '?', '*', '+', '-', '[', ']', ')', '/', ','] := by
  simp only [isTermStart, isAtomStart, Bool.or_eq_true, beq_iff_eq] at h
  rcases h with (((((rfl | rfl) | rfl) | h) | rfl) | rfl)
  · decide
  · decide
  · decide
  · intro hmem
    exact isNameStart_not_mark h (by simp only [List.mem_cons] at hmem ⊢; grind)
  · decide
  · decide

theorem TermsSpell.begins {terms : List Term} (h : TermsSpell terms r r') :
    Begins isTermStart r := by
  cases h with
  | one hterm => exact hterm.begins
  | more hterm _ => exact hterm.begins

theorem Term.Spells.follows {term : Term} (h : term.Spells r r') : Follows r := by
  intro ch hch
  obtain ⟨ch', hch', hstart⟩ := h.begins
  cases hch'.symm.trans hch
  intro hmem
  exact isTermStart_not_mark hstart (by simp only [List.mem_cons] at hmem ⊢; grind)

/-! ## Terms -/

theorem misses_labelling_of_ne (h : r.ahead.head? ≠ some '\'') : Misses 4 Base.labelling r :=
  .sequence (.first (misses_literal h))

/-- A literal without a colon behind it is no label. -/
theorem misses_labelling_of_literal {t : Token} (ht : t.SpellsQuoted '\'' r r₁)
    (h : r₁.ahead.head? ≠ some ':') : Misses 4 Base.labelling r :=
  .sequence (.later (parses_literal ht) (.first ((Misses.literal rfl h).mono (by omega))))

theorem Follows.head?_ne (h : Follows r) {ch : Char} (hch : ch ∈ [':', '?', '*', '+', '-']) :
    r.ahead.head? ≠ some ch := fun heq => h ch heq hch

/-- Where a term has no label, none is found. -/
theorem misses_labelling {lead : Option Prefix} {atom : Atom} {suffix : Option Suffix}
    {r₃ : Cursor} (hlead : SpellsSign (lead.map Prefix.sign) r r₂) (hatom : atom.Spells r₂ r₃)
    (hsuffix : SpellsSign (suffix.map Suffix.sign) r₃ r') (hfollows : Follows r') :
    Misses 4 Base.labelling r := by
  cases lead with
  | some lead =>
      apply misses_labelling_of_ne
      cases lead <;> rw [Stands.begins hlead rfl] <;> decide
  | none =>
      cases hlead
      cases hatom with
      | literal ht =>
          -- a label would have a colon behind it
          apply misses_labelling_of_literal ht
          cases suffix with
          | none =>
              cases hsuffix
              exact hfollows.head?_ne (by decide)
          | some suffix => cases suffix <;> rw [Stands.begins hsuffix rfl] <;> decide
      | regex ht =>
          apply misses_labelling_of_ne
          rw [ht.begins]
          decide
      | rule ht => exact misses_labelling_of_ne (ht.begins.head?_ne (by decide))
      | group hopen =>
          apply misses_labelling_of_ne
          rw [hopen.begins rfl]
          decide

/-- The sign before an atom. -/
theorem parses_lead {lead : Option Prefix} {atom : Atom} {r₃ : Cursor}
    (h : SpellsSign (lead.map Prefix.sign) r r₂) (hatom : atom.Spells r₂ r₃) :
    ∃ rounds, Parses 4 Base.lead.optional r (.quantifier r.offset rounds) r₂ ∧
      readLead? (.quantifier r.offset rounds) = .ok lead := by
  have hsigns : ∀ s ∈ ["!", "&"], ∃ ch, s.toList = [ch] := by
    simp only [List.forall_mem_cons]
    exact ⟨⟨'!', rfl⟩, ⟨'&', rfl⟩, nofun⟩
  have hmem : ∀ s, lead.map Prefix.sign = some s → s ∈ ["!", "&"] := by
    rintro s hs
    obtain ⟨l, -, rfl⟩ := Option.map_eq_some_iff.mp hs
    cases l <;> decide
  have hnone : lead.map Prefix.sign = none → ∀ s ∈ ["!", "&"], Misses 2 (.ofLiteral s) r := by
    intro hl
    rw [hl] at h
    cases h
    have hbegins := hatom.begins
    simp only [List.forall_mem_cons]
    exact ⟨.literal rfl (hbegins.head?_ne (by decide)),
      .literal rfl (hbegins.head?_ne (by decide)), nofun⟩
  obtain ⟨rounds, hparses, hread⟩ := h.parses hsigns hmem hnone
  refine ⟨rounds, hparses, ?_⟩
  rw [readLead?, hread]
  cases lead with
  | none => rfl
  | some lead => cases lead <;> rfl

/-- The sign behind an atom. -/
theorem parses_suffix {suffix : Option Suffix} (h : SpellsSign (suffix.map Suffix.sign) r r')
    (hfollows : Follows r') :
    ∃ rounds, Parses 4 Base.suffix.optional r (.quantifier r.offset rounds) r' ∧
      readSuffix? (.quantifier r.offset rounds) = .ok suffix := by
  have hsigns : ∀ s ∈ ["?", "*", "+"], ∃ ch, s.toList = [ch] := by
    simp only [List.forall_mem_cons]
    exact ⟨⟨'?', rfl⟩, ⟨'*', rfl⟩, ⟨'+', rfl⟩, nofun⟩
  have hmem : ∀ s, suffix.map Suffix.sign = some s → s ∈ ["?", "*", "+"] := by
    rintro s hs
    obtain ⟨l, -, rfl⟩ := Option.map_eq_some_iff.mp hs
    cases l <;> decide
  have hnone : suffix.map Suffix.sign = none →
      ∀ s ∈ ["?", "*", "+"], Misses 2 (.ofLiteral s) r := by
    intro hl
    rw [hl] at h
    cases h
    simp only [List.forall_mem_cons]
    exact ⟨.literal rfl (hfollows.head?_ne (by decide)),
      .literal rfl (hfollows.head?_ne (by decide)),
      .literal rfl (hfollows.head?_ne (by decide)), nofun⟩
  obtain ⟨rounds, hparses, hread⟩ := h.parses hsigns hmem hnone
  refine ⟨rounds, hparses, ?_⟩
  rw [readSuffix?, hread]
  cases suffix with
  | none => rfl
  | some suffix => cases suffix <;> rfl

/-- A term is taken apart, given that its atom is. -/
theorem parses_term {label : Option Token} {lead : Option Prefix} {atom : Atom}
    {suffix : Option Suffix} {r₃ : Cursor} (hlabel : SpellsLabel label r r₁)
    (hlead : SpellsSign (lead.map Prefix.sign) r₁ r₂) (hatom : atom.Spells r₂ r₃)
    (hsuffix : SpellsSign (suffix.map Suffix.sign) r₃ r') (hfollows : Follows r') {n : Nat}
    {tree : Tree} (hn : 5 ≤ n) (hparses : Parses (n + 1) (.lookup "atom") r₂ tree r₃) :
    ∃ node, Parses (n + 4) (.lookup "term") r (.lookup r.offset "term" node) r' ∧
      tree.height < node.height ∧
      ∀ readChoice, readAtom readChoice tree = .ok atom →
        readTerm readChoice (.lookup r.offset "term" node) = .ok ⟨label, lead, atom, suffix⟩ := by
  have hmiss : label = none → Misses 4 Base.labelling r := by
    rintro rfl
    cases hlabel
    exact misses_labelling hlead hatom hsuffix hfollows
  obtain ⟨entries, hlabel, hreadLabel⟩ := hlabel.parses hmiss
  obtain ⟨leads, hlead, hreadLead⟩ := parses_lead hlead hatom
  obtain ⟨signs, hsuffix, hreadSuffix⟩ := parses_suffix hsuffix hfollows
  have hsteps : Parses (n + 3) Base.term r (.sequence r.offset
      [.label r.offset "label" (.quantifier r.offset entries),
        .label r₁.offset "prefix" (.quantifier r₁.offset leads),
        .label r₂.offset "atom" tree,
        .label r₃.offset "suffix" (.quantifier r₃.offset signs)]) r' :=
    .sequence (.step (hlabel.mono (by omega))
      (.step ((hlead.label "prefix").mono (by omega))
        (.step (hparses.label "atom")
          (.step ((hsuffix.label "suffix").mono (by omega)) (.done _ _ _ _)))))
  refine ⟨_, hsteps.lookup rfl, ?_, ?_⟩
  · simp only [Tree.height, Tree.heightOfAll]
    omega
  · intro readChoice hread
    rw [readTerm_eq, hreadLabel, hreadLead, hreadSuffix, hread]
    rfl

/-! ## Where sequences and choices end -/

/-- A sequence ends at the end of the text, at one of the marks, and at the head of a rule. -/
def Quits (marks : List Char) (r : Cursor) : Prop :=
  r.ahead = [] ∨ (∃ ch ∈ marks, r.ahead.head? = some ch) ∨ ∃ name r', SpellsHead name r r'

abbrev SequenceEnds (r : Cursor) : Prop := Quits ['/', ')', ',', ']'] r

abbrev ChoiceEnds (r : Cursor) : Prop := Quits [')', ',', ']'] r

theorem Quits.mono {marks marks' : List Char} (h : Quits marks r) (hsub : marks ⊆ marks') :
    Quits marks' r := by
  rcases h with h | ⟨ch, hch, h⟩ | h
  · exact .inl h
  · exact .inr (.inl ⟨ch, hsub hch, h⟩)
  · exact .inr (.inr h)

/-- The character there, if it is not the end, is one of the marks or begins a name. -/
theorem Quits.mem {marks : List Char} (h : Quits marks r) {ch : Char}
    (hch : r.ahead.head? = some ch) : ch ∈ marks ∨ isNameStart ch = true := by
  rcases h with h | ⟨ch', hmem, h⟩ | ⟨name, r', r₁, hname, -⟩
  · rw [h] at hch
    cases hch
  · cases h.symm.trans hch
    exact .inl hmem
  · obtain ⟨ch', hch', hstart⟩ := hname.begins
    cases hch'.symm.trans hch
    exact .inr hstart

theorem Quits.head?_ne {marks : List Char} (h : Quits marks r) {ch : Char} (hch : ch ∉ marks)
    (hname : isNameStart ch = false) : r.ahead.head? ≠ some ch := by
  intro heq
  rcases h.mem heq with hmem | hstart
  · exact hch hmem
  · rw [hname] at hstart
    cases hstart

theorem Quits.follows (h : SequenceEnds r) : Follows r := by
  intro ch hch
  rcases h.mem hch with hmem | hstart
  · have hother : ['/', ')', ',', ']'].all (· ∉ [':', '?', '*', '+', '-']) = true := by decide
    exact of_decide_eq_true (List.all_eq_true.mp hother ch hmem)
  · intro hmark
    exact isNameStart_not_mark hstart (by simp only [List.mem_cons] at hmark ⊢; grind)

/-- A term that is a name is not the head of a rule. -/
theorem misses_head {term : Term} (h : term.Spells r r') (hfollows : Follows r') :
    Misses 4 Base.head r := by
  have hother : ∀ {ch}, r.ahead.head? = some ch → isNameStart ch = false →
      Misses 4 Base.head r := fun hch hstart =>
    .sequence (.first (misses_name fun ch' hch' => by
      rwa [← Option.some.inj (hch.symm.trans hch')]))
  cases h with
  | @term label lead atom suffix _ _ _ r₃ _ hlabel hlead hatom hsuffix =>
      cases label with
      | some t =>
          obtain ⟨_, hname, -⟩ := hlabel
          exact hother hname.begins (by decide)
      | none =>
          cases hlabel
          cases lead with
          | some lead => cases lead <;> exact hother (Stands.begins hlead rfl) (by decide)
          | none =>
              cases hlead
              cases hatom with
              | regex ht => exact hother ht.begins (by decide)
              | literal ht => exact hother ht.begins (by decide)
              | group hopen => exact hother (hopen.begins rfl) (by decide)
              | rule ht =>
                  -- a name, but no arrow behind it
                  have harrow : r₃.ahead.head? ≠ some '-' := by
                    cases suffix with
                    | none =>
                        cases hsuffix
                        exact hfollows.head?_ne (by decide)
                    | some suffix => cases suffix <;> rw [Stands.begins hsuffix rfl] <;> decide
                  exact .sequence (.later (parses_name ht)
                    (.first ((Misses.literal rfl harrow).mono (by omega))))

/-- No term begins here. -/
theorem misses_term (h : ∀ ch, r.ahead.head? = some ch → isTermStart ch = false) :
    Misses 8 (.lookup "term") r := by
  have hne : ∀ {ch}, isTermStart ch = true → r.ahead.head? ≠ some ch := fun hstart heq => by
    rw [h _ heq] at hstart
    cases hstart
  have hatom : Misses 4 Base.atom r := by
    refine .choice ?_
    simp only [List.forall_mem_cons]
    refine ⟨misses_regex (hne (by decide)), misses_literal (hne (by decide)),
      .sequence (.first (.literal rfl (hne (by decide)))), misses_name ?_, nofun⟩
    intro ch hch
    have hstart := h ch hch
    simp only [isTermStart, isAtomStart, Bool.or_eq_false_iff] at hstart
    exact hstart.1.1.2
  have hlead : Misses 3 Base.lead r := by
    refine .choice ?_
    simp only [List.forall_mem_cons]
    exact ⟨.literal rfl (hne (by decide)), .literal rfl (hne (by decide)), nofun⟩
  have hlabel : Misses 4 Base.labelling r := misses_labelling_of_ne (hne (by decide))
  -- without a label and a sign the first two steps take nothing
  have hfirst : Parses 6 (.label "label" Base.labelling.optional) r _ r :=
    (Parses.absent hlabel).label "label"
  have hsecond : Parses 6 (.label "prefix" Base.lead.optional) r _ r :=
    ((Parses.absent hlead).label "prefix").mono (by omega)
  have hthird : Misses 6 (.label "atom" (.lookup "atom")) r :=
    (Misses.lookup rfl hatom).label "atom"
  exact .lookup rfl (.sequence (.later hfirst (.later hsecond (.first hthird))))

theorem isTermStart_of_quits {marks : List Char} (h : Quits marks r)
    (hmarks : marks.all (!isTermStart ·) = true) (hhead : ¬ ∃ name r', SpellsHead name r r')
    (ch : Char) (hch : r.ahead.head? = some ch) : isTermStart ch = false := by
  rcases h with h | ⟨ch', hmem, h⟩ | h
  · rw [h] at hch
    cases hch
  · cases h.symm.trans hch
    exact (Bool.not_eq_true' _).mp (List.all_eq_true.mp hmarks _ hmem)
  · exact absurd h hhead

/-- A sequence does not go on where it ends. -/
theorem misses_element (h : SequenceEnds r) : Misses 9 Base.element r := by
  -- the next rule's name would be a term, were it not for the look ahead
  by_cases hhead : ∃ name r', SpellsHead name r r'
  · obtain ⟨name, r', r₁, hname, harrow⟩ := hhead
    have hparses : Parses 4 Base.head r
        (.sequence r.offset [.lookup r.offset "ident" (.value r.offset name.text)]) r' :=
      .sequence (.step (parses_name hname)
        (.step (harrow.parses.mono (by omega)) (.done _ _ _ _)))
    have hmiss : Misses 6 Base.element r := .sequence (.first (.notAhead hparses))
    exact hmiss.mono (by omega)
  · have hterm := isTermStart_of_quits h (by decide) hhead
    have hnoHead : Misses 4 Base.head r := by
      refine .sequence (.first (misses_name fun ch hch => ?_))
      have hstart := hterm ch hch
      simp only [isTermStart, isAtomStart, Bool.or_eq_false_iff] at hstart
      exact hstart.1.1.2
    exact .sequence (.later ((Parses.notAhead hnoHead).mono (by omega))
      (.first (misses_term hterm)))

/-! ## What is read -/

theorem mapM_cons_ok {α β ε : Type} {f : α → Except ε β} {x : α} {xs : List α} {y : β}
    {ys : List β} (h : f x = .ok y) (hrest : xs.mapM f = .ok ys) :
    (x :: xs).mapM f = .ok (y :: ys) := by
  rw [List.mapM_cons, h, hrest]
  rfl

section Reading

variable {α : Type} {n m : Nat} {p : Pattern} {read : Nat → Tree → Except Malformed α} {x : α}
  {xs : List α}

/-- The pattern takes this part of the text apart, and the tree is read as `x` by any
number of levels that its height does not exceed. -/
def ReadsAs (n : Nat) (p : Pattern) (read : Nat → Tree → Except Malformed α) (r : Cursor) (x : α)
    (r' : Cursor) : Prop :=
  ∃ tree, Parses n p r tree r' ∧ ∀ levels, tree.height ≤ levels → read levels tree = .ok x

/-- Rounds of the pattern take this part of the text apart, one for each of `xs`. -/
def RoundsReadAs (n : Nat) (p : Pattern) (read : Nat → Tree → Except Malformed α) (r : Cursor)
    (xs : List α) (r' : Cursor) : Prop :=
  ∃ trees, RoundsParse n p r trees r' ∧ trees.length = xs.length ∧
    ∀ levels, Tree.heightOfAll trees ≤ levels → trees.mapM (read levels) = .ok xs

theorem ReadsAs.mono (h : ReadsAs n p read r x r') (hn : n ≤ m) : ReadsAs m p read r x r' := by
  obtain ⟨tree, hparses, hread⟩ := h
  exact ⟨tree, hparses.mono hn, hread⟩

theorem RoundsReadAs.mono (h : RoundsReadAs n p read r xs r') (hn : n ≤ m) :
    RoundsReadAs m p read r xs r' := by
  obtain ⟨trees, hrounds, hlength, hread⟩ := h
  exact ⟨trees, hrounds.mono hn, hlength, hread⟩

theorem RoundsReadAs.nil (h : Misses n p r) : RoundsReadAs n p read r [] r :=
  ⟨[], .done h, rfl, fun _ _ => rfl⟩

/-- One more round, over some of the text. -/
theorem RoundsReadAs.cons (h : ReadsAs n p read r x r₁)
    (hshorter : r₁.ahead.length < r.ahead.length) (hrest : RoundsReadAs n p read r₁ xs r') :
    RoundsReadAs n p read r (x :: xs) r' := by
  obtain ⟨tree, hparses, hread⟩ := h
  obtain ⟨trees, hrounds, hlength, hreads⟩ := hrest
  have hmoved : r₁ ≠ r := by
    rintro rfl
    exact Nat.lt_irrefl _ hshorter
  refine ⟨tree :: trees, .round hparses hmoved hrounds, ?_, fun levels hlevels => ?_⟩
  · rw [List.length_cons, List.length_cons, hlength]
  · simp only [Tree.heightOfAll] at hlevels
    exact mapM_cons_ok (hread levels (by omega)) (hreads levels (by omega))

end Reading

/-! ## Choices -/

/-- A choice in parentheses. -/
theorem parses_group {tree : Tree} {n : Nat} (hopen : Stands "(" r r₁)
    (hparses : Parses (n + 3) (.lookup "choice") r₁ tree r₂) (hclose : Stands ")" r₂ r') :
    ∃ node, Parses (n + 6) (.lookup "atom") r node r' ∧ tree.height < node.height ∧
      ∀ readChoice choice, readChoice tree = .ok choice →
        readAtom readChoice node = .ok (.group choice) := by
  have hgroup : Parses (n + 4) Base.group r (.sequence r.offset [tree]) r' :=
    .sequence (.step (hopen.parses.mono (by omega))
      (.step hparses (.step (hclose.parses.mono (by omega)) (.done _ _ _ _))))
  have hregex : Misses (n + 4) (.lookup "regex") r :=
    (misses_regex (by rw [hopen.begins rfl]; decide)).mono (by omega)
  have hliteral : Misses (n + 4) (.lookup "literal") r :=
    (misses_literal (by rw [hopen.begins rfl]; decide)).mono (by omega)
  refine ⟨_, .lookup rfl (.choice (.missed hregex (.missed hliteral (.chosen hgroup)))), ?_, ?_⟩
  · simp only [Tree.height, Tree.heightOfAll]
    omega
  · intro readChoice choice hread
    simp [readAtom, firstBelow, Tree.unwrapLookup, Tree.children, hread, bind, Except.bind, pure,
      Except.pure]

/-- Terms, one or more, make a sequence. -/
theorem RoundsReadAs.sequence {terms : List Term} {n : Nat} (hpos : 0 < terms.length)
    (h : RoundsReadAs (n + 1) Base.element (fun levels => readElement (readChoice levels)) r terms
      r') :
    ReadsAs (n + 3) (.lookup "sequence") (fun levels => readSequence (readChoice levels)) r ⟨terms⟩
      r' := by
  obtain ⟨trees, hrounds, hlength, hread⟩ := h
  have hparses := Parses.rounds hrounds (show 1 ≤ trees.length by omega)
  refine ⟨_, hparses.lookup rfl, fun levels hlevels => ?_⟩
  simp only [Tree.height] at hlevels
  have hterms : trees.mapM (readElement (readChoice levels)) = .ok terms :=
    hread levels (by omega)
  show readSequence (readChoice levels) _ = _
  rw [readSequence_eq, hterms]
  rfl

/-- A term in a sequence is taken apart, given that it is on its own. -/
theorem parses_element {term : Term} (hterm : term.Spells r r') (hfollows : Follows r')
    {n : Nat}
    (h : ∃ node, Parses (n + 9) (.lookup "term") r (.lookup r.offset "term" node) r' ∧
      ∀ levels, node.height ≤ levels →
        readTerm (readChoice levels) (.lookup r.offset "term" node) = .ok term) :
    ReadsAs (n + 10) Base.element (fun levels => readElement (readChoice levels)) r term r' := by
  obtain ⟨node, hparses, hread⟩ := h
  have hnoHead : Parses (n + 9) (.lookahead Base.head false) r _ r :=
    (Parses.notAhead (misses_head hterm hfollows)).mono (by omega)
  refine ⟨_, .sequence (.step hnoHead (.step hparses (.done _ _ _ _))), fun levels hlevels => ?_⟩
  simp only [Step.skipped, Step.kept, Tree.height, Tree.heightOfAll, if_true, List.reverse_cons,
    List.reverse_nil, List.nil_append, Bool.false_eq_true, if_false] at hlevels ⊢
  simp only [readElement, firstBelow, Tree.unwrapLookup, Tree.children, bind, Except.bind]
  exact hread levels (by omega)

theorem parses_alternative {sequence : Sequence} {n : Nat} (hslash : Stands "/" r r₁)
    (h : ReadsAs (n + 3) (.lookup "sequence") (fun levels => readSequence (readChoice levels)) r₁
      sequence r') :
    ReadsAs (n + 4) Base.alternative (fun levels => readAlternative (readChoice levels)) r sequence
      r' := by
  obtain ⟨tree, hparses, hread⟩ := h
  refine ⟨_, .sequence (.step (hslash.parses.mono (by omega)) (.step hparses (.done _ _ _ _))),
    fun levels hlevels => ?_⟩
  simp only [Step.skipped, Step.kept, Tree.height, Tree.heightOfAll, if_true, List.reverse_cons,
    List.reverse_nil, List.nil_append, Bool.false_eq_true, if_false] at hlevels ⊢
  exact hread levels (by omega)

theorem parses_choice {sequence : Sequence} {others : List Sequence} {n : Nat}
    (hhead : ReadsAs (n + 3) (.lookup "sequence") (fun levels => readSequence (readChoice levels)) r
      sequence r₁)
    (hrest : RoundsReadAs (n + 4) Base.alternative
      (fun levels => readAlternative (readChoice levels)) r₁ others r') :
    ∃ node, Parses (n + 7) (.lookup "choice") r (.lookup r.offset "choice" node) r' ∧
      ∀ levels, node.height < levels →
        readChoice levels (.lookup r.offset "choice" node) = .ok ⟨sequence :: others⟩ := by
  obtain ⟨tree, hparses, hread⟩ := hhead
  obtain ⟨trees, hrounds, -, hreads⟩ := hrest
  refine ⟨_, .lookup rfl (.sequence (.step (hparses.mono (by omega))
    (.step (.rounds hrounds (Nat.zero_le _)) (.done _ _ _ _)))), fun levels hlevels => ?_⟩
  simp only [Step.kept, Tree.height, Tree.heightOfAll, if_true, List.reverse_cons, List.reverse_nil,
    List.nil_append, List.cons_append] at hlevels ⊢
  obtain ⟨levels, rfl⟩ : ∃ l, levels = l + 1 := ⟨levels - 1, by omega⟩
  have hfirst : readSequence (readChoice levels) tree = .ok sequence := hread levels (by omega)
  have hothers : trees.mapM (readAlternative (readChoice levels)) = .ok others :=
    hreads levels (by omega)
  rw [readChoice_eq, hfirst, hothers]
  rfl

theorem TermsSpell.follows {terms : List Term} (h : TermsSpell terms r r') : Follows r := by
  cases h with
  | one hterm => exact hterm.follows
  | more hterm _ => exact hterm.follows

/-- Before the alternatives that follow, and before what ends the choice, a sequence ends. -/
theorem OthersSpell.sequenceEnds {others : List Sequence} (h : OthersSpell others r r')
    (hends : ChoiceEnds r') : SequenceEnds r := by
  cases h with
  | none => exact hends.mono (List.subset_cons_self _ _)
  | more hslash => exact .inr (.inl ⟨'/', by decide, hslash.begins rfl⟩)

theorem TermsSpell.length_pos {terms : List Term} (h : TermsSpell terms r r') :
    0 < terms.length := by
  cases h with
  | one => exact Nat.one_pos
  | more => exact Nat.succ_pos _

mutual
theorem Atom.Spells.parses {atom : Atom} {r r' : Cursor} : atom.Spells r r' →
    ReadsAs (16 * r.ahead.length + 6) (.lookup "atom")
      (fun levels => readAtom (readChoice levels)) r atom r'
  | .regex ht => by
      have hparses : Parses 5 (.lookup "atom") r _ r' :=
        .lookup rfl (.choice (.chosen (parses_regex ht)))
      refine ⟨_, hparses.mono (by omega), fun levels _ => ?_⟩
      simp [readAtom, firstBelow, Tree.unwrapLookup, Tree.children, ht.spells.readToken, bind,
        Except.bind, pure, Except.pure]
  | .literal ht => by
      have hregex : Misses 3 (.lookup "regex") r := misses_regex (by rw [ht.begins]; decide)
      have hparses : Parses 5 (.lookup "atom") r _ r' :=
        .lookup rfl (.choice (.missed hregex (.chosen (parses_literal ht))))
      refine ⟨_, hparses.mono (by omega), fun levels _ => ?_⟩
      simp [readAtom, firstBelow, Tree.unwrapLookup, Tree.children, ht.spells.readToken, bind,
        Except.bind, pure, Except.pure]
  | .rule ht => by
      have hregex : Misses 3 (.lookup "regex") r := misses_regex (ht.begins.head?_ne (by decide))
      have hliteral : Misses 3 (.lookup "literal") r :=
        misses_literal (ht.begins.head?_ne (by decide))
      have hgroup : Misses 3 Base.group r :=
        .sequence (.first (.literal rfl (ht.begins.head?_ne (by decide))))
      have hparses : Parses 5 (.lookup "atom") r _ r' :=
        .lookup rfl (.choice (.missed hregex (.missed hliteral (.missed hgroup
          (.chosen (parses_name ht))))))
      refine ⟨_, hparses.mono (by omega), fun levels _ => ?_⟩
      simp [readAtom, firstBelow, Tree.unwrapLookup, Tree.children, ht.spells.readToken, bind,
        Except.bind, pure, Except.pure]
  | .group hopen hchoice hclose => by
      have hends : ChoiceEnds _ := .inr (.inl ⟨')', by decide, hclose.begins rfl⟩)
      obtain ⟨tree, hparses, hread⟩ := hchoice.parses hends
      obtain ⟨node, hnode, hheight, hgroup⟩ := parses_group hopen hparses hclose
      -- the parenthesis pays for the layers and for the level of the choice inside
      have hshorter := hopen.shorter (by decide)
      simp only [Tree.height] at hheight
      refine ⟨node, hnode.mono (by omega), fun levels hlevels => ?_⟩
      exact hgroup _ _ (hread levels (by omega))

theorem Term.Spells.parses {term : Term} {r r' : Cursor} : term.Spells r r' → Follows r' →
    ∃ node, Parses (16 * r.ahead.length + 9) (.lookup "term") r (.lookup r.offset "term" node) r' ∧
      ∀ levels, node.height ≤ levels →
        readTerm (readChoice levels) (.lookup r.offset "term" node) = .ok term
  | .term hlabel hlead hatom hsuffix, hfollows => by
      obtain ⟨tree, hparses, hread⟩ := hatom.parses
      have hlen := hlabel.length_le
      have hlen' := hlead.length_le
      obtain ⟨node, hnode, hheight, hterm⟩ :=
        parses_term hlabel hlead hatom hsuffix hfollows (n := 16 * r.ahead.length + 5) (by omega)
          (hparses.mono (by omega))
      exact ⟨node, hnode, fun levels hlevels => hterm _ (hread levels (by omega))⟩

theorem TermsSpell.parses {terms : List Term} {r r' : Cursor} : TermsSpell terms r r' →
    SequenceEnds r' →
    RoundsReadAs (16 * r.ahead.length + 10) Base.element
      (fun levels => readElement (readChoice levels)) r terms r'
  | .one hterm, hends => by
      have hfirst := parses_element hterm hends.follows (hterm.parses hends.follows)
      exact .cons hfirst hterm.shorter (.nil ((misses_element hends).mono (by omega)))
  | .more hterm hterms, hends => by
      have hfirst := parses_element hterm hterms.follows (hterm.parses hterms.follows)
      have hshorter := hterm.shorter
      exact .cons hfirst hshorter ((hterms.parses hends).mono (by omega))

theorem OthersSpell.parses {others : List Sequence} {r r' : Cursor} : OthersSpell others r r' →
    ChoiceEnds r' →
    RoundsReadAs (16 * r.ahead.length + 13) Base.alternative
      (fun levels => readAlternative (readChoice levels)) r others r'
  | .none, hends => by
      have hmiss : Misses 3 Base.alternative r :=
        .sequence (.first (.literal rfl (hends.head?_ne (by decide) (by decide))))
      exact .nil (hmiss.mono (by omega))
  | .more hslash hterms hothers, hends => by
      have hsequence := (hterms.parses (hothers.sequenceEnds hends)).sequence hterms.length_pos
      have hslashShorter := hslash.shorter (by decide)
      have htermsShorter := hterms.shorter
      exact .cons ((parses_alternative hslash hsequence).mono (by omega)) (by omega)
        ((hothers.parses hends).mono (by omega))

theorem Choice.Spells.parses {choice : Choice} {r r' : Cursor} : choice.Spells r r' →
    ChoiceEnds r' →
    ∃ node, Parses (16 * r.ahead.length + 16) (.lookup "choice") r
        (.lookup r.offset "choice" node) r' ∧
      ∀ levels, node.height < levels →
        readChoice levels (.lookup r.offset "choice" node) = .ok choice
  | .choice hterms hothers, hends => by
      have hsequence := (hterms.parses (hothers.sequenceEnds hends)).sequence hterms.length_pos
      have hshorter := hterms.shorter
      exact parses_choice hsequence ((hothers.parses hends).mono (by omega))
end

end OperatorPeg.Grammar
