import OperatorPeg.Proofs.Grammar.ParsingRules
import OperatorPeg.Proofs.Grammar.Printable
import OperatorPeg.Proofs.Grammar.Quoting

/-!
# Printed patterns

A printable pattern as text spells a choice that passes all checks and is lowered to
the pattern, its steps kept anew. The proof follows the printer: what a pattern is
printed as depends on how strong it binds, and a place that asks for more has
parentheses.
-/

namespace OperatorPeg.Grammar

open Pattern (Level)

variable {r r₁ r₂ r' d e : Cursor} {defined : List String}

/-! ## What follows a printed part -/

/-- No token goes on with the character that follows. -/
def Clear (e : Cursor) : Prop :=
  ∀ ch, e.ahead.head? = some ch → ch ∈ [' ', '\n', ')', ']', ',', ':', '?', '*', '+']

theorem Clear.of_passes {ch : Char} {text : List Char} (h : d.Passes (ch :: text) e)
    (hch : ch ∈ [' ', '\n', ')', ']', ',', ':', '?', '*', '+']) : Clear d := by
  intro ch' hch'
  rw [h.ahead] at hch'
  cases hch'
  exact hch

theorem Clear.stop {goesOn : Char → Bool} (h : Clear e)
    (hmarks : [' ', '\n', ')', ']', ',', ':', '?', '*', '+'].all (!goesOn ·) = true) :
    ∀ ch, e.ahead.head? = some ch → goesOn ch = false := fun ch hch =>
  (Bool.not_eq_true' _).mp (List.all_eq_true.mp hmarks ch (h ch hch))

theorem Significant.of_begins (h : Begins isTermStart r) : Significant r.ahead := by
  intro ch hch
  obtain ⟨ch', hch', hstart⟩ := h
  cases hch'.symm.trans hch
  simp only [isTermStart, isAtomStart, Bool.or_eq_true, beq_iff_eq] at hstart
  -- one of the marks, or the start of a name
  rcases hstart with (((((rfl | rfl) | rfl) | h) | rfl) | rfl)
  · decide
  · decide
  · decide
  · exact isNameStart_significant h
  · decide
  · decide

theorem Significant.of_head {ch : Char} {text : List Char} (h : r.Passes (ch :: text) e)
    (hch : Unicode.isWhiteSpace ch = false ∧ ch ≠ '#') : Significant r.ahead := by
  intro ch' hch'
  rw [h.ahead] at hch'
  cases hch'
  exact hch

theorem Leads.space (h : d.Passes [' '] r) (hr : Significant r.ahead) : Leads d r :=
  ⟨⟨[' '], .space (by decide) .nil, h⟩, hr⟩

/-- Wherever the text stands, it spells something with the property. -/
def Writes {α : Type} (spells : α → Cursor → Cursor → Prop) (good : α → Prop) (text : String) :
    Prop :=
  ∀ r e r', r.Passes text.toList e → Clear e → Leads e r' → ∃ x, spells x r r' ∧ good x

/-! ## Terms -/

/-- The term says what the pattern is, as it is printed at a place of a level. Only a
pattern without parentheses can be discardable. -/
structure Term.Renders (defined : List String) (slot : Level) (p : Pattern) (term : Term) :
    Prop where
  label : Level.label.rank < slot.rank → term.label = none
  lead : Level.lookahead.rank < slot.rank → term.lead = none
  suffix : Level.quantifier.rank < slot.rank → term.suffix = none
  checked : checkAtom defined term.atom = .ok []
  lowered : lowerTerm term = .ok p.rekeep
  discardable : term.isDiscardable = (decide (slot.rank ≤ p.level.rank) && p.isDiscardable)

abbrev WritesTerm (defined : List String) (slot : Level) (p : Pattern) (text : String) : Prop :=
  Writes Term.Spells (Term.Renders defined slot p) text

theorem lowerTerm_suffix (atom : Atom) (s : Suffix) :
    lowerTerm ⟨none, none, atom, some s⟩
      = (lowerTerm ⟨none, none, atom, none⟩).map (Suffix.apply (some s)) := by
  unfold lowerTerm
  cases lowerAtom atom <;> rfl

theorem lowerTerm_lead (l : Prefix) (atom : Atom) (suffix : Option Suffix) :
    lowerTerm ⟨none, some l, atom, suffix⟩
      = (lowerTerm ⟨none, none, atom, suffix⟩).map (Prefix.apply (some l)) := by
  unfold lowerTerm
  cases lowerAtom atom <;> rfl

theorem lowerTerm_label {t : Token} {name : String} (h : quotedText t = .ok name)
    (lead : Option Prefix) (atom : Atom) (suffix : Option Suffix) :
    lowerTerm ⟨some t, lead, atom, suffix⟩
      = (lowerTerm ⟨none, lead, atom, suffix⟩).map (.label name) := by
  unfold lowerTerm
  cases lowerAtom atom with
  | error => rfl
  | ok p =>
      simp only [h, bind, Except.bind, pure, Except.pure]
      rfl

theorem lowerTerm_atom (atom : Atom) : lowerTerm ⟨none, none, atom, none⟩ = lowerAtom atom := by
  unfold lowerTerm
  cases lowerAtom atom <;> rfl

/-- A pattern that binds as its place asks for. -/
theorem Term.Renders.weaken {slot slot' : Level} {p : Pattern} {term : Term}
    (h : term.Renders defined slot p) (hslot : slot'.rank ≤ slot.rank)
    (hlevel : slot.rank ≤ p.level.rank) : term.Renders defined slot' p where
  label hlt := h.label (by omega)
  lead hlt := h.lead (by omega)
  suffix hlt := h.suffix (by omega)
  checked := h.checked
  lowered := h.lowered
  discardable := by
    rw [h.discardable, decide_eq_true hlevel, decide_eq_true (Nat.le_trans hslot hlevel)]

/-- The token that a text is where it stands. -/
theorem Token.spells_of_passes {text : String} {goesOn : Char → Bool} (h : r.Passes text.toList e)
    (hleads : Leads e r') (hstop : ∀ ch, e.ahead.head? = some ch → goesOn ch = false) :
    (⟨text, ⟨r.offset, e.offset⟩⟩ : Token).Spells goesOn r r' :=
  ⟨e, h, hleads, hstop, rfl⟩

theorem quotedText_quote {delimiter : Char} (h : delimiter.utf8Size = 1) (text : String)
    (span : Span) : quotedText ⟨Text.quote delimiter text, span⟩ = .ok text := by
  rw [quotedText, Token.unescaped_quote h]
  rfl

/-- A regex that means something can also be read. -/
theorem checkRegex_quote {source : String} {meaning : Regex}
    (h : Regex.build source.toList = .ok meaning) (span : Span) :
    checkRegex ⟨Text.quote '`' source, span⟩ = .ok [] := by
  have hread : ∃ ast, Regex.Ast.read source.toList = .ok ast := by
    unfold Regex.build at h
    cases hast : Regex.Ast.read source.toList with
    | error => simp [hast] at h
    | ok ast => exact ⟨ast, rfl⟩
  obtain ⟨ast, hast⟩ := hread
  rw [checkRegex, Token.unescaped_quote (by decide)]
  simp only [hast, h, bind, Except.bind]
  rfl

/-- An atom, standing on its own as a term. -/
theorem WritesTerm.atom {p : Pattern} {text : String} (hp : p.level = .atom)
    (h : Writes Atom.Spells (fun atom => checkAtom defined atom = .ok [] ∧
      lowerAtom atom = .ok p.rekeep ∧
      (⟨none, none, atom, none⟩ : Term).isDiscardable = p.isDiscardable) text) :
    WritesTerm defined .atom p text := by
  intro r e r' hpasses hclear hleads
  obtain ⟨atom, hspells, hchecked, hlowered, hdiscardable⟩ := h r e r' hpasses hclear hleads
  refine ⟨⟨none, none, atom, none⟩, .term rfl rfl hspells rfl, ?_⟩
  exact {
    label := fun _ => rfl
    lead := fun _ => rfl
    suffix := fun _ => rfl
    checked := hchecked
    lowered := (lowerTerm_atom atom).trans hlowered
    discardable := by rw [hdiscardable, hp]; rfl }

theorem writes_literal (text : String) :
    WritesTerm defined .atom (.terminal (.literal text)) (Text.quote '\'' text) := by
  refine WritesTerm.atom rfl fun r e r' hpasses hclear hleads => ?_
  let t : Token := ⟨Text.quote '\'' text, ⟨r.offset, e.offset⟩⟩
  have hspells : t.Spells (· == '\'') r r' :=
    Token.spells_of_passes hpasses hleads (hclear.stop (by decide))
  refine ⟨.literal t, .literal ⟨hspells, text, rfl⟩, by rw [checkAtom], ?_, rfl⟩
  rw [lowerAtom, quotedText_quote (by decide)]
  rfl

theorem writes_regex {source : String} {meaning : Regex}
    (h : Regex.build source.toList = .ok meaning) :
    WritesTerm defined .atom (.terminal (.regex source meaning)) (Text.quote '`' source) := by
  refine WritesTerm.atom rfl fun r e r' hpasses hclear hleads => ?_
  let t : Token := ⟨Text.quote '`' source, ⟨r.offset, e.offset⟩⟩
  have hspells : t.Spells (· == '`') r r' :=
    Token.spells_of_passes hpasses hleads (hclear.stop (by decide))
  refine ⟨.regex t, .regex ⟨hspells, source, rfl⟩, ?_, ?_, rfl⟩
  · rw [checkAtom, checkRegex_quote h]
  · rw [lowerAtom, quotedText_quote (by decide)]
    simp only [Pattern.ofRegex?, h, bind, Except.bind]
    rfl

theorem writes_lookup {key : String} (hname : isName key.toList = true) (hkey : key ∈ defined) :
    WritesTerm defined .atom (.lookup key) key := by
  refine WritesTerm.atom rfl fun r e r' hpasses hclear hleads => ?_
  let t : Token := ⟨key, ⟨r.offset, e.offset⟩⟩
  have hspells : t.Spells isNamePart r r' :=
    Token.spells_of_passes hpasses hleads (hclear.stop (by decide))
  refine ⟨.rule t, .rule ⟨hspells, hname⟩, ?_, by rw [lowerAtom, Pattern.rekeep], rfl⟩
  rw [checkAtom, if_pos (List.contains_iff_mem.mpr hkey)]

theorem isDiscardable_quantifier (p : Pattern) (least : Nat) (most : Option Nat) :
    (Pattern.quantifier p least most).isDiscardable
      = (decide (Level.atom.rank ≤ p.level.rank) && p.isDiscardable) := by
  cases p <;> rfl

theorem Suffix.exists_of_bounds {least : Nat} {most : Option Nat}
    (h : (least, most) ∈ [(0, some 1), (0, none), (1, none)]) :
    ∃ s : Suffix, Pattern.boundsSign least most = s.sign ∧
      ∀ p, Suffix.apply (some s) p = .quantifier p least most := by
  simp only [List.mem_cons, List.not_mem_nil, or_false, Prod.mk.injEq] at h
  rcases h with ⟨rfl, rfl⟩ | ⟨rfl, rfl⟩ | ⟨rfl, rfl⟩
  · exact ⟨.optional, rfl, fun _ => rfl⟩
  · exact ⟨.star, rfl, fun _ => rfl⟩
  · exact ⟨.plus, rfl, fun _ => rfl⟩

theorem writes_quantifier {p : Pattern} {text : String} (h : WritesTerm defined .atom p text)
    {least : Nat} {most : Option Nat}
    (hbounds : (least, most) ∈ [(0, some 1), (0, none), (1, none)]) :
    WritesTerm defined .quantifier (.quantifier p least most)
      (text ++ Pattern.boundsSign least most) := by
  obtain ⟨s, hsign, happly⟩ := Suffix.exists_of_bounds hbounds
  obtain ⟨ch, hch, hmark, hsig⟩ : ∃ ch, s.sign.toList = [ch] ∧
      ch ∈ [' ', '\n', ')', ']', ',', ':', '?', '*', '+'] ∧
      Unicode.isWhiteSpace ch = false ∧ ch ≠ '#' := by
    cases s
    · exact ⟨'?', rfl, by decide, by decide⟩
    · exact ⟨'*', rfl, by decide, by decide⟩
    · exact ⟨'+', rfl, by decide, by decide⟩
  intro r e r' hpasses hclear hleads
  rw [hsign, String.toList_append] at hpasses
  obtain ⟨d, htext, hsuffix⟩ := hpasses.split
  rw [hch] at hsuffix
  obtain ⟨⟨label, lead, atom, suffix⟩, hspells, hrenders⟩ :=
    h r d d htext (.of_passes hsuffix hmark) (.refl (.of_head hsuffix hsig))
  -- where an atom is asked for, the term is its atom, so there is room for the sign
  cases hrenders.label (by decide)
  cases hrenders.lead (by decide)
  cases hrenders.suffix (by decide)
  cases hspells with
  | term hlabel hlead hatom hnone =>
      cases hlabel
      cases hlead
      cases hnone
      rw [← hch] at hsuffix
      refine ⟨⟨none, none, atom, some s⟩, .term rfl rfl hatom ⟨e, hsuffix, hleads⟩, ?_⟩
      exact {
        label := fun _ => rfl
        lead := fun _ => rfl
        suffix := fun hlt => absurd hlt (by decide)
        checked := hrenders.checked
        lowered := by
          rw [lowerTerm_suffix, hrenders.lowered, Pattern.rekeep, ← happly]
          rfl
        discardable := by
          rw [isDiscardable_quantifier, ← hrenders.discardable]
          rfl }

theorem writes_lookahead {p : Pattern} {text : String} (h : WritesTerm defined .quantifier p text)
    (wanted : Bool) :
    WritesTerm defined .lookahead (.lookahead p wanted)
      ((if wanted then "&" else "!") ++ text) := by
  obtain ⟨l, hsign, happly⟩ : ∃ l : Prefix, (if wanted then "&" else "!") = l.sign ∧
      ∀ p, Prefix.apply (some l) p = .lookahead p wanted := by
    cases wanted
    · exact ⟨.not, rfl, fun _ => rfl⟩
    · exact ⟨.and, rfl, fun _ => rfl⟩
  intro r e r' hpasses hclear hleads
  rw [hsign, String.toList_append] at hpasses
  obtain ⟨d, hlead, htext⟩ := hpasses.split
  obtain ⟨⟨label, lead, atom, suffix⟩, hspells, hrenders⟩ := h d e r' htext hclear hleads
  have hstands : Stands l.sign r d := ⟨d, hlead, .refl (.of_begins hspells.begins)⟩
  -- the term may have a suffix, which stays with its atom
  cases hrenders.label (by decide)
  cases hrenders.lead (by decide)
  cases hspells with
  | term hlabel hnone hatom hsuffix =>
      cases hlabel
      cases hnone
      refine ⟨⟨none, some l, atom, suffix⟩, .term rfl hstands hatom hsuffix, ?_⟩
      exact {
        label := fun _ => rfl
        lead := fun hlt => absurd hlt (by decide)
        suffix := fun hlt => absurd hlt (by decide)
        checked := hrenders.checked
        lowered := by
          rw [lowerTerm_lead, hrenders.lowered, Pattern.rekeep, ← happly]
          rfl
        discardable := rfl }

theorem writes_label {p : Pattern} {text : String} (h : WritesTerm defined .lookahead p text)
    (name : String) :
    WritesTerm defined .label (.label name p) (Text.quote '\'' name ++ ":" ++ text) := by
  intro r e r' hpasses hclear hleads
  rw [String.toList_append, String.toList_append, List.append_assoc] at hpasses
  obtain ⟨d, hname, hrest⟩ := hpasses.split
  obtain ⟨d', hcolon, htext⟩ := hrest.split
  obtain ⟨⟨label, lead, atom, suffix⟩, hspells, hrenders⟩ := h d' e r' htext hclear hleads
  have hstands : Stands ":" d d' := ⟨d', hcolon, .refl (.of_begins hspells.begins)⟩
  let t : Token := ⟨Text.quote '\'' name, ⟨r.offset, d.offset⟩⟩
  have ht : t.Spells (· == '\'') r d :=
    Token.spells_of_passes hname (.refl (.of_head hcolon (by decide)))
      ((Clear.of_passes hcolon (by decide)).stop (by decide))
  cases hrenders.label (by decide)
  cases hspells with
  | term hnone hlead hatom hsuffix =>
      cases hnone
      refine ⟨⟨some t, lead, atom, suffix⟩,
        .term ⟨d, ⟨ht, name, rfl⟩, hstands⟩ hlead hatom hsuffix, ?_⟩
      exact {
        label := fun hlt => absurd hlt (by decide)
        lead := fun hlt => absurd hlt (by decide)
        suffix := fun hlt => absurd hlt (by decide)
        checked := hrenders.checked
        lowered := by
          rw [lowerTerm_label (quotedText_quote (by decide) name _), hrenders.lowered,
            Pattern.rekeep]
          rfl
        discardable := rfl }

/-! ## Groups -/

/-- The choice says what the pattern is. -/
structure Choice.Renders (defined : List String) (p : Pattern) (choice : Choice) : Prop where
  checked : checkChoice defined choice = .ok []
  lowered : lowerChoice choice = .ok p.rekeep

abbrev WritesChoice (defined : List String) (p : Pattern) (text : String) : Prop :=
  Writes Choice.Spells (Choice.Renders defined p) text

/-- A pattern that binds weaker than its place asks for. -/
theorem writes_group {p : Pattern} {text : String} (h : WritesChoice defined p text) {slot : Level}
    (hslot : p.level.rank < slot.rank) : WritesTerm defined slot p ("(" ++ text ++ ")") := by
  intro r e r' hpasses hclear hleads
  rw [String.toList_append, String.toList_append, List.append_assoc] at hpasses
  obtain ⟨d, hopen, hrest⟩ := hpasses.split
  obtain ⟨d', htext, hclose⟩ := hrest.split
  obtain ⟨choice, hspells, hrenders⟩ := h d d' d' htext (.of_passes hclose (by decide))
    (.refl (.of_head hclose (by decide)))
  have hopen' : Stands "(" r d := ⟨d, hopen, .refl (.of_begins hspells.begins)⟩
  refine ⟨⟨none, none, .group choice, none⟩,
    .term rfl rfl (.group hopen' hspells ⟨e, hclose, hleads⟩) rfl, ?_⟩
  exact {
    label := fun _ => rfl
    lead := fun _ => rfl
    suffix := fun _ => rfl
    checked := by rw [checkAtom, hrenders.checked]
    lowered := by rw [lowerTerm_atom, lowerAtom, hrenders.lowered]
    discardable := by
      rw [decide_eq_false (Nat.not_le.mpr hslot)]
      rfl }

/-! ## Parts with a separator between them -/

theorem joinWith_cons_cons (separator x y : String) (rest : List String) :
    Text.joinWith separator (x :: y :: rest)
      = x ++ separator ++ Text.joinWith separator (y :: rest) := by
  have hfoldl : ∀ (rest : List String) (a b : String),
      rest.foldl (fun acc next => acc ++ separator ++ next) (a ++ b)
        = a ++ rest.foldl (fun acc next => acc ++ separator ++ next) b := by
    intro rest
    induction rest with
    | nil => intro a b; rfl
    | cons next rest ih =>
        intro a b
        rw [List.foldl_cons, List.foldl_cons, ← ih, String.append_assoc, String.append_assoc,
          String.append_assoc]
  rw [Text.joinWith, List.foldl_cons, hfoldl]
  rfl

/-- Before the separator a part may end, and behind it the next ones follow. -/
def Separates {α : Type} (separator : String) (spells : α → Cursor → Cursor → Prop)
    (spellsAll : List α → Cursor → Cursor → Prop) : Prop :=
  ∀ ⦃xs d d' r'⦄, d.Passes separator.toList d' → xs ≠ [] → spellsAll xs d' r' →
    ∃ r₁, Clear d ∧ Leads d r₁ ∧ ∀ x r, spells x r r₁ → spellsAll (x :: xs) r r'

/-- Parts, each of which spells something, spell all of that. -/
theorem writes_joined {α β : Type} {spells : β → Cursor → Cursor → Prop}
    {spellsAll : List β → Cursor → Cursor → Prop} {renders : α → β → Prop} {display : α → String}
    {separator : String} (hseparates : Separates separator spells spellsAll)
    (hone : ∀ y r r', spells y r r' → spellsAll [y] r r') {xs : List α} (hne : xs ≠ [])
    (h : ∀ x ∈ xs, Writes spells (renders x) (display x)) :
    Writes spellsAll (List.Forall₂ renders xs) (Text.joinWith separator (xs.map display)) := by
  induction xs with
  | nil => exact absurd rfl hne
  | cons x xs ih =>
      have hfirst := h x List.mem_cons_self
      intro r e r' hpasses hclear hleads
      cases xs with
      | nil =>
          obtain ⟨y, hspells, hrenders⟩ := hfirst r e r' hpasses hclear hleads
          exact ⟨[y], hone y r r' hspells, .cons hrenders .nil⟩
      | cons next xs =>
          have hrest := ih nofun fun x hmem => h x (List.mem_cons_of_mem _ hmem)
          rw [List.map_cons, List.map_cons, joinWith_cons_cons, ← List.map_cons,
            String.toList_append, String.toList_append, List.append_assoc] at hpasses
          obtain ⟨d, htext, hpasses⟩ := hpasses.split
          obtain ⟨d', hseparator, hpasses⟩ := hpasses.split
          -- from the last part on, since a gap ends where the next part begins
          obtain ⟨ys, hys, hrenderRest⟩ := hrest d' e r' hpasses hclear hleads
          have hsome : ys ≠ [] := by
            rintro rfl
            cases hrenderRest
          obtain ⟨r₁, hclear₁, hleads₁, hmore⟩ := hseparates hseparator hsome hys
          obtain ⟨y, hspells, hrenders⟩ := hfirst r d r₁ htext hclear₁ hleads₁
          exact ⟨y :: ys, hmore y r hspells, .cons hrenders hrenderRest⟩

/-! ## Sequences -/

/-- The terms of a sequence say what the pattern is. -/
structure SequenceRenders (defined : List String) (p : Pattern) (terms : List Term) : Prop where
  checked : checkTerms defined terms = .ok []
  lowered : lowerSequence terms = .ok p.rekeep

abbrev WritesSequence (defined : List String) (p : Pattern) (text : String) : Prop :=
  Writes TermsSpell (SequenceRenders defined p) text

/-- The terms say what the steps are. -/
structure StepsRender (defined : List String) (steps : List Step) (terms : List Term) : Prop where
  checked : checkTerms defined terms = .ok []
  lowered : ∀ keepAll, lowerSteps keepAll terms = .ok (Pattern.rekeepSteps keepAll steps)
  discardable : terms.all Term.isDiscardable = steps.all (·.pattern.isDiscardable)
  length : terms.length = steps.length

theorem checkTerms_cons {term : Term} {terms : List Term}
    (h : checkAtom defined term.atom = .ok []) (hrest : checkTerms defined terms = .ok []) :
    checkTerms defined (term :: terms) = .ok [] := by
  obtain ⟨label, lead, atom, suffix⟩ := term
  rw [checkTerms, h, hrest]
  rfl

theorem WritesTerm.sequence {slot : Level} {p : Pattern} {text : String}
    (h : WritesTerm defined slot p text) : WritesSequence defined p text := by
  intro r e r' hpasses hclear hleads
  obtain ⟨term, hspells, hrenders⟩ := h r e r' hpasses hclear hleads
  refine ⟨[term], .one hspells, checkTerms_cons hrenders.checked (by rw [checkTerms]), ?_⟩
  rw [lowerSequence, hrenders.lowered]

/-- Only a sequence and a choice are not discardable for want of a level. -/
theorem isDiscardable_label (p : Pattern) :
    (decide (Level.label.rank ≤ p.level.rank) && p.isDiscardable) = p.isDiscardable := by
  cases p <;> rfl

theorem StepsRender.cons {step : Step} {steps : List Step} {term : Term} {terms : List Term}
    (h : term.Renders defined .label step.pattern) (hrest : StepsRender defined steps terms) :
    StepsRender defined (step :: steps) (term :: terms) where
  checked := checkTerms_cons h.checked hrest.checked
  lowered keepAll := by
    have hdiscardable := h.discardable.trans (isDiscardable_label step.pattern)
    obtain ⟨keep, p⟩ := step
    rw [lowerSteps, h.lowered, hrest.lowered keepAll, hdiscardable, Pattern.rekeepSteps]
    rfl
  discardable := by
    have hdiscardable := h.discardable.trans (isDiscardable_label step.pattern)
    rw [List.all_cons, List.all_cons, hdiscardable, hrest.discardable]
  length := by rw [List.length_cons, List.length_cons, hrest.length]

theorem StepsRender.nil : StepsRender defined [] [] where
  checked := by rw [checkTerms]
  lowered keepAll := by rw [lowerSteps, Pattern.rekeepSteps]
  discardable := rfl
  length := rfl

theorem StepsRender.of_forall₂ {steps : List Step} {terms : List Term}
    (h : List.Forall₂ (fun step term => term.Renders defined .label step.pattern) steps terms) :
    StepsRender defined steps terms := by
  induction h with
  | nil => exact .nil
  | cons hterm _ ih => exact .cons hterm ih

theorem displaySteps_eq_map (steps : List Step) :
    Pattern.displaySteps steps
      = steps.map fun step => step.pattern.parenthesize .label step.pattern.display := by
  induction steps with
  | nil => rw [Pattern.displaySteps, List.map_nil]
  | cons step steps ih =>
      obtain ⟨keep, p⟩ := step
      rw [Pattern.displaySteps, ih, List.map_cons]

theorem separates_terms : Separates " " Term.Spells TermsSpell := by
  intro terms d d' r' hspace _ hterms
  exact ⟨d', .of_passes hspace (by decide), .space hspace (.of_begins hterms.begins),
    fun _ _ hterm => .more hterm hterms⟩

theorem writes_steps {steps : List Step} (hne : steps ≠ [])
    (h : ∀ step ∈ steps, WritesTerm defined .label step.pattern
      (step.pattern.parenthesize .label step.pattern.display)) :
    Writes TermsSpell (StepsRender defined steps)
      (Text.joinWith " " (Pattern.displaySteps steps)) := by
  rw [displaySteps_eq_map]
  intro r e r' hpasses hclear hleads
  obtain ⟨terms, hspells, hrenders⟩ :=
    writes_joined separates_terms (fun _ _ _ => .one) hne h r e r' hpasses hclear hleads
  exact ⟨terms, hspells, .of_forall₂ hrenders⟩

/-- A sequence keeps a step: the ones that are not discardable, or all. -/
theorem rekeepSteps_keeps {steps : List Step} (hne : steps ≠ []) :
    (Pattern.rekeepSteps (steps.all (·.pattern.isDiscardable)) steps).any (·.keep) = true := by
  have hkeeps : ∀ keepAll (steps : List Step), (Pattern.rekeepSteps keepAll steps).any (·.keep)
      = steps.any fun step => keepAll || !step.pattern.isDiscardable := by
    intro keepAll steps
    induction steps with
    | nil => rfl
    | cons step steps ih =>
        obtain ⟨keep, p⟩ := step
        rw [Pattern.rekeepSteps, List.any_cons, List.any_cons, ih]
  rw [hkeeps]
  cases hall : steps.all (·.pattern.isDiscardable) with
  | true =>
      cases steps with
      | nil => exact absurd rfl hne
      | cons step steps => rfl
  | false =>
      simp only [Bool.false_or]
      rw [← List.not_all_eq_any_not, hall]
      rfl

theorem writes_sequence {steps : List Step} (hlength : 2 ≤ steps.length)
    (h : ∀ step ∈ steps, WritesTerm defined .label step.pattern
      (step.pattern.parenthesize .label step.pattern.display)) :
    WritesSequence defined (.sequence steps) (Pattern.sequence steps).display := by
  have hne : steps ≠ [] := by
    rintro rfl
    exact absurd hlength (by decide)
  intro r e r' hpasses hclear hleads
  rw [Pattern.display] at hpasses
  obtain ⟨terms, hspells, hrenders⟩ := writes_steps hne h r e r' hpasses hclear hleads
  refine ⟨terms, hspells, hrenders.checked, ?_⟩
  have hlength' := hrenders.length
  rw [lowerSequence]
  · rw [hrenders.lowered, hrenders.discardable]
    simp only [bind, Except.bind, Pattern.sequence?, rekeepSteps_keeps hne, if_true, checkedPattern,
      Except.mapError, Pattern.rekeep]
  · rintro term rfl
    rw [List.length_singleton] at hlength'
    omega

/-! ## Choices -/

/-- The sequences of a choice say what the alternatives are. -/
structure AlternativesRender (defined : List String) (ps : List Pattern) (choice : Choice) :
    Prop where
  checked : checkAlternatives defined choice.alternatives = .ok []
  lowered : lowerAlternatives choice.alternatives = .ok (Pattern.rekeepAll ps)

theorem AlternativesRender.cons {p : Pattern} {ps : List Pattern} {terms : List Term}
    {others : List Sequence} (h : SequenceRenders defined p terms)
    (hrest : AlternativesRender defined ps ⟨others⟩) :
    AlternativesRender defined (p :: ps) ⟨⟨terms⟩ :: others⟩ where
  checked := by
    rw [checkAlternatives, h.checked, hrest.checked]
    rfl
  lowered := by
    rw [lowerAlternatives, h.lowered, hrest.lowered, Pattern.rekeepAll]
    rfl

theorem AlternativesRender.nil : AlternativesRender defined [] ⟨[]⟩ where
  checked := by rw [checkAlternatives]
  lowered := by rw [lowerAlternatives, Pattern.rekeepAll]

theorem WritesSequence.choice {p : Pattern} {text : String} (h : WritesSequence defined p text) :
    WritesChoice defined p text := by
  intro r e r' hpasses hclear hleads
  obtain ⟨terms, hspells, hrenders⟩ := h r e r' hpasses hclear hleads
  have halternatives := AlternativesRender.cons hrenders .nil
  refine ⟨⟨[⟨terms⟩]⟩, .choice hspells .none, ?_, ?_⟩
  · rw [checkChoice, halternatives.checked]
  · rw [lowerChoice, halternatives.lowered, Pattern.rekeepAll, Pattern.rekeepAll]
    rfl

theorem AlternativesRender.of_forall₂ {ps : List Pattern} {sequences : List Sequence}
    (h : List.Forall₂ (fun p sequence => SequenceRenders defined p sequence.terms) ps sequences) :
    AlternativesRender defined ps ⟨sequences⟩ := by
  induction h with
  | nil => exact .nil
  | @cons _ sequence _ _ hsequence _ ih =>
      obtain ⟨terms⟩ := sequence
      exact .cons hsequence ih

theorem displayAlternatives_eq_map (ps : List Pattern) :
    Pattern.displayAlternatives ps = ps.map fun p => p.parenthesize .sequence p.display := by
  induction ps with
  | nil => rw [Pattern.displayAlternatives, List.map_nil]
  | cons p ps ih => rw [Pattern.displayAlternatives, ih, List.map_cons]

/-- The separator is a gap, the slash and a gap. -/
theorem separates_alternatives :
    Separates " / " (fun sequence : Sequence => TermsSpell sequence.terms)
      fun sequences => Choice.Spells ⟨sequences⟩ := by
  intro sequences d d₃ r' hseparator _ hspells
  obtain ⟨d₁, hspace, hslash⟩ := hseparator.cons
  obtain ⟨d₂, hslash, hspace'⟩ := hslash.cons
  have hstands : Stands "/" d₁ d₃ := ⟨d₂, hslash, .space hspace' (.of_begins hspells.begins)⟩
  refine ⟨d₁, .of_passes hspace (by decide), .space hspace (.of_head hslash (by decide)), ?_⟩
  cases hspells with
  | choice hnext hothers =>
      rintro ⟨terms⟩ r hterms
      exact .choice hterms (.more hstands hnext hothers)

theorem writes_alternatives {ps : List Pattern} (hne : ps ≠ [])
    (h : ∀ p ∈ ps, WritesSequence defined p (p.parenthesize .sequence p.display)) :
    Writes Choice.Spells (AlternativesRender defined ps)
      (Text.joinWith " / " (Pattern.displayAlternatives ps)) := by
  have hsequences : ∀ p ∈ ps, Writes (fun sequence : Sequence => TermsSpell sequence.terms)
      (fun sequence => SequenceRenders defined p sequence.terms)
      (p.parenthesize .sequence p.display) := by
    intro p hmem r e r' hpasses hclear hleads
    obtain ⟨terms, hspells, hrenders⟩ := h p hmem r e r' hpasses hclear hleads
    exact ⟨⟨terms⟩, hspells, hrenders⟩
  rw [displayAlternatives_eq_map]
  intro r e r' hpasses hclear hleads
  obtain ⟨sequences, hspells, hrenders⟩ :=
    writes_joined separates_alternatives (fun ⟨_⟩ _ _ hterms => .choice hterms .none) hne hsequences
      r e r' hpasses hclear hleads
  exact ⟨⟨sequences⟩, hspells, .of_forall₂ hrenders⟩

theorem length_rekeepAll (ps : List Pattern) : (Pattern.rekeepAll ps).length = ps.length := by
  induction ps with
  | nil => rw [Pattern.rekeepAll]
  | cons p ps ih => rw [Pattern.rekeepAll, List.length_cons, List.length_cons, ih]

theorem writes_choice {ps : List Pattern} (hlength : 2 ≤ ps.length)
    (h : ∀ p ∈ ps, WritesSequence defined p (p.parenthesize .sequence p.display)) :
    WritesChoice defined (.choice ps) (Pattern.choice ps).display := by
  have hne : ps ≠ [] := by
    rintro rfl
    exact absurd hlength (by decide)
  intro r e r' hpasses hclear hleads
  rw [Pattern.display] at hpasses
  obtain ⟨⟨alternatives⟩, hspells, hrenders⟩ :=
    writes_alternatives hne h r e r' hpasses hclear hleads
  refine ⟨⟨alternatives⟩, hspells, by rw [checkChoice, hrenders.checked], ?_⟩
  have hlength' := length_rekeepAll ps
  rw [lowerChoice, hrenders.lowered, Pattern.rekeep]
  cases hps : Pattern.rekeepAll ps with
  | nil =>
      rw [hps, List.length_nil] at hlength'
      omega
  | cons p rest =>
      cases rest with
      | nil =>
          rw [hps, List.length_singleton] at hlength'
          omega
      | cons q rest => rfl

/-! ## All patterns -/

/-- What a pattern's text is, without parentheses around it. -/
structure Shown (defined : List String) (p : Pattern) : Prop where
  choice : WritesChoice defined p p.display
  sequence : Level.sequence.rank ≤ p.level.rank → WritesSequence defined p p.display
  term : Level.label.rank ≤ p.level.rank → WritesTerm defined p.level p p.display

theorem Shown.of_term {p : Pattern} (h : WritesTerm defined p.level p p.display) :
    Shown defined p :=
  ⟨h.sequence.choice, fun _ => h.sequence, fun _ => h⟩

/-- A term at a place, in parentheses if it must be. -/
theorem Shown.parenthesize {p : Pattern} (h : Shown defined p) {slot : Level}
    (hslot : Level.label.rank ≤ slot.rank) :
    WritesTerm defined slot p (p.parenthesize slot p.display) := by
  unfold Pattern.parenthesize
  split
  · next hlt => exact writes_group h.choice hlt
  · next hle =>
      intro r e r' hpasses hclear hleads
      obtain ⟨term, hspells, hrenders⟩ := h.term (by omega) r e r' hpasses hclear hleads
      exact ⟨term, hspells, hrenders.weaken (by omega) (Nat.le_refl _)⟩

theorem Shown.alternative {p : Pattern} (h : Shown defined p) :
    WritesSequence defined p (p.parenthesize .sequence p.display) := by
  unfold Pattern.parenthesize
  split
  · next hlt => exact (writes_group h.choice hlt).sequence
  · next hle => exact h.sequence (Nat.not_lt.mp hle)

mutual
/-- A printable pattern's text spells what the pattern is. -/
theorem shown_of_printable : ∀ p : Pattern, p.Printable defined → Shown defined p
  | .terminal (.literal text), _ => .of_term (writes_literal text)
  | .terminal (.regex _ _), h => .of_term (writes_regex h)
  | .lookup _, h => .of_term (writes_lookup h.1 h.2)
  | .quantifier inner _ _, h =>
      .of_term (writes_quantifier ((shown_of_printable inner h.2).parenthesize (by decide)) h.1)
  | .lookahead inner wanted, h =>
      .of_term (writes_lookahead ((shown_of_printable inner h).parenthesize (by decide)) wanted)
  | .label name inner, h =>
      .of_term (writes_label ((shown_of_printable inner h).parenthesize (by decide)) name)
  | .sequence steps, h => by
      have hsequence := writes_sequence h.1 fun step hmem =>
        (shown_of_printableSteps steps h.2 step hmem).parenthesize (Nat.le_refl _)
      exact ⟨hsequence.choice, fun _ => hsequence, fun hle => absurd hle (Nat.not_succ_le_self 1)⟩
  | .choice ps, h => by
      have hchoice := writes_choice h.1 fun p hmem =>
        (shown_of_printableAll ps h.2 p hmem).alternative
      exact ⟨hchoice, fun hle => absurd hle (Nat.not_succ_le_zero 0),
        fun hle => absurd hle (Nat.not_succ_le_zero 1)⟩

theorem shown_of_printableSteps : ∀ steps : List Step, Pattern.PrintableSteps defined steps →
    ∀ step ∈ steps, Shown defined step.pattern
  | ⟨_, p⟩ :: _, h, _, .head _ => shown_of_printable p h.1
  | ⟨_, _⟩ :: steps, h, step, .tail _ hmem => shown_of_printableSteps steps h.2 step hmem

theorem shown_of_printableAll : ∀ ps : List Pattern, Pattern.PrintableAll defined ps →
    ∀ p ∈ ps, Shown defined p
  | p :: _, h, _, .head _ => shown_of_printable p h.1
  | _ :: ps, h, p, .tail _ hmem => shown_of_printableAll ps h.2 p hmem
end

end OperatorPeg.Grammar
