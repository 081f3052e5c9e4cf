import OperatorPeg.Grammar.Ast
import OperatorPeg.Proofs.Grammar.Parses

/-!
# Grammars as written

`Spells` says of each part of a grammar that it is what stands in a text between two
places, gaps and all: which tokens, in which order, and where. It leaves open what
the gaps are, as long as no two tokens run into each other.
-/

namespace OperatorPeg.Grammar

/-! ## Tokens -/

/-- A text at `r`, with the gap behind it. -/
structure Stands (text : String) (r r' : Cursor) : Prop where
  passes : ∃ e, r.Passes text.toList e ∧ Leads e r'

/-- A token that no character of the kind `goesOn` may follow directly. -/
structure Token.Spells (t : Token) (goesOn : Char → Bool) (r r' : Cursor) : Prop where
  passes : ∃ e, r.Passes t.text.toList e ∧ Leads e r' ∧
    (∀ ch, e.ahead.head? = some ch → goesOn ch = false) ∧ t.span = ⟨r.offset, e.offset⟩

/-- The token is a name. -/
structure Token.SpellsName (t : Token) (r r' : Cursor) : Prop where
  spells : t.Spells isNamePart r r'
  name : isName t.text.toList = true

/-- The token quotes a text. -/
structure Token.SpellsQuoted (delimiter : Char) (t : Token) (r r' : Cursor) : Prop where
  spells : t.Spells (· == delimiter) r r'
  quoted : ∃ text, t.text = Text.quote delimiter text

/-- The token is a number. -/
structure Token.SpellsDigits (t : Token) (r r' : Cursor) : Prop where
  spells : t.Spells isDecimal r r'
  number : isNumber t.text.toList = true

/-- A sign that may be missing. -/
def SpellsSign : Option String → Cursor → Cursor → Prop
  | none, r, r' => r' = r
  | some text, r, r' => Stands text r r'

/-! ## Choices -/

def Prefix.sign : Prefix → String
  | .not => "!"
  | .and => "&"

def Suffix.sign : Suffix → String
  | .optional => "?"
  | .star => "*"
  | .plus => "+"

/-- A label with its colon, if there is one. -/
def SpellsLabel : Option Token → Cursor → Cursor → Prop
  | none, r, r' => r' = r
  | some t, r, r' => ∃ r₁, t.SpellsQuoted '\'' r r₁ ∧ Stands ":" r₁ r'

mutual
inductive Atom.Spells : Atom → Cursor → Cursor → Prop
  | regex {t : Token} {r r' : Cursor} : t.SpellsQuoted '`' r r' → Atom.Spells (.regex t) r r'
  | literal {t : Token} {r r' : Cursor} :
      t.SpellsQuoted '\'' r r' → Atom.Spells (.literal t) r r'
  | rule {t : Token} {r r' : Cursor} : t.SpellsName r r' → Atom.Spells (.rule t) r r'
  | group {choice : Choice} {r r₁ r₂ r' : Cursor} :
      Stands "(" r r₁ → Choice.Spells choice r₁ r₂ → Stands ")" r₂ r' →
      Atom.Spells (.group choice) r r'

inductive Term.Spells : Term → Cursor → Cursor → Prop
  | term {label : Option Token} {lead : Option Prefix} {atom : Atom} {suffix : Option Suffix}
      {r r₁ r₂ r₃ r' : Cursor} :
      SpellsLabel label r r₁ → SpellsSign (lead.map Prefix.sign) r₁ r₂ →
      Atom.Spells atom r₂ r₃ → SpellsSign (suffix.map Suffix.sign) r₃ r' →
      Term.Spells ⟨label, lead, atom, suffix⟩ r r'

/-- Terms, one after the other. -/
inductive TermsSpell : List Term → Cursor → Cursor → Prop
  | one {term : Term} {r r' : Cursor} : Term.Spells term r r' → TermsSpell [term] r r'
  | more {term : Term} {terms : List Term} {r r₁ r' : Cursor} :
      Term.Spells term r r₁ → TermsSpell terms r₁ r' → TermsSpell (term :: terms) r r'

/-- Alternatives, each behind a slash. -/
inductive OthersSpell : List Sequence → Cursor → Cursor → Prop
  | none {r : Cursor} : OthersSpell [] r r
  | more {terms : List Term} {others : List Sequence} {r r₁ r₂ r' : Cursor} :
      Stands "/" r r₁ → TermsSpell terms r₁ r₂ → OthersSpell others r₂ r' →
      OthersSpell (⟨terms⟩ :: others) r r'

inductive Choice.Spells : Choice → Cursor → Cursor → Prop
  | choice {terms : List Term} {others : List Sequence} {r r₁ r' : Cursor} :
      TermsSpell terms r r₁ → OthersSpell others r₁ r' → Choice.Spells ⟨⟨terms⟩ :: others⟩ r r'
end

/-! ## Rules -/

/-- A precedence: a number, or the word that says that there is none. -/
def SpellsPrecedence : Option Token → Cursor → Cursor → Prop
  | none, r, r' => Stands "none" r r'
  | some t, r, r' => t.SpellsDigits r r'

inductive OperatorDef.Spells : OperatorDef → Cursor → Cursor → Prop
  | operator {name : Token} {left right : Option Token} {pattern : Choice}
      {r r₁ r₂ r₃ r' : Cursor} :
      name.SpellsQuoted '\'' r r₁ → SpellsPrecedence left r₁ r₂ → SpellsPrecedence right r₂ r₃ →
      pattern.Spells r₃ r' → OperatorDef.Spells ⟨name, left, right, pattern⟩ r r'

/-- Operators with commas between them; there may be another one at the end. -/
inductive OperatorsSpell : List OperatorDef → Cursor → Cursor → Prop
  | none {r : Cursor} : OperatorsSpell [] r r
  | last {op : OperatorDef} {r r' : Cursor} : op.Spells r r' → OperatorsSpell [op] r r'
  | comma {op : OperatorDef} {ops : List OperatorDef} {r r₁ r₂ r' : Cursor} :
      op.Spells r r₁ → Stands "," r₁ r₂ → OperatorsSpell ops r₂ r' →
      OperatorsSpell (op :: ops) r r'

inductive Body.Spells : Body → Cursor → Cursor → Prop
  | choice {choice : Choice} {r r' : Cursor} :
      choice.Spells r r' → Body.Spells (.choice choice) r r'
  | table {stop : Nat} {operators : List OperatorDef} {r r₁ r₂ r' : Cursor} :
      Stands "[" r r₁ → OperatorsSpell operators r₁ r₂ → Stands "]" r₂ r' →
      Body.Spells (.table ⟨⟨r.offset, stop⟩, operators⟩) r r'

/-- A name and an arrow, which begin a rule. -/
def SpellsHead (name : Token) (r r' : Cursor) : Prop :=
  ∃ r₁, name.SpellsName r r₁ ∧ Stands "->" r₁ r'

inductive RuleDef.Spells : RuleDef → Cursor → Cursor → Prop
  | rule {name : Token} {body : Body} {r r₁ r' : Cursor} :
      SpellsHead name r r₁ → body.Spells r₁ r' → RuleDef.Spells ⟨name, body⟩ r r'

/-- Rules, one after the other. -/
inductive RulesSpell : List RuleDef → Cursor → Cursor → Prop
  | one {rule : RuleDef} {r r' : Cursor} : rule.Spells r r' → RulesSpell [rule] r r'
  | more {rule : RuleDef} {rules : List RuleDef} {r r₁ r' : Cursor} :
      rule.Spells r r₁ → RulesSpell rules r₁ r' → RulesSpell (rule :: rules) r r'

/-! ## How parts begin -/

/-- The character at `r` is of the kind. -/
def Begins (kind : Char → Bool) (r : Cursor) : Prop :=
  ∃ ch, r.ahead.head? = some ch ∧ kind ch = true

/-- What begins with one kind of character does not begin with another. -/
theorem Begins.head?_ne {kind : Char → Bool} {r : Cursor} (h : Begins kind r) {ch : Char}
    (hkind : kind ch = false) : r.ahead.head? ≠ some ch := by
  obtain ⟨ch', hch', hk⟩ := h
  rintro hch
  cases hch'.symm.trans hch
  rw [hkind] at hk
  cases hk

theorem Stands.begins {text : String} {ch : Char} {r r' : Cursor} (h : Stands text r r')
    (hch : text.toList.head? = some ch) : r.ahead.head? = some ch := by
  obtain ⟨e, he, -⟩ := h.passes
  rw [he.ahead, List.head?_append, hch]
  rfl

theorem Token.SpellsName.begins {t : Token} {r r' : Cursor} (h : t.SpellsName r r') :
    Begins isNameStart r := by
  obtain ⟨e, he, -⟩ := h.spells.passes
  have hname := h.name
  cases htext : t.text.toList with
  | nil => rw [htext] at hname; cases hname
  | cons ch text =>
      rw [htext] at hname he
      simp only [isName, Bool.and_eq_true] at hname
      exact ⟨ch, by rw [he.ahead]; rfl, hname.1⟩

theorem Token.SpellsQuoted.begins {delimiter : Char} {t : Token} {r r' : Cursor}
    (h : t.SpellsQuoted delimiter r r') : r.ahead.head? = some delimiter := by
  obtain ⟨e, he, -⟩ := h.spells.passes
  obtain ⟨text, htext⟩ := h.quoted
  rw [he.ahead, htext, Text.quote, String.toList_ofList]
  rfl

/-! ## Parts take something -/

theorem length_le_of_leads {text : List Char} {r e r' : Cursor} (h : r.Passes text e)
    (he : Leads e r') : r'.ahead.length + text.length ≤ r.ahead.length := by
  have hpassed := h.length
  have hgap := he.reaches.length_le
  omega

theorem Stands.shorter {text : String} {r r' : Cursor} (h : Stands text r r')
    (hne : text.toList ≠ []) : r'.ahead.length < r.ahead.length := by
  obtain ⟨e, he, hleads⟩ := h.passes
  have hlen := length_le_of_leads he hleads
  have hpos := List.length_pos_iff.mpr hne
  omega

theorem Token.Spells.shorter {t : Token} {goesOn : Char → Bool} {r r' : Cursor}
    (h : t.Spells goesOn r r') (hne : t.text.toList ≠ []) : r'.ahead.length < r.ahead.length := by
  obtain ⟨e, he, hleads, -⟩ := h.passes
  exact Stands.shorter ⟨e, he, hleads⟩ hne

theorem Token.SpellsName.shorter {t : Token} {r r' : Cursor} (h : t.SpellsName r r') :
    r'.ahead.length < r.ahead.length := by
  apply h.spells.shorter
  intro hnil
  have hname := h.name
  rw [hnil] at hname
  cases hname

theorem Token.SpellsQuoted.shorter {delimiter : Char} {t : Token} {r r' : Cursor}
    (h : t.SpellsQuoted delimiter r r') : r'.ahead.length < r.ahead.length := by
  apply h.spells.shorter
  obtain ⟨text, htext⟩ := h.quoted
  rw [htext, Text.quote, String.toList_ofList]
  nofun

theorem SpellsSign.length_le {sign : Option String} {r r' : Cursor} (h : SpellsSign sign r r') :
    r'.ahead.length ≤ r.ahead.length := by
  cases sign with
  | none =>
      cases h
      exact Nat.le_refl _
  | some text =>
      obtain ⟨e, he, hleads⟩ := h.passes
      have hlen := length_le_of_leads he hleads
      omega

theorem SpellsLabel.length_le {label : Option Token} {r r' : Cursor} (h : SpellsLabel label r r') :
    r'.ahead.length ≤ r.ahead.length := by
  cases label with
  | none =>
      cases h
      exact Nat.le_refl _
  | some t =>
      obtain ⟨r₁, hname, hcolon⟩ := h
      have hname := hname.shorter
      have hcolon := hcolon.shorter (by decide)
      omega

mutual
theorem Atom.Spells.shorter {atom : Atom} {r r' : Cursor} :
    atom.Spells r r' → r'.ahead.length < r.ahead.length
  | .regex ht => ht.shorter
  | .literal ht => ht.shorter
  | .rule ht => ht.shorter
  | .group hopen hchoice hclose => by
      have hopen := hopen.shorter (by decide)
      have hchoice := hchoice.shorter
      have hclose := hclose.shorter (by decide)
      omega

theorem Term.Spells.shorter {term : Term} {r r' : Cursor} :
    term.Spells r r' → r'.ahead.length < r.ahead.length
  | .term hlabel hlead hatom hsuffix => by
      have hlabel := hlabel.length_le
      have hlead := hlead.length_le
      have hatom := hatom.shorter
      have hsuffix := hsuffix.length_le
      omega

theorem TermsSpell.shorter {terms : List Term} {r r' : Cursor} :
    TermsSpell terms r r' → r'.ahead.length < r.ahead.length
  | .one hterm => hterm.shorter
  | .more hterm hterms => Nat.lt_trans hterms.shorter hterm.shorter

theorem OthersSpell.length_le {others : List Sequence} {r r' : Cursor} :
    OthersSpell others r r' → r'.ahead.length ≤ r.ahead.length
  | .none => Nat.le_refl _
  | .more hslash hterms hothers => by
      have hslash := hslash.shorter (by decide)
      have hterms := hterms.shorter
      have hothers := hothers.length_le
      omega

theorem Choice.Spells.shorter {choice : Choice} {r r' : Cursor} :
    choice.Spells r r' → r'.ahead.length < r.ahead.length
  | .choice hterms hothers => Nat.lt_of_le_of_lt hothers.length_le hterms.shorter
end

end OperatorPeg.Grammar
