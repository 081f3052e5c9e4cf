import OperatorPeg.Proofs.Grammar.Quoting
import OperatorPeg.Proofs.Grammar.Spelling

/-!
# Layouts

A grammar as written is a list of pieces: its tokens in order, with the signs between
them. A text is a layout of the pieces if it has them in this order with gaps around
them, where only pieces that would run into each other need one. `Lies` says the same
of the places in the text: each piece stands where the gap behind the one before it
leads.
-/

namespace OperatorPeg.Grammar

/-! ## Pieces -/

/-- What a piece of a grammar text is. Digits make a number, and `none` is a name here. -/
inductive Piece.Kind where
  | name
  | number
  | quoted
  | regex
  | sign
  deriving DecidableEq, Repr

/-- A token of a grammar text. -/
structure Piece where
  kind : Piece.Kind
  text : String
  /-- Where it stands, if the grammar as written says so. -/
  span : Option Span
  deriving DecidableEq, Repr

/-- All signs. -/
def signs : List String := ["->", "[", "]", ",", "(", ")", "/", ":", "!", "&", "?", "*", "+"]

namespace Piece

def sign (text : String) : Piece := ⟨.sign, text, none⟩

/-- The piece is what its kind says. -/
def IsProper (p : Piece) : Prop :=
  match p.kind with
  | .name => isName p.text.toList = true
  | .number => isNumber p.text.toList = true
  | .quoted => ∃ text, p.text = Text.quote '\'' text
  | .regex => ∃ text, p.text = Text.quote '`' text
  | .sign => p.text ∈ signs

/-- A token quotes a text if it quotes what it is without its quotes. -/
theorem quotes_iff {delimiter : Char} {token : String} :
    (∃ text, token = Text.quote delimiter text) ↔
      token = Text.quote delimiter (String.ofList (Text.unquote token.toList)) := by
  refine ⟨?_, fun h => ⟨_, h⟩⟩
  rintro ⟨text, rfl⟩
  have hunquote : Text.unquote (Text.quote delimiter text).toList = text.toList := by
    have hcollapse := Text.collapse_double delimiter text.toList
    rw [← Text.content_quote] at hcollapse
    rwa [Text.quote, String.toList_ofList] at hcollapse ⊢
  rw [hunquote, String.ofList_toList]

instance (p : Piece) : Decidable p.IsProper :=
  match p with
  | ⟨.name, text, _⟩ => inferInstanceAs (Decidable (isName text.toList = true))
  | ⟨.number, text, _⟩ => inferInstanceAs (Decidable (isNumber text.toList = true))
  | ⟨.quoted, _, _⟩ => decidable_of_iff _ quotes_iff.symm
  | ⟨.regex, _, _⟩ => decidable_of_iff _ quotes_iff.symm
  | ⟨.sign, text, _⟩ => inferInstanceAs (Decidable (text ∈ signs))

namespace Kind

/-- Two pieces of these kinds need a gap between them: two words or numbers, two quoted
texts, two regexes. -/
def runsInto : Kind → Kind → Bool
  | .name, .name | .name, .number | .number, .name | .number, .number => true
  | .quoted, .quoted | .regex, .regex => true
  | _, _ => false

/-- The characters that such a piece begins with. -/
def starts : Kind → Char → Bool
  | .name => isNameStart
  | .number => isDecimal
  | .quoted => (· == '\'')
  | .regex => (· == '`')
  | .sign => (['-', '[', ']', ',', '(', ')', '/', ':', '!', '&', '?', '*', '+'].contains ·)

/-- The characters that such a piece would go on with. -/
def goesOn : Kind → Char → Bool
  | .name => isNamePart
  | .number => isDecimal
  | .quoted => (· == '\'')
  | .regex => (· == '`')
  | .sign => fun _ => false

end Kind

end Piece

/-- A token of the grammar as written. -/
def Token.piece (kind : Piece.Kind) (t : Token) : Piece := ⟨kind, t.text, some t.span⟩

/-- A sign that may be missing. -/
def signPieces : Option String → List Piece
  | none => []
  | some text => [.sign text]

/-- A label with its colon, if there is one. -/
def labelPieces : Option Token → List Piece
  | none => []
  | some t => [t.piece .quoted, .sign ":"]

mutual
def Atom.pieces : Atom → List Piece
  | .regex t => [t.piece .regex]
  | .literal t => [t.piece .quoted]
  | .group choice => .sign "(" :: (choice.pieces ++ [.sign ")"])
  | .rule t => [t.piece .name]

def Term.pieces : Term → List Piece
  | ⟨label, lead, atom, suffix⟩ =>
      labelPieces label ++ (signPieces (lead.map Prefix.sign) ++
        (atom.pieces ++ signPieces (suffix.map Suffix.sign)))

def piecesOfTerms : List Term → List Piece
  | [] => []
  | term :: terms => term.pieces ++ piecesOfTerms terms

/-- Alternatives, each behind a slash. -/
def piecesOfOthers : List Sequence → List Piece
  | [] => []
  | ⟨terms⟩ :: others => .sign "/" :: (piecesOfTerms terms ++ piecesOfOthers others)

def Choice.pieces : Choice → List Piece
  | ⟨[]⟩ => []
  | ⟨⟨terms⟩ :: others⟩ => piecesOfTerms terms ++ piecesOfOthers others
end

/-- A precedence, or the word that says that there is none. -/
def precedencePiece : Option Token → Piece
  | none => ⟨.name, "none", none⟩
  | some t => t.piece .number

def OperatorDef.pieces (op : OperatorDef) : List Piece :=
  op.name.piece .quoted :: precedencePiece op.left :: precedencePiece op.right :: op.pattern.pieces

/-- Operators with a comma between two of them, and maybe another one at the end. -/
def piecesOfOperators (trailing : Bool) : List OperatorDef → List Piece
  | [] => []
  | [op] => op.pieces ++ if trailing then [.sign ","] else []
  | op :: ops => op.pieces ++ .sign "," :: piecesOfOperators trailing ops

/-- The extent of a table begins at its bracket. -/
def Body.pieces (trailing : Bool) : Body → List Piece
  | .choice c => c.pieces
  | .table ⟨span, operators⟩ =>
      ⟨.sign, "[", some ⟨span.start, span.start + 1⟩⟩ ::
        (piecesOfOperators trailing operators ++ [.sign "]"])

def RuleDef.pieces (trailing : Bool) (rule : RuleDef) : List Piece :=
  rule.name.piece .name :: .sign "->" :: rule.body.pieces trailing

/-- The pieces of rules. Each table has a comma behind its last operator or not. -/
inductive ArePieces : List RuleDef → List Piece → Prop
  | nil : ArePieces [] []
  | cons {rule : RuleDef} {rules : List RuleDef} {pieces : List Piece} (trailing : Bool) :
      ArePieces rules pieces → ArePieces (rule :: rules) (rule.pieces trailing ++ pieces)

/-! ## Grammars without empty parts -/

mutual
def Atom.IsFull : Atom → Prop
  | .regex _ => True
  | .literal _ => True
  | .group choice => choice.IsFull
  | .rule _ => True

def Term.IsFull : Term → Prop
  | ⟨_, _, atom, _⟩ => atom.IsFull

def TermsFull : List Term → Prop
  | [] => True
  | term :: terms => term.IsFull ∧ TermsFull terms

def SequencesFull : List Sequence → Prop
  | [] => True
  | ⟨terms⟩ :: others => (terms ≠ [] ∧ TermsFull terms) ∧ SequencesFull others

def Choice.IsFull : Choice → Prop
  | ⟨alternatives⟩ => alternatives ≠ [] ∧ SequencesFull alternatives
end

def Body.IsFull : Body → Prop
  | .choice c => c.IsFull
  | .table t => ∀ op ∈ t.operators, op.pattern.IsFull

/-- There are rules, and all choices and sequences in them have parts. -/
structure Ast.IsFull (ast : Ast) : Prop where
  rules : ast.rules ≠ []
  bodies : ∀ rule ∈ ast.rules, rule.body.IsFull

/-! ## Layouts -/

/-- The text of pieces, each behind its gap, with another gap at the end. -/
def weave : List (List Char × Piece) → List Char → List Char
  | [], last => last
  | (gap, p) :: parts, last => gap ++ (p.text.toList ++ weave parts last)

/-- Behind a piece of the kind `before`, if there is one, pieces that would run into each
other have a gap between them. -/
def areApart (before : Option Piece.Kind) : List (List Char × Piece) → Bool
  | [] => true
  | (gap, p) :: parts =>
      (!gap.isEmpty || before.all (!·.runsInto p.kind)) && areApart (some p.kind) parts

/-- From byte `offset` on, the pieces are where the grammar as written says that they are. -/
def arePlaced (offset : Nat) : List (List Char × Piece) → Bool
  | [] => true
  | (gap, p) :: parts =>
      let start := offset + Text.byteLength gap
      let stop := start + p.text.utf8ByteSize
      p.span.all (· == ⟨start, stop⟩) && arePlaced stop parts

/-- The pieces, each with the gap before it, and the gap `last` at the end are the text. -/
structure IsLayout (parts : List (List Char × Piece)) (last text : List Char) : Prop where
  text : text = weave parts last
  blank : ∀ gap ∈ last :: parts.map (·.1), Blank gap
  apart : areApart none parts = true
  placed : arePlaced 0 parts = true

/-- The piece stands at `r`, and the gap behind it leads to `r'`. -/
structure Piece.Stands (p : Piece) (r r' : Cursor) : Prop where
  passes : ∃ e, r.Passes p.text.toList e ∧ Leads e r' ∧
    (∀ ch, e.ahead.head? = some ch → p.kind.goesOn ch = false) ∧
    ∀ span ∈ p.span, span = ⟨r.offset, e.offset⟩
  proper : p.IsProper

/-- The pieces stand from `r` on up to the end. -/
inductive Lies : List Piece → Cursor → Prop
  | nil {r : Cursor} : r.ahead = [] → Lies [] r
  | cons {p : Piece} {pieces : List Piece} {r r' : Cursor} :
      p.Stands r r' → Lies pieces r' → Lies (p :: pieces) r

namespace Piece.Kind

theorem starts_sign {ch : Char} (h : Kind.sign.starts ch = true) :
    (∀ kind : Kind, kind.goesOn ch = false) ∧ Unicode.isWhiteSpace ch = false ∧ ch ≠ '#' := by
  have hmem := List.contains_iff_mem.mp h
  simp only [List.mem_cons, List.not_mem_nil, or_false] at hmem
  rcases hmem with rfl | rfl | rfl | rfl | rfl | rfl | rfl | rfl | rfl | rfl | rfl | rfl | rfl <;>
    refine ⟨fun kind => ?_, by decide, by decide⟩ <;> cases kind <;> decide +kernel

/-- A piece does not go on with the first character of one that it does not run into. -/
theorem goesOn_of_starts {kind next : Kind} {ch : Char} (hstarts : next.starts ch = true)
    (happart : kind.runsInto next = false) : kind.goesOn ch = false := by
  rw [← Bool.not_eq_true]
  intro hgoes
  cases next with
  | sign => exact absurd hgoes (by rw [(starts_sign hstarts).1]; nofun)
  | quoted =>
      cases beq_iff_eq.mp hstarts
      cases kind <;> revert hgoes happart <;> decide +kernel
  | regex =>
      cases beq_iff_eq.mp hstarts
      cases kind <;> revert hgoes happart <;> decide +kernel
  | name =>
      cases kind with
      | name | number => cases happart
      | sign => cases hgoes
      | quoted | regex =>
          cases beq_iff_eq.mp hgoes
          exact absurd hstarts (by decide)
  | number =>
      cases kind with
      | name | number => cases happart
      | sign => cases hgoes
      | quoted | regex =>
          cases beq_iff_eq.mp hgoes
          exact absurd hstarts (by decide +kernel)

theorem starts_significant {kind : Kind} {ch : Char} (h : kind.starts ch = true) :
    Unicode.isWhiteSpace ch = false ∧ ch ≠ '#' := by
  cases kind with
  | name => exact isNameStart_significant h
  | number => exact isDecimal_significant h
  | quoted | regex =>
      cases beq_iff_eq.mp h
      decide
  | sign => exact (starts_sign h).2

theorem goesOn_significant {kind : Kind} {ch : Char} (h : kind.goesOn ch = true) :
    Unicode.isWhiteSpace ch = false ∧ ch ≠ '#' := by
  cases kind with
  | name =>
      have hpart : namePart.contains ch = true := (namePart_contains ch).trans h
      refine ⟨CharSet.not_contains_of_isApart (by decide) hpart, ?_⟩
      rintro rfl
      exact absurd h (by decide)
  | number => exact isDecimal_significant h
  | quoted | regex =>
      cases beq_iff_eq.mp h
      decide
  | sign => cases h

end Piece.Kind

theorem Piece.IsProper.starts {p : Piece} (h : p.IsProper) :
    ∃ ch text, p.text.toList = ch :: text ∧ p.kind.starts ch = true := by
  obtain ⟨kind, text, span⟩ := p
  cases kind with
  | name =>
      cases htext : text.toList with
      | nil => exact absurd h (by simp [IsProper, htext, isName])
      | cons ch rest =>
          simp only [IsProper, htext, isName, Bool.and_eq_true] at h
          exact ⟨ch, rest, rfl, h.1⟩
  | number =>
      cases htext : text.toList with
      | nil => exact absurd h (by simp [IsProper, htext, isNumber])
      | cons ch rest =>
          simp only [IsProper, htext, isNumber, Bool.and_eq_true] at h
          exact ⟨ch, rest, rfl, h.1⟩
  | quoted | regex =>
      obtain ⟨inside, rfl⟩ := h
      exact ⟨_, _, by rw [Text.quote, String.toList_ofList], beq_self_eq_true _⟩
  | sign =>
      have hsigns : ∀ text ∈ signs, ∃ ch rest, text.toList = ch :: rest ∧
          Kind.sign.starts ch = true := by
        simp only [signs, List.forall_mem_cons]
        exact ⟨⟨_, _, rfl, rfl⟩, ⟨_, _, rfl, rfl⟩, ⟨_, _, rfl, rfl⟩, ⟨_, _, rfl, rfl⟩,
          ⟨_, _, rfl, rfl⟩, ⟨_, _, rfl, rfl⟩, ⟨_, _, rfl, rfl⟩, ⟨_, _, rfl, rfl⟩,
          ⟨_, _, rfl, rfl⟩, ⟨_, _, rfl, rfl⟩, ⟨_, _, rfl, rfl⟩, ⟨_, _, rfl, rfl⟩,
          ⟨_, _, rfl, rfl⟩, List.forall_mem_nil _⟩
      exact hsigns text h

/-- No piece goes on with what begins a gap. -/
theorem Blank.goesOn {gap : List Char} (h : Blank gap) (kind : Piece.Kind) {ch : Char}
    (hch : gap.head? = some ch) : kind.goesOn ch = false := by
  rw [← Bool.not_eq_true]
  intro hgoes
  obtain ⟨hspace, hcomment⟩ := Piece.Kind.goesOn_significant hgoes
  cases h with
  | nil => cases hch
  | space hwhite _ =>
      cases hch
      rw [hspace] at hwhite
      cases hwhite
  | comment _ _ =>
      cases hch
      exact hcomment rfl

/-- Woven pieces stand where the gaps before them lead, and a piece before them does not go
on. -/
theorem lies_of_weave {before : Option Piece.Kind} {offset : Nat}
    {parts : List (List Char × Piece)} {last : List Char}
    (hblank : ∀ gap ∈ last :: parts.map (·.1), Blank gap)
    (happart : areApart before parts = true) (hplaced : arePlaced offset parts = true)
    (hproper : ∀ part ∈ parts, part.2.IsProper) {c : Cursor} (hahead : c.ahead = weave parts last)
    (hoffset : c.offset = offset) :
    (∀ kind ∈ before, ∀ ch, c.ahead.head? = some ch → kind.goesOn ch = false) ∧
      ∃ r, Leads c r ∧ Lies (parts.map (·.2)) r := by
  induction parts generalizing before offset c with
  | nil =>
      have hgap := hblank last List.mem_cons_self
      obtain ⟨r, hr, hend⟩ : ∃ r, c.Passes last r ∧ r.ahead = [] :=
        Cursor.Passes.exists_of_ahead (by rw [hahead, weave, List.append_nil])
      refine ⟨fun kind _ ch hch => hgap.goesOn kind (by rwa [hahead] at hch), r,
        ⟨⟨last, hgap, hr⟩, ?_⟩, .nil hend⟩
      rw [hend]
      nofun
  | cons part parts ih =>
      obtain ⟨gap, p⟩ := part
      obtain ⟨hp, hproper⟩ := List.forall_mem_cons.mp hproper
      rw [List.map_cons, List.forall_mem_cons, List.forall_mem_cons] at hblank
      obtain ⟨hlast, hgap, hblank⟩ := hblank
      simp only [areApart, arePlaced, Bool.and_eq_true] at happart hplaced
      obtain ⟨r, hr, hrest⟩ := Cursor.Passes.exists_of_ahead hahead
      obtain ⟨e, he, hend⟩ := Cursor.Passes.exists_of_ahead hrest
      have hstart : r.offset = offset + Text.byteLength gap := by rw [hr.offset, hoffset]
      have hstop : e.offset = offset + Text.byteLength gap + p.text.utf8ByteSize := by
        rw [he.offset, hstart, Text.byteLength_toList]
      obtain ⟨hstops, r', hleads, hlies⟩ :=
        ih (List.forall_mem_cons.mpr ⟨hlast, hblank⟩) happart.2 hplaced.2 hproper hend hstop
      obtain ⟨first, rest, hfirst, hstarts⟩ := hp.starts
      have hhead : r.ahead.head? = some first := by rw [hrest, hfirst]; rfl
      have hstands : p.Stands r r' := by
        refine ⟨⟨e, he, hleads, hstops _ rfl, fun span hspan => ?_⟩, hp⟩
        have hat := hplaced.1
        rw [hspan, Option.all_some, beq_iff_eq] at hat
        rw [hat, hstart, hstop]
      refine ⟨fun kind hkind ch hch => ?_, r, ⟨⟨gap, hgap, hr⟩, fun ch hch => ?_⟩,
        .cons hstands hlies⟩
      · rw [hahead, weave] at hch
        cases gap with
        | nil =>
            rw [List.nil_append, hfirst] at hch
            cases hch
            have hnext := happart.1
            rw [hkind] at hnext
            exact Piece.Kind.goesOn_of_starts hstarts ((Bool.not_eq_true' _).mp hnext)
        | cons space gap => exact hgap.goesOn kind hch
      · cases hhead.symm.trans hch
        exact Piece.Kind.starts_significant hstarts

end OperatorPeg.Grammar
