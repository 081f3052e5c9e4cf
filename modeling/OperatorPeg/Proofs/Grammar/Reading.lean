import OperatorPeg.Proofs.Conformance
import OperatorPeg.Proofs.Grammar.Checks
import OperatorPeg.Proofs.Grammar.Leaves
import OperatorPeg.Proofs.Grammar.Reader
import OperatorPeg.Proofs.Grammar.Tokens

/-!
# Reading the trees of the base rules

The reader follows labels and first children, and the base rules put a node wherever it
looks: every tree that they make is read. What is read off it is sound: no choice and no
sequence in it is empty, and its tokens are names, numbers and quoted texts. The reader goes
through the tree from left to right, so the tokens are in the order of the leaves.
-/

namespace OperatorPeg

theorem Tree.height_le_heightOfAll {t : Tree} {ts : List Tree} (h : t ∈ ts) :
    t.height ≤ Tree.heightOfAll ts := by
  induction ts with
  | nil => cases h
  | cons _ ts ih =>
      rw [Tree.heightOfAll]
      rcases List.mem_cons.mp h with rfl | h
      · exact Nat.le_max_left _ _
      · exact Nat.le_trans (ih h) (Nat.le_max_right _ _)

namespace Grammar

/-! ## Results -/

/-- There is a result, and it is as described. -/
def Gives {α ε : Type} (x : Except ε α) (good : α → Prop) : Prop :=
  ∃ a, x = .ok a ∧ good a

section Gives

variable {α β ε : Type} {x : Except ε α} {f : α → Except ε β} {good : α → Prop} {fine : β → Prop}

theorem Gives.bind (h : Gives x good) (hf : ∀ a, good a → Gives (f a) fine) :
    Gives (x >>= f) fine := by
  obtain ⟨a, ha, hgood⟩ := h
  obtain ⟨b, hb, hfine⟩ := hf a hgood
  exact ⟨b, bind_eq_ok.mpr ⟨a, ha, hb⟩, hfine⟩

theorem Gives.bind_ok {a : α} (h : x = .ok a) (hf : Gives (f a) fine) : Gives (x >>= f) fine :=
  Gives.bind ⟨a, h, rfl⟩ fun _ ha => ha ▸ hf

theorem Gives.pure {a : α} (h : good a) : Gives (Pure.pure a : Except ε α) good := ⟨a, rfl, h⟩

theorem Gives.imp {good' : α → Prop} (h : Gives x good) (himp : ∀ {a}, good a → good' a) :
    Gives x good' := by
  obtain ⟨a, ha, hgood⟩ := h
  exact ⟨a, ha, himp hgood⟩

theorem Gives.mapM {r : α → β → Prop} {xs : List α} (h : ∀ x ∈ xs, Gives (f x) (r x)) :
    Gives (xs.mapM f) (List.Forall₂ r xs) := by
  induction xs with
  | nil => exact ⟨[], rfl, .nil⟩
  | cons x xs ih =>
      obtain ⟨hx, hxs⟩ := List.forall_mem_cons.mp h
      rw [List.mapM_cons]
      exact hx.bind fun y hy => (ih hxs).bind fun ys hys => .pure (.cons hy hys)

theorem forall_mem_of_forall₂ {xs : List α} {ys : List β}
    (h : List.Forall₂ (fun _ => fine) xs ys) : ∀ y ∈ ys, fine y := by
  induction h with
  | nil => nofun
  | cons hy _ ih => exact List.forall_mem_cons.mpr ⟨hy, ih⟩

end Gives

/-! ## Sound grammars -/

/-- The token is a name. -/
def Token.IsName (t : Token) : Prop := isName t.text.toList = true

/-- The token is a number. -/
def Token.IsNumber (t : Token) : Prop := isNumber t.text.toList = true

/-- The token quotes a text. -/
def Token.Quotes (delimiter : Char) (t : Token) : Prop := ∃ text, t.text = Text.quote delimiter text

mutual
inductive Atom.IsSound : Atom → Prop
  | regex {t : Token} : t.Quotes '`' → Atom.IsSound (.regex t)
  | literal {t : Token} : t.Quotes '\'' → Atom.IsSound (.literal t)
  | group {choice : Choice} : Choice.IsSound choice → Atom.IsSound (.group choice)
  | rule {t : Token} : t.IsName → Atom.IsSound (.rule t)

inductive Term.IsSound : Term → Prop
  | term {label : Option Token} {lead : Option Prefix} {atom : Atom} {suffix : Option Suffix} :
      (∀ t ∈ label, t.Quotes '\'') → Atom.IsSound atom → Term.IsSound ⟨label, lead, atom, suffix⟩

/-- There are terms, and each is sound. -/
inductive Sequence.IsSound : Sequence → Prop
  | sequence {terms : List Term} :
      terms ≠ [] → (∀ term ∈ terms, Term.IsSound term) → Sequence.IsSound ⟨terms⟩

/-- There are alternatives, and each is sound. -/
inductive Choice.IsSound : Choice → Prop
  | choice {alternatives : List Sequence} :
      alternatives ≠ [] → (∀ s ∈ alternatives, Sequence.IsSound s) → Choice.IsSound ⟨alternatives⟩
end

structure OperatorDef.IsSound (op : OperatorDef) : Prop where
  name : op.name.Quotes '\''
  left : ∀ t ∈ op.left, t.IsNumber
  right : ∀ t ∈ op.right, t.IsNumber
  pattern : op.pattern.IsSound

/-- The choice is sound, or the operators of the table are. -/
def Body.IsSound : Body → Prop
  | .choice c => c.IsSound
  | .table t => ∀ op ∈ t.operators, op.IsSound

structure RuleDef.IsSound (rule : RuleDef) : Prop where
  name : rule.name.IsName
  body : rule.body.IsSound

/-- There are rules, and each is sound. -/
structure Ast.IsSound (ast : Ast) : Prop where
  rules : ast.rules ≠ []
  each : ∀ rule ∈ ast.rules, rule.IsSound

/-! ## What is read off a tree -/

/-- What is read is sound, and its tokens are among those of the tree, in their order. -/
structure ReadFrom {α : Type} (sound : α → Prop) (tokens : α → List Token) (tree : Tree) (a : α) :
    Prop where
  sound : sound a
  tokens : (tokens a).Sublist tree.tokens

/-- What is read off the first node of a sequence. -/
theorem ReadFrom.inSequence {α : Type} {sound : α → Prop} {tokens : α → List Token} {tree : Tree}
    {offset : Nat} {rest : List Tree} {a : α} (h : ReadFrom sound tokens tree a) :
    ReadFrom sound tokens (.sequence offset (tree :: rest)) a := by
  refine ⟨h.sound, ?_⟩
  rw [Tree.tokens_sequence, List.flatMap_cons]
  exact h.tokens.trans (List.sublist_append_left _ _)

/-- What is read off each of the trees. -/
theorem readFrom_all {α : Type} {sound : α → Prop} {tokens : α → List Token} {trees : List Tree}
    {xs : List α} (h : List.Forall₂ (ReadFrom sound tokens) trees xs) :
    (∀ x ∈ xs, sound x) ∧ (xs.flatMap tokens).Sublist (trees.flatMap Tree.tokens) := by
  induction h with
  | nil => exact ⟨nofun, .slnil⟩
  | cons hx _ ih =>
      rw [List.flatMap_cons, List.flatMap_cons]
      exact ⟨List.forall_mem_cons.mpr ⟨hx.sound, ih.1⟩, hx.tokens.append ih.2⟩

/-- The table has the place of a node that its tokens are below. -/
def TableDef.SitsIn (tree : Tree) (table : TableDef) : Prop :=
  ∃ node : Tree, node.HasNode tree ∧ table.span = node.extent ∧
    table.tokens.Sublist node.tokens

def Body.SitsIn (tree : Tree) : Body → Prop
  | .choice _ => True
  | .table t => t.SitsIn tree

theorem Body.SitsIn.under {tree child : Tree} {body : Body} (h : body.SitsIn child)
    (hchild : child ∈ tree.children) : body.SitsIn tree := by
  cases body with
  | choice => trivial
  | table =>
      obtain ⟨node, hnode, hplace⟩ := h
      exact ⟨node, .under hchild hnode, hplace⟩

/-! ## Tokens -/

variable {beyond : List Char}

theorem accepts_of_regex {source text : String} {meaning : Regex}
    (h : (Terminal.regex source meaning).Accepts beyond text) : meaning.Accepts text.toList := by
  obtain ⟨c, stop, hend, rfl⟩ := h
  obtain ⟨w, hpasses, haccepts⟩ := Regex.accepts_of_mem_ends (List.mem_of_mem_head? hend)
  rwa [String.toList_ofList, hpasses.textUpTo]

/-- Repeated characters of a set. -/
theorem contains_of_accepts {set : CharSet} {us : List (List Char)}
    (h : ∀ u ∈ us, (Regex.oneOf set).Accepts u) : ∀ ch ∈ us.flatten, set.contains ch = true := by
  intro ch hch
  obtain ⟨u, hu, hch⟩ := List.mem_flatten.mp hch
  obtain ⟨ch', rfl, hset⟩ := h u hu
  rwa [List.mem_singleton.mp hch]

theorem isName_of_accepts {text : String} (h : Base.name.Accepts beyond text) :
    isName text.toList = true := by
  obtain ⟨_, _, htext, ⟨ch, rfl, hstart⟩, us, rfl, -, hparts⟩ := accepts_of_regex h
  rw [htext, List.singleton_append, isName, Bool.and_eq_true, List.all_eq_true]
  refine ⟨by rw [← nameStart_contains, hstart], fun ch hch => ?_⟩
  rw [← namePart_contains, contains_of_accepts hparts ch hch]

theorem isNumber_of_accepts {text : String} (h : Base.digits.Accepts beyond text) :
    isNumber text.toList = true := by
  obtain ⟨us, htext, hleast, hdigits⟩ := accepts_of_regex h
  cases us with
  | nil => cases hleast
  | cons u us =>
      obtain ⟨⟨ch, rfl, hfirst⟩, hrest⟩ := List.forall_mem_cons.mp hdigits
      rw [htext, List.flatten_cons, List.singleton_append, isNumber, Bool.and_eq_true,
        List.all_eq_true]
      exact ⟨hfirst, contains_of_accepts hrest⟩

theorem eq_of_accepts {literal text : String}
    (h : (Terminal.literal literal).Accepts beyond text) : text = literal := by
  obtain ⟨c, stop, hend, rfl⟩ := h
  rw [(Cursor.after?_eq_some_iff.mp hend).textUpTo, String.ofList_toList]

/-- What the pieces of a quoted text make up is a text with its delimiters doubled. -/
theorem exists_double {delimiter : Char} {us : List (List Char)}
    (h : ∀ u ∈ us, (quotedPiece delimiter).Accepts u) :
    ∃ inside, us.flatten = Text.double delimiter inside := by
  induction us with
  | nil => exact ⟨[], rfl⟩
  | cons u us ih =>
      obtain ⟨hu, hus⟩ := List.forall_mem_cons.mp h
      obtain ⟨inside, hinside⟩ := ih hus
      rw [List.flatten_cons, hinside]
      rcases hu with ⟨ch, rfl, hother⟩ | ⟨_, _, rfl, ⟨ch, rfl, hch⟩, ch', rfl, hch'⟩
      · rw [CharSet.contains_complement_singleton] at hother
        exact ⟨ch :: inside, by rw [Text.double, if_neg hother]; rfl⟩
      · rw [CharSet.contains_singleton] at hch hch'
        exact ⟨delimiter :: inside, by rw [Text.double, if_pos rfl, hch, hch']; rfl⟩

theorem quotes_of_accepts {delimiter : Char} {source text : String}
    (h : (Terminal.regex source (quotedMeaning delimiter)).Accepts beyond text) :
    ∃ inside, text = Text.quote delimiter inside := by
  obtain ⟨_, _, htext, ⟨first, rfl, hfirst⟩, _, _, rfl, ⟨us, rfl, -, hpieces⟩, last, rfl, hlast⟩ :=
    accepts_of_regex h
  obtain ⟨inside, hinside⟩ := exists_double hpieces
  rw [CharSet.contains_singleton] at hfirst hlast
  refine ⟨String.ofList inside, String.toList_inj.mp ?_⟩
  rw [htext, hinside, hfirst, hlast, Text.quote, String.toList_ofList, String.toList_ofList,
    List.singleton_append]

theorem exists_of_lookup {key : String} {p : Pattern} {tree : Tree}
    (hget : base.get? key = some p) (h : Conforms base beyond (.lookup key) tree) :
    ∃ offset child, tree = .lookup offset key child ∧ Conforms base beyond p child := by
  cases h with
  | lookup hget' hchild =>
      cases hget.symm.trans hget'
      exact ⟨_, _, rfl, hchild⟩

/-- A rule that is a terminal makes a token. -/
theorem reads_token {key : String} {t : Terminal} {good : String → Prop} {tree : Tree}
    (hget : base.get? key = some (.terminal t)) (hgood : ∀ text, t.Accepts beyond text → good text)
    (hnonempty : ¬ good "") (h : Conforms base beyond (.lookup key) tree) (what : String) :
    Gives (readToken what tree) (ReadFrom (fun t => good t.text) (fun t => [t]) tree) := by
  obtain ⟨_, _, rfl, hvalue⟩ := exists_of_lookup hget h
  cases hvalue with
  | terminal haccepts =>
      have hgood := hgood _ haccepts
      refine ⟨_, rfl, hgood, ?_⟩
      rw [Tree.tokens_lookup, Tree.tokens_value]
      rintro rfl
      exact hnonempty hgood

theorem reads_name {tree : Tree} (h : Conforms base beyond (.lookup "ident") tree)
    (what : String) : Gives (readToken what tree) (ReadFrom Token.IsName (fun t => [t]) tree) :=
  reads_token (t := Base.name) rfl (fun _ => isName_of_accepts) nofun h what

theorem not_quotes_empty (delimiter : Char) : ¬ ∃ text, "" = Text.quote delimiter text := by
  rintro ⟨text, h⟩
  rw [Text.quote] at h
  exact List.cons_ne_nil _ _ (String.ofList_eq_empty_iff.mp h.symm)

theorem reads_literal {tree : Tree} (h : Conforms base beyond (.lookup "literal") tree)
    (what : String) :
    Gives (readToken what tree) (ReadFrom (Token.Quotes '\'') (fun t => [t]) tree) :=
  reads_token (t := Base.literal) rfl (fun _ => quotes_of_accepts) (not_quotes_empty _) h what

theorem reads_regex {tree : Tree} (h : Conforms base beyond (.lookup "regex") tree)
    (what : String) :
    Gives (readToken what tree) (ReadFrom (Token.Quotes '`') (fun t => [t]) tree) :=
  reads_token (t := Base.regex) rfl (fun _ => quotes_of_accepts) (not_quotes_empty _) h what

/-! ## Parts of a term -/

/-- A labelled step that is kept. -/
theorem exists_of_labelled {name : String} {p : Pattern} {steps : List Step}
    {children : List Tree}
    (h : StepsConform base beyond (.kept (.label name p) :: steps) children) :
    ∃ offset child rest, children = .label offset name child :: rest ∧
      Conforms base beyond p child ∧ StepsConform base beyond steps rest := by
  obtain ⟨_, rest, rfl, hlabel, hrest⟩ := stepsConform_kept.mp h
  cases hlabel with
  | label hchild => exact ⟨_, _, rest, rfl, hchild, hrest⟩

theorem reads_symbol (texts : List String) {tree : Tree}
    (h : Conforms base beyond (Pattern.choice (texts.map .ofLiteral)).optional tree) :
    Gives (readSymbol? tree) fun _ => True := by
  cases h with
  | @quantifier _ _ _ _ children hchildren =>
      cases children with
      | nil => exact ⟨none, rfl, trivial⟩
      | cons child rest =>
          have hchild := hchildren child List.mem_cons_self
          cases hchild with
          | choice hp hchild =>
              obtain ⟨text, -, rfl⟩ := List.mem_map.mp (List.mem_of_getElem? hp)
              cases hchild with
              | terminal => exact ⟨_, rfl, trivial⟩

theorem reads_lead {tree : Tree} (h : Conforms base beyond Base.lead.optional tree) :
    Gives (readLead? tree) fun _ => True :=
  (reads_symbol ["!", "&"] h).bind fun _ _ => .pure trivial

theorem reads_suffix {tree : Tree} (h : Conforms base beyond Base.suffix.optional tree) :
    Gives (readSuffix? tree) fun _ => True :=
  (reads_symbol ["?", "*", "+"] h).bind fun _ _ => .pure trivial

theorem reads_label {tree : Tree} (h : Conforms base beyond Base.labelling.optional tree)
    (offset offset' : Nat) (rest : List Tree) :
    Gives (readLabel? (.sequence offset (.label offset' "label" tree :: rest)))
      (ReadFrom (fun label => ∀ t ∈ label, t.Quotes '\'') Option.toList tree) := by
  cases h with
  | @quantifier _ _ _ _ children hchildren =>
      cases children with
      | nil => exact ⟨none, rfl, nofun, List.nil_sublist _⟩
      | cons child rest =>
          have hchild := hchildren child List.mem_cons_self
          cases hchild with
          | sequence hsteps =>
              obtain ⟨name, _, rfl, hname, -⟩ := stepsConform_kept.mp hsteps
              show Gives (do return some (← readToken "label name" name)) _
              refine (reads_literal hname "label name").bind fun t ht =>
                .pure ⟨fun _ h => Option.some.inj h ▸ ht.sound, ?_⟩
              simp only [Tree.tokens_quantifier, Tree.tokens_sequence, List.flatMap_cons,
                List.append_assoc]
              exact ht.tokens.trans (List.sublist_append_left _ _)

/-! ## Choices -/

/-- What is lower than the tree is read, if it is the tree of a choice. -/
def ReadsBelow (beyond : List Char) (tree : Tree) (readChoice : ChoiceReader) : Prop :=
  ∀ t, t.height < tree.height → Conforms base beyond (.lookup "choice") t →
    Gives (readChoice t) (ReadFrom Choice.IsSound Choice.tokens t)

section ReadsBelow

variable {readChoice : ChoiceReader} {tree : Tree}

theorem ReadsBelow.mono {tree' : Tree} (h : ReadsBelow beyond tree readChoice)
    (hle : tree'.height ≤ tree.height) : ReadsBelow beyond tree' readChoice :=
  fun t ht => h t (Nat.lt_of_lt_of_le ht hle)

theorem reads_atom (hbelow : ReadsBelow beyond tree readChoice)
    (h : Conforms base beyond (.lookup "atom") tree) :
    Gives (readAtom readChoice tree) (ReadFrom Atom.IsSound Atom.tokens tree) := by
  obtain ⟨_, _, rfl, hchoice⟩ := exists_of_lookup (p := Base.atom) rfl h
  cases hchoice with
  | choice hp hchild =>
      have hmem := List.mem_of_getElem? hp
      simp only [List.mem_cons, List.not_mem_nil, or_false] at hmem
      rcases hmem with rfl | rfl | rfl | rfl
      · have hread := reads_regex hchild "regex"
        obtain ⟨_, _, rfl, -⟩ := exists_of_lookup (p := .terminal Base.regex) rfl hchild
        exact hread.bind fun t ht => .pure ⟨.regex ht.sound, ht.tokens⟩
      · have hread := reads_literal hchild "literal"
        obtain ⟨_, _, rfl, -⟩ := exists_of_lookup (p := .terminal Base.literal) rfl hchild
        exact hread.bind fun t ht => .pure ⟨.literal ht.sound, ht.tokens⟩
      · cases hchild with
        | sequence hsteps =>
            obtain ⟨inner, _, rfl, hinner, -⟩ :=
              stepsConform_kept.mp (stepsConform_skipped.mp hsteps)
            refine (hbelow inner ?_ hinner).bind fun choice hchoice =>
              .pure ⟨.group hchoice.sound, ?_⟩
            · simp only [Tree.height, Tree.heightOfAll]
              omega
            · simp only [Atom.tokens, Tree.tokens_lookup, Tree.tokens_choice,
                Tree.tokens_sequence, List.flatMap_cons]
              exact hchoice.tokens.trans (List.sublist_append_left _ _)
      · have hread := reads_name hchild "rule name"
        obtain ⟨_, _, rfl, -⟩ := exists_of_lookup (p := .terminal Base.name) rfl hchild
        exact hread.bind fun t ht => .pure ⟨.rule ht.sound, ht.tokens⟩

theorem reads_term (hbelow : ReadsBelow beyond tree readChoice)
    (h : Conforms base beyond (.lookup "term") tree) :
    Gives (readTerm readChoice tree) (ReadFrom Term.IsSound Term.tokens tree) := by
  obtain ⟨_, _, rfl, hterm⟩ := exists_of_lookup (p := Base.term) rfl h
  cases hterm with
  | sequence hsteps =>
      obtain ⟨_, _, _, rfl, hlabel, hsteps⟩ := exists_of_labelled hsteps
      obtain ⟨_, _, _, rfl, hlead, hsteps⟩ := exists_of_labelled hsteps
      obtain ⟨_, _, _, rfl, hatom, hsteps⟩ := exists_of_labelled hsteps
      obtain ⟨_, _, _, rfl, hsuffix, hsteps⟩ := exists_of_labelled hsteps
      cases hsteps
      rw [readTerm_eq]
      refine (reads_label hlabel _ _ _).bind fun label hlabel => ?_
      refine (reads_lead hlead).bind fun lead _ => ?_
      refine (reads_suffix hsuffix).bind fun suffix _ => ?_
      refine (reads_atom (hbelow.mono ?_) hatom).bind fun atom hatom =>
        .pure ⟨.term hlabel.sound hatom.sound, ?_⟩
      · simp only [Tree.height, Tree.heightOfAll]
        omega
      · -- the signs before and behind the atom are no tokens
        simp only [Term.tokens, Tree.tokens_lookup, Tree.tokens_sequence, List.flatMap_cons,
          Tree.tokens_label]
        exact hlabel.tokens.append
          ((hatom.tokens.trans (List.sublist_append_left _ _)).trans
            (List.sublist_append_right _ _))

/-- The lookahead before a term is not kept, so the term is the first child. -/
theorem reads_element (hbelow : ReadsBelow beyond tree readChoice)
    (h : Conforms base beyond Base.element tree) :
    Gives (readElement readChoice tree) (ReadFrom Term.IsSound Term.tokens tree) := by
  cases h with
  | sequence hsteps =>
      obtain ⟨term, _, rfl, hterm, -⟩ := stepsConform_kept.mp (stepsConform_skipped.mp hsteps)
      refine .bind_ok (a := term) rfl ((reads_term (hbelow.mono ?_) hterm).imp .inSequence)
      simp only [Tree.height, Tree.heightOfAll]
      omega

theorem reads_sequence (hbelow : ReadsBelow beyond tree readChoice)
    (h : Conforms base beyond (.lookup "sequence") tree) :
    Gives (readSequence readChoice tree) (ReadFrom Sequence.IsSound Sequence.tokens tree) := by
  obtain ⟨_, _, rfl, hrounds⟩ := exists_of_lookup (p := Base.element.plus) rfl h
  cases hrounds with
  | @quantifier _ _ _ _ children hchildren hleast =>
      rw [readSequence_eq]
      refine (Gives.mapM fun t ht => reads_element (hbelow.mono ?_) (hchildren t ht)).bind
        fun terms hterms => .pure ⟨.sequence ?_ (readFrom_all hterms).1, ?_⟩
      · have hheight := Tree.height_le_heightOfAll ht
        simp only [Tree.height]
        omega
      · -- there is a round, and so there is a term
        rintro rfl
        cases hterms
        cases hleast
      · rw [Sequence.tokens, tokensInTerms_eq_flatMap, Tree.tokens_lookup, Tree.tokens_quantifier]
        exact (readFrom_all hterms).2

/-- The slash before a sequence is not kept, so the sequence is the first child. -/
theorem reads_alternative (hbelow : ReadsBelow beyond tree readChoice)
    (h : Conforms base beyond Base.alternative tree) :
    Gives (readAlternative readChoice tree) (ReadFrom Sequence.IsSound Sequence.tokens tree) := by
  cases h with
  | sequence hsteps =>
      obtain ⟨inner, _, rfl, hinner, -⟩ := stepsConform_kept.mp (stepsConform_skipped.mp hsteps)
      refine .bind_ok (a := inner) rfl ((reads_sequence (hbelow.mono ?_) hinner).imp .inSequence)
      simp only [Tree.height, Tree.heightOfAll]
      omega

end ReadsBelow

/-- The tree of a choice is read, if groups may be inside one another as deep as nodes are. -/
theorem reads_choice {levels : Nat} {tree : Tree} (hlevels : tree.height ≤ levels)
    (h : Conforms base beyond (.lookup "choice") tree) :
    Gives (readChoice levels tree) (ReadFrom Choice.IsSound Choice.tokens tree) := by
  induction levels generalizing tree with
  | zero =>
      obtain ⟨_, _, rfl, -⟩ := exists_of_lookup (p := Base.choice) rfl h
      cases hlevels
  | succ levels ih =>
      -- the choices of groups are lower, so one level less is enough for them
      have hbelow : ReadsBelow beyond tree (readChoice levels) := fun t ht ht' =>
        ih (by omega) ht'
      obtain ⟨_, _, rfl, hchoice⟩ := exists_of_lookup (p := Base.choice) rfl h
      cases hchoice with
      | sequence hsteps =>
          obtain ⟨first, _, rfl, hfirst, hsteps⟩ := stepsConform_kept.mp hsteps
          obtain ⟨_, _, rfl, hrounds, hsteps⟩ := stepsConform_kept.mp hsteps
          cases hsteps
          cases hrounds with
          | quantifier hothers =>
              rw [readChoice_eq]
              refine (reads_sequence (hbelow.mono ?_) hfirst).bind fun head hhead =>
                (Gives.mapM fun t ht => reads_alternative (hbelow.mono ?_) (hothers t ht)).bind
                  fun others hothers => .pure ⟨.choice (List.cons_ne_nil _ _)
                    (List.forall_mem_cons.mpr ⟨hhead.sound, (readFrom_all hothers).1⟩), ?_⟩
              · simp only [Tree.height, Tree.heightOfAll]
                omega
              · have hheight := Tree.height_le_heightOfAll ht
                simp only [Tree.height, Tree.heightOfAll]
                omega
              · simp only [Choice.tokens, tokensInAlternatives, tokensInAlternatives_eq_flatMap,
                  Tree.tokens_lookup, Tree.tokens_sequence, Tree.tokens_quantifier,
                  List.flatMap_cons, List.flatMap_nil, List.append_nil]
                exact hhead.tokens.append (readFrom_all hothers).2

/-! ## Rules -/

theorem reads_precedence {tree : Tree} (h : Conforms base beyond (.lookup "precedence") tree) :
    Gives (readPrecedence tree)
      (ReadFrom (fun precedence => ∀ t ∈ precedence, t.IsNumber) Option.toList tree) := by
  obtain ⟨_, _, rfl, hchoice⟩ := exists_of_lookup (p := Base.precedence) rfl h
  cases hchoice with
  | choice hp hchild =>
      rcases List.mem_pair.mp (List.mem_of_getElem? hp) with rfl | rfl
      · cases hchild with
        | @terminal _ _ text haccepts =>
            have hnumber := isNumber_of_accepts haccepts
            have hnonempty : text ≠ "" := by
              rintro rfl
              cases hnumber
            refine ⟨_, rfl, fun t ht => ?_, ?_⟩
            · split at ht
              · cases ht
              · cases ht
                exact hnumber
            · rw [Tree.tokens_lookup, Tree.tokens_choice, Tree.tokens_value hnonempty]
              split
              · exact List.nil_sublist _
              · exact .refl _
      · cases hchild with
        | terminal haccepts =>
            cases eq_of_accepts haccepts
            exact ⟨none, rfl, nofun, List.nil_sublist _⟩

theorem reads_operator {levels : Nat} {tree : Tree} (hlevels : tree.height ≤ levels)
    (h : Conforms base beyond (.lookup "operator") tree) :
    Gives (readOperator levels tree) (ReadFrom OperatorDef.IsSound OperatorDef.tokens tree) := by
  obtain ⟨_, _, rfl, hoperator⟩ := exists_of_lookup (p := Base.operator) rfl h
  cases hoperator with
  | sequence hsteps =>
      obtain ⟨_, _, _, rfl, hname, hsteps⟩ := exists_of_labelled hsteps
      obtain ⟨_, _, _, rfl, hleft, hsteps⟩ := exists_of_labelled hsteps
      obtain ⟨_, _, _, rfl, hright, hsteps⟩ := exists_of_labelled hsteps
      obtain ⟨_, _, _, rfl, hpattern, hsteps⟩ := exists_of_labelled hsteps
      cases hsteps
      simp only [Tree.height, Tree.heightOfAll] at hlevels
      rw [readOperator_eq]
      refine (reads_literal hname _).bind fun name hname =>
        (reads_precedence hleft).bind fun left hleft =>
          (reads_precedence hright).bind fun right hright =>
            (reads_choice (by omega) hpattern).bind fun pattern hpattern =>
              .pure ⟨⟨hname.sound, hleft.sound, hright.sound, hpattern.sound⟩, ?_⟩
      simp only [Tree.tokens_lookup, Tree.tokens_sequence, Tree.tokens_label, List.flatMap_cons,
        List.flatMap_nil, List.append_nil]
      exact hname.tokens.append (hleft.tokens.append (hright.tokens.append hpattern.tokens))

theorem reads_entry {levels : Nat} {tree : Tree} (hlevels : tree.height ≤ levels)
    (h : Conforms base beyond Base.entry tree) :
    Gives (readEntry levels tree) (ReadFrom OperatorDef.IsSound OperatorDef.tokens tree) := by
  cases h with
  | sequence hsteps =>
      obtain ⟨op, _, rfl, hop, -⟩ := stepsConform_kept.mp hsteps
      simp only [Tree.height, Tree.heightOfAll] at hlevels
      exact .bind_ok (a := op) rfl ((reads_operator (by omega) hop).imp .inSequence)

theorem reads_table {levels : Nat} {tree : Tree} (hlevels : tree.height ≤ levels)
    (h : Conforms base beyond (.lookup "table") tree) :
    Gives (readTable levels tree) fun t =>
      ReadFrom (fun t => ∀ op ∈ t.operators, op.IsSound) TableDef.tokens tree t ∧
        t.SitsIn tree := by
  obtain ⟨_, _, rfl, htable⟩ := exists_of_lookup (p := Base.table) rfl h
  cases htable with
  | sequence hsteps =>
      obtain ⟨_, _, _, rfl, hrounds, hsteps⟩ := exists_of_labelled (stepsConform_skipped.mp hsteps)
      cases stepsConform_skipped.mp hsteps
      cases hrounds with
      | quantifier hentries =>
          rw [readTable_eq]
          refine (Gives.mapM fun t ht => reads_entry ?_ (hentries t ht)).bind
            fun operators hoperators => ?_
          · have hheight := Tree.height_le_heightOfAll ht
            simp only [Tree.height, Tree.heightOfAll] at hlevels
            omega
          · obtain ⟨hsound, htokens⟩ := readFrom_all hoperators
            refine .pure ⟨⟨hsound, ?_⟩, _, .under List.mem_cons_self .here, rfl, ?_⟩
            all_goals
              simp only [Tree.tokens_lookup, Tree.tokens_sequence, Tree.tokens_label,
                Tree.tokens_quantifier, List.flatMap_cons, List.flatMap_nil, List.append_nil]
              exact htokens

theorem reads_body {levels index : Nat} {p : Pattern} {tree : Tree}
    (hlevels : tree.height ≤ levels)
    (hp : [Pattern.lookup "table", .lookup "choice"][index]? = some p)
    (h : Conforms base beyond p tree) :
    Gives (readBody levels tree) fun body =>
      ReadFrom Body.IsSound Body.tokens tree body ∧ body.SitsIn tree := by
  rcases List.mem_pair.mp (List.mem_of_getElem? hp) with rfl | rfl
  · have hread := reads_table hlevels h
    obtain ⟨_, _, rfl, -⟩ := exists_of_lookup (p := Base.table) rfl h
    exact hread.bind fun table htable =>
      .pure ⟨⟨htable.1.sound, htable.1.tokens⟩, htable.2⟩
  · have hread := reads_choice hlevels h
    obtain ⟨_, _, rfl, -⟩ := exists_of_lookup (p := Base.choice) rfl h
    exact hread.bind fun choice hchoice => .pure ⟨⟨hchoice.sound, hchoice.tokens⟩, trivial⟩

theorem reads_rule {levels : Nat} {tree : Tree} (hlevels : tree.height ≤ levels)
    (h : Conforms base beyond (.lookup "rule") tree) :
    Gives (readRule levels tree) fun rule =>
      ReadFrom RuleDef.IsSound RuleDef.tokens tree rule ∧ rule.body.SitsIn tree := by
  obtain ⟨_, _, rfl, hrule⟩ := exists_of_lookup (p := Base.rule) rfl h
  cases hrule with
  | sequence hsteps =>
      obtain ⟨_, _, _, rfl, hname, hsteps⟩ := exists_of_labelled hsteps
      obtain ⟨_, _, _, rfl, hbody, hsteps⟩ := exists_of_labelled (stepsConform_skipped.mp hsteps)
      cases hsteps
      cases hbody with
      | choice hp hbody =>
          simp only [Tree.height, Tree.heightOfAll] at hlevels
          rw [readRule_eq]
          refine (reads_name hname _).bind fun name hname =>
            (reads_body (by omega) hp hbody).bind fun body hbody =>
              .pure ⟨⟨⟨hname.sound, hbody.1.sound⟩, ?_⟩, ?_⟩
          · simp only [Tree.tokens_lookup, Tree.tokens_sequence, Tree.tokens_label,
              Tree.tokens_choice, List.flatMap_cons, List.flatMap_nil, List.append_nil]
            exact hname.tokens.append hbody.1.tokens
          · -- the node of the rule, its sequence, the label of the body and the choice in it
            exact (((hbody.2.under List.mem_cons_self).under List.mem_cons_self).under
              (List.mem_cons_of_mem _ List.mem_cons_self)).under List.mem_cons_self

/-- **Every tree that the base rules make of a grammar text is read.** -/
theorem reads_tree {tree : Tree} (h : Conforms base beyond (Pattern.lookup "rule").plus tree) :
    Gives (Ast.ofTree tree) fun ast =>
      ReadFrom Ast.IsSound Ast.tokens tree ast ∧ ∀ rule ∈ ast.rules, rule.body.SitsIn tree := by
  cases h with
  | @quantifier _ _ offset _ children hchildren hleast =>
      have hread : ∀ t ∈ children, Gives (readRule (Tree.quantifier offset children).height t)
          fun rule => ReadFrom RuleDef.IsSound RuleDef.tokens t rule ∧
            rule.body.SitsIn (.quantifier offset children) := fun t ht =>
        (reads_rule (Nat.le_succ_of_le (Tree.height_le_heightOfAll ht)) (hchildren t ht)).imp
          fun h => ⟨h.1, h.2.under ht⟩
      refine (Gives.mapM hread).bind fun rules hrules => ?_
      obtain ⟨hsound, htokens⟩ := readFrom_all (hrules.imp fun _ _ h => h.1)
      refine .pure ⟨⟨⟨?_, hsound⟩, ?_⟩, forall_mem_of_forall₂ (hrules.imp fun _ _ h => h.2)⟩
      · rintro rfl
        cases hrules
        cases hleast
      · rw [Tree.tokens_quantifier]
        exact htokens

/-! ## Texts -/

/-- The tree of a text is what its whole range is parsed to. -/
theorem parseWindow_of_parseTree {text : String} {tree : Tree}
    (h : parseTree base text = .ok tree) :
    ∃ layers report, parseWindow layers base .unlimited (.rule startRule)
      (.ofRange text.toList 0 text.utf8ByteSize) = some report ∧ report.result = .ok tree := by
  unfold parseTree at h
  cases hparse : parse base .unlimited (.rule startRule) text with
  | none =>
      rw [hparse] at h
      cases h
  | some report =>
      rw [hparse] at h
      exact ⟨_, report, hparse, mapError_eq_ok.mp h⟩

theorem conforms_of_parseTree {text : String} {tree : Tree} (h : parseTree base text = .ok tree) :
    ∃ beyond, Conforms base beyond (Pattern.lookup "rule").plus tree := by
  obtain ⟨_, _, hparse, htree⟩ := parseWindow_of_parseTree h
  have hstart : (Start.rule startRule).pattern? base = some (Pattern.lookup "rule").plus := rfl
  exact ⟨_, parseWindow_conforms hstart hparse htree⟩

/-- What is read off the tree of a text is sound. -/
theorem isSound_of_parseTree {text : String} {tree : Tree} {ast : Ast}
    (htree : parseTree base text = .ok tree) (hread : Ast.ofTree tree = .ok ast) :
    ast.IsSound := by
  obtain ⟨_, hconforms⟩ := conforms_of_parseTree htree
  obtain ⟨_, hread', hsound, -⟩ := reads_tree hconforms
  cases hread.symm.trans hread'
  exact hsound.sound

end Grammar

end OperatorPeg
