import OperatorPeg.Proofs.Grammar.Exactness
import OperatorPeg.Proofs.Grammar.QuotedPlaces
import OperatorPeg.Proofs.Regex.Faults

/-!
# What tokens and findings point at

The place of a token is where its text stands in the text of the grammar, tokens come one
after the other, and a table spans those of its operators. Findings point at tokens and tables,
or at a part of a quoted regex, which is found again in its token.
-/

namespace OperatorPeg

/-! ## Parts of a text -/

namespace Span

/-- All of a text. -/
def whole (text : String) : Span := ⟨0, text.utf8ByteSize⟩

/-- The span lies within another, and its ends are between two characters of the text. -/
structure Within (text : String) (outer span : Span) : Prop where
  starts : InRange text outer.start outer.stop span.start
  ends : InRange text outer.start outer.stop span.stop
  ordered : span.start ≤ span.stop

/-- The span of a slice lies within every span around it. -/
theorem within_of_isSlice {text slice : String} {outer span : Span}
    (h : Text.IsSlice text span.start span.stop slice) (hstart : outer.start ≤ span.start)
    (hstop : span.stop ≤ outer.stop) : Within text outer span where
  starts := ⟨⟨hstart, Nat.le_trans h.ordered hstop⟩, h.starts⟩
  ends := ⟨⟨Nat.le_trans hstart h.ordered, hstop⟩, h.ends⟩
  ordered := h.ordered

theorem Within.trans {text : String} {outer inner span : Span} (h : Within text outer inner)
    (h' : Within text inner span) : Within text outer span where
  starts := ⟨⟨Nat.le_trans h.starts.1.1 h'.starts.1.1, Nat.le_trans h'.starts.1.2 h.ends.1.2⟩,
    h'.starts.2⟩
  ends := ⟨⟨Nat.le_trans h.starts.1.1 h'.ends.1.1, Nat.le_trans h'.ends.1.2 h.ends.1.2⟩,
    h'.ends.2⟩
  ordered := h'.ordered

end Span

/-! ## Findings about quoted regexes -/

namespace Grammar

open Diagnostics

namespace Token.StandsIn

variable {text regex : String} {t : Token}

section Quoted

variable (h : t.StandsIn text) (hquotes : t.text = Text.quote '`' regex)

include h hquotes

/-- A place in the regex is found again in the token. -/
theorem inRange_of_isPlace {offset : Nat} (hplace : Regex.IsPlace regex.toList offset) :
    InRange text t.span.start t.span.stop (t.sourceOffset offset) := by
  obtain ⟨before, after, hregex, rfl⟩ := hplace
  have hboundary := Text.isBoundary_iff.mpr ⟨before, after, hregex, rfl⟩
  obtain ⟨hstart, hstop⟩ := h.sourceOffset_mem_Ioo hquotes hboundary
  exact ⟨⟨Nat.le_of_lt hstart, Nat.le_of_lt hstop⟩, (h.isSlice_of_part hquotes hregex).starts⟩

/-- The byte behind a parenthesis in the regex is behind one in the token. -/
theorem inRange_behind_parenthesis {offset : Nat}
    (hopening : Text.StandsAt regex.toList offset ['(']) :
    InRange text t.span.start t.span.stop (t.sourceOffset offset + 1) := by
  obtain ⟨before, after, hregex, rfl⟩ := hopening
  have hnext : t.sourceOffset (Text.byteLength before + Text.byteLength ['(']) =
      t.sourceOffset (Text.byteLength before) + 1 := Token.sourceOffset_behind hquotes hregex
  rw [← hnext]
  exact h.inRange_of_isPlace hquotes
    ⟨before ++ ['('], after, hregex.trans (List.append_assoc _ _ _).symm,
      Text.byteLength_append _ _⟩

theorem within_sourceSpan {span : Span} (hspan : Regex.Spans regex.toList span) :
    Span.Within text t.span (t.sourceSpan span) := by
  have hstart := h.inRange_of_isPlace hquotes hspan.starts
  have hstop := h.inRange_of_isPlace hquotes hspan.ends
  refine ⟨hstart, ?_, Nat.le_max_left _ _⟩
  rcases Nat.le_total (t.sourceOffset span.start) (t.sourceOffset span.stop) with hle | hle
  · rwa [Token.sourceSpan, Nat.max_eq_right hle]
  · rwa [Token.sourceSpan, Nat.max_eq_left hle]

/-- The finding about a regex that cannot be read points into its token. -/
theorem within_regexFinding {e : Regex.SyntaxError} (he : e.IsPlaced regex.toList) :
    Span.Within text t.span (regexFinding t e).span := by
  have hspan := h.within_sourceSpan hquotes he.spans
  unfold regexFinding
  simp only
  split
  case h_2 hfault =>
    -- a look-around is shown without its parenthesis, which is one byte
    have hbehind := h.inRange_behind_parenthesis hquotes (he.opening hfault)
    refine ⟨?_, hspan.ends, Nat.min_le_right _ _⟩
    rcases Nat.le_total (t.sourceOffset e.span.start + 1) (t.sourceSpan e.span).stop with hle | hle
    · exact (Nat.min_eq_left hle).symm ▸ hbehind
    · exact (Nat.min_eq_right hle).symm ▸ hspan.ends
  all_goals exact hspan

end Quoted

/-- **What is wrong with a regex is wrong within its token.** -/
theorem within_of_mem_regexFinding? (h : t.StandsIn text) (hquotes : t.Quotes '`') {f : Finding}
    (hf : f ∈ t.regexFinding?) : Span.Within text t.span f.span ∧ f.notes = [] := by
  obtain ⟨regex, hquotes⟩ := hquotes
  rw [Token.regexFinding?, Token.unescaped?_of_quoted rfl hquotes, Option.bind_some] at hf
  rcases Option.or_eq_some_iff.mp hf with hf | ⟨-, hf⟩
  · obtain ⟨e, he, rfl⟩ := Option.map_eq_some_iff.mp hf
    refine ⟨h.within_regexFinding hquotes (Regex.isPlaced_of_read (error?_eq_some.mp he)), ?_⟩
    unfold regexFinding
    simp only
    split <;> rfl
  · obtain ⟨e, -, rfl⟩ := Option.map_eq_some_iff.mp hf
    exact ⟨Span.within_of_isSlice h.isSlice (Nat.le_refl _) (Nat.le_refl _), rfl⟩

end Token.StandsIn

end Grammar

/-! ## The tree of a text -/

/-- How the tree of a text lies in it. -/
structure Tree.LiesOver (text : String) (tree : Tree) : Prop where
  faithful : tree.Everywhere (Tree.Faithful text.toList 0 text.utf8ByteSize)
  inRange : tree.Everywhere (Tree.LiesIn text 0 text.utf8ByteSize)

namespace Tree.LiesOver

open Grammar

variable {text : String} {tree : Tree}

theorem node (h : tree.LiesOver text) {node : Tree} (hnode : node.HasNode tree) :
    node.LiesOver text :=
  ⟨h.faithful.node hnode, h.inRange.node hnode⟩

theorem inOrder (h : tree.LiesOver text) : tree.Everywhere Tree.InOrder :=
  h.faithful.imp fun _ h => h.toInOrder

theorem standsIn (h : tree.LiesOver text) {t : Token} (ht : t ∈ tree.tokens) :
    t.StandsIn text ∧ t.span.start < t.span.stop := by
  obtain ⟨leaf, hleaf, hne, rfl⟩ := exists_leaf_of_mem_tokens ht
  have hstands := ((h.faithful.of_mem_leaves leaf hleaf).text _ _ rfl).1
  have hpos : 0 < leaf.2.utf8ByteSize := by
    rw [Nat.pos_iff_ne_zero, ne_eq, String.utf8ByteSize_eq_zero_iff]
    exact hne
  exact ⟨⟨hstands, rfl⟩, Nat.lt_add_of_pos_right hpos⟩

/-- The tokens come one after the other. -/
theorem pairwise_tokens (h : tree.LiesOver text) :
    tree.tokens.Pairwise fun t t' => t.span.stop ≤ t'.span.start :=
  List.pairwise_map.mpr (h.inOrder.leaves_pairwise.sublist List.filter_sublist)

/-- The extent of a tree ends where it starts or where a leaf ends. -/
theorem within_extent (h : tree.LiesOver text) :
    Span.Within text (.whole text) tree.extent := by
  have hstart := h.inRange.here.offset
  refine ⟨hstart, ?_, tree.offset_le_extent_stop⟩
  show InRange text 0 text.utf8ByteSize (max tree.offset tree.lastEnd)
  rcases Nat.le_total tree.lastEnd tree.offset with hle | hle
  · rwa [Nat.max_eq_left hle]
  · rw [Nat.max_eq_right hle]
    rcases tree.lastEnd_eq_zero_or with hzero | ⟨leaf, hleaf, hend⟩
    · have hsame : tree.lastEnd = tree.offset := by omega
      rwa [hsame]
    · obtain ⟨hstop, hslice⟩ := (h.inRange.of_mem_leaves leaf hleaf).text _ _ rfl
      rw [← hend]
      exact ⟨⟨Nat.zero_le _, hstop⟩, hslice.ends⟩

theorem within_of_mem_tokens (h : tree.LiesOver text) {t : Token} (ht : t ∈ tree.tokens) :
    Span.Within text tree.extent t.span := by
  have hslice := (h.standsIn ht).1.isSlice
  obtain ⟨leaf, hleaf, -, rfl⟩ := exists_leaf_of_mem_tokens ht
  have hstart := h.inOrder.offset_le_of_mem_leaves leaf hleaf
  have hend := (Tree.lastEnd_le_iff tree).mp (Nat.le_refl _) leaf hleaf
  exact Span.within_of_isSlice hslice hstart (Nat.le_trans hend tree.lastEnd_le_extent_stop)

end Tree.LiesOver

/-- A cursor at the start of a text has all of it ahead. -/
theorem Cursor.placedIn_atStart (text : String) :
    (Cursor.atStart text.toList).PlacedIn text.toList 0 text.utf8ByteSize where
  text := ⟨[], (List.append_nil _).symm⟩
  offset := rfl
  start := Nat.le_refl _
  stop := (Nat.zero_add _).trans (Text.byteLength_toList text)

namespace Grammar

open Diagnostics

theorem liesOver_of_parseTree {text : String} {tree : Tree} (h : parseTree base text = .ok tree) :
    tree.LiesOver text := by
  obtain ⟨_, _, hparse, htree⟩ := parseWindow_of_parseTree h
  obtain ⟨_, _, _, -, hbuilds, -, -⟩ := parseWindow_builds hparse htree
  rw [Window.ofRange_whole] at hbuilds
  have hplaced := Cursor.placedIn_atStart text
  exact ⟨(hbuilds.fits (isSkip_pastTrivia _ _ _) hplaced).faithful,
    hbuilds.liesIn PastTrivia.reaches hplaced⟩

/-! ## The parts of a grammar -/

/-- The tokens of the part are among the tokens of the whole, and if that is sound, so is the
part. -/
structure Atom.PartOf (tokens : List Token) (sound : Prop) (part : Atom) : Prop where
  tokens : part.tokens ⊆ tokens
  sound : sound → part.IsSound

theorem Atom.PartOf.mono {tokens tokens' : List Token} {sound sound' : Prop} {part : Atom}
    (h : part.PartOf tokens sound) (htokens : tokens ⊆ tokens') (hsound : sound' → sound) :
    part.PartOf tokens' sound' :=
  ⟨List.Subset.trans h.tokens htokens, fun hwhole => h.sound (hsound hwhole)⟩

section Parts

variable {part : Atom}

mutual
theorem partOf_atom : ∀ atom : Atom, part ∈ atom.atoms → part.PartOf atom.tokens atom.IsSound
  | .regex _, h | .literal _, h | .rule _, h => by
      rw [Atom.atoms, List.mem_singleton] at h
      exact h ▸ ⟨List.Subset.refl _, id⟩
  | .group choice, h => by
      rw [Atom.atoms] at h
      rw [Atom.tokens]
      refine (partOf_choice choice h).mono (List.Subset.refl _) ?_
      rintro (_ | _ | hchoice | _)
      exact hchoice

theorem partOf_terms : ∀ terms : List Term, part ∈ atomsInTerms terms →
    part.PartOf (tokensInTerms terms) (∀ term ∈ terms, term.IsSound)
  | [], h => by
      rw [atomsInTerms] at h
      cases h
  | ⟨label, lead, atom, suffix⟩ :: terms, h => by
      rw [atomsInTerms, List.mem_append] at h
      rw [tokensInTerms, Term.tokens]
      rcases h with h | h
      · refine (partOf_atom atom h).mono
          (List.Subset.trans (List.subset_append_right _ _) (List.subset_append_left _ _))
          fun hterms => ?_
        cases hterms _ List.mem_cons_self with
        | term _ hatom => exact hatom
      · exact (partOf_terms terms h).mono (List.subset_append_right _ _)
          fun hterms term hterm => hterms term (List.mem_cons_of_mem _ hterm)

theorem partOf_alternatives : ∀ sequences : List Sequence, part ∈ atomsInAlternatives sequences →
    part.PartOf (tokensInAlternatives sequences) (∀ s ∈ sequences, s.IsSound)
  | [], h => by
      rw [atomsInAlternatives] at h
      cases h
  | ⟨terms⟩ :: rest, h => by
      rw [atomsInAlternatives, List.mem_append] at h
      rw [tokensInAlternatives, Sequence.tokens]
      rcases h with h | h
      · refine (partOf_terms terms h).mono (List.subset_append_left _ _) fun hsequences => ?_
        cases hsequences _ List.mem_cons_self with
        | sequence _ hterms => exact hterms
      · exact (partOf_alternatives rest h).mono (List.subset_append_right _ _)
          fun hsequences s hs => hsequences s (List.mem_cons_of_mem _ hs)

theorem partOf_choice : ∀ choice : Choice, part ∈ choice.atoms →
    part.PartOf choice.tokens choice.IsSound
  | ⟨alternatives⟩, h => by
      rw [Choice.atoms] at h
      rw [Choice.tokens]
      refine (partOf_alternatives alternatives h).mono (List.Subset.refl _) ?_
      rintro ⟨_, hsequences⟩
      exact hsequences
end

end Parts

namespace OperatorDef

variable {op : OperatorDef}

theorem pattern_tokens_subset (op : OperatorDef) : op.pattern.tokens ⊆ op.tokens :=
  fun _ ht => List.mem_cons_of_mem _ (List.mem_append_right _ (List.mem_append_right _ ht))

theorem precedences_subset (op : OperatorDef) : op.precedences ⊆ op.tokens := by
  intro t ht
  refine List.mem_cons_of_mem _ ?_
  rcases List.mem_append.mp ht with ht | ht
  · exact List.mem_append_left _ ht
  · exact List.mem_append_right _ (List.mem_append_left _ ht)

end OperatorDef

theorem TableDef.tokens_subset {table : TableDef} {op : OperatorDef} (h : op ∈ table.operators) :
    op.tokens ⊆ table.tokens :=
  fun _ ht => List.mem_flatMap.mpr ⟨op, h, ht⟩

namespace Ast

variable {g : Ast}

theorem body_tokens_subset {rule : RuleDef} (h : rule ∈ g.rules) : rule.body.tokens ⊆ g.tokens :=
  fun _ ht => List.mem_flatMap.mpr ⟨rule, h, List.mem_cons_of_mem _ ht⟩

theorem name_mem_tokens {rule : RuleDef} (h : rule ∈ g.rules) : rule.name ∈ g.tokens :=
  List.mem_flatMap.mpr ⟨rule, h, List.mem_cons_self⟩

theorem exists_rule_of_mem_tables {table : TableDef} (h : table ∈ g.tables) :
    ∃ rule ∈ g.rules, rule.body = .table table := by
  obtain ⟨rule, hrule, h⟩ := List.mem_filterMap.mp h
  refine ⟨rule, hrule, ?_⟩
  cases hbody : rule.body with
  | choice => rw [hbody] at h; cases h
  | table => rw [hbody] at h; cases h; rfl

theorem table_tokens_subset {table : TableDef} (h : table ∈ g.tables) :
    table.tokens ⊆ g.tokens := by
  obtain ⟨rule, hrule, hbody⟩ := exists_rule_of_mem_tables h
  have hsubset := body_tokens_subset hrule
  rwa [hbody] at hsubset

theorem partOf_ast {atom : Atom} (h : atom ∈ g.atoms) : atom.PartOf g.tokens g.IsSound := by
  obtain ⟨rule, hrule, h⟩ := List.mem_flatMap.mp h
  have hsubset := body_tokens_subset hrule
  have hsound : g.IsSound → rule.body.IsSound := fun hg => (hg.each rule hrule).body
  cases hbody : rule.body with
  | choice c =>
      rw [hbody] at h hsubset hsound
      exact (partOf_choice c h).mono hsubset hsound
  | table table =>
      rw [hbody] at h hsubset hsound
      obtain ⟨op, hop, h⟩ := List.mem_flatMap.mp h
      exact (partOf_choice op.pattern h).mono
        (List.Subset.trans op.pattern_tokens_subset
          (List.Subset.trans (TableDef.tokens_subset hop) hsubset))
        fun hg => (hsound hg op hop).pattern

theorem references_subset : g.references ⊆ g.tokens := by
  intro t ht
  obtain ⟨atom, hatom, h⟩ := List.mem_filterMap.mp ht
  cases atom with
  | rule => exact Option.some.inj h ▸ (partOf_ast hatom).tokens List.mem_cons_self
  | regex | literal | group => cases h

theorem mem_tokens_of_mem_regexes {t : Token} (h : t ∈ g.regexes) :
    t ∈ g.tokens ∧ (g.IsSound → t.Quotes '`') := by
  obtain ⟨atom, hatom, h⟩ := List.mem_filterMap.mp h
  have hpart := partOf_ast hatom
  cases atom with
  | regex =>
      cases h
      refine ⟨hpart.tokens List.mem_cons_self, fun hg => ?_⟩
      cases hpart.sound hg with
      | regex hquotes => exact hquotes
  | rule | literal | group => cases h

end Ast

/-- How a grammar lies in its text: each token is the slice at its place, and they come one after
the other; a table is a part of the text that the tokens of its operators lie in. -/
structure Ast.LiesIn (text : String) (g : Ast) : Prop where
  slices : ∀ t ∈ g.tokens, t.span.start < t.span.stop ∧
    Text.IsSlice text t.span.start t.span.stop t.text
  ordered : g.tokens.Pairwise fun t t' => t.span.stop ≤ t'.span.start
  tables : ∀ table ∈ g.tables, Span.Within text (.whole text) table.span ∧
    ∀ t ∈ table.tokens, Span.Within text table.span t.span

/-! ## Findings -/

/-- The finding points into the text, and so do its notes. -/
structure PointsInto (text : String) (f : Finding) : Prop where
  finding : Span.Within text (.whole text) f.span
  notes : ∀ note ∈ f.notes, Span.Within text (.whole text) note.span

/-- The finding is about a regex among the tokens, and it points into that token. -/
def PointsAtRegex (text : String) (regexes : List Token) (f : Finding) : Prop :=
  ∃ t ∈ regexes, f ∈ t.regexFinding? ∧ Span.Within text t.span f.span

section Pointing

variable {text : String} {tokens : List Token}
  (htokens : ∀ t ∈ tokens, Span.Within text (.whole text) t.span)

include htokens

theorem points_at_token {t : Token} (ht : t ∈ tokens) {kind : Kind} {detail : Option String}
    (hkind : kind ∉ regexKinds) :
    PointsInto text (.make kind t.span detail []) ∧ kind ∉ regexKinds :=
  ⟨⟨htokens t ht, nofun⟩, hkind⟩

theorem points_at_repeated {t first : Token} (ht : t ∈ tokens) (hfirst : first ∈ tokens)
    {kind : Kind} {detail : Option String} (hkind : kind ∉ regexKinds) :
    PointsInto text (.make kind t.span detail [definedNote first]) ∧ kind ∉ regexKinds :=
  ⟨⟨htokens t ht, List.forall_mem_singleton.mpr (htokens first hfirst)⟩, hkind⟩

theorem points_of_mem_table {table : TableDef} (hsubset : table.tokens ⊆ tokens)
    (htable : Span.Within text (.whole text) table.span) :
    ∀ f ∈ table.findings, PointsInto text f ∧ f.kind ∉ regexKinds := by
  have hmem : ∀ {op : OperatorDef}, op ∈ table.operators → op.tokens ⊆ tokens := fun hop =>
    List.Subset.trans (TableDef.tokens_subset hop) hsubset
  have htable : ∀ {kind : Kind} {detail : Option String}, kind ∉ regexKinds →
      PointsInto text (.make kind table.span detail []) ∧ kind ∉ regexKinds :=
    fun hkind => ⟨⟨htable, nofun⟩, hkind⟩
  intro f hf
  unfold TableDef.findings at hf
  split at hf
  case isTrue =>
    rw [List.mem_singleton.mp hf]
    exact htable (by decide)
  case isFalse =>
    rw [List.mem_append, List.mem_append] at hf
    rcases hf with (hf | hf) | hf
    · obtain ⟨⟨op, first⟩, hrepeated, rfl⟩ := List.mem_map.mp hf
      obtain ⟨hop, hfirst⟩ := mem_of_mem_repeated hrepeated
      exact points_at_repeated htokens (hmem hop List.mem_cons_self)
        (hmem hfirst List.mem_cons_self) (by decide)
    · obtain ⟨precedence, hprecedence, rfl⟩ := List.mem_map.mp hf
      obtain ⟨op, hop, ht⟩ := List.mem_flatMap.mp (List.mem_of_mem_filter hprecedence)
      exact points_at_token htokens (hmem hop (op.precedences_subset ht)) (by decide)
    · split at hf
      case isTrue =>
        rw [List.mem_singleton.mp hf]
        exact htable (by decide)
      case isFalse => cases hf

end Pointing

theorem Ast.LiesIn.within {text : String} {g : Ast} (h : g.LiesIn text) :
    ∀ t ∈ g.tokens, Span.Within text (.whole text) t.span := by
  intro t ht
  have hslice := (h.slices t ht).2
  exact Span.within_of_isSlice hslice (Nat.zero_le _) hslice.ends.le_utf8ByteSize

/-- **What is to be found in a grammar is to be found in its text.** -/
theorem Ast.LiesIn.pointsInto {text : String} {g : Ast} (h : g.LiesIn text)
    (hregexes : ∀ t ∈ g.regexes, ∀ f ∈ t.regexFinding?,
      Span.Within text t.span f.span ∧ f.notes = []) :
    ∀ f ∈ g.findings,
      PointsInto text f ∧ (f.kind ∈ regexKinds → PointsAtRegex text g.regexes f) := by
  have helsewhere : ∀ {f : Finding}, PointsInto text f ∧ f.kind ∉ regexKinds →
      PointsInto text f ∧ (f.kind ∈ regexKinds → PointsAtRegex text g.regexes f) :=
    fun hf => ⟨hf.1, fun hkind => absurd hkind hf.2⟩
  intro f hf
  unfold Ast.findings at hf
  rw [List.mem_append, List.mem_append, List.mem_append] at hf
  rcases hf with ((hf | hf) | hf) | hf
  · obtain ⟨⟨rule, first⟩, hrepeated, rfl⟩ := List.mem_map.mp hf
    obtain ⟨hrule, hfirst⟩ := mem_of_mem_repeated hrepeated
    exact helsewhere (points_at_repeated h.within (Ast.name_mem_tokens hrule)
      (Ast.name_mem_tokens hfirst) (by decide))
  · obtain ⟨t, ht, rfl⟩ := List.mem_map.mp hf
    have hmem := Ast.references_subset (List.mem_of_mem_filter ht)
    exact helsewhere (points_at_token h.within hmem (by decide))
  · obtain ⟨table, htable, hf⟩ := List.mem_flatMap.mp hf
    exact helsewhere (points_of_mem_table h.within (Ast.table_tokens_subset htable)
      (h.tables table htable).1 f hf)
  · obtain ⟨t, ht, hf⟩ := List.mem_filterMap.mp hf
    obtain ⟨hwithin, hnotes⟩ := hregexes t ht f hf
    have htoken := h.within t (Ast.mem_tokens_of_mem_regexes ht).1
    exact ⟨⟨htoken.trans hwithin, hnotes ▸ nofun⟩, fun _ => ⟨t, ht, hf, hwithin⟩⟩

/-! ## Grammar texts -/

/-- What is read off a tree lies in the text that the tree lies over. -/
theorem liesIn_of_readFrom {text : String} {tree : Tree} {ast : Ast} (htree : tree.LiesOver text)
    (hread : ReadFrom Ast.IsSound Ast.tokens tree ast)
    (htables : ∀ rule ∈ ast.rules, rule.body.SitsIn tree) : ast.LiesIn text where
  slices t ht := by
    obtain ⟨hstands, hlt⟩ := htree.standsIn (hread.tokens.subset ht)
    exact ⟨hlt, hstands.isSlice⟩
  ordered := htree.pairwise_tokens.sublist hread.tokens
  tables table htable := by
    obtain ⟨rule, hrule, hbody⟩ := Ast.exists_rule_of_mem_tables htable
    have hsits := htables rule hrule
    rw [hbody] at hsits
    obtain ⟨node, hnode, hspan, htokens⟩ := hsits
    have hlies := htree.node hnode
    rw [hspan]
    exact ⟨hlies.within_extent, fun t ht => hlies.within_of_mem_tokens (htokens.subset ht)⟩

/-- **Tokens and findings point at the right text.** Every tree that the base rules make of a text
is read and what is read is checked. The tokens are the slices of the text at their places and
come in its order, tables lie around their tokens, and findings point with their notes into
the text, those about a regex into the token of that regex. -/
theorem tokens_and_findings_point_into_text {language : Rules} {text : String} {tree : Tree}
    (hlanguage : baseLanguage = .ok language) (htree : parseTree language text = .ok tree) :
    ∃ ast findings, Ast.ofTree tree = .ok ast ∧ validate ast = .ok findings ∧
      ast.LiesIn text ∧
      ∀ f ∈ findings,
        PointsInto text f ∧ (f.kind ∈ regexKinds → PointsAtRegex text ast.regexes f) := by
  obtain rfl : base = language := Except.ok.inj (baseLanguage_eq.symm.trans hlanguage)
  obtain ⟨_, hconforms⟩ := conforms_of_parseTree htree
  obtain ⟨ast, hast, hread, htables⟩ := reads_tree hconforms
  obtain ⟨findings, hchecked, -⟩ := hread.sound.isAccountedFor
  have hlies := liesOver_of_parseTree htree
  have hliesIn := liesIn_of_readFrom hlies hread htables
  refine ⟨ast, findings, hast, hchecked, hliesIn, fun f hf => ?_⟩
  refine hliesIn.pointsInto (fun t ht f hf => ?_) f ((perm_validate hchecked).mem_iff.mp hf)
  obtain ⟨hmem, hquotes⟩ := Ast.mem_tokens_of_mem_regexes ht
  have hstands := (hlies.standsIn (hread.tokens.subset hmem)).1
  exact hstands.within_of_mem_regexFinding? (hquotes hread.sound) hf

/-- A regex with a letter of two bytes and a backtick before what is wrong with it, and a rule of
the same name with a table. -/
theorem tokens_and_findings_point_into_text_sample :
    let text := "a -> `é``[`\na -> ['é' 1 none a]\n"
    ∃ language tree ast findings, baseLanguage = .ok language ∧
      parseTree language text = .ok tree ∧ Ast.ofTree tree = .ok ast ∧
      validate ast = .ok findings ∧
      ast.tokens = [⟨"a", ⟨0, 1⟩⟩, ⟨"`é``[`", ⟨5, 12⟩⟩, ⟨"a", ⟨13, 14⟩⟩, ⟨"'é'", ⟨19, 23⟩⟩,
        ⟨"1", ⟨24, 25⟩⟩, ⟨"a", ⟨31, 32⟩⟩] ∧
      findings.map (fun f => (f.kind, f.span, f.notes.map (·.span))) =
        [(.regexSyntaxError, ⟨10, 11⟩, []), (.duplicateRule, ⟨13, 14⟩, [⟨0, 1⟩]),
          (.noNullaryOperator, ⟨18, 32⟩, [])] ∧
      ast.LiesIn text ∧
      ∀ f ∈ findings,
        PointsInto text f ∧ (f.kind ∈ regexKinds → PointsAtRegex text ast.regexes f) := by
  intro text
  have hrun : (match parseTree base text with
      | .error _ => false
      | .ok tree => match Ast.ofTree tree with
        | .error _ => false
        | .ok ast => match validate ast with
          | .error _ => false
          | .ok findings =>
              decide (ast.tokens = [⟨"a", ⟨0, 1⟩⟩, ⟨"`é``[`", ⟨5, 12⟩⟩, ⟨"a", ⟨13, 14⟩⟩,
                ⟨"'é'", ⟨19, 23⟩⟩, ⟨"1", ⟨24, 25⟩⟩, ⟨"a", ⟨31, 32⟩⟩]) &&
              decide (findings.map (fun f => (f.kind, f.span, f.notes.map (·.span))) =
                [(.regexSyntaxError, ⟨10, 11⟩, []), (.duplicateRule, ⟨13, 14⟩, [⟨0, 1⟩]),
                  (.noNullaryOperator, ⟨18, 32⟩, [])])) = true := by
    decide +kernel
  cases htree : parseTree base text with
  | error =>
      rw [htree] at hrun
      cases hrun
  | ok tree =>
      obtain ⟨ast, findings, hast, hchecked, hlies, hpoints⟩ :=
        tokens_and_findings_point_into_text baseLanguage_eq htree
      simp only [htree, hast, hchecked, Bool.and_eq_true, decide_eq_true_eq] at hrun
      exact ⟨base, tree, ast, findings, baseLanguage_eq, htree, hast, hchecked, hrun.1, hrun.2,
        hlies, hpoints⟩

end Grammar

end OperatorPeg
