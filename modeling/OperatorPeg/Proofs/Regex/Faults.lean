import Mathlib.Data.Option.Basic
import OperatorPeg.Proofs.Regex.Brackets
import OperatorPeg.Regex.Reader

/-!
# The places of faults

Every fault that reading a regex comes upon is shown by a span of the regex. Most faults are
shown where the scanner is. Where a part is at fault that was read before, its own span is
shown; so the spans of all parts that are kept have to lie in the regex.
-/

namespace OperatorPeg.Regex

/-! ## The spans of a regex -/

mutual
/-- The spans of a regex as written and of all parts of it. -/
def Ast.spans : Ast → List Span
  | .empty s | .flags s _ | .literal s _ | .dot s | .anchor s _ | .property s _ _
  | .perl s _ _ => [s]
  | .bracketed s _ inner => s :: inner.spans
  | .repetition s body _ _ _ | .group s _ body => s :: body.spans
  | .alternation s branches => s :: Ast.spansOfAll branches
  | .concat s items => s :: Ast.spansOfAll items

def Ast.spansOfAll : List Ast → List Span
  | [] => []
  | item :: items => item.spans ++ Ast.spansOfAll items
end

/-- The regex and its parts lie in the text, before the offset. -/
structure Ast.Fits (source : List Char) (last : Nat) (ast : Ast) : Prop where
  each : ∀ span ∈ ast.spans, Spans source span
  stops : ast.span.stop ≤ last

section Asts

variable {source : List Char} {last last' : Nat}

theorem Ast.span_mem_spans (ast : Ast) : ast.span ∈ ast.spans := by
  cases ast <;> simp [Ast.span, Ast.spans]

theorem Ast.mem_spansOfAll {items : List Ast} {span : Span} :
    span ∈ Ast.spansOfAll items ↔ ∃ item ∈ items, span ∈ item.spans := by
  induction items with
  | nil => simp [Ast.spansOfAll]
  | cons item items ih => simp [Ast.spansOfAll, ih]

theorem Ast.forall_spansOfAll {items : List Ast} (h : ∀ item ∈ items, item.Fits source last) :
    ∀ span ∈ Ast.spansOfAll items, Spans source span := by
  intro span hspan
  obtain ⟨item, hitem, hspan⟩ := Ast.mem_spansOfAll.mp hspan
  exact (h item hitem).each span hspan

theorem Ast.Fits.mono {ast : Ast} (h : ast.Fits source last) (hle : last ≤ last') :
    ast.Fits source last' := ⟨h.each, h.stops.trans hle⟩

theorem Ast.fits_ofItems {items : List Ast} {span : Span} (hspan : Spans source span)
    (hlast : span.stop ≤ last) (hitems : ∀ item ∈ items, item.Fits source last) :
    (Ast.ofItems span items).Fits source last := by
  unfold Ast.ofItems
  split
  · exact ⟨List.forall_mem_singleton.mpr hspan, hlast⟩
  · exact hitems _ List.mem_cons_self
  · exact ⟨List.forall_mem_cons.mpr ⟨hspan, Ast.forall_spansOfAll hitems⟩, hlast⟩

/-! ## Open branches -/

/-- What was read of a group lies in the regex before the offset. -/
structure OpenBranch.StandsAt (source : List Char) (offset : Nat) (b : OpenBranch) : Prop where
  opening : ∀ span ∈ b.opening, Spans source span
  start : IsPlace source b.start ∧ b.start ≤ offset
  branches : ∀ branch ∈ b.branches, branch.Fits source offset
  origin : IsPlace source b.origin ∧ b.origin ≤ offset
  items : ∀ item ∈ b.items, item.Fits source offset

namespace OpenBranch.StandsAt

variable {b : OpenBranch} {s s' : Scanner}

theorem atStart {opening : Option Span} (hopening : ∀ span ∈ opening, Spans source span)
    (hs : s.ScansIn source) : (OpenBranch.atStart opening s.offset).StandsAt source s.offset :=
  ⟨hopening, ⟨hs.isPlace, Nat.le_refl _⟩, nofun, ⟨hs.isPlace, Nat.le_refl _⟩, nofun⟩

theorem mono (h : b.StandsAt source last) (hle : last ≤ last') : b.StandsAt source last' where
  opening := h.opening
  start := ⟨h.start.1, h.start.2.trans hle⟩
  branches := fun branch hbranch => (h.branches branch hbranch).mono hle
  origin := ⟨h.origin.1, h.origin.2.trans hle⟩
  items := fun item hitem => (h.items item hitem).mono hle

theorem push (h : b.StandsAt source last) {item : Ast} (hitem : item.Fits source last) :
    (b.push item).StandsAt source last :=
  ⟨h.opening, h.start, h.branches, h.origin, List.forall_mem_cons.mpr ⟨hitem, h.items⟩⟩

theorem finish (h : b.StandsAt source s.offset) (hs : s.ScansIn source) :
    (b.finish s.offset).Fits source s.offset :=
  Ast.fits_ofItems ⟨h.origin.1, hs.isPlace, h.origin.2⟩ (Nat.le_refl _)
    fun item hitem => h.items item (List.mem_reverse.mp hitem)

theorem nextBranch (h : b.StandsAt source s.offset) (hs : s.ScansIn source) (hr : s.Reaches s') :
    (b.nextBranch s.offset s'.offset).StandsAt source s'.offset where
  opening := h.opening
  start := ⟨h.start.1, h.start.2.trans hr.offset_le⟩
  branches := List.forall_mem_cons.mpr ⟨(h.finish hs).mono hr.offset_le,
    fun branch hbranch => (h.branches branch hbranch).mono hr.offset_le⟩
  origin := ⟨(hs.reaches hr).isPlace, Nat.le_refl _⟩
  items := nofun

theorem close (h : b.StandsAt source s.offset) (hs : s.ScansIn source) :
    (b.close s.offset).Fits source s.offset := by
  unfold OpenBranch.close
  split
  · exact h.finish hs
  · have hbranches : ∀ branch ∈ (b.finish s.offset :: b.branches).reverse,
        branch.Fits source s.offset := fun branch hbranch =>
      List.forall_mem_cons.mpr ⟨h.finish hs, h.branches⟩ branch (List.mem_reverse.mp hbranch)
    exact ⟨List.forall_mem_cons.mpr ⟨⟨h.start.1, hs.isPlace, h.start.2⟩,
      Ast.forall_spansOfAll hbranches⟩, Nat.le_refl _⟩

end OpenBranch.StandsAt

end Asts

/-! ## Reading regexes -/

section Branches

variable {source : List Char} {s : Scanner} {b : OpenBranch}

/-- What is read is a part of the regex. -/
def ReadsPart (source : List Char) (s : Scanner) (result : Ast × Scanner) : Prop :=
  s.Reaches result.2 ∧ result.1.Fits source result.2.offset

/-- What is read becomes a part of the branch. -/
def ReadsBranch (source : List Char) (s : Scanner) (result : OpenBranch × Scanner) : Prop :=
  s.Reaches result.2 ∧ result.1.StandsAt source result.2.offset

theorem reads_bracketed (hs : s.ScansIn source) :
    Reads source (ReadsPart source s) (readBracketed s) := by
  refine (reads_opening hs).bind fun ⟨⟨negated, inner⟩, inside⟩ ⟨hinside, hinner⟩ => ?_
  refine (reads_classRest _ (hs.reaches hinside) hinner).bind
    fun ⟨set, behind⟩ ⟨hbehind, hset⟩ => ?_
  have hr := hinside.trans hbehind
  exact .ok ⟨hr, List.forall_mem_cons.mpr ⟨hs.spans hr, hset⟩, Nat.le_refl _⟩

theorem reads_primitive (hs : s.ScansIn source) (c : Char) :
    Reads source (ReadsPart source s) (readPrimitive c s) := by
  have hone : ∀ ast : Ast, ast.spans = [s.charSpan] → ast.span = s.charSpan →
      Reads source (ReadsPart source s) (.ok (ast, s.bump)) := by
    intro ast hspans hspan
    refine .ok ⟨s.reaches_bump, ?_, ?_⟩
    · rw [hspans]
      exact List.forall_mem_singleton.mpr hs.spans_charSpan
    · rw [hspan]
      exact Nat.le_refl _
  unfold readPrimitive
  split
  · exact hone _ rfl rfl
  · exact hone _ rfl rfl
  · exact hone _ rfl rfl
  · refine (reads_escape hs).bind fun ⟨part, behind⟩ ⟨hbehind, hpart⟩ => ?_
    dsimp only at hbehind hpart ⊢
    have hpartSpan : Spans source part.span := hpart ▸ hs.spans hbehind
    have hstops : part.span.stop ≤ behind.offset := hpart ▸ Nat.le_refl _
    split <;> exact .ok ⟨hbehind, List.forall_mem_singleton.mpr hpartSpan, hstops⟩
  · exact hone _ rfl rfl

/-! ### Group heads -/

theorem reads_flags (hs : s.ScansIn source) (negated : Bool) {dangling : Option Span}
    (hdangling : ∀ span ∈ dangling, Spans source span) (fuel : Nat)
    (changes : List (Flag × Bool)) :
    Reads source (Onward s) (readFlags negated dangling fuel changes s) := by
  induction fuel generalizing negated dangling changes s with
  | zero => exact .ok (.refl s)
  | succ fuel ih =>
      have hs' := hs.reaches s.reaches_bump
      have hnext : ∀ (negated : Bool) (dangling : Option Span) (changes : List (Flag × Bool)),
          (∀ span ∈ dangling, Spans source span) → Reads source (Onward s)
            (if s.bump.atEnd then failAt s.bump.here .flagUnexpectedEnd
              else readFlags negated dangling fuel changes s.bump) := by
        intro negated dangling changes hdangling
        split
        · exact reads_failAt hs'.spans_here nofun
        · exact (ih hs' negated hdangling changes).imp fun _ => s.reaches_bump.trans
      simp only [readFlags]
      split
      · exact reads_failAt hs.spans_here nofun
      · split
        · split
          · exact reads_failAt (hdangling _ rfl) nofun
          · exact .ok (.refl s)
        · split
          · split
            · exact reads_failAt hs.spans_charSpan nofun
            · refine hnext _ _ _ fun span hspan => ?_
              cases hspan
              exact hs.spans_charSpan
          · split
            · exact reads_failAt hs.spans_charSpan nofun
            · split
              · exact reads_failAt hs.spans_charSpan nofun
              · exact hnext _ _ _ nofun

theorem reads_nameRest (hs : s.ScansIn source) (start fuel : Nat) (name : List Char) :
    Reads source (Onward s) (readNameRest start fuel name s) := by
  induction fuel generalizing name s with
  | zero => exact .ok (.refl s)
  | succ fuel ih =>
      simp only [readNameRest]
      split
      · exact reads_failAt hs.spans_here nofun
      · split
        · exact .ok (.refl s)
        · split
          · exact (ih (hs.reaches s.reaches_bump) _).imp fun _ => s.reaches_bump.trans
          · exact reads_failAt hs.spans_charSpan nofun

theorem reads_name (hs : s.ScansIn source) :
    Reads source (fun s' => s.Reaches s') (readName s) := by
  refine (reads_nameRest hs s.offset _ []).bind fun ⟨name, behind⟩ hbehind => ?_
  dsimp only at hbehind ⊢
  split
  · exact reads_failAt hs.spans_here nofun
  · split
    · exact reads_failAt (hs.spans hbehind) nofun
    · exact .ok (hbehind.trans behind.reaches_bump)

/-- A look-around is shown from its parenthesis on. -/
theorem reads_groupHead (hs : s.ScansIn source) (hopening : s.peek? = some '(') :
    Reads source (Onward s) (readGroupHead s) := by
  have hinside := s.reaches_bump.trans s.bump.reaches_skipSpace
  have hs' := hs.reaches hinside
  have hparenthesis : Text.StandsAt source s.offset ['('] := by
    obtain ⟨passed, hsource, hoffset⟩ := hs
    obtain ⟨rest, hrest⟩ := List.head?_eq_some_iff.mp hopening
    exact ⟨passed, rest, by rw [hsource, hrest]; rfl, hoffset⟩
  simp only [readGroupHead]
  generalize s.bump.skipSpace = inside at hinside hs' ⊢
  have hread : ∀ text, ∀ s' ∈ inside.bumpIf? text, inside.Reaches s' :=
    fun text s' h => Scanner.reaches_of_bumpIf? h
  split
  · next after hafter =>
      have hr := Scanner.reaches_of_orElse (hread _) (Scanner.reaches_of_orElse (hread _)
        (Scanner.reaches_of_orElse (hread _) (hread _))) after hafter
      exact .error ⟨hs.spans (hinside.trans hr), fun _ => hparenthesis⟩
  · split
    · next s' hs'' =>
        have hr := Scanner.reaches_of_orElse (hread _) (hread _) s' hs''
        exact (reads_name (hs'.reaches hr)).bind fun _ h => .ok (hinside.trans (hr.trans h))
    · split
      · exact .ok hinside
      · next s' hs'' =>
          have hr := hread _ s' hs''
          refine .unless (fun _ => hs.spans_charSpan) nofun fun _ => ?_
          refine (reads_flags (hs'.reaches hr) false (by simp) _ []).bind
            fun ⟨changes, behind⟩ hbehind => ?_
          have hbehind := hinside.trans (hr.trans (hbehind.trans behind.reaches_bump))
          dsimp only
          split
          · exact .ok hbehind
          · split
            · exact reads_failAt hs'.spans_here nofun
            · exact .ok hbehind

/-! ### Repetitions -/

/-- What is taken from a branch is a part of the regex, and the rest stays. -/
theorem reads_operand (hs : s.ScansIn source) (hb : b.StandsAt source s.offset) :
    Reads source (fun (body, b') => body.Fits source s.offset ∧ b'.StandsAt source s.offset)
      (operand s b) := by
  unfold operand
  split
  · exact reads_failAt hs.spans_here nofun
  · exact reads_failAt hs.spans_here nofun
  · exact reads_failAt hs.spans_here nofun
  · next body items _ _ hitems =>
      have hall := hb.items
      rw [hitems] at hall
      obtain ⟨hbody, hrest⟩ := List.forall_mem_cons.mp hall
      exact .ok ⟨hbody, hb.opening, hb.start, hb.branches, hb.origin, hrest⟩

/-- A repetition goes from where its operand starts to where reading goes on. -/
theorem standsAt_repetition {body : Ast} {s' : Scanner} (hs : s.ScansIn source)
    (hbody : body.Fits source s.offset) (hb : b.StandsAt source s.offset) (hr : s.Reaches s')
    (least : Nat) (most : Option Nat) (greedy : Bool) :
    (b.push (.repetition ⟨body.span.start, s'.offset⟩ body least most greedy)).StandsAt source
      s'.offset := by
  have hspan := hbody.each body.span body.span_mem_spans
  have hordered := hspan.ordered.trans (hbody.stops.trans hr.offset_le)
  exact (hb.mono hr.offset_le).push ⟨List.forall_mem_cons.mpr
    ⟨⟨hspan.starts, (hs.reaches hr).isPlace, hordered⟩, hbody.each⟩, Nat.le_refl _⟩

theorem reaches_greedy (s : Scanner) (greedy : Bool) :
    s.Reaches (if greedy then s else s.bump) := by
  split
  · exact .refl s
  · exact s.reaches_bump

theorem reads_repetition (hs : s.ScansIn source) (hb : b.StandsAt source s.offset) (least : Nat)
    (most : Option Nat) : Reads source (ReadsBranch source s) (readRepetition least most s b) := by
  refine (reads_operand hs hb).bind fun ⟨body, b'⟩ ⟨hbody, hb'⟩ => ?_
  have hr := s.reaches_bump.trans (reaches_greedy s.bump (s.bump.peek? != some '?'))
  exact .ok ⟨hr, standsAt_repetition hs hbody hb' hr _ _ _⟩

theorem reaches_digitsFrom (fuel : Nat) (digits : List Nat) (s : Scanner) :
    s.Reaches (digitsFrom fuel digits s).2 := by
  induction fuel generalizing digits s with
  | zero => exact .refl s
  | succ fuel ih =>
      simp only [digitsFrom]
      split
      · split
        · exact s.reaches_bumpSpace.trans (ih _ s.bumpSpace)
        · exact .refl s
      · exact .refl s

theorem reads_count (hs : s.ScansIn source) :
    Reads source (fun _ => True) (readCount s).1 ∧ s.Reaches (readCount s).2 := by
  have hblanks := s.reaches_skipBlanks
  have hdigits := reaches_digitsFrom s.skipBlanks.rest.length [] s.skipBlanks
  have hspan := (hs.reaches hblanks).spans hdigits
  simp only [readCount]
  generalize digitsFrom s.skipBlanks.rest.length [] s.skipBlanks = read at hdigits hspan ⊢
  constructor
  · split
    · exact reads_failAt hspan nofun
    · split
      · exact .ok trivial
      · exact reads_failAt hspan nofun
  · exact hblanks.trans (hdigits.trans
      ((Scanner.reaches_skipBlanks _).trans (Scanner.reaches_skipSpace _)))

/-- The end of a counted repetition, from its closing brace on. -/
theorem reads_countedEnd {body : Ast} {closing : Scanner} (hs : s.ScansIn source)
    (hbody : body.Fits source s.offset) (hb : b.StandsAt source s.offset)
    (hr : s.Reaches closing) (least : Nat) (most : Option Nat) :
    Reads source (ReadsBranch source s) (do
      if closing.peek? != some '}' then
        failAt (closing.since s.offset) .repetitionCountUnclosed
      let behind := closing.bumpSpace
      let greedy := behind.peek? != some '?'
      let behind := if greedy then behind else behind.bump
      if most.any (· < least) then
        failAt (behind.since s.offset) .repetitionCountInvalid
      .ok (b.push (.repetition ⟨body.span.start, behind.offset⟩ body least most greedy),
        behind)) := by
  have hbehind := hr.trans (closing.reaches_bumpSpace.trans
    (reaches_greedy closing.bumpSpace (closing.bumpSpace.peek? != some '?')))
  refine .unless (fun _ => hs.spans hr) nofun fun _ => ?_
  refine .unless (fun _ => hs.spans hbehind) nofun fun _ => ?_
  exact .ok ⟨hbehind, standsAt_repetition hs hbody hb hbehind _ _ _⟩

theorem reads_counted (hs : s.ScansIn source) (hb : b.StandsAt source s.offset) :
    Reads source (ReadsBranch source s) (readCounted s b) := by
  refine (reads_operand hs hb).bind fun ⟨body, b'⟩ ⟨hbody, hb'⟩ => ?_
  have hinside := s.reaches_bumpSpace
  obtain ⟨hleast, hcount⟩ := reads_count (hs.reaches hinside)
  replace hcount := hinside.trans hcount
  have hcomma := hcount.trans (readCount s.bumpSpace).2.reaches_bumpSpace
  dsimp only
  refine .unless (fun _ => hs.spans hinside) nofun fun _ => ?_
  refine .unless (fun _ => hs.spans hcount) nofun fun _ => ?_
  simp only [pure_bind]
  split
  · refine .unless (fun _ => hs.spans hcomma) nofun fun _ => ?_
    split
    · exact hleast.bind fun least _ => reads_countedEnd hs hbody hb' hcomma least none
    · obtain ⟨hmost, hcount'⟩ := reads_count (hs.reaches hcomma)
      exact hleast.bind fun least _ => hmost.bind fun most _ =>
        reads_countedEnd hs hbody hb' (hcomma.trans hcount') least (some most)
  · exact hleast.bind fun count _ => reads_countedEnd hs hbody hb' hcount count (some count)

/-! ### Groups -/

theorem reads_branches (fuel : Nat) (hs : s.ScansIn source) (hb : b.StandsAt source s.offset) :
    Reads source (ReadsPart source s) (readBranches fuel b s) := by
  induction fuel generalizing b s with
  | zero => exact .ok ⟨.refl s, hb.close hs⟩
  | succ fuel ih =>
      have hspace := s.reaches_skipSpace
      replace hb := hb.mono hspace.offset_le
      replace hs := hs.reaches hspace
      simp only [readBranches]
      generalize s.skipSpace = s' at hspace hs hb ⊢
      -- what is read behind more of the branch
      have hnext : ∀ {b' : OpenBranch} {s'' : Scanner}, s'.Reaches s'' →
          b'.StandsAt source s''.offset →
            Reads source (ReadsPart source s) (readBranches fuel b' s'') :=
        fun hr hb' => (ih (hs.reaches hr) hb').imp fun _ h => ⟨hspace.trans (hr.trans h.1), h.2⟩
      have hitem : ∀ {item : Ast} {s'' : Scanner}, s'.Reaches s'' → item.Fits source s''.offset →
          Reads source (ReadsPart source s) (readBranches fuel (b.push item) s'') :=
        fun hr hfits => hnext hr ((hb.mono hr.offset_le).push hfits)
      split
      · split
        · next opening hopening => exact reads_failAt (hb.opening opening hopening) nofun
        · exact .ok ⟨hspace, hb.close hs⟩
      · split
        · exact .ok ⟨hspace, hb.close hs⟩
        · exact reads_failAt hs.spans_charSpan nofun
      · next hpeek =>
          refine (reads_groupHead hs hpeek).bind fun ⟨head, inside⟩ hinside => ?_
          cases head with
          | flags changes =>
              refine hitem hinside ⟨List.forall_mem_singleton.mpr (hs.spans hinside), ?_⟩
              exact Nat.le_refl _
          | group changes =>
              have hopening : ∀ span ∈ some s'.charSpan, Spans source span := by
                rintro span hspan
                cases hspan
                exact hs.spans_charSpan
              have hinner : Scanner.ScansIn source
                  { inside with verbose := (changes.value? .verbose).getD s'.verbose } :=
                hs.reaches hinside
              refine (ih hinner (.atStart hopening hinner)).bind
                fun ⟨body, closing⟩ ⟨hclosing, hbody⟩ => ?_
              have hr := hinside.trans (Scanner.Reaches.trans hclosing closing.reaches_bump)
              refine hitem hr ⟨List.forall_mem_cons.mpr ⟨hs.spans hr, hbody.each⟩, ?_⟩
              exact Nat.le_refl _
      · exact hnext s'.reaches_bump (hb.nextBranch hs s'.reaches_bump)
      · exact (reads_bracketed hs).bind fun _ ⟨hr, hfits⟩ => hitem hr hfits
      · exact (reads_repetition hs hb _ _).bind fun _ ⟨hr, hb'⟩ => hnext hr hb'
      · exact (reads_repetition hs hb _ _).bind fun _ ⟨hr, hb'⟩ => hnext hr hb'
      · exact (reads_repetition hs hb _ _).bind fun _ ⟨hr, hb'⟩ => hnext hr hb'
      · exact (reads_counted hs hb).bind fun _ ⟨hr, hb'⟩ => hnext hr hb'
      · exact (reads_primitive hs _).bind fun _ ⟨hr, hfits⟩ => hitem hr hfits

end Branches

/-! ## Whole regexes -/

mutual
theorem ClassSet.mem_spans_of_tooDeep? {depth : Nat} {span : Span} :
    ∀ set : ClassSet, set.tooDeep? depth = some span → span ∈ set.spans
  | .bracketed s _ inner, h => by
      rw [tooDeep?] at h
      split at h
      · exact List.mem_cons_of_mem _ (mem_spans_of_tooDeep? inner h)
      · exact Option.some.inj h ▸ List.mem_cons_self
  | .union s items, h => by
      rw [tooDeep?] at h
      split at h
      · exact List.mem_cons_of_mem _ (mem_spansOfAll_of_firstTooDeep? items h)
      · exact Option.some.inj h ▸ List.mem_cons_self
  | .binary s _ left right, h => by
      rw [tooDeep?] at h
      split at h
      · rw [spans, List.mem_cons, List.mem_append]
        rcases (Option.orElse_eq_some ..).mp h with h | ⟨-, h⟩
        · exact .inr (.inl (mem_spans_of_tooDeep? left h))
        · exact .inr (.inr (mem_spans_of_tooDeep? right h))
      · exact Option.some.inj h ▸ List.mem_cons_self
  | .empty _, h | .single _ _, h | .range _ _ _, h | .ascii _ _ _, h | .property _ _ _, h
  | .perl _ _ _, h => nomatch h

theorem ClassSet.mem_spansOfAll_of_firstTooDeep? {depth : Nat} {span : Span} :
    ∀ items : List ClassSet, firstTooDeep? depth items = some span → span ∈ spansOfAll items
  | [], h => nomatch h
  | item :: items, h => by
      rw [firstTooDeep?] at h
      rw [spansOfAll, List.mem_append]
      rcases (Option.orElse_eq_some ..).mp h with h | ⟨-, h⟩
      · exact .inl (mem_spans_of_tooDeep? item h)
      · exact .inr (mem_spansOfAll_of_firstTooDeep? items h)
end

mutual
theorem Ast.mem_spans_of_tooDeep? {depth : Nat} {span : Span} :
    ∀ ast : Ast, ast.tooDeep? depth = some span → span ∈ ast.spans
  | .bracketed s _ inner, h => by
      rw [tooDeep?] at h
      split at h
      · exact List.mem_cons_of_mem _ (inner.mem_spans_of_tooDeep? h)
      · exact Option.some.inj h ▸ List.mem_cons_self
  | .repetition s body _ _ _, h | .group s _ body, h => by
      rw [tooDeep?] at h
      split at h
      · exact List.mem_cons_of_mem _ (mem_spans_of_tooDeep? body h)
      · exact Option.some.inj h ▸ List.mem_cons_self
  | .alternation s items, h | .concat s items, h => by
      rw [tooDeep?] at h
      split at h
      · exact List.mem_cons_of_mem _ (mem_spansOfAll_of_firstTooDeep? items h)
      · exact Option.some.inj h ▸ List.mem_cons_self
  | .empty _, h | .flags _ _, h | .literal _ _, h | .dot _, h | .anchor _ _, h
  | .property _ _ _, h | .perl _ _ _, h => nomatch h

theorem Ast.mem_spansOfAll_of_firstTooDeep? {depth : Nat} {span : Span} :
    ∀ items : List Ast, firstTooDeep? depth items = some span → span ∈ spansOfAll items
  | [], h => nomatch h
  | item :: items, h => by
      rw [firstTooDeep?] at h
      rw [spansOfAll, List.mem_append]
      rcases (Option.orElse_eq_some ..).mp h with h | ⟨-, h⟩
      · exact .inl (mem_spans_of_tooDeep? item h)
      · exact .inr (mem_spansOfAll_of_firstTooDeep? items h)
end

/-- **Whatever is wrong with a regex, the span that shows it lies between characters of the
regex**, and the span of a look-around starts with its parenthesis. -/
theorem isPlaced_of_read {source : List Char} {e : SyntaxError}
    (h : Ast.read source = .error e) : e.IsPlaced source := by
  have hs := Scanner.scansIn_atStart source
  have hopening : ∀ span ∈ (none : Option Span), Spans source span := nofun
  have hread : Reads source (fun _ => True) (Ast.read source) := by
    refine (reads_branches (source.length + 1) hs (.atStart hopening hs)).bind
      fun ⟨ast, behind⟩ ⟨_, hast⟩ => ?_
    dsimp only
    split
    · next span hdeep => exact reads_failAt (hast.each span (ast.mem_spans_of_tooDeep? hdeep)) nofun
    · exact .ok trivial
  exact hread.fault e h

/-- An open class is shown at its bracket. -/
example : Ast.read "é[a".toList = .error ⟨.classUnclosed, ⟨2, 3⟩⟩ := by rfl

end OperatorPeg.Regex
