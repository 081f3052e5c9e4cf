import OperatorPeg.Proofs.Regex.Scanning
import OperatorPeg.Regex.Bracket

/-!
# Places in classes

A class that is at fault may be shown from its first part to its last one, or as the left and
the right side of an operator. So the parts that were read of a class not only lie in the
regex each, but are in order.
-/

namespace OperatorPeg.Regex

/-! ## The spans of classes -/

mutual
/-- The spans of a class and of all parts of it. -/
def ClassSet.spans : ClassSet → List Span
  | .empty s | .single s _ | .range s _ _ | .ascii s _ _ | .property s _ _ | .perl s _ _ => [s]
  | .bracketed s _ inner => s :: inner.spans
  | .union s items => s :: ClassSet.spansOfAll items
  | .binary s _ left right => s :: (left.spans ++ right.spans)

def ClassSet.spansOfAll : List ClassSet → List Span
  | [] => []
  | item :: items => item.spans ++ ClassSet.spansOfAll items
end

/-- The class and its parts lie in the regex, the class between two offsets. -/
structure ClassSet.Fits (source : List Char) (first last : Nat) (set : ClassSet) : Prop where
  each : ∀ span ∈ set.spans, Spans source span
  starts : first ≤ set.span.start
  stops : set.span.stop ≤ last

/-- Items of a class, the latest first, each read where the one before it had been read. -/
inductive InRow (source : List Char) (first : Nat) : List ClassSet → Nat → Prop
  | nil {last : Nat} : first ≤ last → InRow source first [] last
  | cons {middle last : Nat} {item : ClassSet} {items : List ClassSet} :
      InRow source first items middle → item.Fits source middle last →
        InRow source first (item :: items) last

section Classes

variable {source : List Char} {first last : Nat}

theorem ClassSet.span_mem_spans (set : ClassSet) : set.span ∈ set.spans := by
  cases set <;> simp [ClassSet.span, ClassSet.spans]

theorem ClassSet.mem_spansOfAll {items : List ClassSet} {span : Span} :
    span ∈ ClassSet.spansOfAll items ↔ ∃ item ∈ items, span ∈ item.spans := by
  induction items with
  | nil => simp [ClassSet.spansOfAll]
  | cons item items ih => simp [ClassSet.spansOfAll, ih]

namespace ClassSet.Fits

variable {set : ClassSet}

theorem spans (h : set.Fits source first last) : Spans source set.span :=
  h.each set.span set.span_mem_spans

theorem mono {first' last' : Nat} (h : set.Fits source first last) (hfirst : first' ≤ first)
    (hlast : last ≤ last') : set.Fits source first' last' :=
  ⟨h.each, hfirst.trans h.starts, h.stops.trans hlast⟩

theorem le (h : set.Fits source first last) : first ≤ last :=
  h.starts.trans (h.spans.ordered.trans h.stops)

end ClassSet.Fits

namespace InRow

variable {items : List ClassSet}

theorem mono {last' : Nat} (h : InRow source first items last) (hle : last ≤ last') :
    InRow source first items last' := by
  cases h with
  | nil hfirst => exact .nil (hfirst.trans hle)
  | cons hitems hitem => exact .cons hitems (hitem.mono (Nat.le_refl _) hle)

theorem le (h : InRow source first items last) : first ≤ last := by
  induction h with
  | nil hle => exact hle
  | cons _ hitem ih => exact ih.trans hitem.le

theorem fits (h : InRow source first items last) :
    ∀ item ∈ items, item.Fits source first last := by
  induction h with
  | nil => nofun
  | cons hitems hitem ih =>
      refine List.forall_mem_cons.mpr ⟨hitem.mono hitems.le (Nat.le_refl _), fun other hother => ?_⟩
      exact (ih other hother).mono (Nat.le_refl _) hitem.le

/-- The items lie between where the first of them starts and where the latest one stops. -/
theorem ordered {latest earliest : ClassSet} (h : InRow source first (latest :: items) last)
    (hearliest : (latest :: items).getLast? = some earliest) :
    earliest.span.start ≤ latest.span.stop := by
  cases h with
  | cons hitems hitem =>
      cases items with
      | nil =>
          cases hearliest
          exact hitem.spans.ordered
      | cons next rest =>
          have hmem : earliest ∈ next :: rest := by
            rw [List.getLast?_cons_cons] at hearliest
            exact List.mem_of_getLast? hearliest
          have hfits := hitems.fits earliest hmem
          have hearlier := hfits.spans.ordered.trans hfits.stops
          exact hearlier.trans (hitem.starts.trans hitem.spans.ordered)

end InRow

theorem ClassSet.fits_ofItems {items : List ClassSet} {span : Span} (hspan : Spans source span)
    (hfirst : first ≤ span.start) (hlast : span.stop ≤ last)
    (hitems : ∀ item ∈ items, item.Fits source first last) :
    (ClassSet.ofItems span items).Fits source first last := by
  unfold ClassSet.ofItems
  split
  · exact ⟨List.forall_mem_singleton.mpr hspan, hfirst, hlast⟩
  · exact hitems _ List.mem_cons_self
  · refine ⟨List.forall_mem_cons.mpr ⟨hspan, fun s hs => ?_⟩, hfirst, hlast⟩
    obtain ⟨item, hmem, hs⟩ := ClassSet.mem_spansOfAll.mp hs
    exact (hitems item hmem).each s hs

end Classes

/-! ## Open classes -/

/-- What was read of a class lies in the regex before the offset. -/
structure OpenClass.StandsAt (source : List Char) (offset : Nat) (c : OpenClass) : Prop where
  unclosed : Spans source c.unclosed
  origin : Spans source c.origin
  left : ∀ operator set, c.left = some (operator, set) → set.Fits source 0 c.origin.start
  items : InRow source c.origin.stop c.items offset

namespace OpenClass.StandsAt

variable {source : List Char} {offset offset' : Nat} {c : OpenClass}

theorem mono (h : c.StandsAt source offset) (hle : offset ≤ offset') :
    c.StandsAt source offset' :=
  ⟨h.unclosed, h.origin, h.left, h.items.mono hle⟩

theorem push (h : c.StandsAt source offset) {item : ClassSet}
    (hitem : item.Fits source offset offset') : (c.push item).StandsAt source offset' :=
  ⟨h.unclosed, h.origin, h.left, .cons h.items hitem⟩

theorem close (h : c.StandsAt source offset) : c.close.Fits source 0 offset := by
  have hright : ∀ span, Spans source span → c.origin.start ≤ span.start → span.stop ≤ offset →
      (ClassSet.ofItems span c.items.reverse).Fits source c.origin.start offset := by
    intro span hspan hfirst hlast
    refine ClassSet.fits_ofItems hspan hfirst hlast fun item hitem => ?_
    exact (h.items.fits item (List.mem_reverse.mp hitem)).mono h.origin.ordered (Nat.le_refl _)
  simp only [OpenClass.close]
  generalize hitems : ClassSet.ofItems _ c.items.reverse = right
  replace hright : right.Fits source c.origin.start offset := by
    rw [← hitems]
    split
    · next latest items earliest hitems hearliest =>
        have hrow := h.items
        rw [hitems] at hrow hearliest
        have hfirst := hrow.fits earliest (List.mem_of_getLast? hearliest)
        have hlast := hrow.fits latest List.mem_cons_self
        exact hright _ ⟨hfirst.spans.starts, hlast.spans.ends, hrow.ordered hearliest⟩
          (h.origin.ordered.trans hfirst.starts) hlast.stops
    · exact hright _ h.origin (Nat.le_refl _) h.items.le
  split
  · exact hright.mono (Nat.zero_le _) (Nat.le_refl _)
  · next operator left hleft =>
      have hleft := h.left operator left hleft
      have hordered := hleft.spans.ordered.trans
        (hleft.stops.trans (hright.starts.trans hright.spans.ordered))
      exact ⟨List.forall_mem_cons.mpr ⟨⟨hleft.spans.starts, hright.spans.ends, hordered⟩,
        List.forall_mem_append.mpr ⟨hleft.each, hright.each⟩⟩, Nat.zero_le _, hright.stops⟩

theorem applyOperator (h : c.StandsAt source offset) {s : Scanner} (hs : s.ScansIn source)
    (hle : offset ≤ s.offset) (operator : SetOperator) :
    (c.applyOperator operator s.here).StandsAt source s.offset where
  unclosed := h.unclosed
  origin := hs.spans_here
  left := by
    rintro _ _ heq
    cases heq
    exact h.close.mono (Nat.le_refl _) hle
  items := .nil (Nat.le_refl _)

end OpenClass.StandsAt

/-! ## Reading classes -/

section Brackets

variable {source : List Char} {s : Scanner}

/-- What is read of a class fits in where it was read. -/
def ReadsItem (source : List Char) (s : Scanner) (result : ClassSet × Scanner) : Prop :=
  s.Reaches result.2 ∧ result.1.Fits source s.offset result.2.offset

theorem readsItem_of_readAsciiClass? (hs : s.ScansIn source) {item : ClassSet} {s' : Scanner}
    (h : readAsciiClass? s = some (item, s')) : ReadsItem source s (item, s') := by
  simp only [readAsciiClass?, bind, Option.bind_eq_some_iff] at h
  obtain ⟨inside, hinside, after, hafter, kind, -, h⟩ := h
  cases h
  have hcaret : inside.Reaches
      (if (inside.peek? == some '^') = true then inside.bump else inside) := by
    split
    · exact inside.reaches_bump
    · exact .refl inside
  have hreaches := (Scanner.reaches_of_bumpIf? hinside).trans
    (hcaret.trans ((Scanner.reaches_bumpBy _ _).trans (Scanner.reaches_of_bumpIf? hafter)))
  exact ⟨hreaches, List.forall_mem_singleton.mpr (hs.spans hreaches), Nat.le_refl _,
    Nat.le_refl _⟩

theorem reads_classPart (hs : s.ScansIn source) : Reads source (Covers s) (readClassPart s) := by
  unfold readClassPart
  split
  · exact reads_escape hs
  · exact .ok ⟨s.reaches_bump, rfl⟩
  · exact reads_failAt hs.spans_here nofun

theorem reads_toItem {p : Placed} (h : Spans source p.span) :
    Reads source (ClassSet.Fits source p.span.start p.span.stop) p.toItem := by
  unfold Placed.toItem
  split
  · exact .ok ⟨List.forall_mem_singleton.mpr h, Nat.le_refl _, Nat.le_refl _⟩
  · exact .ok ⟨List.forall_mem_singleton.mpr h, Nat.le_refl _, Nat.le_refl _⟩
  · exact .ok ⟨List.forall_mem_singleton.mpr h, Nat.le_refl _, Nat.le_refl _⟩
  · exact reads_failAt h nofun
  · exact reads_failAt h nofun

theorem reads_toBound {p : Placed} (h : Spans source p.span) :
    Reads source (fun _ => True) p.toBound := by
  unfold Placed.toBound
  split
  · exact .ok trivial
  · exact reads_failAt h nofun

theorem reads_classItem (hs : s.ScansIn source) {unclosed : Span}
    (hunclosed : Spans source unclosed) :
    Reads source (ReadsItem source s) (readClassItem unclosed s) := by
  refine (reads_classPart hs).bind fun ⟨part, behind⟩ ⟨hbehind, hpart⟩ => ?_
  dsimp only at hbehind hpart ⊢
  have hpartSpan : Spans source part.span := hpart ▸ hs.spans hbehind
  have hspaced := hbehind.trans behind.reaches_skipSpace
  split
  · exact reads_failAt hunclosed nofun
  · split
    · refine (reads_toItem hpartSpan).bind fun item hitem => .ok ⟨hspaced, ?_⟩
      rw [hpart] at hitem
      exact hitem.mono (Nat.le_refl _) behind.reaches_skipSpace.offset_le
    · -- a hyphen and the other end of a range
      have hhyphen := hspaced.trans behind.skipSpace.reaches_bumpSpace
      have hs' := hs.reaches hhyphen
      refine .unless (fun _ => hunclosed) nofun fun _ => ?_
      refine (reads_classPart hs').bind fun ⟨last, behind'⟩ ⟨hbehind', hlast⟩ => ?_
      dsimp only at hbehind' hlast ⊢
      have hlastSpan : Spans source last.span := hlast ▸ hs'.spans hbehind'
      have hreaches := hhyphen.trans hbehind'
      have hrange : (⟨part.span.start, last.span.stop⟩ : Span) = behind'.since s.offset := by
        rw [hpart, hlast]
        rfl
      rw [hrange]
      refine (reads_toBound hpartSpan).bind fun low _ => ?_
      refine (reads_toBound hlastSpan).bind fun high _ => ?_
      split
      · exact .ok ⟨hreaches, List.forall_mem_singleton.mpr (hs.spans hreaches), Nat.le_refl _,
          Nat.le_refl _⟩
      · exact reads_failAt (hs.spans hreaches) nofun

/-- What is read of a class from `s` on makes it stand before the place where reading goes on. -/
def ReadsRow (source : List Char) (first : Nat) (s : Scanner) (result : List ClassSet × Scanner) :
    Prop :=
  s.Reaches result.2 ∧ InRow source first result.1 result.2.offset

/-- A character that stands for itself. -/
theorem fits_char (hs : s.ScansIn source) (literal : Literal) :
    (ClassSet.single s.charSpan literal).Fits source s.offset s.bumpSpace.offset :=
  ⟨List.forall_mem_singleton.mpr hs.spans_charSpan, Nat.le_refl _,
    s.reaches_bump_bumpSpace.offset_le⟩

theorem reads_leadingHyphens {start first : Nat} (hstart : IsPlace source start) (fuel : Nat)
    {items : List ClassSet} (hs : s.ScansIn source) (hitems : InRow source first items s.offset) :
    Reads source (ReadsRow source first s) (leadingHyphens start fuel items s) := by
  induction fuel generalizing items s with
  | zero => exact .ok ⟨.refl s, hitems⟩
  | succ fuel ih =>
      have hnext := s.reaches_bumpSpace
      simp only [leadingHyphens]
      split
      · split
        · exact reads_failAt ⟨hstart, hstart, Nat.le_refl _⟩ nofun
        · exact (ih (hs.reaches hnext) (.cons hitems (fits_char hs _))).imp
            fun _ h => ⟨hnext.trans h.1, h.2⟩
      · exact .ok ⟨.refl s, hitems⟩

theorem reads_opening (hs : s.ScansIn source) :
    Reads source (fun (result : (Bool × OpenClass) × Scanner) =>
      s.Reaches result.2 ∧ result.1.2.StandsAt source result.2.offset) (readOpening s) := by
  have hbracket := s.reaches_bumpSpace
  simp only [readOpening]
  refine .unless (fun _ => hs.spans hbracket) nofun fun _ => ?_
  have hcaret : s.bumpSpace.Reaches
      (if (s.bumpSpace.peek? == some '^') = true then s.bumpSpace.bumpSpace else s.bumpSpace) := by
    split
    · exact Scanner.reaches_bumpSpace _
    · exact .refl _
  replace hcaret := hbracket.trans hcaret
  generalize (if (s.bumpSpace.peek? == some '^') = true then s.bumpSpace.bumpSpace
    else s.bumpSpace) = inside at hcaret ⊢
  refine .unless (fun _ => hs.spans hcaret) nofun fun _ => ?_
  have hinside := hs.reaches hcaret
  have hnone : InRow source inside.offset [] inside.offset := .nil (Nat.le_refl _)
  refine (reads_leadingHyphens hs.isPlace _ hinside hnone).bind
    fun ⟨items, behind⟩ ⟨hbehind, hitems⟩ => ?_
  dsimp only at hbehind hitems ⊢
  have hreaches := hcaret.trans hbehind
  split
  · have hclosing := hreaches.trans behind.reaches_bumpSpace
    refine .unless (fun _ => hs.spans hclosing) nofun fun _ => .ok ⟨hclosing, ?_⟩
    exact ⟨hs.spans hclosing, hinside.spans_here, nofun,
      .cons (.nil hbehind.offset_le) (fits_char (hs.reaches hreaches) _)⟩
  · exact .ok ⟨hreaches, hs.spans hreaches, hinside.spans_here, nofun, hitems⟩

/-- A class and all parts of it lie in the regex. -/
def ReadsClass (source : List Char) (s : Scanner) (result : ClassSet × Scanner) : Prop :=
  s.Reaches result.2 ∧ ∀ span ∈ result.1.spans, Spans source span

theorem reads_classRest (fuel : Nat) {c : OpenClass} (hs : s.ScansIn source)
    (hc : c.StandsAt source s.offset) :
    Reads source (ReadsClass source s) (readClassRest fuel c s) := by
  induction fuel generalizing c s with
  | zero => exact reads_failAt hc.unclosed nofun
  | succ fuel ih =>
      have hspace := s.reaches_skipSpace
      replace hc := hc.mono hspace.offset_le
      replace hs := hs.reaches hspace
      simp only [readClassRest]
      generalize s.skipSpace = s' at hspace hs hc ⊢
      -- what is read after more of the class
      have hafter : ∀ {c' : OpenClass} {s'' : Scanner}, s'.Reaches s'' →
          c'.StandsAt source s''.offset →
            Reads source (ReadsClass source s) (readClassRest fuel c' s'') :=
        fun hr hc' => (ih (hs.reaches hr) hc').imp fun _ h => ⟨hspace.trans (hr.trans h.1), h.2⟩
      split
      · exact reads_failAt hc.unclosed nofun
      · exact .ok ⟨hspace.trans s'.reaches_bump, hc.close.each⟩
      · split
        · next item behind hitem =>
            obtain ⟨hr, hfits⟩ := readsItem_of_readAsciiClass? hs hitem
            exact hafter hr (hc.push hfits)
        · refine (reads_opening hs).bind fun ⟨⟨negated, inner⟩, inside⟩ ⟨hinside, hinner⟩ => ?_
          refine (ih (hs.reaches hinside) hinner).bind fun ⟨set, behind⟩ ⟨hbehind, hset⟩ => ?_
          have hr := hinside.trans hbehind
          refine hafter hr (hc.push ⟨?_, Nat.le_refl _, Nat.le_refl _⟩)
          exact List.forall_mem_cons.mpr ⟨hs.spans hr, hset⟩
      · have hoperator : ∀ {operator : SetOperator} {text : String} {s'' : Scanner},
            s'.bumpIf? text = some s'' → Reads source (ReadsClass source s)
              (readClassRest fuel (c.applyOperator operator s''.here) s'') := fun h =>
          have hr := Scanner.reaches_of_bumpIf? h
          hafter hr (hc.applyOperator (hs.reaches hr) hr.offset_le _)
        split
        · exact hoperator ‹_›
        · exact hoperator ‹_›
        · exact hoperator ‹_›
        · refine (reads_classItem hs hc.unclosed).bind fun ⟨item, behind⟩ ⟨hr, hfits⟩ => ?_
          exact hafter hr (hc.push hfits)

end Brackets

end OperatorPeg.Regex
