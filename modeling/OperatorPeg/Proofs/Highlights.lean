import OperatorPeg.Diagnostics.Render
import OperatorPeg.Proofs.Ranges

/-!
# What notices point at

A notice marks ranges of a source. The spans that these come from may be any, also spans of
another text, and are fitted to the source first. What comes out is a part of the source that
begins between two characters, with something in it wherever something is left of the source.

It is not always a part that ends between two characters: the end of a span is cut off at the
end of the source, but not moved out of a character. So a notice points at whole characters, and
is printed, unless a span ends inside one. The place of an error of a parse is no such span: all
of the character at it is marked.
-/

namespace OperatorPeg

namespace Text

variable {text : String} {offset : Nat}

/-! ## Places inside characters -/

/-- The offset is inside a character of the text. -/
def Divides (text : String) (offset : Nat) : Prop :=
  offset < text.utf8ByteSize ∧ ¬ IsBoundary text offset

theorem isInside_iff : isInside text.toList offset = true ↔ Divides text offset := by
  rw [isInside, decide_eq_true_iff, byteLength_toList, Divides]
  have hle := floorOffset_le text.toList offset
  constructor
  · intro h
    refine ⟨?_, fun hboundary => ?_⟩
    · by_contra hafter
      have := (isBoundary_utf8ByteSize text).le_floorOffset (Nat.not_lt.mp hafter)
      omega
    · have := hboundary.le_floorOffset (Nat.le_refl offset)
      omega
  · rintro ⟨hlt, hboundary⟩
    have hne : floorOffset text.toList offset ≠ offset := fun heq =>
      hboundary (heq ▸ isBoundary_floorOffset text offset)
    omega

/-- In the text, an offset is a boundary or inside a character. -/
theorem isBoundary_iff_not_divides (h : offset ≤ text.utf8ByteSize) :
    IsBoundary text offset ↔ ¬ Divides text offset := by
  rw [Divides, not_and_not_right]
  refine ⟨fun hboundary _ => hboundary, fun hbefore => ?_⟩
  rcases Nat.lt_or_eq_of_le h with hlt | heq
  · exact hbefore hlt
  · exact heq ▸ isBoundary_utf8ByteSize text

end Text

/-! ## Ranges to mark -/

namespace Span

/-- The range is a part of the text. It begins between two characters, and there is something in
it unless it begins at the end of the text. -/
structure BeginsIn (text : String) (range : Span) : Prop where
  ordered : range.start ≤ range.stop
  inside : range.stop ≤ text.utf8ByteSize
  starts : Text.IsBoundary text range.start
  visible : range.start < text.utf8ByteSize → range.start < range.stop

/-- The range consists of whole characters. -/
structure FitsIn (text : String) (range : Span) : Prop extends BeginsIn text range where
  ends : Text.IsBoundary text range.stop

end Span

namespace Text

variable {text : String}

/-- A part of the text can be marked, an empty one only at the end. -/
theorem fitsIn_of_part {before part after : List Char}
    (htext : text.toList = before ++ (part ++ after)) (hempty : part = [] → after = []) :
    Span.FitsIn text ⟨byteLength before, byteLength before + byteLength part⟩ := by
  have hslice := isSlice_of_toList htext
  have hsize : text.utf8ByteSize = byteLength before + (byteLength part + byteLength after) := by
    rw [← byteLength_toList, htext, byteLength_append, byteLength_append]
  have hinside : byteLength before + byteLength part ≤ text.utf8ByteSize := by omega
  have hvisible : byteLength before < text.utf8ByteSize →
      byteLength before < byteLength before + byteLength part := by
    intro hlt
    by_contra hnot
    have hpart : part = [] := byteLength_eq_zero_iff.mp (by omega)
    rw [hpart, hempty hpart, byteLength] at hsize
    omega
  exact ⟨⟨hslice.ordered, hinside, hslice.starts, hvisible⟩, hslice.ends⟩

/-- **A place is marked by the character at it.** -/
theorem pointRange_fitsIn (text : String) (offset : Nat) :
    (pointRange offset text.toList).FitsIn text := by
  obtain ⟨before, after, htext, hbefore⟩ :=
    isBoundary_iff.mp (isBoundary_floorOffset text offset)
  have hwidth : pointRange offset text.toList =
      ⟨byteLength before, byteLength before + widthAt (before ++ after) (byteLength before)⟩ := by
    rw [pointRange, ← hbefore, htext]
  rw [hwidth, widthAt, cut_byteLength_append]
  cases after with
  | nil =>
      have hend : text.toList = before ++ ([] ++ []) := htext
      exact fitsIn_of_part hend fun _ => rfl
  | cons c after =>
      have hnext : text.toList = before ++ ([c] ++ after) := htext
      exact fitsIn_of_part hnext nofun

variable (text) (s : Span)

/-- **A span is marked from a boundary on.** -/
theorem coveredRange_beginsIn : (coveredRange s text.toList).BeginsIn text := by
  have hstarts := isBoundary_floorOffset text s.start
  have hinside : max (floorOffset text.toList s.start) (min s.stop text.utf8ByteSize) ≤
      text.utf8ByteSize := Nat.max_le.mpr ⟨hstarts.le_utf8ByteSize, Nat.min_le_right _ _⟩
  simp only [coveredRange, byteLength_toList]
  split
  case isTrue hlt => exact ⟨Nat.le_of_lt hlt, hinside, hstarts, fun _ => hlt⟩
  case isFalse => exact (pointRange_fitsIn text _).toBeginsIn

variable {s}

/-- **A mark ends inside a character just if the span does.** -/
theorem isBoundary_stop_coveredRange_iff (h : s.start ≤ s.stop) :
    IsBoundary text (coveredRange s text.toList).stop ↔ ¬ Divides text s.stop := by
  have hle := floorOffset_le text.toList s.start
  simp only [coveredRange, byteLength_toList]
  split
  case isTrue hlt =>
    have hmax : max (floorOffset text.toList s.start) (min s.stop text.utf8ByteSize) =
        min s.stop text.utf8ByteSize := by omega
    rw [hmax]
    rcases Nat.le_total s.stop text.utf8ByteSize with hin | hout
    · rw [Nat.min_eq_left hin]
      exact isBoundary_iff_not_divides hin
    · rw [Nat.min_eq_right hout]
      exact iff_of_true (isBoundary_utf8ByteSize text) fun hdivides =>
        absurd hdivides.1 (Nat.not_lt.mpr hout)
  case isFalse hnot =>
    -- nothing is left of the span: it ends where the mark begins, or the text ends there
    refine iff_of_true (pointRange_fitsIn text _).ends fun hdivides => hdivides.2 ?_
    have hsame : floorOffset text.toList s.start = s.stop := by
      have := hdivides.1
      omega
    exact hsame ▸ isBoundary_floorOffset text s.start

end Text

/-! ## Notices -/

namespace Snippet

/-- A mark that begins between two characters is drawn if it ends between two. -/
theorem Highlight.isDrawable_iff {text : String} {a : Highlight} (h : a.span.BeginsIn text) :
    a.isDrawable text.toList = true ↔ Text.IsBoundary text a.span.stop := by
  have hstart : Text.isInside text.toList a.span.start = false :=
    Bool.eq_false_iff.mpr fun hinside => (Text.isInside_iff.mp hinside).2 h.starts
  rw [isDrawable, hstart, Bool.not_false, Bool.true_and, Bool.not_eq_true', Bool.eq_false_iff,
    Ne, Text.isInside_iff]
  exact (Text.isBoundary_iff_not_divides h.inside).symm

/-- A notice is printed if all of its highlights can be drawn. -/
theorem Notice.print_eq_ok_iff {n : Notice} {palette : Palette} :
    (∃ shown, n.print palette = .ok shown) ↔
      ∀ a ∈ n.highlights, a.isDrawable n.source.toList = true := by
  unfold Notice.print
  cases hfind : n.highlights.find? (!·.isDrawable n.source.toList) with
  | none =>
      refine iff_of_true ⟨_, rfl⟩ fun a ha => ?_
      simpa using List.find?_eq_none.mp hfind a ha
  | some a =>
      refine iff_of_false nofun fun hall => ?_
      have hnot := List.find?_some hfind
      rw [hall a (List.mem_of_find?_eq_some hfind)] at hnot
      cases hnot

end Snippet

namespace Diagnostics.Finding

open Snippet

/-- The spans of a finding: its own, and those of its notes. -/
def spans (f : Finding) : List Span := f.span :: f.notes.map (·.span)

/-- Each span of a finding is marked. -/
theorem map_span_highlights (f : Finding) (source : List Char) :
    (f.highlights source).map (·.span) = f.spans.map (Text.coveredRange · source) := by
  simp [highlights, spans]

theorem forall_mem_highlights {f : Finding} {source : String} {P : Span → Prop} :
    (∀ a ∈ (f.notice source).highlights, P a.span) ↔
      ∀ s ∈ f.spans, P (Text.coveredRange s source.toList) := by
  show (∀ a ∈ f.highlights source.toList, P a.span) ↔ _
  rw [← List.forall_mem_map, map_span_highlights, List.forall_mem_map]

end Diagnostics.Finding

open Diagnostics Snippet

/-- **Notices mark whole characters.** The mark of an error of a parse fits into the source, and the
notice is printed. The marks of a finding lie in the source, begin between two characters and
are not empty before its end; they end between two characters, and the notice is printed, just
if no span of the finding ends inside a character. -/
theorem marks_fit_iff (source : String) :
    (∀ e : ParseError, (∀ a ∈ (e.notice source).highlights, a.span.FitsIn source) ∧
      ∃ shown, e.render source = .ok shown) ∧
    ∀ f : Finding, (∀ s ∈ f.spans, s.start ≤ s.stop) →
      (∀ a ∈ (f.notice source).highlights, a.span.BeginsIn source) ∧
      ((∀ a ∈ (f.notice source).highlights, a.span.FitsIn source) ↔
        ∀ s ∈ f.spans, ¬ Text.Divides source s.stop) ∧
      ∀ palette, (∃ shown, (f.notice source).print palette = .ok shown) ↔
        ∀ s ∈ f.spans, ¬ Text.Divides source s.stop := by
  refine ⟨fun e => ?_, fun f hordered => ?_⟩
  · have hfits : ∀ a ∈ (e.notice source).highlights, a.span.FitsIn source := by
      intro a ha
      exact List.mem_singleton.mp ha ▸ Text.pointRange_fitsIn source e.offset
    refine ⟨hfits, Notice.print_eq_ok_iff.mpr fun a ha => ?_⟩
    exact (Highlight.isDrawable_iff (hfits a ha).toBeginsIn).mpr (hfits a ha).ends
  · have hbegins : ∀ a ∈ (f.notice source).highlights, a.span.BeginsIn source :=
      Finding.forall_mem_highlights.mpr fun s _ => Text.coveredRange_beginsIn source s
    have hends : (∀ a ∈ (f.notice source).highlights, Text.IsBoundary source a.span.stop) ↔
        ∀ s ∈ f.spans, ¬ Text.Divides source s.stop := by
      rw [Finding.forall_mem_highlights (P := fun range => Text.IsBoundary source range.stop)]
      exact forall₂_congr fun s hs =>
        Text.isBoundary_stop_coveredRange_iff source (hordered s hs)
    refine ⟨hbegins, ?_, fun palette => ?_⟩
    · rw [← hends]
      exact ⟨fun h a ha => (h a ha).ends, fun h a ha => ⟨hbegins a ha, h a ha⟩⟩
    · rw [Notice.print_eq_ok_iff, ← hends]
      exact forall₂_congr fun a ha => Highlight.isDrawable_iff (hbegins a ha)

/-- A span that begins inside a letter of two bytes and ends behind the text, with notes on the
blank before it and behind the text. -/
theorem marks_fit_iff_sample :
    let f : Finding :=
      .make .duplicateRule ⟨3, 9⟩ (some "é") [⟨⟨1, 2⟩, "defined here"⟩, ⟨.empty 7, "and here"⟩]
    (∀ s ∈ f.spans, s.start ≤ s.stop) ∧ (∀ s ∈ f.spans, ¬ Text.Divides "a é" s.stop) ∧
      (f.notice "a é").highlights.map (·.span) = [⟨2, 4⟩, ⟨1, 2⟩, ⟨4, 4⟩] ∧
      (∀ a ∈ (f.notice "a é").highlights, a.span.FitsIn "a é") ∧
      (∃ shown, (f.notice "a é").print .plain = .ok shown) ∧
      ∃ shown, (ParseError.expressionTerm 3).render "a é" = .ok shown := by
  intro f
  have hordered : ∀ s ∈ f.spans, s.start ≤ s.stop := by decide
  have houtside : ∀ s ∈ f.spans, Text.isInside "a é".toList s.stop = false := by decide
  have hends : ∀ s ∈ f.spans, ¬ Text.Divides "a é" s.stop := fun s hs hdivides =>
    Bool.eq_false_iff.mp (houtside s hs) (Text.isInside_iff.mpr hdivides)
  obtain ⟨herrors, hfindings⟩ := marks_fit_iff "a é"
  obtain ⟨-, hfits, hprinted⟩ := hfindings f hordered
  exact ⟨hordered, hends, by decide, hfits.mpr hends, (hprinted .plain).mpr hends,
    (herrors _).2⟩

/-- An empty span inside a character is not taken for empty: it is marked up to its end, inside
the character, and the finding cannot be shown. -/
theorem empty_span_inside_character_misfits :
    let f : Finding := .make .emptyOperatorTable (.empty 1) none []
    (∀ s ∈ f.spans, s.start ≤ s.stop) ∧
      (f.notice "日").highlights.map (·.span) = [⟨0, 1⟩] ∧
      ¬ (∀ a ∈ (f.notice "日").highlights, a.span.FitsIn "日") ∧
      Finding.renderAll .plain "日" [f] =
        .error ⟨⟨⟨0, 1⟩, "operator table is empty", true⟩⟩ := by
  intro f
  have hinside : Text.Divides "日" 1 := Text.isInside_iff.mp (by decide)
  have hmarks : (f.notice "日").highlights = [⟨⟨0, 1⟩, "operator table is empty", true⟩] := by
    decide
  refine ⟨by decide, ?_, fun hfits => ?_, by decide⟩
  · rw [hmarks]
    rfl
  · have hmark := hfits _ (hmarks ▸ List.mem_singleton_self _)
    exact hinside.2 hmark.ends

end OperatorPeg
