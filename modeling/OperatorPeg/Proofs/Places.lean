import OperatorPeg.Proofs.Reporting

/-!
# Places in a source

A text stands at a byte offset of the source where the characters before it take that
many bytes. So where it starts and where it ends lie between two characters. Cursors
are at such places, and what they pass stands where they pass it.
-/

namespace OperatorPeg

/-- The text stands at this byte offset of the source. -/
def Text.StandsAt (source : List Char) (offset : Nat) (text : List Char) : Prop :=
  ∃ before after, source = before ++ (text ++ after) ∧ byteLength before = offset

/-- The cursor is at a place of the source that is not before `begin`, and what is ahead of
it ends at `stop`. -/
structure Cursor.PlacedIn (source : List Char) (begin stop : Nat) (c : Cursor) : Prop where
  text : ∃ beyond, source = c.passed.reverse ++ (c.ahead ++ beyond)
  offset : Text.byteLength c.passed.reverse = c.offset
  start : begin ≤ c.offset
  stop : c.offset + Text.byteLength c.ahead = stop

namespace Cursor.PlacedIn

variable {source text : List Char} {begin stop : Nat} {c c' : Cursor}

theorem offset_le (h : c.PlacedIn source begin stop) : c.offset ≤ stop := by
  have := h.stop
  omega

/-- What a cursor passes stands at its offset. -/
theorem standsAt (h : c.PlacedIn source begin stop) (hp : c.Passes text c') :
    Text.StandsAt source c.offset text := by
  obtain ⟨beyond, hsource⟩ := h.text
  refine ⟨c.passed.reverse, c'.ahead ++ beyond, ?_, h.offset⟩
  rw [hsource, hp.ahead, List.append_assoc]

theorem passes (h : c.PlacedIn source begin stop) (hp : c.Passes text c') :
    c'.PlacedIn source begin stop := by
  obtain ⟨beyond, hsource⟩ := h.text
  have hstop := h.stop
  rw [hp.ahead, Text.byteLength_append] at hstop
  refine ⟨⟨beyond, ?_⟩, ?_, ?_, ?_⟩
  · rw [hsource, hp.passed, hp.ahead]
    simp
  · rw [hp.passed, List.reverse_append, List.reverse_reverse, Text.byteLength_append, h.offset,
      hp.offset]
  · have := h.start
    have := hp.offset
    omega
  · rw [hp.offset]
    omega

theorem reaches (h : c.PlacedIn source begin stop) (hr : c.Reaches c') :
    c'.PlacedIn source begin stop := by
  obtain ⟨text, hp⟩ := hr
  exact h.passes hp

end Cursor.PlacedIn

/-- A parse begins at a place of its source. -/
theorem Window.placedIn_ofRange (source : List Char) (first last : Nat) :
    (Window.ofRange source first last).start.PlacedIn source
      (Text.floorOffset source (min first (Text.floorOffset source last)))
      (Text.floorOffset source last) := by
  refine ⟨⟨(Text.cut last source).2, ?_⟩, ?_, ?_, Window.stop_ofRange source first last⟩
  · simp only [ofRange, List.reverse_reverse]
    rw [← List.append_assoc, Text.cut_append, Text.cut_append]
  · simp only [ofRange, List.reverse_reverse]
  · exact Nat.le_of_eq (Window.offset_start_ofRange source first last).symm

end OperatorPeg
