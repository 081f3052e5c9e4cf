import OperatorPeg.Text.Cursor

/-!
# Moving over text

`c.Passes text c'` says that `c'` is where the cursor `c` gets by moving over
`text`. Cursors move no other way, so where a cursor gets is known from the text
passed, and from the offset reached.
-/

namespace OperatorPeg

namespace Text

/-- A character takes at least one byte. -/
theorem length_le_byteLength (cs : List Char) : cs.length ≤ byteLength cs := by
  induction cs with
  | nil => exact Nat.le_refl 0
  | cons c cs ih =>
      have := c.utf8Size_pos
      simp only [byteLength, List.length_cons]
      omega

theorem byteLength_eq_zero_iff {cs : List Char} : byteLength cs = 0 ↔ cs = [] := by
  constructor
  · intro h
    have := length_le_byteLength cs
    exact List.eq_nil_of_length_eq_zero (by omega)
  · rintro rfl
    rfl

theorem byteLength_ofList (cs : List Char) : (String.ofList cs).utf8ByteSize = byteLength cs := by
  induction cs with
  | nil => rfl
  | cons c cs ih =>
      rw [String.ofList_cons, String.utf8ByteSize_append, String.utf8ByteSize_singleton, ih,
        byteLength]

theorem byteLength_toList (text : String) : byteLength text.toList = text.utf8ByteSize := by
  rw [← byteLength_ofList, String.ofList_toList]

/-- The cut after the bytes of a beginning is where that beginning ends. -/
theorem cut_byteLength_append (a b : List Char) : cut (byteLength a) (a ++ b) = (a, b) := by
  induction a with
  | nil =>
      cases b with
      | nil => rfl
      | cons c b =>
          have := c.utf8Size_pos
          simp only [List.nil_append, byteLength, cut]
          rw [if_neg (by omega)]
  | cons c a ih =>
      simp only [List.cons_append, byteLength, cut]
      rw [if_pos (by omega), Nat.add_sub_cancel_left, ih]

/-- Two beginnings of one text that take the same bytes are the same. -/
theorem append_inj_of_byteLength {a b x y : List Char} (h : a ++ x = b ++ y)
    (hlen : byteLength a = byteLength b) : a = b ∧ x = y := by
  have ha := cut_byteLength_append a x
  rw [h, hlen, cut_byteLength_append] at ha
  exact ⟨(Prod.mk.inj ha).1.symm, (Prod.mk.inj ha).2.symm⟩

end Text

/-- Moving over `text` takes the cursor `c` to `c'`. -/
structure Cursor.Passes (c : Cursor) (text : List Char) (c' : Cursor) : Prop where
  passed : c'.passed = text.reverse ++ c.passed
  ahead : c.ahead = text ++ c'.ahead
  offset : c'.offset = c.offset + Text.byteLength text

namespace Cursor.Passes

variable {c c₁ c₂ : Cursor} {t t₁ t₂ : List Char}

theorem nil (c : Cursor) : c.Passes [] c := ⟨rfl, rfl, rfl⟩

theorem append (h₁ : c.Passes t₁ c₁) (h₂ : c₁.Passes t₂ c₂) : c.Passes (t₁ ++ t₂) c₂ where
  passed := by rw [h₂.passed, h₁.passed, List.reverse_append, List.append_assoc]
  ahead := by rw [h₁.ahead, h₂.ahead, List.append_assoc]
  offset := by rw [h₂.offset, h₁.offset, Text.byteLength_append, Nat.add_assoc]

theorem unique (h₁ : c.Passes t c₁) (h₂ : c.Passes t c₂) : c₁ = c₂ := by
  cases c₁
  cases c₂
  simp only [Cursor.mk.injEq]
  exact ⟨h₁.passed.trans h₂.passed.symm,
    List.append_cancel_left (h₁.ahead.symm.trans h₂.ahead), h₁.offset.trans h₂.offset.symm⟩

theorem eq_of_nil (h : c.Passes [] c₁) : c₁ = c := h.unique (.nil c)

/-- Offsets tell the places apart that a cursor gets to. -/
theorem eq_of_offset (h₁ : c.Passes t₁ c₁) (h₂ : c.Passes t₂ c₂)
    (ho : c₁.offset = c₂.offset) : c₁ = c₂ := by
  have hlen : Text.byteLength t₁ = Text.byteLength t₂ := by
    have := h₁.offset
    have := h₂.offset
    omega
  obtain ⟨rfl, -⟩ := Text.append_inj_of_byteLength (h₁.ahead.symm.trans h₂.ahead) hlen
  exact h₁.unique h₂

theorem offset_eq_iff (h : c.Passes t c₁) : c₁.offset = c.offset ↔ t = [] := by
  rw [h.offset, ← Text.byteLength_eq_zero_iff]
  omega

/-- What passes a character moves. -/
theorem offset_ne {ch : Char} (h : c.Passes (ch :: t) c₁) : c₁.offset ≠ c.offset := fun ho =>
  List.cons_ne_nil ch t (h.offset_eq_iff.mp ho)

theorem length (h : c.Passes t c₁) : c.ahead.length = t.length + c₁.ahead.length := by
  rw [h.ahead, List.length_append]

/-- There is a place to get to over any beginning of what is ahead. -/
theorem exists_of_ahead {rest : List Char} (h : c.ahead = t ++ rest) :
    ∃ c', c.Passes t c' ∧ c'.ahead = rest :=
  ⟨⟨t.reverse ++ c.passed, rest, c.offset + Text.byteLength t⟩, ⟨rfl, h, rfl⟩, rfl⟩

/-- Moving over a text is moving over its parts. -/
theorem split (h : c.Passes (t₁ ++ t₂) c₂) : ∃ d, c.Passes t₁ d ∧ d.Passes t₂ c₂ := by
  obtain ⟨d, hd, hahead⟩ := exists_of_ahead (h.ahead.trans (List.append_assoc ..))
  obtain ⟨e, he, -⟩ := exists_of_ahead hahead
  exact ⟨d, hd, h.unique (hd.append he) ▸ he⟩

theorem cons {ch : Char} (h : c.Passes (ch :: t) c₂) : ∃ d, c.Passes [ch] d ∧ d.Passes t c₂ :=
  @split c c₂ [ch] t h

theorem step {ch : Char} (h : c.step? = some (ch, c₁)) : c.Passes [ch] c₁ := by
  unfold step? at h
  split at h
  · cases h
  · next hahead =>
      cases h
      exact ⟨rfl, hahead, rfl⟩

theorem textUpTo (h : c.Passes t c₁) : c.textUpTo c₁ = t := by
  rw [Cursor.textUpTo, h.ahead, h.offset, Nat.add_sub_cancel_left,
    Text.cut_byteLength_append]

end Cursor.Passes

theorem Cursor.step?_eq_some_iff {c c' : Cursor} {ch : Char} :
    c.step? = some (ch, c') ↔ c.Passes [ch] c' := by
  constructor
  · exact .step
  · intro h
    have hahead := h.ahead
    obtain ⟨c'', hstep⟩ : ∃ c'', c.step? = some (ch, c'') := by
      simp only [Cursor.step?]
      rw [hahead]
      exact ⟨_, rfl⟩
    rw [hstep, h.unique (.step hstep)]

/-- A literal is found where it is ahead, and nowhere else. -/
theorem Cursor.after?_eq_some_iff {c c' : Cursor} {text : List Char} :
    Cursor.after? text c = some c' ↔ c.Passes text c' := by
  induction text generalizing c with
  | nil =>
      constructor
      · intro h
        cases h
        exact .nil _
      · intro h
        rw [h.eq_of_nil]
        rfl
  | cons t text ih =>
      constructor
      · intro h
        simp only [Cursor.after?] at h
        split at h
        · next ch next hstep =>
            split at h
            · next heq =>
                subst heq
                exact (Cursor.Passes.step hstep).append (ih.mp h)
            · cases h
        · cases h
      · intro h
        obtain ⟨next, hnext, hahead⟩ := Cursor.Passes.exists_of_ahead (t := [t]) h.ahead
        obtain ⟨c'', hc'', -⟩ := Cursor.Passes.exists_of_ahead hahead
        simp only [Cursor.after?, Cursor.step?_eq_some_iff.mpr hnext, if_true]
        rw [ih, h.unique (hnext.append hc'')]
        exact hc''

theorem Cursor.after?_eq_none_iff {c : Cursor} {text : List Char} :
    Cursor.after? text c = none ↔ ¬ text <+: c.ahead := by
  constructor
  · rintro h ⟨rest, hrest⟩
    obtain ⟨c', hc', -⟩ := Cursor.Passes.exists_of_ahead hrest.symm
    rw [Cursor.after?_eq_some_iff.mpr hc'] at h
    cases h
  · intro h
    cases ha : Cursor.after? text c with
    | none => rfl
    | some c' => exact absurd ⟨c'.ahead, (Cursor.after?_eq_some_iff.mp ha).ahead.symm⟩ h

/-- Moving over some text takes `c` to `c'`. -/
def Cursor.Reaches (c c' : Cursor) : Prop := ∃ text, c.Passes text c'

namespace Cursor.Reaches

theorem refl (c : Cursor) : c.Reaches c := ⟨[], .nil c⟩

theorem trans {c₁ c₂ c₃ : Cursor} (h₁ : c₁.Reaches c₂) (h₂ : c₂.Reaches c₃) : c₁.Reaches c₃ := by
  obtain ⟨t₁, h₁⟩ := h₁
  obtain ⟨t₂, h₂⟩ := h₂
  exact ⟨t₁ ++ t₂, h₁.append h₂⟩

theorem offset_le {c c' : Cursor} (h : c.Reaches c') : c.offset ≤ c'.offset := by
  obtain ⟨text, h⟩ := h
  rw [h.offset]
  exact Nat.le_add_right _ _

/-- A cursor that has moved has less ahead. -/
theorem length_lt {c c' : Cursor} (h : c.Reaches c') (hne : c'.offset ≠ c.offset) :
    c'.ahead.length < c.ahead.length := by
  obtain ⟨t, h⟩ := h
  have := h.length
  have : t ≠ [] := fun ht => hne (h.offset_eq_iff.mpr ht)
  have := List.length_pos_iff.mpr this
  omega

theorem length_le {c c' : Cursor} (h : c.Reaches c') : c'.ahead.length ≤ c.ahead.length := by
  obtain ⟨t, h⟩ := h
  have := h.length
  omega

theorem eq_of_offset {c c' : Cursor} (h : c.Reaches c') (ho : c'.offset = c.offset) : c' = c := by
  obtain ⟨t, h⟩ := h
  exact h.eq_of_offset (.nil c) ho

end Cursor.Reaches

namespace Window

/-- The range between two places of a text. -/
theorem ofRange_between (before inside beyond : String) :
    ofRange (before ++ inside ++ beyond).toList before.utf8ByteSize
        (before.utf8ByteSize + inside.utf8ByteSize)
      = ⟨⟨before.toList.reverse, inside.toList, before.utf8ByteSize⟩, beyond.toList⟩ := by
  have htext : (before ++ inside ++ beyond).toList = (before ++ inside).toList ++ beyond.toList :=
    String.toList_append
  have hinside : Text.cut (before.utf8ByteSize + inside.utf8ByteSize)
      (before ++ inside ++ beyond).toList = ((before ++ inside).toList, beyond.toList) := by
    rw [htext, ← String.utf8ByteSize_append, ← Text.byteLength_toList,
      Text.cut_byteLength_append]
  have hbefore : Text.cut before.utf8ByteSize (before ++ inside).toList
      = (before.toList, inside.toList) := by
    rw [String.toList_append, ← Text.byteLength_toList, Text.cut_byteLength_append]
  simp only [ofRange, hinside, hbefore, Text.byteLength_toList]

/-- The range of a whole text. -/
theorem ofRange_whole (text : String) :
    ofRange text.toList 0 text.utf8ByteSize = ⟨.atStart text.toList, []⟩ := by
  have h := ofRange_between "" text ""
  rwa [String.empty_append, String.append_empty, String.utf8ByteSize_empty, Nat.zero_add] at h

end Window

end OperatorPeg
