import OperatorPeg.Proofs.Grammar.Base
import OperatorPeg.Proofs.RegexEnds
import OperatorPeg.Proofs.Yields

/-!
# Tokens and gaps

A grammar text is tokens with gaps between them. Here is what the terminals of the
base rules match at a token, and that skipping trivia skips a gap: no more than a
look at the character after it is needed.
-/

namespace OperatorPeg

/-! ## Sets of characters -/

namespace CharSet

theorem toNat_le_maxCode (c : Char) : c.toNat ≤ maxCode := by
  have hcode : c.toNat = c.val.toNat := rfl
  simp only [maxCode]
  rcases c.valid with h | ⟨_, h⟩ <;> omega

theorem contains_singleton {c d : Char} : (singleton d).contains c = true ↔ c = d := by
  simp only [contains, singleton, range, containsCode]
  rw [← Char.toNat_inj]
  split <;> simp <;> omega

theorem contains_complement_singleton {c d : Char} :
    (singleton d).complement.contains c = true ↔ c ≠ d := by
  have hc := toNat_le_maxCode c
  have hd := toNat_le_maxCode d
  rw [Ne, ← Char.toNat_inj]
  simp only [maxCode] at hc hd
  simp only [contains, singleton, range, complement, complementTo, gaps, maxCode]
  split <;> split <;> simp only [containsCode] <;> grind

theorem exists_range {s : CharSet} {c : Char} (h : s.contains c = true) :
    ∃ r ∈ s.ranges, r.first ≤ c.toNat ∧ c.toNat ≤ r.last := by
  obtain ⟨ranges⟩ := s
  simp only [contains] at h ⊢
  induction ranges with
  | nil => cases h
  | cons r rs ih =>
      simp only [containsCode] at h
      split at h
      · cases h
      · next hfirst =>
          rcases Bool.or_eq_true_iff.mp h with hlast | hrest
          · exact ⟨r, List.mem_cons_self, Nat.le_of_not_lt hfirst, of_decide_eq_true hlast⟩
          · obtain ⟨r', hr', hbounds⟩ := ih hrest
            exact ⟨r', List.mem_cons_of_mem r hr', hbounds⟩

/-- No range of one set meets one of the other. -/
def isApart (s t : CharSet) : Bool :=
  s.ranges.all fun r => t.ranges.all fun r' => r.last < r'.first || r'.last < r.first

theorem not_contains_of_isApart {s t : CharSet} (h : s.isApart t = true) {c : Char}
    (hc : s.contains c = true) : t.contains c = false := by
  rw [← Bool.not_eq_true]
  intro hc'
  obtain ⟨r, hr, hbounds⟩ := exists_range hc
  obtain ⟨r', hr', hbounds'⟩ := exists_range hc'
  have hapart := List.all_eq_true.mp (List.all_eq_true.mp h r hr) r' hr'
  simp only [Bool.or_eq_true, decide_eq_true_eq] at hapart
  omega

end CharSet

namespace Grammar

open Regex

/-- A name's first character is a letter or an underscore. -/
def isNameStart (c : Char) : Bool := c.isAlpha || c == '_'

/-- A name's other characters may be digits too. -/
def isNamePart (c : Char) : Bool := c.isAlphanum || c == '_'

theorem isNameStart_iff {c : Char} :
    isNameStart c = true ↔
      (65 ≤ c.toNat ∧ c.toNat ≤ 90) ∨ (97 ≤ c.toNat ∧ c.toNat ≤ 122) ∨ c.toNat = 95 := by
  have hcases : isNameStart c = (decide (65 ≤ c.toNat ∧ c.toNat ≤ 90) ||
      (decide (97 ≤ c.toNat) && decide (c.toNat ≤ 122)) || c == '_') := rfl
  have hunderscore : c = '_' ↔ c.toNat = 95 := Char.toNat_inj.symm
  rw [hcases, Bool.or_eq_true, Bool.or_eq_true, Bool.and_eq_true, beq_iff_eq, hunderscore]
  simp only [decide_eq_true_eq, or_assoc]

theorem isNamePart_iff {c : Char} :
    isNamePart c = true ↔ isNameStart c = true ∨ (48 ≤ c.toNat ∧ c.toNat ≤ 57) := by
  have hcases : isNamePart c = (decide (65 ≤ c.toNat ∧ c.toNat ≤ 90) ||
      (decide (97 ≤ c.toNat) && decide (c.toNat ≤ 122)) ||
      (decide (48 ≤ c.toNat) && decide (c.toNat ≤ 57)) || c == '_') := rfl
  have hunderscore : c = '_' ↔ c.toNat = 95 := Char.toNat_inj.symm
  rw [isNameStart_iff, hcases]
  simp only [Bool.or_eq_true, Bool.and_eq_true, decide_eq_true_eq, beq_iff_eq, hunderscore]
  omega

theorem nameStart_contains (c : Char) : nameStart.contains c = isNameStart c := by
  rw [Bool.eq_iff_iff, isNameStart_iff]
  simp only [CharSet.contains, nameStart, CharSet.containsCode]
  split <;> simp <;> omega

theorem namePart_contains (c : Char) : namePart.contains c = isNamePart c := by
  rw [Bool.eq_iff_iff, isNamePart_iff, isNameStart_iff]
  simp only [CharSet.contains, namePart, CharSet.containsCode]
  split <;> simp <;> omega

/-- A decimal digit of any script. -/
def isDecimal (c : Char) : Bool := (PerlClass.set .digit).contains c

theorem isDecimal_of_isDigit {c : Char} (h : c.isDigit = true) : isDecimal c = true := by
  obtain ⟨ranges, hranges⟩ : ∃ ranges, (PerlClass.set .digit).ranges = ⟨48, 57⟩ :: ranges :=
    ⟨_, rfl⟩
  have hcode := Char.isDigit_iff_toNat.mp h
  have hbounds : 48 ≤ c.toNat ∧ c.toNat ≤ 57 := hcode
  simp only [isDecimal, CharSet.contains, hranges, CharSet.containsCode,
    if_neg (Nat.not_lt.mpr hbounds.1), hbounds.2, decide_true, Bool.true_or]

/-! ## Gaps -/

/-- White space, and comments with the ends of their lines. -/
inductive Blank : List Char → Prop
  | nil : Blank []
  | space {ch : Char} {text : List Char} :
      Unicode.isWhiteSpace ch = true → Blank text → Blank (ch :: text)
  | comment {line text : List Char} :
      '\n' ∉ line → Blank text → Blank ('#' :: (line ++ '\n' :: text))

/-- No gap begins here. -/
def Significant (text : List Char) : Prop :=
  ∀ ch, text.head? = some ch → Unicode.isWhiteSpace ch = false ∧ ch ≠ '#'

theorem isNameStart_significant {ch : Char} (h : isNameStart ch = true) :
    Unicode.isWhiteSpace ch = false ∧ ch ≠ '#' := by
  constructor
  · rw [← nameStart_contains] at h
    exact CharSet.not_contains_of_isApart (by decide) h
  · rintro rfl
    exact absurd h (by decide)

theorem isDecimal_significant {ch : Char} (h : isDecimal ch = true) :
    Unicode.isWhiteSpace ch = false ∧ ch ≠ '#' := by
  constructor
  · exact CharSet.not_contains_of_isApart (by decide +kernel) h
  · rintro rfl
    exact absurd h (by decide +kernel)

/-- The significant text behind a gap begins at `r`. -/
structure Leads (c r : Cursor) : Prop where
  gap : ∃ text, Blank text ∧ c.Passes text r
  significant : Significant r.ahead

theorem Leads.refl {r : Cursor} (h : Significant r.ahead) : Leads r r :=
  ⟨⟨[], .nil, .nil r⟩, h⟩

theorem Leads.reaches {c r : Cursor} (h : Leads c r) : c.Reaches r :=
  let ⟨text, _, htext⟩ := h.gap
  ⟨text, htext⟩

/-- A white space character, or a comment up to the end of its line. -/
def gapPiece : Regex :=
  .alt (.oneOf Unicode.whiteSpace)
    (.seq (.oneOf (.singleton '#'))
      (.rounds (.oneOf (CharSet.singleton '\n').complement) 0 none true))

theorem gapPiece_space {beyond : List Char} {c d : Cursor} {ch : Char} (h : c.Passes [ch] d)
    (hspace : Unicode.isWhiteSpace ch = true) : gapPiece.matchEnd? beyond c = some d := by
  apply matchEnd?_alt
  rw [matchEnd?, ends_oneOf_of_mem h hspace]
  rfl

theorem gapPiece_comment {beyond : List Char} {c d : Cursor} {line rest : List Char}
    (h : c.Passes ('#' :: line) d) (hline : '\n' ∉ line) (hd : d.ahead = '\n' :: rest) :
    gapPiece.matchEnd? beyond c = some d := by
  obtain ⟨start, hstart, hline'⟩ := h.cons
  have hnotSpace : (Regex.oneOf Unicode.whiteSpace).matchEnd? beyond c = none := by
    apply matchEnd?_eq_none_iff.mpr
    apply ends_oneOf_of_not_mem
    intro ch hch
    rw [h.ahead] at hch
    cases hch
    decide
  show (Regex.alt _ _).matchEnd? beyond c = some d
  rw [matchEnd?_alt_of_none hnotSpace,
    matchEnd?_seq_of_ends_eq (ends_oneOf_of_mem hstart (by decide))]
  apply matchEnd?_zeroOrMore
  apply follows_oneOf hline'
  · intro ch hch
    exact CharSet.contains_complement_singleton.mpr fun heq => hline (heq ▸ hch)
  · intro ch hch
    rw [hd] at hch
    cases hch
    decide

theorem gapPiece_significant {beyond : List Char} {c : Cursor} (h : Significant c.ahead) :
    gapPiece.matchEnd? beyond c = none := by
  have hspace : (Regex.oneOf Unicode.whiteSpace).matchEnd? beyond c = none :=
    matchEnd?_eq_none_iff.mpr (ends_oneOf_of_not_mem fun ch hch => (h ch hch).1)
  have hcomment : (Regex.oneOf (.singleton '#')).matchEnd? beyond c = none := by
    apply matchEnd?_eq_none_iff.mpr
    apply ends_oneOf_of_not_mem
    intro ch hch
    rw [← Bool.not_eq_true, CharSet.contains_singleton]
    exact (h ch hch).2
  rw [gapPiece, matchEnd?_alt_of_none hspace]
  exact matchEnd?_seq_of_none hcomment

theorem follows_gap {beyond : List Char} {c r : Cursor} {text : List Char} (hblank : Blank text)
    (h : c.Passes text r) (hr : Significant r.ahead) :
    Follows (gapPiece.ends beyond) c r := by
  induction hblank generalizing c with
  | nil =>
      rw [h.eq_of_nil] at hr ⊢
      exact .stop (matchEnd?_eq_none_iff.mp (gapPiece_significant hr))
  | space hspace _ ih =>
      obtain ⟨d, hd, hrest⟩ := h.cons
      exact .step (gapPiece_space hd hspace) hd.offset_ne (ih hrest)
  | @comment line text hline _ ih =>
      replace h : c.Passes (('#' :: line) ++ '\n' :: _) r := h
      obtain ⟨d, hd, hrest⟩ := h.split
      obtain ⟨e, he, htext⟩ := hrest.cons
      exact .step (gapPiece_comment hd hline hrest.ahead)
        hd.offset_ne
        (.step (gapPiece_space he (by decide)) he.offset_ne (ih htext))

/-- Skipping trivia skips a gap. -/
theorem Leads.skips {beyond : List Char} {c r : Cursor} (h : Leads c r) :
    Skips ⟨base, beyond, none⟩ 1 c r := by
  obtain ⟨text, hblank, htext⟩ := h.gap
  refine Skips.terminal (t := Base.trivia) rfl ?_
  exact matchEnd?_zeroOrMore (follows_gap hblank htext h.significant)

/-! ## Tokens -/

section Quoted

variable {beyond : List Char} {delimiter : Char}

theorem ends_singleton {c d : Cursor} (h : c.Passes [delimiter] d) :
    (Regex.oneOf (.singleton delimiter)).ends beyond c = [d] :=
  ends_oneOf_of_mem h (CharSet.contains_singleton.mpr rfl)

theorem matchEnd?_singleton {c d : Cursor} (h : c.Passes [delimiter] d) :
    (Regex.oneOf (.singleton delimiter)).matchEnd? beyond c = some d := by
  rw [matchEnd?, ends_singleton h]
  rfl

theorem matchEnd?_singleton_of_ne {c : Cursor} (h : c.ahead.head? ≠ some delimiter) :
    (Regex.oneOf (.singleton delimiter)).matchEnd? beyond c = none := by
  apply matchEnd?_eq_none_iff.mpr
  apply ends_oneOf_of_not_mem
  intro ch hch
  rw [← Bool.not_eq_true, CharSet.contains_singleton]
  rintro rfl
  exact h hch

/-- A character of a quoted text as it is written. -/
def quotedPiece (delimiter : Char) : Regex :=
  .alt (.oneOf (CharSet.singleton delimiter).complement)
    (.seq (.oneOf (.singleton delimiter)) (.oneOf (.singleton delimiter)))

theorem quotedPiece_other {c d : Cursor} {ch : Char} (h : c.Passes [ch] d) (hch : ch ≠ delimiter) :
    (quotedPiece delimiter).matchEnd? beyond c = some d := by
  apply matchEnd?_alt
  rw [matchEnd?, ends_oneOf_of_mem h (CharSet.contains_complement_singleton.mpr hch)]
  rfl

/-- At a delimiter the rest depends on whether another one follows. -/
theorem quotedPiece_delimiter {c d : Cursor} (h : c.Passes [delimiter] d) :
    (quotedPiece delimiter).matchEnd? beyond c
      = (Regex.oneOf (.singleton delimiter)).matchEnd? beyond d := by
  have hother :
      (Regex.oneOf (CharSet.singleton delimiter).complement).matchEnd? beyond c = none := by
    apply matchEnd?_eq_none_iff.mpr
    apply ends_oneOf_of_not_mem
    intro ch hch
    rw [h.ahead] at hch
    cases hch
    rw [← Bool.not_eq_true, CharSet.contains_complement_singleton]
    exact fun hne => hne rfl
  rw [quotedPiece, matchEnd?_alt_of_none hother, matchEnd?_seq_of_ends_eq (ends_singleton h)]

theorem follows_quoted {text : List Char} {c d e : Cursor}
    (h : c.Passes (Text.double delimiter text) d) (hd : d.Passes [delimiter] e)
    (hend : e.ahead.head? ≠ some delimiter) :
    Follows ((quotedPiece delimiter).ends beyond) c d := by
  induction text generalizing c with
  | nil =>
      rw [h.eq_of_nil] at hd ⊢
      apply Follows.stop
      rw [← matchEnd?_eq_none_iff, quotedPiece_delimiter hd]
      exact matchEnd?_singleton_of_ne hend
  | cons ch text ih =>
      unfold Text.double at h
      split at h
      · next heq =>
          subst heq
          obtain ⟨c₁, h₁, hrest⟩ := h.cons
          obtain ⟨c₂, h₂, hrest⟩ := hrest.cons
          refine .step ?_ (h₁.append h₂).offset_ne (ih hrest)
          exact (quotedPiece_delimiter h₁).trans (matchEnd?_singleton h₂)
      · next hne =>
          obtain ⟨c₁, h₁, hrest⟩ := h.cons
          exact .step (quotedPiece_other h₁ hne) h₁.offset_ne (ih hrest)

/-- A quoted text, if no delimiter follows it. -/
theorem quoted_matchEnd? {text : List Char} {c e : Cursor}
    (h : c.Passes (delimiter :: (Text.double delimiter text ++ [delimiter])) e)
    (hend : e.ahead.head? ≠ some delimiter) :
    (quotedMeaning delimiter).matchEnd? beyond c = some e := by
  obtain ⟨c₁, h₁, hrest⟩ := h.cons
  obtain ⟨c₂, htext, hclose⟩ := hrest.split
  apply matchEnd?_seq (matchEnd?_singleton h₁)
  exact matchEnd?_seq (matchEnd?_zeroOrMore (follows_quoted htext hclose hend))
    (matchEnd?_singleton hclose)

theorem quoted_matchEnd?_of_ne {c : Cursor} (h : c.ahead.head? ≠ some delimiter) :
    (quotedMeaning delimiter).matchEnd? beyond c = none :=
  matchEnd?_seq_of_none (matchEnd?_singleton_of_ne h)

end Quoted

/-- Whether this is a name: of a rule, or of a rule referred to. -/
def isName : List Char → Bool
  | [] => false
  | c :: cs => isNameStart c && cs.all isNamePart

/-- A name, if it does not go on. -/
theorem name_matchEnd? {beyond name : List Char} {c e : Cursor} (h : c.Passes name e)
    (hname : isName name = true) (hend : ∀ ch, e.ahead.head? = some ch → isNamePart ch = false) :
    nameMeaning.matchEnd? beyond c = some e := by
  cases name with
  | nil => cases hname
  | cons ch text =>
      simp only [isName, Bool.and_eq_true, List.all_eq_true] at hname
      obtain ⟨d, hd, htext⟩ := h.cons
      have hstart : (Regex.oneOf nameStart).ends beyond c = [d] :=
        ends_oneOf_of_mem hd (by rw [nameStart_contains, hname.1])
      rw [nameMeaning, matchEnd?_seq_of_ends_eq hstart]
      apply matchEnd?_zeroOrMore
      apply follows_oneOf htext
      · intro x hx
        rw [namePart_contains, hname.2 x hx]
      · intro x hx
        rw [namePart_contains, hend x hx]

theorem name_matchEnd?_of_not {beyond : List Char} {c : Cursor}
    (h : ∀ ch, c.ahead.head? = some ch → isNameStart ch = false) :
    nameMeaning.matchEnd? beyond c = none := by
  apply matchEnd?_seq_of_none
  apply matchEnd?_eq_none_iff.mpr
  apply ends_oneOf_of_not_mem
  intro ch hch
  rw [nameStart_contains, h ch hch]

/-- Whether this is a number. -/
def isNumber : List Char → Bool
  | [] => false
  | c :: cs => isDecimal c && cs.all isDecimal

/-- A number, if it does not go on. -/
theorem digits_matchEnd? {beyond text : List Char} {c e : Cursor} (h : c.Passes text e)
    (htext : isNumber text = true) (hend : ∀ ch, e.ahead.head? = some ch → isDecimal ch = false) :
    digitsMeaning.matchEnd? beyond c = some e := by
  cases text with
  | nil => cases htext
  | cons ch text =>
      simp only [isNumber, Bool.and_eq_true, List.all_eq_true] at htext
      obtain ⟨d, hd, hrest⟩ := h.cons
      have hfirst : (Regex.oneOf (PerlClass.set .digit)).matchEnd? beyond c = some d := by
        rw [matchEnd?, ends_oneOf_of_mem hd htext.1]
        rfl
      apply matchEnd?_oneOrMore hfirst hd.offset_ne
      exact follows_oneOf hrest htext.2 hend

theorem digits_matchEnd?_of_not {beyond : List Char} {c : Cursor}
    (h : ∀ ch, c.ahead.head? = some ch → isDecimal ch = false) :
    digitsMeaning.matchEnd? beyond c = none :=
  matchEnd?_oneOrMore_of_none (matchEnd?_eq_none_iff.mpr (ends_oneOf_of_not_mem h))

end Grammar

end OperatorPeg
