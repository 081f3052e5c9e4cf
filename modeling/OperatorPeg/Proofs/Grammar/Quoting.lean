import OperatorPeg.Grammar.Validate
import OperatorPeg.Proofs.Cursors

/-!
# Quoted texts and numbers

What is written and read again is what it was: a quoted text without its quotes, and
a number without its digits.
-/

namespace OperatorPeg

namespace Text

theorem collapse_double (delimiter : Char) (text : List Char) :
    collapse delimiter (double delimiter text) = text := by
  induction text with
  | nil => rfl
  | cons ch text ih =>
      by_cases h : ch = delimiter
      · simp [double, h, collapse, ih]
      · simp only [double, h, if_false]
        cases hrest : double delimiter text with
        | nil =>
            rw [hrest] at ih
            rw [← ih]
            rfl
        | cons next rest =>
            rw [hrest] at ih
            simp [collapse, h, ih]

theorem double_append (delimiter : Char) (before after : List Char) :
    double delimiter (before ++ after) = double delimiter before ++ double delimiter after := by
  induction before with
  | nil => rfl
  | cons ch before ih => by_cases h : ch = delimiter <;> simp [double, h, ih]

theorem content_quote (delimiter : Char) (text : String) :
    content (quote delimiter text).toList = double delimiter text.toList := by
  simp [content, quote]

end Text

namespace Grammar

namespace Token

section Quoted

variable {t : Token} {delimiter : Char} {text : String} (h : delimiter.utf8Size = 1)
  (htext : t.text = Text.quote delimiter text)

include h htext

/-- The ends of a quoted text are whole bytes. -/
theorem content?_of_quoted :
    t.content? = some (String.ofList (Text.double delimiter text.toList)) := by
  have hbytes : 2 ≤ t.text.utf8ByteSize := by
    rw [htext, Text.quote, Text.byteLength_ofList]
    simp only [Text.byteLength, Text.byteLength_append, h]
    omega
  have hlast : t.text.toList.getLast? = some delimiter := by
    rw [htext, Text.quote, String.toList_ofList, ← List.cons_append, List.getLast?_concat]
  have hfirst : t.text.toList.head? = some delimiter := by
    rw [htext, Text.quote, String.toList_ofList]
    rfl
  have hcontent : Text.content t.text.toList = Text.double delimiter text.toList := by
    rw [htext, Text.content_quote]
  simp only [content?, if_neg (Nat.not_lt.mpr hbytes), hcontent, hlast, hfirst, Option.all_some, h,
    beq_self_eq_true, Bool.and_self, if_true]

theorem unescaped?_of_quoted : t.unescaped? = some text := by
  unfold unescaped?
  rw [content?_of_quoted h htext, htext]
  simp [Text.quote, Text.collapse_double]

end Quoted

theorem unescaped_quote {delimiter : Char} (h : delimiter.utf8Size = 1) (text : String)
    (span : Span) : (⟨Text.quote delimiter text, span⟩ : Token).unescaped = .ok text := by
  rw [unescaped, unescaped?_of_quoted h rfl]

end Token

/-! ## Numbers -/

theorem toString_digits (n : Nat) :
    (toString n).toList ≠ [] ∧ ∀ ch ∈ (toString n).toList, ch.isDigit = true := by
  rw [Nat.toString_eq_ofList_toDigits, String.toList_ofList]
  exact ⟨Nat.toDigits_ne_nil, fun _ hch => Nat.isDigit_of_mem_toDigits (by decide) (by decide) hch⟩

theorem precedenceValue?_toString {n : Nat} (h : n < precedenceLimit) :
    precedenceValue? (toString n) = some n := by
  obtain ⟨hne, hdigits⟩ := toString_digits n
  have hvalue : (toString n).toList.foldl (fun n c => n * 10 + (c.toNat - '0'.toNat)) 0 = n := by
    rw [Nat.toString_eq_ofList_toDigits, String.toList_ofList]
    have h := Nat.ofDigitChars_ten_toDigits (n := n)
    rw [Nat.ofDigitChars_eq_foldl] at h
    simpa [Nat.mul_comm] using h
  unfold precedenceValue?
  cases hlist : (toString n).toList with
  | nil => exact absurd hlist hne
  | cons ch rest =>
      rw [hlist] at hdigits hvalue
      have hplus : ch ≠ '+' := by
        rintro rfl
        exact absurd (hdigits '+' List.mem_cons_self) (by decide)
      have hall : (ch :: rest).all Char.isDigit = true := List.all_eq_true.mpr hdigits
      simp only
      split
      · next heq =>
          cases heq
          exact absurd rfl hplus
      · simp only [hall, hvalue, h, List.isEmpty_cons, Bool.not_true, Bool.or_self,
          Bool.false_eq_true, if_false, if_true]

end Grammar

end OperatorPeg
