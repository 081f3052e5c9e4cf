import OperatorPeg.Proofs.Grammar.Quoting
import OperatorPeg.Proofs.Ranges

/-!
# Places in quoted regexes

A regex stands in the text of its grammar with every backtick in it written twice, between two
more backticks. What is wrong with a regex is found where it is unquoted, and pointed at where it
stands: a place in it is found again by counting each of the backticks before it twice.

So a part of the regex becomes the slice of the grammar text that holds this part as it is
written there. No two places become one, and the delimiters of the token are never pointed at.
-/

namespace OperatorPeg

namespace Text

/-- A text as it is written between delimiters: with every delimiter in it twice. -/
def doubled (delimiter : Char) (text : String) : String := .ofList (double delimiter text.toList)

theorem byteLength_le_double (delimiter : Char) (text : List Char) :
    byteLength text ≤ byteLength (double delimiter text) := by
  induction text with
  | nil => exact Nat.le_refl 0
  | cons ch text ih =>
      rw [double]
      split <;> simp only [byteLength] <;> omega

end Text

namespace Grammar

/-- The bytes of the content that make up the beginning of a quoted text. -/
theorem contentBytes_double (before after : List Char) :
    contentBytes (Text.byteLength before) (Text.double '`' (before ++ after)) =
      Text.byteLength (Text.double '`' before) := by
  induction before with
  | nil => rw [Text.byteLength, contentBytes, Text.double, Text.byteLength]
  | cons ch before ih =>
      have hpos := ch.utf8Size_pos
      obtain ⟨n, hn⟩ : ∃ n, ch.utf8Size + Text.byteLength before = n + 1 :=
        ⟨ch.utf8Size + Text.byteLength before - 1, by omega⟩
      have hrest : n + 1 - ch.utf8Size = Text.byteLength before := by omega
      rw [Text.byteLength, hn, List.cons_append, Text.double, Text.double]
      by_cases hch : ch = '`'
      · subst hch
        have hsize : '`'.utf8Size = 1 := rfl
        obtain rfl : n = Text.byteLength before := by omega
        simp only [if_true, contentBytes, and_self, ih, Text.byteLength, hsize]
        omega
      · simp only [if_neg hch, Text.byteLength, ← ih]
        cases Text.double '`' (before ++ after) with
        | nil => cases Text.byteLength before <;> rfl
        | cons next rest => rw [contentBytes, if_neg (fun h => hch h.1), hrest]

namespace Token

variable {text regex : String} {t : Token}

section Quoted

variable (hquotes : t.text = Text.quote '`' regex)

include hquotes

/-- A place in the regex is found behind the delimiter and what is written of the regex before
it. -/
theorem sourceOffset_of_quoted {before after : List Char}
    (hregex : regex.toList = before ++ after) :
    t.sourceOffset (Text.byteLength before) =
      t.span.start + 1 + Text.byteLength (Text.double '`' before) := by
  rw [sourceOffset, content?_of_quoted rfl hquotes, Option.getD_some, String.toList_ofList, hregex,
    contentBytes_double]

/-- Behind a part of the regex, what is written of the part comes on top. -/
theorem sourceOffset_behind {before part after : List Char}
    (hregex : regex.toList = before ++ (part ++ after)) :
    t.sourceOffset (Text.byteLength before + Text.byteLength part) =
      t.sourceOffset (Text.byteLength before) + Text.byteLength (Text.double '`' part) := by
  have hbehind : regex.toList = (before ++ part) ++ after := by rw [hregex, List.append_assoc]
  rw [← Text.byteLength_append, sourceOffset_of_quoted hquotes hbehind,
    sourceOffset_of_quoted hquotes hregex, Text.double_append, Text.byteLength_append,
    ← Nat.add_assoc]

/-- **Places keep their order**, and no two of them become one. -/
theorem strictMonoOn_sourceOffset :
    StrictMonoOn t.sourceOffset {o | Text.IsBoundary regex o} := by
  intro o ho o' ho' hlt
  obtain ⟨before, part, after, hregex, rfl, rfl⟩ := ho.exists_part ho' (Nat.le_of_lt hlt)
  rw [sourceOffset_behind hquotes hregex]
  have := Text.byteLength_le_double '`' part
  omega

/-- A part of the regex is found from where its beginning is to where its end is. -/
theorem sourceSpan_of_quoted {span : Span} (hstart : Text.IsBoundary regex span.start)
    (hstop : Text.IsBoundary regex span.stop) (hle : span.start ≤ span.stop) :
    t.sourceSpan span = ⟨t.sourceOffset span.start, t.sourceOffset span.stop⟩ := by
  have hmono := (strictMonoOn_sourceOffset hquotes).monotoneOn hstart hstop hle
  rw [sourceSpan, Nat.max_eq_right hmono]

end Quoted

/-- The token's text stands in the text where the token says. -/
structure StandsIn (text : String) (t : Token) : Prop where
  stands : Text.StandsAt text.toList t.span.start t.text.toList
  stop : t.span.stop = t.span.start + t.text.utf8ByteSize

namespace StandsIn

theorem isSlice (h : t.StandsIn text) : Text.IsSlice text t.span.start t.span.stop t.text := by
  obtain ⟨before, after, htext, hstart⟩ := h.stands
  have hslice := Text.isSlice_of_toList htext
  rwa [String.ofList_toList, hstart, Text.byteLength_toList, ← h.stop] at hslice

section Quoted

variable (h : t.StandsIn text) (hquotes : t.text = Text.quote '`' regex)

include h hquotes

/-- A place in the regex is found between the delimiters. -/
theorem sourceOffset_mem_Ioo {offset : Nat} (hplace : Text.IsBoundary regex offset) :
    t.sourceOffset offset ∈ Set.Ioo t.span.start t.span.stop := by
  obtain ⟨before, after, hregex, rfl⟩ := Text.isBoundary_iff.mp hplace
  have hstop := h.stop
  have hsize : '`'.utf8Size = 1 := rfl
  rw [hquotes, Text.quote, Text.byteLength_ofList, hregex, Text.double_append] at hstop
  simp only [Text.byteLength, Text.byteLength_append, hsize] at hstop
  rw [Token.sourceOffset_of_quoted hquotes hregex]
  constructor <;> omega

/-- What is found of a part of the regex is the part as it is written. -/
theorem isSlice_of_part {before part after : List Char}
    (hregex : regex.toList = before ++ (part ++ after)) :
    Text.IsSlice text (t.sourceOffset (Text.byteLength before))
      (t.sourceOffset (Text.byteLength before + Text.byteLength part))
      (.ofList (Text.double '`' part)) := by
  obtain ⟨behind, beyond, htext, hstart⟩ := h.stands
  rw [hquotes, Text.quote, String.toList_ofList, hregex, Text.double_append,
    Text.double_append] at htext
  have hparts : text.toList = (behind ++ '`' :: Text.double '`' before) ++
      (Text.double '`' part ++ (Text.double '`' after ++ '`' :: beyond)) := by
    rw [htext]
    simp
  have hslice := Text.isSlice_of_toList hparts
  have hsize : '`'.utf8Size = 1 := rfl
  have hoffset : Text.byteLength (behind ++ '`' :: Text.double '`' before) =
      t.sourceOffset (Text.byteLength before) := by
    rw [Token.sourceOffset_of_quoted hquotes hregex, ← hstart]
    simp only [Text.byteLength, Text.byteLength_append, hsize]
    omega
  rwa [hoffset, ← Token.sourceOffset_behind hquotes hregex] at hslice

end Quoted

end StandsIn

end Token

/-- **Places in a regex are found again in its grammar.** A place is found as far behind the opening
delimiter as the text before it is long when written with its backticks doubled, and places keep
their order. Where the token stands in a text, a part of the regex is found as the slice of
the text that holds it as it is written, and between the two delimiters. -/
theorem regex_places_map_back {t : Token} {regex : String}
    (hquotes : t.text = Text.quote '`' regex) :
    (∀ o, Text.IsBoundary regex o →
      ∃ before, Text.IsSlice regex 0 o before ∧
        t.sourceOffset o = t.span.start + 1 + (Text.doubled '`' before).utf8ByteSize) ∧
    StrictMonoOn t.sourceOffset {o | Text.IsBoundary regex o} ∧
    ∀ text, t.StandsIn text →
      ∀ a b, Text.IsBoundary regex a → Text.IsBoundary regex b → a ≤ b →
        t.sourceSpan ⟨a, b⟩ = ⟨t.sourceOffset a, t.sourceOffset b⟩ ∧
        t.span.start + 1 ≤ t.sourceOffset a ∧ t.sourceOffset b + 1 ≤ t.span.stop ∧
        ∃ part, Text.IsSlice regex a b part ∧
          Text.IsSlice text (t.sourceOffset a) (t.sourceOffset b) (Text.doubled '`' part) := by
  refine ⟨fun o ho => ?_, Token.strictMonoOn_sourceOffset hquotes,
    fun text h a b ha hb hle => ⟨Token.sourceSpan_of_quoted hquotes ha hb hle,
      (h.sourceOffset_mem_Ioo hquotes ha).1, (h.sourceOffset_mem_Ioo hquotes hb).2, ?_⟩⟩
  · obtain ⟨before, after, hregex, rfl⟩ := Text.isBoundary_iff.mp ho
    have hbegins : regex.toList = [] ++ (before ++ after) := hregex
    refine ⟨.ofList before, ?_, ?_⟩
    · have hslice := Text.isSlice_of_toList hbegins
      rwa [Text.byteLength, Nat.zero_add] at hslice
    · rw [Token.sourceOffset_of_quoted hquotes hregex, Text.doubled, String.toList_ofList,
        Text.byteLength_ofList]
  · obtain ⟨before, part, after, hregex, rfl, rfl⟩ := ha.exists_part hb hle
    refine ⟨.ofList part, Text.isSlice_of_toList hregex, ?_⟩
    rw [Text.doubled, String.toList_ofList]
    exact h.isSlice_of_part hquotes hregex

/-- A backtick behind a letter of two bytes: one byte of the regex, two of the grammar. -/
theorem regex_places_map_back_sample :
    let t : Token := ⟨"`é``[`", ⟨5, 12⟩⟩
    let text := "a -> `é``[`\n"
    t.text = Text.quote '`' "é`[" ∧ t.StandsIn text ∧ Text.IsBoundary "é`[" 2 ∧
      Text.IsBoundary "é`[" 3 ∧ t.sourceSpan ⟨2, 3⟩ = ⟨8, 10⟩ ∧
      (∃ before, Text.IsSlice "é`[" 0 3 before ∧
        t.sourceOffset 3 = t.span.start + 1 + (Text.doubled '`' before).utf8ByteSize) ∧
      t.sourceOffset 2 < t.sourceOffset 3 ∧ t.sourceOffset 3 + 1 ≤ t.span.stop ∧
      ∃ part, Text.IsSlice "é`[" 2 3 part ∧ Text.IsSlice text 8 10 (Text.doubled '`' part) := by
  intro t text
  have hquotes : t.text = Text.quote '`' "é`[" := by decide
  have hstands : t.StandsIn text :=
    ⟨⟨"a -> ".toList, ['\n'], by decide, by decide⟩, by decide⟩
  have htwo : Text.IsBoundary "é`[" 2 :=
    Text.isBoundary_iff.mpr ⟨['é'], ['`', '['], by decide, by decide⟩
  have hthree : Text.IsBoundary "é`[" 3 :=
    Text.isBoundary_iff.mpr ⟨['é', '`'], ['['], by decide, by decide⟩
  have hat : t.sourceOffset 2 = 8 := by decide
  have hbehind : t.sourceOffset 3 = 10 := by decide
  obtain ⟨hoffsets, hmono, hparts⟩ := regex_places_map_back hquotes
  obtain ⟨hspan, -, hstop, hpart⟩ := hparts text hstands 2 3 htwo hthree (by decide)
  rw [hat, hbehind] at hspan hpart
  exact ⟨hquotes, hstands, htwo, hthree, hspan, hoffsets 3 hthree, hmono htwo hthree (by decide),
    hstop, hpart⟩

end Grammar

end OperatorPeg
