import OperatorPeg.Proofs.Grammar.Base
import OperatorPeg.Proofs.Grammar.Quoting
import OperatorPeg.Proofs.Grammar.Reading

/-!
# Texts and their tokens

A text is quoted by the delimiter of its kind: literals, labels and names of operators by one,
regexes by the other. What is written of a text is what the description of its terminal says,
what the terminal of the grammar language takes, and what is read again as the text. Nothing
else is taken, so texts and tokens belong together one by one.

The closing delimiter is told from a doubled one only by what comes after it: the terminal
takes the whole token unless another delimiter follows.
-/

namespace OperatorPeg.Grammar

/-- The kinds of quoted tokens. -/
inductive Quoting where
  /-- Literals, labels and names of operators. -/
  | literal
  | regex

namespace Quoting

def delimiter : Quoting → Char
  | literal => '\''
  | regex => '`'

/-- The rule of the grammar language for these tokens. -/
def rule : Quoting → String
  | literal => "literal"
  | regex => "regex"

/-- The terminal of the grammar language for these tokens. -/
def terminal : Quoting → Terminal
  | literal => Base.literal
  | regex => Base.regex

/-- Whether a terminal's text is quoted in this way. -/
def quotes : Quoting → Terminal → Bool
  | literal, t => t.isLiteral
  | regex, t => !t.isLiteral

variable (q : Quoting)

/-- The token of a text: every delimiter in it is written twice, and one before and after. -/
def token (text : String) : String :=
  String.ofList (q.delimiter ::
    (text.toList.flatMap (fun c => if c = q.delimiter then [c, c] else [c]) ++ [q.delimiter]))

theorem double_eq_flatMap (delimiter : Char) (text : List Char) :
    Text.double delimiter text = text.flatMap fun c => if c = delimiter then [c, c] else [c] := by
  induction text with
  | nil => rfl
  | cons c text ih =>
      rw [Text.double, List.flatMap_cons, ih]
      split <;> rfl

theorem token_eq_quote (text : String) : q.token text = Text.quote q.delimiter text := by
  rw [token, Text.quote, double_eq_flatMap]

theorem utf8Size_delimiter : q.delimiter.utf8Size = 1 := by cases q <;> rfl

theorem get?_rule : base.get? q.rule = some (.terminal q.terminal) := by cases q <;> rfl

theorem description_of_quotes {t : Terminal} (h : q.quotes t = true) :
    t.description = q.token t.text := by
  rw [token_eq_quote]
  cases q <;> cases t <;> first | rfl | cases h

/-- What is read of a token is the text. -/
theorem unescaped_token (text : String) (span : Span) :
    (⟨q.token text, span⟩ : Token).unescaped = .ok text := by
  rw [token_eq_quote, Token.unescaped_quote q.utf8Size_delimiter]

theorem token_inj {a b : String} (h : q.token a = q.token b) : a = b := by
  have hread := q.unescaped_token a ⟨0, 0⟩
  rw [h, unescaped_token] at hread
  exact (Except.ok.inj hread).symm

/-- The terminal takes a token that no delimiter follows. -/
theorem matchEnd?_token {beyond : List Char} {text : String} {c e : Cursor}
    (h : c.Passes (q.token text).toList e) (hend : e.ahead.head? ≠ some q.delimiter) :
    q.terminal.matchEnd? beyond c = some e := by
  rw [token_eq_quote, Text.quote, String.toList_ofList] at h
  cases q <;> exact quoted_matchEnd? h hend

/-- What the terminal takes is the token of exactly one text. -/
theorem accepts_iff {beyond : List Char} {taken : String} :
    q.terminal.Accepts beyond taken ↔ ∃! text, taken = q.token text := by
  constructor
  · intro h
    have hquotes : ∃ text, taken = Text.quote q.delimiter text := by
      cases q <;> exact quotes_of_accepts h
    obtain ⟨text, htext⟩ := hquotes
    rw [← token_eq_quote] at htext
    exact ⟨text, htext, fun other hother => q.token_inj (hother.symm.trans htext)⟩
  · rintro ⟨text, rfl, -⟩
    have hstart : (Cursor.atStart (q.token text).toList).ahead = (q.token text).toList ++ [] :=
      (List.append_nil _).symm
    obtain ⟨e, he, hahead⟩ := Cursor.Passes.exists_of_ahead hstart
    refine ⟨_, e, q.matchEnd?_token he (by simp [hahead]), ?_⟩
    rw [he.textUpTo, String.ofList_toList]

end Quoting

/-- **Quoting makes texts and tokens correspond.** The token of a text is read again as the
text, and is how a terminal with this text is described. The grammar language's terminal takes
the token whole if no delimiter follows, and what it takes is the token of exactly one text. -/
theorem quoting_is_bijective (q : Quoting) :
    (∀ text span, (⟨q.token text, span⟩ : Token).unescaped = .ok text) ∧
    (∀ t : Terminal, q.quotes t = true → t.description = q.token t.text) ∧
    ∃ language t, baseLanguage = .ok language ∧ language.get? q.rule = some (.terminal t) ∧
      ∀ beyond : List Char,
        (∀ (text : String) (rest : List Char) (c : Cursor),
          c.ahead = (q.token text).toList ++ rest → rest.head? ≠ some q.delimiter →
          ∃ e, t.matchEnd? beyond c = some e ∧ String.ofList (c.textUpTo e) = q.token text ∧
            e.ahead = rest) ∧
        ∀ taken, t.Accepts beyond taken ↔ ∃! text, taken = q.token text := by
  refine ⟨q.unescaped_token, fun _ => q.description_of_quotes, base, q.terminal, baseLanguage_eq,
    q.get?_rule, fun beyond => ⟨?_, fun _ => q.accepts_iff⟩⟩
  intro text rest c hahead hrest
  obtain ⟨e, he, rfl⟩ := Cursor.Passes.exists_of_ahead hahead
  refine ⟨e, q.matchEnd?_token he hrest, ?_, rfl⟩
  rw [he.textUpTo, String.ofList_toList]

/-- A text that ends with a delimiter, before a colon. -/
theorem quoting_is_bijective_sample :
    (⟨"'a'''", ⟨0, 5⟩⟩ : Token).unescaped = .ok "a'" ∧
    (Terminal.literal "a'").description = "'a'''" ∧
    ∃ language t, baseLanguage = .ok language ∧ language.get? "literal" = some (.terminal t) ∧
      (∃ e, t.matchEnd? [] (.atStart "'a''':".toList) = some e ∧ e.ahead = [':']) ∧
      ∃! text, "'a'''" = Quoting.literal.token text := by
  have htoken : Quoting.literal.token "a'" = "'a'''" := by decide
  obtain ⟨hread, hdescription, language, t, hlanguage, hrule, hterminal⟩ :=
    quoting_is_bijective .literal
  obtain ⟨htakes, haccepts⟩ := hterminal []
  obtain ⟨e, he, htext, hahead⟩ := htakes "a'" [':'] (.atStart "'a''':".toList) (by decide)
    (by decide)
  refine ⟨htoken ▸ hread "a'" ⟨0, 5⟩, ?_, language, t, hlanguage, hrule, ⟨e, he, hahead⟩, ?_⟩
  · rw [hdescription (.literal "a'") rfl]
    exact htoken
  · rw [← haccepts, ← htoken, ← htext]
    exact ⟨_, e, he, rfl⟩

end OperatorPeg.Grammar
