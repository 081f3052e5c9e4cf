import OperatorPeg.Grammar.Compile

/-!
# The base rules

The rules that read grammars, with what their regexes mean. Here they are patterns
to reason about; `baseRules_eq` says that they are the ones that are built.
-/

namespace OperatorPeg.Grammar

/-! ## Terminals -/

/-- What may stand between tokens: white space and comments. -/
def triviaMeaning : Regex :=
  .rounds (.alt (.oneOf Unicode.whiteSpace)
    (.seq (.oneOf (.singleton '#'))
      (.rounds (.oneOf (CharSet.singleton '\n').complement) 0 none true))) 0 none true

/-- The first character of a name. -/
def nameStart : CharSet := ⟨[⟨65, 90⟩, ⟨95, 95⟩, ⟨97, 122⟩]⟩

/-- The other characters of a name. -/
def namePart : CharSet := ⟨[⟨48, 57⟩, ⟨65, 90⟩, ⟨95, 95⟩, ⟨97, 122⟩]⟩

def nameMeaning : Regex := .seq (.oneOf nameStart) (.rounds (.oneOf namePart) 0 none true)

def digitsMeaning : Regex := .rounds (.oneOf (Regex.PerlClass.set .digit)) 1 none true

/-- A quoted text, its delimiters inside doubled. -/
def quotedMeaning (delimiter : Char) : Regex :=
  .seq (.oneOf (.singleton delimiter))
    (.seq
      (.rounds (.alt (.oneOf (CharSet.singleton delimiter).complement)
        (.seq (.oneOf (.singleton delimiter)) (.oneOf (.singleton delimiter)))) 0 none true)
      (.oneOf (.singleton delimiter)))

namespace Base

def trivia : Terminal := .regex "(?:\\s|#[^\\n]*)*" triviaMeaning

def digits : Terminal := .regex "\\d+" digitsMeaning

def name : Terminal := .regex "[A-Za-z_][A-Za-z0-9_]*" nameMeaning

def literal : Terminal := .regex "'(?:[^']|'')*'" (quotedMeaning '\'')

def regex : Terminal := .regex "\\x60(?:[^\\x60]|\\x60\\x60)*\\x60" (quotedMeaning '`')

/-! ## Rules -/

def rule : Pattern :=
  .sequence [
    .kept (.label "name" (.lookup "ident")),
    .skipped (.ofLiteral "->"),
    .kept (.label "body" (.choice [.lookup "table", .lookup "choice"]))]

/-- An operator and the comma after it. -/
def entry : Pattern :=
  .sequence [.kept (.lookup "operator"), .skipped (Pattern.ofLiteral ",").optional]

def table : Pattern :=
  .sequence [
    .skipped (.ofLiteral "["),
    .kept (.label "operators" entry.star),
    .skipped (.ofLiteral "]")]

def operator : Pattern :=
  .sequence [
    .kept (.label "name" (.lookup "literal")),
    .kept (.label "left" (.lookup "precedence")),
    .kept (.label "right" (.lookup "precedence")),
    .kept (.label "pattern" (.lookup "choice"))]

def precedence : Pattern := .choice [.terminal digits, .ofLiteral "none"]

/-- An alternative that is not the first. -/
def alternative : Pattern :=
  .sequence [.skipped (.ofLiteral "/"), .kept (.lookup "sequence")]

def choice : Pattern := .sequence [.kept (.lookup "sequence"), .kept alternative.star]

/-- What the next rule begins with. -/
def head : Pattern := .sequence [.kept (.lookup "ident"), .skipped (.ofLiteral "->")]

/-- A term that is not the head of the next rule. -/
def element : Pattern := .sequence [.skipped (.lookahead head false), .kept (.lookup "term")]

/-- A quoted name and the colon after it. -/
def labelling : Pattern := .sequence [.kept (.lookup "literal"), .skipped (.ofLiteral ":")]

def lead : Pattern := .choice [.ofLiteral "!", .ofLiteral "&"]

def suffix : Pattern := .choice [.ofLiteral "?", .ofLiteral "*", .ofLiteral "+"]

def term : Pattern :=
  .sequence [
    .kept (.label "label" labelling.optional),
    .kept (.label "prefix" lead.optional),
    .kept (.label "atom" (.lookup "atom")),
    .kept (.label "suffix" suffix.optional)]

def group : Pattern :=
  .sequence [.skipped (.ofLiteral "("), .kept (.lookup "choice"), .skipped (.ofLiteral ")")]

def atom : Pattern := .choice [.lookup "regex", .lookup "literal", group, .lookup "ident"]

end Base

/-- The base rules. -/
def base : Rules :=
  ⟨[("_", .terminal Base.trivia), ("grammar", (Pattern.lookup "rule").plus), ("rule", Base.rule),
    ("table", Base.table), ("operator", Base.operator), ("precedence", Base.precedence),
    ("choice", Base.choice), ("sequence", Base.element.plus), ("term", Base.term),
    ("atom", Base.atom), ("ident", .terminal Base.name), ("literal", .terminal Base.literal),
    ("regex", .terminal Base.regex)]⟩

theorem ofRegex?_of_build {source : String} {meaning : Regex}
    (h : Regex.build source.toList = .ok meaning) :
    Pattern.ofRegex? source = .ok (.terminal (.regex source meaning)) := by
  rw [Pattern.ofRegex?, h]

theorem baseRules_eq : baseRules = .ok base := by
  have htrivia : Pattern.ofRegex? "(?:\\s|#[^\\n]*)*" = .ok (.terminal Base.trivia) :=
    ofRegex?_of_build rfl
  have hdigits : Pattern.ofRegex? "\\d+" = .ok (.terminal Base.digits) := ofRegex?_of_build rfl
  have hname : Pattern.ofRegex? "[A-Za-z_][A-Za-z0-9_]*" = .ok (.terminal Base.name) :=
    ofRegex?_of_build rfl
  have hliteral : Pattern.ofRegex? "'(?:[^']|'')*'" = .ok (.terminal Base.literal) :=
    ofRegex?_of_build rfl
  have hregex : Pattern.ofRegex? "\\x60(?:[^\\x60]|\\x60\\x60)*\\x60" =
      .ok (.terminal Base.regex) := ofRegex?_of_build rfl
  unfold baseRules baseEntries
  rw [htrivia, hdigits, hname, hliteral, hregex]
  rfl

theorem baseLanguage_eq : baseLanguage = .ok base := by
  rw [baseLanguage, baseRules_eq]
  rfl

theorem compile_eq (text : String) : compile text = compileWith base text := by
  rw [compile, baseLanguage_eq]
  rfl

end OperatorPeg.Grammar
