import OperatorPeg.Pattern.Build
import OperatorPeg.Pattern.Rules

/-!
# The grammar language

The language that grammars are written in, twice: as rules put together by hand,
which read the first grammar, and as a grammar of itself.
-/

namespace OperatorPeg.Grammar

/-- The grammar of grammars, in its own language. -/
def languageText : String :=
  "# Grammar of Prattle grammars.\n" ++
  "_ -> `(?:\\s|#[^\\n]*)*`\n" ++
  "grammar -> rule+\n" ++
  "rule -> 'name':ident '->' 'body':(table / choice)\n" ++
  "table -> '[' 'operators':(operator ','?)* ']'\n" ++
  "operator -> 'name':literal 'left':precedence 'right':precedence 'pattern':choice\n" ++
  "precedence -> `\\d+` / 'none'\n" ++
  "choice -> sequence ('/' sequence)*\n" ++
  "sequence -> (!(ident '->') term)+\n" ++
  "term -> 'label':(literal ':')? 'prefix':('!' / '&')? 'atom':atom " ++
    "'suffix':('?' / '*' / '+')?\n" ++
  "atom -> regex / literal / '(' choice ')' / ident\n" ++
  "ident -> `[A-Za-z_][A-Za-z0-9_]*`\n" ++
  "literal -> `'(?:[^']|'')*'`\n" ++
  "regex -> `\\x60(?:[^\\x60]|\\x60\\x60)*\\x60`\n"

/-- The rule that matches a whole grammar. -/
def startRule : String := "grammar"

/-- The rules that read grammars, in order. The rule for names also ends the
body before it, since a name with an arrow after it begins the next rule. -/
def baseEntries : Except PatternError (List (String × Pattern)) := do
  let trivia ← Pattern.ofRegex? "(?:\\s|#[^\\n]*)*"
  let digits ← Pattern.ofRegex? "\\d+"
  let ident ← Pattern.ofRegex? "[A-Za-z_][A-Za-z0-9_]*"
  let literal ← Pattern.ofRegex? "'(?:[^']|'')*'"
  let regex ← Pattern.ofRegex? "\\x60(?:[^\\x60]|\\x60\\x60)*\\x60"
  pure [
    (Rules.triviaName, trivia),
    (startRule, Pattern.plus (.lookup "rule")),
    ("rule", .sequence [
      .kept (.label "name" (.lookup "ident")),
      .skipped (.ofLiteral "->"),
      .kept (.label "body" (.choice [.lookup "table", .lookup "choice"]))]),
    ("table", .sequence [
      .skipped (.ofLiteral "["),
      .kept (.label "operators"
        (Pattern.sequence [
          .kept (.lookup "operator"),
          .skipped (Pattern.ofLiteral ",").optional]).star),
      .skipped (.ofLiteral "]")]),
    ("operator", .sequence [
      .kept (.label "name" (.lookup "literal")),
      .kept (.label "left" (.lookup "precedence")),
      .kept (.label "right" (.lookup "precedence")),
      .kept (.label "pattern" (.lookup "choice"))]),
    ("precedence", .choice [digits, .ofLiteral "none"]),
    ("choice", .sequence [
      .kept (.lookup "sequence"),
      .kept (Pattern.sequence [.skipped (.ofLiteral "/"), .kept (.lookup "sequence")]).star]),
    ("sequence", (Pattern.sequence [
      .skipped (.lookahead (.sequence [.kept (.lookup "ident"), .skipped (.ofLiteral "->")]) false),
      .kept (.lookup "term")]).plus),
    ("term", .sequence [
      .kept (.label "label"
        (Pattern.sequence [.kept (.lookup "literal"), .skipped (.ofLiteral ":")]).optional),
      .kept (.label "prefix" (Pattern.choice [.ofLiteral "!", .ofLiteral "&"]).optional),
      .kept (.label "atom" (.lookup "atom")),
      .kept (.label "suffix"
        (Pattern.choice [.ofLiteral "?", .ofLiteral "*", .ofLiteral "+"]).optional)]),
    ("atom", .choice [
      .lookup "regex",
      .lookup "literal",
      .sequence [.skipped (.ofLiteral "("), .kept (.lookup "choice"), .skipped (.ofLiteral ")")],
      .lookup "ident"]),
    ("ident", ident),
    ("literal", literal),
    ("regex", regex)]

/-- The rules that read grammars. -/
def baseRules : Except PatternError Rules := return .ofList (← baseEntries)

end OperatorPeg.Grammar
