import OperatorPeg.Regex.Ast
import OperatorPeg.Unicode.Binary
import OperatorPeg.Unicode.Blank
import OperatorPeg.Unicode.Category
import OperatorPeg.Unicode.Digit
import OperatorPeg.Unicode.Script
import OperatorPeg.Unicode.Word

/-!
# Properties by name

The sets that `\p` asks for. Names match loosely: case, blanks, hyphens,
underscores and a leading `is` make no difference.
-/

namespace OperatorPeg.Regex

def dropIs : List Char → Bool × List Char
  | 'i' :: 's' :: rest => (true, rest)
  | name => (false, name)

/-- The form of a name that tables use. Characters beyond ASCII do not count. -/
def looseName (name : List Char) : String :=
  let (hadIs, rest) := dropIs (name.map Char.toLower)
  let rest := rest.filter fun c => c != ' ' && c != '_' && c != '-' && c.toNat < 0x80
  if hadIs && rest == ['c'] then "isc" else String.ofList rest

/-- Properties of Unicode that are no yes-or-no properties. A name among them
is never looked up as a value. -/
def otherProperties : List String :=
  ["age", "bidiclass", "bc", "blk", "block", "canonicalcombiningclass", "ccc",
    "decompositiontype", "dt", "eastasianwidth", "ea", "generalcategory", "gc",
    "graphemeclusterbreak", "gcb", "hangulsyllabletype", "hst", "joininggroup", "jg",
    "joiningtype", "jt", "linebreak", "lb", "name", "na", "numerictype", "nt",
    "numericvalue", "nv", "script", "scriptextensions", "scx", "sentencebreak", "sb",
    "wordbreak", "wb", "casefolding", "lowercasemapping", "uppercasemapping",
    "titlecasemapping"]

/-- The characters with the property, category or script of this name. The names
of the categories Cf, Sc and Lc are not taken for properties. -/
def namedSet? (name : String) : Option CharSet :=
  if name == "cf" || name == "sc" || name == "lc" then Unicode.generalCategory? name
  else if otherProperties.contains name then none
  else
    Unicode.binaryProperty? name <|> Unicode.generalCategory? name <|> Unicode.script? name

/-- The characters that have `value` for the property `name`. -/
def valuedSet? (name value : String) : Option CharSet :=
  match name with
  | "generalcategory" | "gc" => Unicode.generalCategory? value
  | "script" | "sc" => Unicode.script? value
  | "scriptextensions" | "scx" => Unicode.scriptExtension? value
  | _ => none

/-- The set that a query asks for, `none` if there is no such property or value. -/
def PropertyQuery.set? : PropertyQuery → Option CharSet
  | .named name => namedSet? (looseName name)
  | .valued name value => valuedSet? (looseName name) (looseName value)

/-- The set of a class such as `[:alpha:]`. -/
def AsciiClass.set : AsciiClass → CharSet
  | alnum => .ofPairs [(0x30, 0x39), (0x41, 0x5A), (0x61, 0x7A)]
  | alpha => .ofPairs [(0x41, 0x5A), (0x61, 0x7A)]
  | ascii => .range 0 0x7F
  | blank => .ofPairs [(0x09, 0x09), (0x20, 0x20)]
  | cntrl => .ofPairs [(0x00, 0x1F), (0x7F, 0x7F)]
  | digit => .range 0x30 0x39
  | graph => .range 0x21 0x7E
  | lower => .range 0x61 0x7A
  | print => .range 0x20 0x7E
  | punct => .ofPairs [(0x21, 0x2F), (0x3A, 0x40), (0x5B, 0x60), (0x7B, 0x7E)]
  | space => .ofPairs [(0x09, 0x0D), (0x20, 0x20)]
  | upper => .range 0x41 0x5A
  | word => .ofPairs [(0x30, 0x39), (0x41, 0x5A), (0x5F, 0x5F), (0x61, 0x7A)]
  | xdigit => .ofPairs [(0x30, 0x39), (0x41, 0x46), (0x61, 0x66)]

/-- The set of `\d`, `\s` or `\w`. -/
def PerlClass.set : PerlClass → CharSet
  | digit => Unicode.decimalDigits
  | space => Unicode.whiteSpace
  | word => Unicode.wordChars

/-- The same among ASCII characters. -/
def PerlClass.asciiSet : PerlClass → CharSet
  | digit => AsciiClass.digit.set
  | space => AsciiClass.space.set
  | word => AsciiClass.word.set

end OperatorPeg.Regex
