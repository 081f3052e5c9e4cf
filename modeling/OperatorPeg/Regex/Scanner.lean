import OperatorPeg.Regex.Fault
import OperatorPeg.Unicode.Blank

/-!
# Scanning a regex

A scanner is a position in a regex. In verbose mode (flag `x`) white space and
`#` comments between parts are skipped.
-/

namespace OperatorPeg.Regex

/-- A position in a regex, and what reading has learnt on the way there. -/
structure Scanner where
  rest : List Char
  offset : Nat
  verbose : Bool
  /-- Names of the capture groups opened so far. -/
  names : List (List Char)
  deriving Repr

namespace Scanner

def atStart (source : List Char) : Scanner := ⟨source, 0, false, []⟩

def atEnd (s : Scanner) : Bool := s.rest.isEmpty

def peek? (s : Scanner) : Option Char := s.rest.head?

/-- Move past one character. -/
def bump (s : Scanner) : Scanner :=
  match s.rest with
  | [] => s
  | c :: rest => { s with rest, offset := s.offset + c.utf8Size }

/-- Move past `n` characters. -/
def bumpBy : Nat → Scanner → Scanner
  | 0, s => s
  | n + 1, s => bumpBy n s.bump

/-- Move past white space and comments; `inComment` holds inside a comment. -/
def skipFrom (inComment : Bool) : List Char → Nat → List Char × Nat
  | [], offset => ([], offset)
  | c :: cs, offset =>
      if inComment then skipFrom (c != '\n') cs (offset + c.utf8Size)
      else if Unicode.isWhiteSpace c then skipFrom false cs (offset + c.utf8Size)
      else if c == '#' then skipFrom true cs (offset + c.utf8Size)
      else (c :: cs, offset)

/-- In verbose mode, move past white space and comments. -/
def skipSpace (s : Scanner) : Scanner :=
  if s.verbose then
    let (rest, offset) := skipFrom false s.rest s.offset
    { s with rest, offset }
  else s

/-- Move past one character and what verbose mode skips after it. -/
def bumpSpace (s : Scanner) : Scanner :=
  if s.atEnd then s else s.bump.skipSpace

/-- Move past white space, in any mode. -/
def skipBlanks (s : Scanner) : Scanner :=
  let blanks := s.rest.takeWhile Unicode.isWhiteSpace
  s.bumpBy blanks.length

/-- Move past `text` if it comes next. -/
def bumpIf? (text : String) (s : Scanner) : Option Scanner :=
  let text := text.toList
  if text.isPrefixOf s.rest then some (s.bumpBy text.length) else none

/-- The first character that is neither white space nor the `#` of a first
comment. -/
def significant? (inComment : Bool) : List Char → Option Char
  | [] => none
  | c :: cs =>
      if Unicode.isWhiteSpace c then significant? inComment cs
      else if !inComment && c == '#' then significant? true cs
      else some c

/-- The character after the next one; verbose mode looks past white space. -/
def second? (s : Scanner) : Option Char :=
  match s.rest with
  | [] => none
  | _ :: rest => if s.verbose then significant? false rest <|> rest.head? else rest.head?

/-- The empty span here. -/
def here (s : Scanner) : Span := ⟨s.offset, s.offset⟩

/-- The span of the next character. -/
def charSpan (s : Scanner) : Span := ⟨s.offset, s.bump.offset⟩

/-- The span from an earlier offset to here. -/
def since (start : Nat) (s : Scanner) : Span := ⟨start, s.offset⟩

end Scanner

/-- Reading stops with a fault. -/
def failAt {α : Type} (span : Span) (fault : Fault) : Except SyntaxError α :=
  .error ⟨fault, span⟩

end OperatorPeg.Regex
