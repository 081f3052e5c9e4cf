import OperatorPeg.Regex.Ast
import OperatorPeg.Regex.Scanner

/-!
# Escapes

What a backslash introduces: characters by name or number, classes, properties
and assertions. Numbers would be backreferences, which are refused.
-/

namespace OperatorPeg.Regex

/-- A part that takes no operands. Which of them may stand inside brackets is
decided there. -/
inductive Primitive where
  | literal (literal : Literal)
  | anchor (kind : Anchor)
  | dot
  | perl (kind : PerlClass) (negated : Bool)
  | property (query : PropertyQuery) (negated : Bool)
  deriving Repr

/-- A primitive and where it stands. -/
structure Placed where
  primitive : Primitive
  span : Span
  deriving Repr

def hexDigit? (c : Char) : Option Nat :=
  if c.isDigit then some (c.toNat - '0'.toNat)
  else if 'a' ≤ c ∧ c ≤ 'f' then some (c.toNat - 'a'.toNat + 10)
  else if 'A' ≤ c ∧ c ≤ 'F' then some (c.toNat - 'A'.toNat + 10)
  else none

/-- The character with this code point, if it is one. -/
def charOfCode? (code : Nat) : Option Char :=
  if code.isValidChar then some (Char.ofNat code) else none

/-- Exactly `digits` hexadecimal digits; `first` holds before the first of them. -/
def hexDigits (first : Bool) : Nat → Nat → Scanner → Except SyntaxError (Nat × Scanner)
  | 0, code, s => .ok (code, s)
  | n + 1, code, s =>
      let s := if first then s else s.bumpSpace
      match s.peek? with
      | none => failAt s.here .escapeUnexpectedEnd
      | some c =>
          match hexDigit? c with
          | none => failAt s.charSpan .hexInvalidDigit
          | some d => hexDigits false n (code * 16 + d) s

/-- A number of hexadecimal digits, such as `41` after `\x`. -/
def hexFixed (digits : Nat) (s : Scanner) : Except SyntaxError (Char × Scanner) := do
  let start := s.offset
  let (code, s) ← hexDigits true digits 0 s
  let s := s.bumpSpace
  match charOfCode? code with
  | none => failAt (s.since start) .hexInvalid
  | some c => .ok (c, s)

/-- The digits up to a closing brace, which is left standing. -/
def hexUntilBrace :
    Nat → List Nat → Scanner → Except SyntaxError (List Nat × Scanner)
  | 0, digits, s => .ok (digits.reverse, s)
  | fuel + 1, digits, s =>
      let s := s.bumpSpace
      match s.peek? with
      | none => .ok (digits.reverse, s)
      | some '}' => .ok (digits.reverse, s)
      | some c =>
          match hexDigit? c with
          | none => failAt s.charSpan .hexInvalidDigit
          | some d => hexUntilBrace fuel (d :: digits) s

/-- Hexadecimal digits in braces. -/
def hexBraced (s : Scanner) : Except SyntaxError (Char × Scanner) := do
  let brace := s.offset
  let start := s.bump.offset
  let (digits, s) ← hexUntilBrace (s.rest.length + 1) [] s
  if s.atEnd then
    failAt (s.since brace) .escapeUnexpectedEnd
  let stop := s.offset
  let s := s.bumpSpace
  if digits.isEmpty then
    failAt (s.since brace) .hexEmpty
  let code := digits.foldl (· * 16 + ·) 0
  match charOfCode? code with
  | none => failAt ⟨start, stop⟩ .hexInvalid
  | some c => .ok (c, s)

/-- A character by number, from the `x`, `u` or `U` on. -/
def hex (letter : Char) (s : Scanner) : Except SyntaxError (Literal × Scanner) := do
  let s := s.bumpSpace
  match s.peek? with
  | none => failAt s.here .escapeUnexpectedEnd
  | some '{' =>
      let (c, s) ← hexBraced s
      .ok (⟨c, false⟩, s)
  | some _ =>
      let digits := if letter == 'x' then 2 else if letter == 'u' then 4 else 8
      let (c, s) ← hexFixed digits s
      .ok (⟨c, letter == 'x'⟩, s)

/-- The text up to a closing brace, which is left standing. -/
def textUntilBrace : Nat → List Char → Scanner → List Char × Scanner
  | 0, text, s => (text.reverse, s)
  | fuel + 1, text, s =>
      let s := s.bumpSpace
      match s.peek? with
      | none => (text.reverse, s)
      | some c => if c == '}' then (text.reverse, s) else textUntilBrace fuel (c :: text) s

/-- Split at the first occurrence of `separator`. -/
def splitAt? (separator : List Char) : List Char → Option (List Char × List Char)
  | [] => none
  | c :: cs =>
      if separator.isPrefixOf (c :: cs) then some ([], (c :: cs).drop separator.length)
      else (splitAt? separator cs).map fun (before, after) => (c :: before, after)

/-- What the text in braces after `\p` asks for. -/
def PropertyQuery.ofText (text : List Char) : PropertyQuery :=
  match splitAt? ['!', '='] text <|> splitAt? [':'] text <|> splitAt? ['='] text with
  | some (name, value) => .valued name value
  | none => .named text

/-- A property, from the `p` or `P` on. -/
def property (s : Scanner) : Except SyntaxError (PropertyQuery × Scanner) :=
  let s := s.bumpSpace
  match s.peek? with
  | none => failAt s.here .escapeUnexpectedEnd
  | some '{' =>
      let (text, s) := textUntilBrace (s.rest.length + 1) [] s
      if s.atEnd then failAt s.here .escapeUnexpectedEnd
      else .ok (.ofText text, s.bump)
  | some '\\' => failAt s.charSpan .propertyInvalid
  | some c => .ok (.named [c], s.bumpSpace)

/-- Characters that mean something in regex notation. -/
def isMeta (c : Char) : Bool :=
  ['\\', '.', '+', '*', '?', '(', ')', '|', '[', ']', '{', '}', '^', '$', '#', '&', '-',
    '~'].contains c

/-- Characters that a backslash may stand before without changing them: ASCII
that is no letter, no digit and neither `<` nor `>`. -/
def isEscapable (c : Char) : Bool :=
  isMeta c || (c.toNat < 0x80 && !c.isAlphanum && c != '<' && c != '>')

def isBoundaryNameChar (c : Char) : Bool := c.isAlpha || c == '-'

def boundaryName : Nat → List Char → Scanner → List Char × Scanner
  | 0, name, s => (name.reverse, s)
  | fuel + 1, name, s =>
      match s.peek? with
      | some c =>
          if isBoundaryNameChar c then boundaryName fuel (c :: name) s.bumpSpace
          else (name.reverse, s)
      | none => (name.reverse, s)

/-- The named boundary in the braces after `\b`. `none` if the braces hold no
name: they are then a counted repetition. `start` is where the backslash is. -/
def namedBoundary? (start : Nat) (s : Scanner) :
    Except SyntaxError (Option (Anchor × Scanner)) :=
  let brace := s.offset
  let inside := s.bumpSpace
  match inside.peek? with
  | none => failAt (inside.since start) .wordBoundaryOrRepetitionUnexpectedEnd
  | some c =>
      if !isBoundaryNameChar c then .ok none
      else
        let (name, s) := boundaryName inside.rest.length [] inside
        if s.peek? != some '}' then failAt (s.since brace) .wordBoundaryUnclosed
        else
          match String.ofList name with
          | "start" => .ok (some (.wordStart, s.bump))
          | "end" => .ok (some (.wordEnd, s.bump))
          | "start-half" => .ok (some (.wordStartHalf, s.bump))
          | "end-half" => .ok (some (.wordEndHalf, s.bump))
          | _ => failAt ⟨inside.offset, s.offset⟩ .wordBoundaryUnrecognized

/-- The escape that starts at the backslash ahead. -/
def readEscape (s : Scanner) : Except SyntaxError (Placed × Scanner) := do
  let start := s.offset
  let s := s.bump
  match s.peek? with
  | none => failAt (s.since start) .escapeUnexpectedEnd
  | some c =>
      let after := s.bump
      let one := fun (p : Primitive) =>
        (.ok (⟨p, after.since start⟩, after) : Except SyntaxError (Placed × Scanner))
      let char := fun (c : Char) => one (.literal ⟨c, false⟩)
      if c.isDigit then failAt (after.since start) .backreference
      else if c == 'x' || c == 'u' || c == 'U' then
        let (literal, s) ← hex c s
        .ok (⟨.literal literal, s.since start⟩, s)
      else if c == 'p' || c == 'P' then
        let (query, s) ← property s
        .ok (⟨.property query (c == 'P'), s.since start⟩, s)
      else
        match c with
        | 'd' => one (.perl .digit false)
        | 's' => one (.perl .space false)
        | 'w' => one (.perl .word false)
        | 'D' => one (.perl .digit true)
        | 'S' => one (.perl .space true)
        | 'W' => one (.perl .word true)
        | 'a' => char '\x07'
        | 'f' => char '\x0C'
        | 't' => char '\t'
        | 'n' => char '\n'
        | 'r' => char '\r'
        | 'v' => char '\x0B'
        | 'A' => one (.anchor .textStart)
        | 'z' => one (.anchor .textEnd)
        | 'B' => one (.anchor .notWordEdge)
        | '<' => one (.anchor .wordStart)
        | '>' => one (.anchor .wordEnd)
        | 'b' =>
            if after.peek? == some '{' then
              match ← namedBoundary? start after with
              | some (kind, s) => .ok (⟨.anchor kind, s.since start⟩, s)
              | none => one (.anchor .wordEdge)
            else one (.anchor .wordEdge)
        | c =>
            if isEscapable c then char c
            else failAt (after.since start) .escapeUnrecognized

end OperatorPeg.Regex
