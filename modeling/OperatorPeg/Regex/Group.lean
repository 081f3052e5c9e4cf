import OperatorPeg.Regex.Ast
import OperatorPeg.Regex.Scanner
import OperatorPeg.Unicode.Binary
import OperatorPeg.Unicode.Category

/-!
# Group heads

What may stand after an opening parenthesis: flags, a name, or nothing.
Look-around is recognized and refused.
-/

namespace OperatorPeg.Regex

def Flag.ofChar? (c : Char) : Option Flag :=
  match c with
  | 'i' => some .ignoreCase
  | 'm' => some .multiLine
  | 's' => some .dotMatchesNewline
  | 'U' => some .swapGreed
  | 'u' => some .unicode
  | 'R' => some .anyLineEnding
  | 'x' => some .verbose
  | _ => none

/-- What an opening parenthesis begins. -/
inductive GroupHead where
  /-- A group with these flags, or none. -/
  | group (changes : FlagChanges)
  /-- Flags for the rest of the group around them. -/
  | flags (changes : FlagChanges)
  deriving Repr

/-- Flags up to a colon or a closing parenthesis, which is left standing.
`negated` holds after the hyphen, `dangling` is its span right after it. -/
def readFlags (negated : Bool) (dangling : Option Span) :
    Nat → List (Flag × Bool) → Scanner → Except SyntaxError (List (Flag × Bool) × Scanner)
  | 0, changes, s => .ok (changes, s)
  | fuel + 1, changes, s =>
      match s.peek? with
      | none => failAt s.here .flagUnexpectedEnd
      | some c =>
          let next := fun (negated : Bool) (dangling : Option Span)
              (changes : List (Flag × Bool)) =>
            if s.bump.atEnd then failAt s.bump.here .flagUnexpectedEnd
            else readFlags negated dangling fuel changes s.bump
          if c == ':' || c == ')' then
            match dangling with
            | some span => failAt span .flagDanglingNegation
            | none => .ok (changes, s)
          else if c == '-' then
            if negated then failAt s.charSpan .flagRepeatedNegation
            else next true (some s.charSpan) changes
          else
            match Flag.ofChar? c with
            | none => failAt s.charSpan .flagUnrecognized
            | some flag =>
                if changes.any (·.1 == flag) then failAt s.charSpan .flagDuplicate
                else next negated none (changes ++ [(flag, !negated)])

/-- A letter, or what counts as one. -/
def isAlphabetic (c : Char) : Bool :=
  if c.toNat < 0x80 then c.isAlpha else Unicode.alphabetic.contains c

/-- A character of a general category for numbers. -/
def isNumeric (c : Char) : Bool :=
  if c.toNat < 0x80 then c.isDigit
  else ((Unicode.generalCategory? "n").getD .empty).contains c

/-- Whether a group name may hold `c`, or begin with it. -/
def isNameChar (first : Bool) (c : Char) : Bool :=
  c == '_' || isAlphabetic c ||
    (!first && (c == '.' || c == '[' || c == ']' || isNumeric c))

/-- The rest of a group name up to its `>`, and the position of that. -/
def readNameRest (start : Nat) :
    Nat → List Char → Scanner → Except SyntaxError (List Char × Scanner)
  | 0, name, s => .ok (name.reverse, s)
  | fuel + 1, name, s =>
      match s.peek? with
      | none => failAt s.here .groupNameUnexpectedEnd
      | some c =>
          if c == '>' then .ok (name.reverse, s)
          else if isNameChar (s.offset == start) c then
            readNameRest start fuel (c :: name) s.bump
          else failAt s.charSpan .groupNameInvalid

/-- A group name ahead, with the `>` after it. -/
def readName (s : Scanner) : Except SyntaxError Scanner := do
  let start := s.offset
  let (name, s) ← readNameRest start (s.rest.length + 1) [] s
  if name.isEmpty then
    failAt ⟨start, start⟩ .groupNameEmpty
  else if s.names.contains name then
    failAt (s.since start) .groupNameDuplicate
  else
    .ok { s.bump with names := name :: s.names }

/-- The opening parenthesis ahead and what belongs to it. -/
def readGroupHead (s : Scanner) : Except SyntaxError (GroupHead × Scanner) := do
  let start := s.offset
  let opening := s.charSpan
  let s := s.bump.skipSpace
  let lookAround :=
    s.bumpIf? "?=" <|> s.bumpIf? "?!" <|> s.bumpIf? "?<=" <|> s.bumpIf? "?<!"
  if let some after := lookAround then
    failAt (after.since start) .lookAround
  let inside := s.here
  match s.bumpIf? "?P<" <|> s.bumpIf? "?<" with
  | some s => .ok (.group ⟨[]⟩, ← readName s)
  | none =>
      match s.bumpIf? "?" with
      | none => .ok (.group ⟨[]⟩, s)
      | some s =>
          if s.atEnd then
            failAt opening .groupUnclosed
          let (changes, s) ← readFlags false none (s.rest.length + 1) [] s
          if s.peek? == some ':' then .ok (.group ⟨changes⟩, s.bump)
          else if changes.isEmpty then failAt inside .repetitionMissing
          else .ok (.flags ⟨changes⟩, s.bump)

end OperatorPeg.Regex
