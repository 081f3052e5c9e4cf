import OperatorPeg.Regex.Basic
import OperatorPeg.Regex.Property
import OperatorPeg.Regex.Reader
import OperatorPeg.Unicode.Folding

/-!
# Resolving regex notation

`Regex.build` turns the notation into a regular expression: flags are applied,
classes become sets of characters. Where Unicode is off, a class is a set of
bytes, and one that holds a byte above ASCII could match half a character; such
a regex cannot be built, as one that asks for an unknown property cannot.
Boundaries of Unicode words cannot be decided either.
-/

namespace OperatorPeg.Regex

/-- Why a regex that can be read cannot be built. -/
inductive BuildError where
  /-- It cannot be read, or asks for an unknown property, or could match half a
  character. -/
  | unresolved
  /-- It needs to know where words that are not ASCII begin or end. -/
  | unicodeWordBoundary
  deriving DecidableEq, Repr

/-- The wording of a build error. -/
def BuildError.message : BuildError → String
  | unresolved => "error building NFA"
  | unicodeWordBoundary =>
      "unsupported regex feature for DFAs: cannot build DFAs for regexes with Unicode word " ++
        "boundaries; switch to ASCII word boundaries, or heuristically enable Unicode word " ++
        "boundaries or use a different regex engine"

/-- The flags in force. -/
structure Flags where
  ignoreCase : Bool
  multiLine : Bool
  dotMatchesNewline : Bool
  swapGreed : Bool
  unicode : Bool
  anyLineEnding : Bool
  deriving DecidableEq, Repr

/-- The flags at the start of a regex: Unicode alone. -/
def Flags.initial : Flags := ⟨false, false, false, false, true, false⟩

def Flags.set (f : Flags) (flag : Flag) (on : Bool) : Flags :=
  match flag with
  | .ignoreCase => { f with ignoreCase := on }
  | .multiLine => { f with multiLine := on }
  | .dotMatchesNewline => { f with dotMatchesNewline := on }
  | .swapGreed => { f with swapGreed := on }
  | .unicode => { f with unicode := on }
  | .anyLineEnding => { f with anyLineEnding := on }
  | .verbose => f

def Flags.apply (f : Flags) (changes : FlagChanges) : Flags :=
  changes.changes.foldl (fun f change => f.set change.1 change.2) f

/-- A resolved part of a regex. -/
structure Resolved where
  regex : Regex
  /-- Whether it asks for a boundary of Unicode words. -/
  wordBoundary : Bool
  deriving Repr

def plain (regex : Regex) : Resolved := ⟨regex, false⟩

/-- The greatest member of a set of bytes. -/
def maxByte : Nat := 0xFF

def maxAscii : Nat := 0x7F

/-- Case folding as the flags ask for it. -/
def Flags.fold (f : Flags) (s : CharSet) : CharSet :=
  if f.ignoreCase then
    if f.unicode then Unicode.foldCase s else Unicode.foldCaseAscii s
  else s

/-- The complement among characters, or among bytes where Unicode is off. -/
def Flags.complement (f : Flags) (s : CharSet) : CharSet :=
  if f.unicode then s.complement else s.complementTo maxByte

def Flags.foldAndNegate (f : Flags) (negated : Bool) (s : CharSet) : CharSet :=
  if negated then f.complement (f.fold s) else f.fold s

/-- A set of bytes must hold ASCII only. -/
def Flags.checkSet (f : Flags) (s : CharSet) : Except BuildError CharSet :=
  if f.unicode || s.isWithin maxAscii then .ok s else .error .unresolved

/-- The code of a class member. Where Unicode is off it is a byte, which only the
form `\xNN` can write above ASCII; no complete character has such a byte. -/
def Flags.member (f : Flags) (l : Literal) : Except BuildError Nat :=
  if f.unicode || l.char.toNat ≤ maxAscii then .ok l.char.toNat else .error .unresolved

def Flags.perlSet (f : Flags) (kind : PerlClass) (negated : Bool) :
    Except BuildError CharSet :=
  let s := if f.unicode then kind.set else kind.asciiSet
  f.checkSet (if negated then f.complement s else s)

def Flags.propertySet (f : Flags) (query : PropertyQuery) (negated : Bool) :
    Except BuildError CharSet :=
  if !f.unicode then .error .unresolved
  else
    match query.set? with
    | some s => .ok (f.foldAndNegate negated s)
    | none => .error .unresolved

mutual
/-- The set of a part of a class. -/
def ClassSet.set (f : Flags) : ClassSet → Except BuildError CharSet
  | .empty _ => .ok .empty
  | .single _ l => do
      let code ← f.member l
      pure (.range code code)
  | .range _ first last => do
      let low ← f.member first
      let high ← f.member last
      pure (.range low high)
  | .ascii _ kind negated => f.checkSet (f.foldAndNegate negated kind.set)
  | .property _ query negated => f.propertySet query negated
  | .perl _ kind negated => f.perlSet kind negated
  | .bracketed _ negated inner => do
      f.checkSet (f.foldAndNegate negated (← inner.set f))
  | .union _ items => ClassSet.setOfAll f items
  | .binary _ operator left right => do
      let left := f.fold (← left.set f)
      let right := f.fold (← right.set f)
      pure (match operator with
        | .intersection => left.inter right
        | .difference => left.diff right
        | .symmetricDifference => left.symmDiff right)

/-- The union of the sets of several parts. -/
def ClassSet.setOfAll (f : Flags) : List ClassSet → Except BuildError CharSet
  | [] => .ok .empty
  | item :: items => do
      let s ← item.set f
      let rest ← ClassSet.setOfAll f items
      pure (s.union rest)
end

def resolveLiteral (f : Flags) (l : Literal) : Except BuildError Resolved :=
  if !f.unicode && l.byte && l.char.toNat > maxAscii then .error .unresolved
  else if !f.unicode && l.char.toNat > maxAscii then .ok (plain (.oneOf (.singleton l.char)))
  else .ok (plain (.oneOf (f.fold (.singleton l.char))))

def resolveDot (f : Flags) : Except BuildError Resolved :=
  if !f.unicode then .error .unresolved
  else
    let excluded : CharSet :=
      if f.dotMatchesNewline then .empty
      else if f.anyLineEnding then .ofPairs [(0x0A, 0x0A), (0x0D, 0x0D)]
      else .singleton '\n'
    .ok (plain (.oneOf excluded.complement))

def resolveAnchor (f : Flags) (kind : Anchor) : Resolved :=
  let word := fun (a : Assertion) => (⟨.look a, f.unicode⟩ : Resolved)
  match kind with
  | .lineStart =>
      plain (.look (if !f.multiLine then .textStart
        else if f.anyLineEnding then .lineStartAnyEnding else .lineStart))
  | .lineEnd =>
      plain (.look (if !f.multiLine then .textEnd
        else if f.anyLineEnding then .lineEndAnyEnding else .lineEnd))
  | .textStart => plain (.look .textStart)
  | .textEnd => plain (.look .textEnd)
  | .wordEdge => word .wordEdge
  | .notWordEdge => word .notWordEdge
  | .wordStart => word .wordStart
  | .wordEnd => word .wordEnd
  | .wordStartHalf => word .wordStartHalf
  | .wordEndHalf => word .wordEndHalf

/-- A repetition of no rounds matches the empty text, whatever its body is. -/
def resolveRepetition (f : Flags) (least : Nat) (most : Option Nat) (greedy : Bool)
    (body : Resolved) : Resolved :=
  if most == some 0 then plain .empty
  else { body with regex := .rounds body.regex least most (greedy != f.swapGreed) }

mutual
/-- Resolve a part under the flags in force; the flags after it are part of the
result, since a `(?flags)` item changes them. -/
def Ast.resolve (f : Flags) : Ast → Except BuildError (Resolved × Flags)
  | .empty _ => .ok (plain .empty, f)
  | .flags _ changes => .ok (plain .empty, f.apply changes)
  | .literal _ l => do pure (← resolveLiteral f l, f)
  | .dot _ => do pure (← resolveDot f, f)
  | .anchor _ kind => .ok (resolveAnchor f kind, f)
  | .property _ query negated => do
      pure (plain (.oneOf (← f.propertySet query negated)), f)
  | .perl _ kind negated => do
      pure (plain (.oneOf (← f.perlSet kind negated)), f)
  | .bracketed _ negated inner => do
      let s ← f.checkSet (f.foldAndNegate negated (← inner.set f))
      pure (plain (.oneOf s), f)
  | .repetition _ body least most greedy => do
      let (body, f) ← body.resolve f
      pure (resolveRepetition f least most greedy body, f)
  | .group _ changes body => do
      let (body, _) ← body.resolve (f.apply changes)
      pure (body, f)
  | .alternation _ branches => Ast.resolveBranches f branches
  | .concat _ items => Ast.resolveItems f items

/-- One part after the other. -/
def Ast.resolveItems (f : Flags) : List Ast → Except BuildError (Resolved × Flags)
  | [] => .ok (plain .empty, f)
  | [item] => item.resolve f
  | item :: items => do
      let (first, f) ← item.resolve f
      let (rest, f) ← Ast.resolveItems f items
      pure (⟨.seq first.regex rest.regex, first.wordBoundary || rest.wordBoundary⟩, f)

/-- One part or another. -/
def Ast.resolveBranches (f : Flags) : List Ast → Except BuildError (Resolved × Flags)
  | [] => .ok (plain .empty, f)
  | [branch] => branch.resolve f
  | branch :: branches => do
      let (first, f) ← branch.resolve f
      let (rest, f) ← Ast.resolveBranches f branches
      pure (⟨.alt first.regex rest.regex, first.wordBoundary || rest.wordBoundary⟩, f)
end

/-- The regular expression that a text denotes. -/
def build (source : List Char) : Except BuildError Regex :=
  match Ast.read source with
  | .error _ => .error .unresolved
  | .ok ast => do
      let (resolved, _) ← ast.resolve .initial
      if resolved.wordBoundary then .error .unicodeWordBoundary else .ok resolved.regex

end OperatorPeg.Regex
