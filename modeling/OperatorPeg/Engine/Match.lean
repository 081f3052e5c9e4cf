import OperatorPeg.Engine.Expression
import OperatorPeg.Regex.Ends

/-!
# Matching patterns

`matchPattern` matches a pattern at the cursor. Trivia before it is skipped first.
On success the cursor is after what was matched, otherwise it is where it was;
a lookahead leaves it there in any case.

One layer of matching is `matchOnce`, which takes the matcher for what is inside
the pattern as a parameter. `matchPattern` stacks as many layers as it is allowed
to, since rules may refer to themselves without end.
-/

namespace OperatorPeg

/-- Where a terminal's match ends. -/
def Terminal.matchEnd? (t : Terminal) (beyond : List Char) (c : Cursor) : Option Cursor :=
  match t with
  | .literal text => c.after? text.toList
  | .regex _ meaning => meaning.matchEnd? beyond c

/-- Match a terminal. -/
def matchTerminal (setting : Setting) (frame : Frame) (t : Terminal) (s : State) : Outcome :=
  let tried := fun (s : State) (matched : Option String) =>
    if frame.inTrivia then s else s.add (.tried t.description s.cursor.offset matched)
  match t.matchEnd? setting.beyond s.cursor with
  | none =>
      ⟨none, (tried s none).missToken frame s.cursor.offset t.description⟩
  | some stop =>
      let text := String.ofList (s.cursor.textUpTo stop)
      ⟨some (.value s.cursor.offset text), { tried s (some text) with cursor := stop }⟩

/-- Match the steps of a sequence; `kept` holds the nodes so far, latest first. -/
def matchSteps (m : Pattern → State → Option Outcome) (offset : Nat) :
    List Tree → List Step → State → Option Outcome
  | kept, [], s => some ⟨some (.sequence offset kept.reverse), s⟩
  | kept, step :: steps, s =>
      match m step.pattern s with
      | none => none
      | some ⟨none, s⟩ => some ⟨none, s⟩
      | some ⟨some node, s⟩ =>
          matchSteps m offset (if step.keep then node :: kept else kept) steps s

/-- Match the alternatives of a choice from number `index` on. -/
def matchAlternatives (m : Pattern → State → Option Outcome) (offset : Nat) :
    Nat → List Pattern → State → Option Outcome
  | _, [], s => some ⟨none, s⟩
  | index, p :: ps, s =>
      match m p s with
      | none => none
      | some ⟨some child, s⟩ => some ⟨some (.choice offset index child), s⟩
      | some ⟨none, s⟩ =>
          if s.isAborted then some ⟨none, s⟩
          else matchAlternatives m offset (index + 1) ps (s.add (.backtracked index offset))

/-- The rounds of a repetition: how many there were, their nodes, latest first, and
the state after. -/
structure Rounds where
  count : Nat
  nodes : List Tree
  state : State

/-- Up to `n` more rounds. -/
def matchUpTo (m : State → Option Outcome) : Nat → Rounds → Option Rounds
  | 0, r => some r
  | n + 1, r =>
      match m r.state with
      | none => none
      | some ⟨none, s⟩ => some { r with state := s }
      | some ⟨some node, s⟩ => matchUpTo m n ⟨r.count + 1, node :: r.nodes, s⟩

/-- As many rounds as match. A round that consumes nothing ends the parse, so the
characters ahead bound the rounds. -/
def matchWhile (m : State → Option Outcome) : List Char → Rounds → Option Rounds
  | budget, r =>
      match m r.state with
      | none => none
      | some ⟨none, s⟩ => some { r with state := s }
      | some ⟨some node, s⟩ =>
          if s.cursor.offset == r.state.cursor.offset then
            some { r with state := s.abort s.cursor.offset .zeroLengthMatch }
          else
            match budget with
            | [] => none
            | _ :: budget => matchWhile m budget ⟨r.count + 1, node :: r.nodes, s⟩

/-- Match a repetition. -/
def matchQuantifier (m : State → Option Outcome) (least : Nat) (most : Option Nat) (s : State) :
    Option Outcome :=
  let offset := s.cursor.offset
  let rounds := match most with
    | some n => matchUpTo m n ⟨0, [], s⟩
    | none => matchWhile m s.cursor.ahead ⟨0, [], s⟩
  match rounds with
  | none => none
  | some r =>
      if r.state.isAborted || r.count < least then some ⟨none, r.state⟩
      else some ⟨some (.quantifier offset r.nodes.reverse), r.state⟩

/-- Match the rule of this name. -/
def matchLookup (m : Matcher) (setting : Setting) (frame : Frame) (key : String) (s : State) :
    Option Outcome :=
  let offset := s.cursor.offset
  match setting.rules.get? key with
  | none => some ⟨none, s.abort offset (.undefinedRule key)⟩
  | some p =>
      if setting.depthLimit.any (· ≤ frame.depth) then
        some ⟨none, s.abort offset .recursionLimitExceeded⟩
      else
        match m { frame with depth := frame.depth + 1 } p (s.add (.entered key offset)) with
        | none => none
        | some ⟨none, s⟩ => some ⟨none, s.add (.left key none)⟩
        | some ⟨some child, s⟩ =>
            some ⟨some (.lookup offset key child), s.add (.left key (some s.cursor.offset))⟩

/-- Match a lookahead: the inner pattern is tried without recording failures. -/
def matchLookahead (m : Matcher) (frame : Frame) (inner : Pattern) (wanted : Bool) (s : State) :
    Option Outcome :=
  match m { frame with quiet := true } inner s with
  | none => none
  | some ⟨seen, after⟩ =>
      let after := { after with cursor := s.cursor }
      if after.isAborted || seen.isSome != wanted then some ⟨none, after⟩
      else some ⟨some (.lookahead s.cursor.offset seen), after⟩

/-- Skip trivia at the cursor. Inside trivia there is none. -/
def skipTrivia (m : Matcher) (setting : Setting) (frame : Frame) (s : State) : Option State :=
  if frame.inTrivia then some s
  else
    match setting.rules.trivia? with
    | none => some s
    | some trivia =>
        (m { frame with inTrivia := true, quiet := true } trivia s).map (·.state)

/-- The first offset that is not trivia. The cursor stays. -/
def peekPastTrivia (m : Matcher) (setting : Setting) (frame : Frame) (s : State) :
    Option (Nat × State) :=
  (skipTrivia m setting frame s).map fun after =>
    (after.cursor.offset, { after with cursor := s.cursor })

/-- Match what a pattern says, after trivia. -/
def matchBody (m : Matcher) (setting : Setting) (frame : Frame) (p : Pattern) (s : State) :
    Option Outcome :=
  match p with
  | .terminal t => some (matchTerminal setting frame t s)
  | .sequence steps => matchSteps (m frame) s.cursor.offset [] steps s
  | .choice alternatives => matchAlternatives (m frame) s.cursor.offset 0 alternatives s
  | .quantifier inner least most => matchQuantifier (m frame inner) least most s
  | .lookup key => matchLookup m setting frame key s
  | .label name inner =>
      (m frame inner s).map fun o =>
        { o with tree? := o.tree?.map (.label s.cursor.offset name) }
  | .lookahead inner wanted => matchLookahead m frame inner wanted s
  | .table operators =>
      matchExpression ⟨m, peekPastTrivia m setting frame, frame, operators⟩ s

/-- One layer of matching: pay, skip trivia, match, and go back on failure. -/
def matchOnce (m : Matcher) (setting : Setting) : Matcher := fun frame p s =>
  match s.charge with
  | (false, s) => some ⟨none, s⟩
  | (true, charged) =>
      match skipTrivia m setting frame charged with
      | none => none
      | some ready =>
          match matchBody m setting frame p ready with
          | none => none
          | some o =>
              if o.tree?.isNone || p.isLookahead then
                some { o with state := { o.state with cursor := s.cursor } }
              else some o

/-- Match a pattern, with at most `layers` patterns inside one another. -/
def matchPattern (setting : Setting) : Nat → Matcher
  | 0 => fun _ _ _ => none
  | layers + 1 => fun frame p s => matchOnce (matchPattern setting layers) setting frame p s

end OperatorPeg
