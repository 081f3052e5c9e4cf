import OperatorPeg.Proofs.ParseRuns

/-!
# Logs of a parse

A parse passes through more states than it leaves a trace of. What happens in it are its
moments: a pattern is about to be tried and cannot be paid for, or the trivia before it is
skipped and the pattern itself comes, until it has come to something and the cursor goes back;
a round consumes nothing, a rule is not there or may not be entered, an operand or the end of
the range is missed.

A log goes through the moments in their order and notes of each what it is about, also in a
parse that is cut short because more patterns would be inside one another than is allowed.
Its lists follow the loops of the matcher, whose results decide how they go on. Three logs are
kept: of the moments themselves, of the patterns that are attempted and of what ends the
parse.

With each moment goes what the innermost expression is doing that is being matched then.
That is kept track of on its own, next to the frame: an expression that begins is the
innermost one from then on, and when it is over the one around it goes on doing what it
did.
-/

namespace OperatorPeg

/-- What the innermost expression does that is being matched. -/
inductive Situation where
  /-- No expression is being matched. -/
  | outside
  /-- It looks for an operand, or it does not try its operators. -/
  | within
  /-- It tries the operators that would continue it, having begun to look for them at this
  offset, the first that is not trivia. -/
  | continuing (place : Nat)
  deriving DecidableEq, Repr

namespace Situation

/-- Where operators are looked for that continue the expression. -/
def place? : Situation → Option Nat
  | continuing place => some place
  | outside | within => none

/-- An expression tries the operators of a round: if they continue it, from the offset that
looking past trivia gave. -/
def trying : Option Nat → Situation
  | none => within
  | some place => continuing place

@[simp] theorem place?_trying (place : Option Nat) : (trying place).place? = place := by
  cases place <;> rfl

theorem place?_eq_some_iff {situation : Situation} {place : Nat} :
    situation.place? = some place ↔ situation = continuing place := by
  cases situation <;> simp [place?]

/-- Where failures are recorded, the frame says just what the situation is. -/
def Suits (situation : Situation) (frame : Frame) : Prop :=
  frame.quiet = true ∨ frame.probe = situation.place?

end Situation

/-- What happens in a parse. -/
inductive Happening where
  /-- A pattern is about to be tried. -/
  | tries (pattern : Pattern) (s : State)
  /-- It cannot be paid for, for want of fuel or because the parse has ended. -/
  | unpaid (s : State)
  /-- The trivia before a pattern is skipped. -/
  | faces (pattern : Pattern) (s : State)
  /-- What a pattern has come to, with the cursor where it has got to. -/
  | comesTo (pattern : Pattern) (o : Outcome)
  /-- A round that might go on like this for ever consumed nothing, at this offset. -/
  | stuck (offset : Nat)
  /-- A rule is referred to that is not there. -/
  | lacksRule (name : String) (offset : Nat)
  /-- A rule may not be entered, because it would be nested too deep. -/
  | tooDeep (offset : Nat)
  /-- An operand is missed at this offset. -/
  | lacksOperand (offset : Nat)
  /-- The end of the range is missed. -/
  | lacksEnd (s : State)

structure Moment where
  situation : Situation
  frame : Frame
  happening : Happening

/-- What is noted in matching a pattern. -/
abbrev Log (α : Type) := Situation → Frame → Pattern → State → List α

/-! ## Loops -/

section Loops

variable {α : Type} (m : Pattern → State → Option Outcome) (w : Pattern → State → List α)

def stepsLog : List Step → State → List α
  | [], _ => []
  | step :: steps, s =>
      w step.pattern s ++
        match m step.pattern s with
        | some ⟨some _, s⟩ => stepsLog steps s
        | _ => []

def alternativesLog (offset : Nat) : Nat → List Pattern → State → List α
  | _, [], _ => []
  | index, p :: ps, s =>
      w p s ++
        match m p s with
        | some ⟨none, s⟩ =>
            if s.isAborted then []
            else alternativesLog offset (index + 1) ps (s.add (.backtracked index offset))
        | _ => []

def operatorsLog (wantOperand : Bool) : List Operator → State → List α
  | [], _ => []
  | op :: ops, s =>
      if op.fixity.takesLeft == wantOperand then operatorsLog wantOperand ops s
      else
        w op.pattern s ++
          match m op.pattern s with
          | some ⟨none, s⟩ => operatorsLog wantOperand ops s
          | _ => []

end Loops

section Rounds

variable {α : Type} (m : State → Option Outcome) (w : State → List α) (stuck : Nat → List α)

def upToLog : Nat → State → List α
  | 0, _ => []
  | n + 1, s =>
      w s ++
        match m s with
        | some ⟨some _, s⟩ => upToLog n s
        | _ => []

/-- `stuck` is for a round that consumes nothing. -/
def whileLog : List Char → State → List α
  | budget, s =>
      w s ++
        match m s with
        | some ⟨some _, after⟩ =>
            if after.cursor.offset == s.cursor.offset then stuck after.cursor.offset
            else
              match budget with
              | [] => []
              | _ :: budget => whileLog budget after
        | _ => []

def roundsLog (most : Option Nat) (s : State) : List α :=
  match most with
  | some n => upToLog m w n s
  | none => whileLog m w stuck s.cursor.ahead s

end Rounds

section

variable {α : Type} (note : Moment → List α)

section Expressions

variable (c : Climbing) (w : Log α) (peek : State → List α)

/-- What is noted in the operator match of a round. `peek` is for the lookout past trivia. -/
def findsLog (operand : Option Tree) (s : State) : List α :=
  (if operand.isNone then [] else peek s) ++
    match c.probe operand s with
    | none => []
    | some (place, before) =>
        operatorsLog (c.matcher { c.frame with probe := place })
          (w (.trying place) { c.frame with probe := place }) operand.isNone c.operators before

/-- What is noted after the last operator match: without an operand one is missed. -/
def finishLog (operand : Option Tree) (s : State) : List α :=
  match operand with
  | some _ => []
  | none =>
      peek s ++
        match c.peek s with
        | none => []
        | some (offset, _) => note ⟨.within, c.frame, .lacksOperand offset⟩

def climbLog : Nat → List Pending → Option Tree → Option Nat → State → List α
  | 0, _, _, _, _ => []
  | rounds + 1, stack, operand, lastEmpty, s =>
      findsLog c w peek operand s ++
        match c.find operand s with
        | none => []
        | some (before, found, after) =>
            if after.isAborted then []
            else
              match found with
              | none => finishLog note c peek operand after
              | some (op, mid) =>
                  if after.cursor.offset == before.cursor.offset &&
                      repeatsState op lastEmpty before.cursor.offset then
                    note ⟨.within, c.frame, .stuck before.cursor.offset⟩
                  else
                    let ((rest, left), s') :=
                      takeOperand op stack operand (after.add (.operator op.name mid.offset))
                    if op.fixity.takesRight then
                      climbLog rounds (⟨op, mid, left⟩ :: rest) none (emptyAt before after) s'
                    else
                      climbLog rounds rest (some (Pending.complete ⟨op, mid, left⟩ none))
                        (emptyAt before after) (s'.add (.reduced op.name))

end Expressions

/-! ## Layers -/

section Layers

variable (m : Matcher) (w : Log α) (setting : Setting)

def skipLog (situation : Situation) (frame : Frame) (s : State) : List α :=
  if frame.inTrivia then []
  else
    match setting.rules.trivia? with
    | none => []
    | some trivia => w situation { frame with inTrivia := true, quiet := true } trivia s

def lookupLog (situation : Situation) (frame : Frame) (key : String) (s : State) : List α :=
  match setting.rules.get? key with
  | none => note ⟨situation, frame, .lacksRule key s.cursor.offset⟩
  | some p =>
      if setting.depthLimit.any (· ≤ frame.depth) then
        note ⟨situation, frame, .tooDeep s.cursor.offset⟩
      else
        w situation { frame with depth := frame.depth + 1 } p
          (s.add (.entered key s.cursor.offset))

/-- An expression is a new innermost one; everything else leaves the situation as it is. -/
def bodyLog (situation : Situation) (frame : Frame) (p : Pattern) (s : State) : List α :=
  match p with
  | .terminal _ => []
  | .sequence steps => stepsLog (m frame) (w situation frame) steps s
  | .choice alternatives =>
      alternativesLog (m frame) (w situation frame) s.cursor.offset 0 alternatives s
  | .quantifier inner _ most =>
      roundsLog (m frame inner) (w situation frame inner)
        (fun offset => note ⟨situation, frame, .stuck offset⟩) most s
  | .lookup key => lookupLog note w setting situation frame key s
  | .label _ inner => w situation frame inner s
  | .lookahead inner _ => w situation { frame with quiet := true } inner s
  | .table operators =>
      climbLog note
        ⟨m, peekPastTrivia m setting frame, { frame with probe := none }, operators⟩ w
        (skipLog w setting .within frame) (2 * s.cursor.ahead.length + 3) [] none none s

/-- A pattern is tried, faced behind trivia and comes to something. -/
def layerLog : Log α := fun situation frame p s =>
  note ⟨situation, frame, .tries p s⟩ ++
    match s.charge with
    | (false, _) => note ⟨situation, frame, .unpaid s⟩
    | (true, charged) =>
        skipLog w setting situation frame charged ++
          match skipTrivia m setting frame charged with
          | none => []
          | some ready =>
              note ⟨situation, frame, .faces p ready⟩ ++
                (bodyLog note m w setting situation frame p ready ++
                  match matchBody m setting frame p ready with
                  | none => []
                  | some o => note ⟨situation, frame, .comesTo p o⟩)

end Layers

/-- What is noted in `matchPattern`. -/
def logOf (setting : Setting) : Nat → Log α
  | 0 => fun _ _ _ _ => []
  | layers + 1 => layerLog note (matchPattern setting layers) (logOf setting layers) setting

/-! ## Parses -/

/-- After a match trivia is skipped, and the end of the range is missed unless it is there. -/
def concludeLog (m : Matcher) (w : Log α) (setting : Setting) (o : Outcome) : List α :=
  match o.tree? with
  | none => []
  | some _ =>
      skipLog w setting .outside .outermost o.state ++
        match skipTrivia m setting .outermost o.state with
        | none => []
        | some s =>
            if !s.isAborted && s.cursor.ahead.isEmpty then []
            else note ⟨.outside, .outermost, .lacksEnd s⟩

/-- Where nothing is noted at the end of the range, the trivia after the match comes last. -/
theorem concludeLog_of_silent (hend : ∀ s, note ⟨.outside, .outermost, .lacksEnd s⟩ = [])
    (m : Matcher) (w : Log α) (setting : Setting) (o : Outcome) :
    concludeLog note m w setting o =
      match o.tree? with
      | none => []
      | some _ => skipLog w setting .outside .outermost o.state := by
  unfold concludeLog
  cases o.tree? with
  | none => rfl
  | some tree =>
      cases skipTrivia m setting .outermost o.state with
      | none => exact List.append_nil _
      | some s => simp only [hend, ite_self, List.append_nil]

/-- What is noted in a parse of a window. -/
def windowLog (layers : Nat) (rules : Rules) (limits : Limits) (start : Start)
    (window : Window) : List α :=
  let setting : Setting := ⟨rules, window.beyond, limits.depth⟩
  let s := start.enter (State.start window.start limits.fuel)
  match start.pattern? rules with
  | none =>
      match start with
      | .rule name => note ⟨.outside, .outermost, .lacksRule name s.cursor.offset⟩
      | .pattern _ => []
  | some p =>
      logOf note setting layers .outside .outermost p s ++
        match matchPattern setting layers .outermost p s with
        | none => []
        | some o =>
            concludeLog note (matchPattern setting layers) (logOf note setting layers) setting
              (start.leave o)

/-- A rule that is not there is all that is noted in a parse from it. -/
theorem windowLog_of_undefined {rules : Rules} {start : Start}
    (hp : start.pattern? rules = none) (layers : Nat) (limits : Limits) (window : Window) :
    ∃ name, windowLog note layers rules limits start window
      = note ⟨.outside, .outermost, .lacksRule name window.start.offset⟩ := by
  cases start with
  | pattern => cases hp
  | rule name =>
      refine ⟨name, ?_⟩
      simp only [windowLog, hp]
      rfl

/-- What is noted in a parse of the bytes from `first` to `last`. -/
def parseLog (layers : Nat) (rules : Rules) (limits : Limits) (start : Start)
    (source : String) (first last : Nat) : List α :=
  windowLog note layers rules limits start (.ofRange source.toList first last)

end

/-! ## Moments -/

/-- The moments in `matchPattern`. -/
abbrev moments (setting : Setting) (layers : Nat) : Log Moment := logOf ([·]) setting layers

/-- The moments of a parse of the bytes from `first` to `last`. -/
abbrev parseMoments (layers : Nat) (rules : Rules) (limits : Limits) (start : Start)
    (source : String) (first last : Nat) : List Moment :=
  parseLog ([·]) layers rules limits start source first last

/-! ## Attempts

A parse attempts one pattern after another, up to what ends it: the start pattern, what is
inside it, trivia before each, the trivia in which an expression looks for its continuation
and the trivia at the end. The list of the attempts is as long as the parse is expensive, and
its greatest number is how deep the parse gets.
-/

/-- The number of rules that are entered around an attempt. -/
def Moment.attempts (moment : Moment) : List Nat :=
  match moment.happening with
  | .tries _ s => if s.isAborted then [] else [moment.frame.depth]
  | _ => []

/-- The attempts of a parse of the bytes from `first` to `last`. -/
def parseAttempts (layers : Nat) (rules : Rules) (limits : Limits) (start : Start)
    (source : String) (first last : Nat) : List Nat :=
  parseLog Moment.attempts layers rules limits start source first last

/-- How many patterns a parse pays for when nothing limits what it may pay. -/
def chargesOf (layers : Nat) (rules : Rules) (depth : Option Nat) (start : Start)
    (source : String) (first last : Nat) : Nat :=
  (parseAttempts layers rules ⟨none, depth⟩ start source first last).length

/-- How deep rules are nested in a parse when nothing limits how deep they may. -/
def nestingOf (layers : Nat) (rules : Rules) (fuel : Option Nat) (start : Start)
    (source : String) (first last : Nat) : Nat :=
  (parseAttempts layers rules ⟨fuel, none⟩ start source first last).foldr max 0

/-! ## What ends a parse

Every cause that a parse meets to end is listed in the order in which it is met, with its
offset: also within a lookahead, a repetition or an alternative that goes on without what it
tried, in trivia and in the lookout of an expression, and also when an earlier cause has ended
the parse already.
-/

/-- A pattern that cannot be paid for is a cause of its own, unless the parse has ended
before. -/
def Moment.aborts (moment : Moment) : List (Nat × Abort) :=
  match moment.happening with
  | .unpaid s => if s.isAborted then [] else [(s.cursor.offset, .fuelExhausted)]
  | .stuck offset => [(offset, .zeroLengthMatch)]
  | .lacksRule name offset => [(offset, .undefinedRule name)]
  | .tooDeep offset => [(offset, .recursionLimitExceeded)]
  | _ => []

/-- What a parse of the bytes from `first` to `last` meets that ends it. -/
def parseAborts (layers : Nat) (rules : Rules) (limits : Limits) (start : Start)
    (source : String) (first last : Nat) : List (Nat × Abort) :=
  parseLog Moment.aborts layers rules limits start source first last

end OperatorPeg
