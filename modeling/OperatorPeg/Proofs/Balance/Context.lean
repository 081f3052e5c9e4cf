import OperatorPeg.Engine.Parse

/-!
# Matching in one context

The matcher hands a `Frame` down, which ends with the match it is for. The same
matching can be done with everything in one context that each function changes and
puts back by itself: failures are quiet while a depth is positive, trivia and the
place where an expression looks on are flags, and rules are counted in and out. What
is set and not put back stays wrong for the rest of the parse.

This is matching in that form, function by function; that it comes to the same, and
that everything is put back, is proved in `OperatorPeg.Proofs.Balance`.
-/

namespace OperatorPeg

/-- All that a parse works with. -/
structure Context where
  rules : Rules
  /-- What follows the parsed range. -/
  beyond : List Char
  cursor : Cursor
  best : Option Failure.Best
  /-- What ended the parse, and where. -/
  fatal : Option (Nat × Abort)
  /-- Failures are not recorded while this is positive. -/
  quietDepth : Nat
  /-- Where the innermost expression looks for an operator to continue with. -/
  probeAt : Option Nat
  inTrivia : Bool
  fuel : Option Nat
  recursionDepth : Nat
  recursionLimit : Option Nat
  /-- What happened that is not a failure, latest first. -/
  trace : List Event

namespace Context

/-- The whole text, of which the parsed range may be a part. -/
def source (ctx : Context) : List Char :=
  ctx.cursor.passed.reverse ++ ctx.cursor.ahead ++ ctx.beyond

/-- The byte offset where the parsed range ends. -/
def stop (ctx : Context) : Nat := ctx.cursor.offset + Text.byteLength ctx.cursor.ahead

end Context

/-- A computation that changes the context. Like a matcher it may give out. -/
abbrev Engine := StateT Context Option

namespace Engine

variable {α : Type}

/-! ## The parts of the context -/

def setCursor (cursor : Cursor) : Engine Unit := modify fun ctx => { ctx with cursor }

def emit (event : Event) : Engine Unit :=
  modify fun ctx => { ctx with trace := event :: ctx.trace }

/-- End the parse. The first cause stands. -/
def abort (offset : Nat) (cause : Abort) : Engine Unit :=
  modify fun ctx => if ctx.fatal.isNone then { ctx with fatal := some (offset, cause) } else ctx

/-- Pay for trying a pattern, if that is still possible. -/
def consumeFuel : Engine Bool := do
  let ctx ← get
  if ctx.fatal.isSome then
    return false
  else
    match ctx.fuel with
    | none => return true
    | some 0 =>
        abort ctx.cursor.offset .fuelExhausted
        return false
    | some (n + 1) =>
        set { ctx with fuel := some n }
        return true

/-- Enter a rule, unless that would be too deep. -/
def enterRule : Engine Bool := do
  let ctx ← get
  if ctx.recursionLimit.any (· ≤ ctx.recursionDepth) then
    abort ctx.cursor.offset .recursionLimitExceeded
    return false
  else
    set { ctx with recursionDepth := ctx.recursionDepth + 1 }
    return true

def exitRule : Engine Unit :=
  modify fun ctx => { ctx with recursionDepth := ctx.recursionDepth - 1 }

/-- Do something without recording failures. -/
def quietly (act : Engine α) : Engine α := do
  modify fun ctx => { ctx with quietDepth := ctx.quietDepth + 1 }
  let result ← act
  modify fun ctx => { ctx with quietDepth := ctx.quietDepth - 1 }
  return result

/-- Exchange the place where an expression looks on. -/
def setProbe (probeAt : Option Nat) : Engine (Option Nat) :=
  modifyGet fun ctx => (ctx.probeAt, { ctx with probeAt })

def record (failure : Failure) : Engine Unit :=
  modify fun ctx =>
    if 0 < ctx.quietDepth then ctx else { ctx with best := Failure.Best.record ctx.best failure }

/-- A terminal was missed here. -/
def expectToken (offset : Nat) (description : String) : Engine Unit := do
  let ctx ← get
  let priority := if ctx.probeAt = some offset then Priority.probe else .token
  record ⟨offset, priority, .token description⟩

/-- An operand was missed here. -/
def expectTerm (offset : Nat) : Engine Unit := record ⟨offset, .term, .term⟩

/-! ## Matching

`m` matches what is inside the pattern. -/

variable (m : Pattern → Engine (Option Tree))

/-- Skip trivia at the cursor. Inside trivia there is none. -/
def skipTrivia : Engine Unit := do
  let ctx ← get
  if ctx.inTrivia then
    return
  else
    match ctx.rules.trivia? with
    | none => return
    | some trivia =>
        modify fun ctx => { ctx with inTrivia := true }
        let _ ← quietly (m trivia)
        modify fun ctx => { ctx with inTrivia := false }

/-- The first offset that is not trivia. The cursor stays. -/
def peekPastTrivia : Engine Nat := do
  let start := (← get).cursor
  skipTrivia m
  let significant := (← get).cursor.offset
  setCursor start
  return significant

/-- Inside trivia there is no trace of terminals. -/
def traceTerminal (t : Terminal) (matched : Option String) : Engine Unit := do
  let ctx ← get
  if ctx.inTrivia then
    return
  else
    emit (.tried t.description ctx.cursor.offset matched)

def tryTerminal (t : Terminal) : Engine (Option Tree) := do
  let ctx ← get
  let offset := ctx.cursor.offset
  match t.matchEnd? ctx.beyond ctx.cursor with
  | none =>
      traceTerminal t none
      expectToken offset t.description
      return none
  | some stop =>
      let text := String.ofList (ctx.cursor.textUpTo stop)
      traceTerminal t (some text)
      setCursor stop
      return some (.value offset text)

def trySteps (offset : Nat) : List Tree → List Step → Engine (Option Tree)
  | kept, [] => return some (.sequence offset kept.reverse)
  | kept, step :: steps => do
      match ← m step.pattern with
      | none => return none
      | some node => trySteps offset (if step.keep then node :: kept else kept) steps

def tryAlternatives (offset : Nat) : Nat → List Pattern → Engine (Option Tree)
  | _, [] => return none
  | index, p :: ps => do
      match ← m p with
      | some child => return some (.choice offset index child)
      | none =>
          if (← get).fatal.isSome then
            return none
          else
            emit (.backtracked index offset)
            tryAlternatives offset (index + 1) ps

/-- Rounds of a repetition, as many as `most` allows and as match. Without a bound a
round that consumes nothing ends the parse. -/
def tryRounds (inner : Engine (Option Tree)) (most : Option Nat) :
    Nat → List Tree → Engine (Option (List Tree))
  | 0, _ => failure
  | budget + 1, nodes => do
      if most.all (nodes.length < ·) then
        let before := (← get).cursor.offset
        match ← inner with
        | none => return some nodes
        | some node =>
            if most.isNone && (← get).cursor.offset == before then
              abort before .zeroLengthMatch
              return none
            else
              tryRounds inner most budget (node :: nodes)
      else
        return some nodes

/-- What a repetition comes to after its rounds; `none` if they ended the parse. -/
def endRounds (least offset : Nat) : Option (List Tree) → Engine (Option Tree)
  | none => return none
  | some nodes => do
      if (← get).fatal.isSome || nodes.length < least then
        return none
      else
        return some (.quantifier offset nodes.reverse)

def tryQuantifier (inner : Engine (Option Tree)) (least : Nat) (most : Option Nat) :
    Engine (Option Tree) := do
  let start := (← get).cursor
  let rounds ← tryRounds inner most (most.getD start.ahead.length + 1) []
  endRounds least start.offset rounds

def tryLookup (key : String) : Engine (Option Tree) := do
  let ctx ← get
  let offset := ctx.cursor.offset
  match ctx.rules.get? key with
  | none =>
      abort offset (.undefinedRule key)
      return none
  | some p =>
      if ← enterRule then
        emit (.entered key offset)
        let child ← m p
        exitRule
        let stop := (← get).cursor.offset
        emit (.left key (child.map fun _ => stop))
        return child.map (.lookup offset key)
      else
        return none

def tryLabel (name : String) (inner : Pattern) : Engine (Option Tree) := do
  let offset := (← get).cursor.offset
  let child ← m inner
  return child.map (.label offset name)

def tryLookahead (inner : Pattern) (wanted : Bool) : Engine (Option Tree) := do
  let start := (← get).cursor
  let probe ← quietly (m inner)
  setCursor start
  if (← get).fatal.isSome || probe.isSome != wanted then
    return none
  else
    return some (.lookahead start.offset probe)

/-! ### Expressions -/

/-- The first operator of the wanted kind whose pattern matches. -/
def tryOperator (wantOperand : Bool) : List Operator → Engine (Option (Operator × Tree))
  | [] => return none
  | op :: ops => do
      if op.fixity.takesLeft == wantOperand then
        tryOperator wantOperand ops
      else
        match ← m op.pattern with
        | some mid => return some (op, mid)
        | none => tryOperator wantOperand ops

/-- Complete the stacked operators that are evaluated before `next`. -/
def reduceBefore (next : Operator) : List Pending → Tree → Engine (List Pending × Tree)
  | [], operand => return ([], operand)
  | top :: stack, operand => do
      if top.operator.isEvaluatedBefore next then
        emit (.reduced top.operator.name)
        reduceBefore next stack (top.complete (some operand))
      else
        return (top :: stack, operand)

/-- No operator continues the expression: complete everything stacked. -/
def reduceAll : List Pending → Option Tree → Engine (Option Tree)
  | _, none => do
      let offset ← peekPastTrivia m
      expectTerm offset
      return none
  | [], some operand => return some operand
  | top :: stack, some operand => do
      emit (.reduced top.operator.name)
      reduceAll stack (some (top.complete (some operand)))

/-- The operand at hand goes to `op`, after the stacked operators that are evaluated
before it. -/
def giveOperand (op : Operator) (stack : List Pending) :
    Option Tree → Engine (List Pending × Option Tree)
  | none => return (stack, none)
  | some operand => do
      let (stack, operand) ← reduceBefore op stack operand
      return (stack, some operand)

/-- Where the operators of a round look for a continuation of the operand at hand. -/
def lookOn : Option Tree → Engine (Option Nat)
  | none => return none
  | some _ => some <$> peekPastTrivia m

/-- The rest of a round, after its operator match; `next` is the next round. -/
def goOn (next : List Pending → Option Tree → Option Nat → Engine (Option Tree))
    (stack : List Pending) (operand : Option Tree) (lastEmpty : Option Nat) (before : Nat) :
    Option (Operator × Tree) → Engine (Option Tree)
  | none => reduceAll m stack operand
  | some (op, mid) => do
      let empty := (← get).cursor.offset == before
      if empty && repeatsState op lastEmpty before then
        abort before .zeroLengthMatch
        return none
      else
        let lastEmpty := if empty then some before else none
        emit (.operator op.name mid.offset)
        let (stack, left) ← giveOperand op stack operand
        if op.fixity.takesRight then
          next (⟨op, mid, left⟩ :: stack) none lastEmpty
        else
          emit (.reduced op.name)
          next stack (some (Pending.complete ⟨op, mid, left⟩ none)) lastEmpty

/-- Match operators from here on. -/
def tryOperators (operators : List Operator) :
    Nat → List Pending → Option Tree → Option Nat → Engine (Option Tree)
  | 0, _, _, _ => failure
  | rounds + 1, stack, operand, lastEmpty => do
      let probe ← lookOn m operand
      let _ ← setProbe probe
      let before := (← get).cursor.offset
      let matched ← tryOperator m operand.isNone operators
      let _ ← setProbe none
      if (← get).fatal.isSome then
        return none
      else
        goOn m (tryOperators operators rounds) stack operand lastEmpty before matched

/-- Match one expression. A nested expression looks for its own continuation. -/
def tryTable (operators : List Operator) : Engine (Option Tree) := do
  let outer ← setProbe none
  let ahead := (← get).cursor.ahead
  let result ← tryOperators m operators (2 * ahead.length + 3) [] none none
  let _ ← setProbe outer
  return result

/-! ### Patterns -/

/-- Match what a pattern says. -/
def tryBody : Pattern → Engine (Option Tree)
  | .terminal t => tryTerminal t
  | .sequence steps => do trySteps m (← get).cursor.offset [] steps
  | .choice alternatives => do tryAlternatives m (← get).cursor.offset 0 alternatives
  | .quantifier inner least most => tryQuantifier (m inner) least most
  | .lookup key => tryLookup m key
  | .label name inner => tryLabel m name inner
  | .lookahead inner wanted => tryLookahead m inner wanted
  | .table operators => tryTable m operators

/-- Match a pattern at the cursor, with at most `layers` patterns inside one another. -/
def tryMatch : Nat → Pattern → Engine (Option Tree)
  | 0, _ => failure
  | layers + 1, p => do
      if ← consumeFuel then
        let start := (← get).cursor
        skipTrivia (tryMatch layers)
        let result ← tryBody (tryMatch layers) p
        if result.isNone || p.isLookahead then
          setCursor start
          return result
        else
          return result
      else
        return none

/-- What a parse makes of its start pattern. A match must reach the end of the range, which is
missed otherwise, at a place where no expression looks on. -/
def finish : Option Tree → Engine (Option Tree)
  | none => return none
  | some tree => do
      skipTrivia m
      let ctx ← get
      if ctx.fatal.isNone && ctx.cursor.ahead.isEmpty then
        return some tree
      else
        let _ ← setProbe none
        expectToken ctx.cursor.offset endOfInput
        return none

end Engine

end OperatorPeg
