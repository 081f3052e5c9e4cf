import OperatorPeg.Proofs.Balance.Context
import OperatorPeg.Proofs.States

/-!
# Contexts that take a state in

A context takes a state in (`Context.load`) when it gets the state's cursor, fuel, end
and events and keeps the rest. What a step of matching makes of a loaded context is
again a loaded context: the state is what the matcher makes of its state, and what is
set on the way is put back.
-/

namespace OperatorPeg

/-- Whether a failure is written down. -/
def Event.isFailure : Event → Bool
  | .failed _ => true
  | .entered .. | .left .. | .tried .. | .operator .. | .reduced _ | .backtracked .. => false

namespace Context

/-- The context with a state taken in. The failures of the state need not count: in a
quiet context none are recorded. -/
def load (ctx : Context) (counts : Bool) (s : State) : Context :=
  { ctx with
    cursor := s.cursor
    fuel := s.fuel
    fatal := s.aborted
    best :=
      if counts then
        (Event.failures s.events).foldr (fun f best => Failure.Best.record best f) ctx.best
      else ctx.best
    trace := s.events.filter (!·.isFailure) ++ ctx.trace }

/-- What is taken in, read back. -/
def state (ctx : Context) : State := ⟨ctx.cursor, ctx.fuel, ctx.fatal, []⟩

@[simp] theorem load_state (ctx : Context) (counts : Bool) : ctx.load counts ctx.state = ctx := by
  cases counts <;> rfl

/-- The context while an expression looks on there. -/
def withProbe (ctx : Context) (probeAt : Option Nat) : Context := { ctx with probeAt }

@[simp] theorem withProbe_withProbe (ctx : Context) (first second : Option Nat) :
    (ctx.withProbe first).withProbe second = ctx.withProbe second := rfl

@[simp] theorem withProbe_probeAt (ctx : Context) : ctx.withProbe ctx.probeAt = ctx := rfl

/-- The context while something is done quietly. -/
def quieter (ctx : Context) : Context := { ctx with quietDepth := ctx.quietDepth + 1 }

/-- The context in a rule that is entered. -/
def deeper (ctx : Context) : Context := { ctx with recursionDepth := ctx.recursionDepth + 1 }

/-- What does not change during a parse. -/
def setting (ctx : Context) : Setting := ⟨ctx.rules, ctx.beyond, ctx.recursionLimit⟩

/-- The frame of a match that begins in this context. -/
def frame (ctx : Context) : Frame :=
  ⟨ctx.inTrivia, decide (0 < ctx.quietDepth), ctx.recursionDepth, ctx.probeAt⟩

/-- What a context says about the frame of a match, up to where an expression looks on. -/
structure Suits (ctx : Context) (counts : Bool) (setting : Setting) (frame : Frame) : Prop where
  setting : setting = ctx.setting
  inTrivia : frame.inTrivia = ctx.inTrivia
  quiet : frame.quiet = decide (0 < ctx.quietDepth)
  depth : frame.depth = ctx.recursionDepth
  counts : counts = false → 0 < ctx.quietDepth

/-- The context and the frame say the same. Where an expression looks on only matters
where failures are recorded. -/
structure Fits (ctx : Context) (counts : Bool) (setting : Setting) (frame : Frame) : Prop
    extends ctx.Suits counts setting frame where
  probe : frame.quiet = true ∨ frame.probe = ctx.probeAt

variable {ctx : Context} {counts : Bool} {setting : Setting} {frame : Frame} {s : State}

theorem fits_frame (ctx : Context) (h : counts = false → 0 < ctx.quietDepth) :
    ctx.Fits counts ctx.setting ctx.frame := ⟨⟨rfl, rfl, rfl, rfl, h⟩, .inr rfl⟩

/-- What suits says nothing about where an expression looks on. -/
theorem Suits.elsewhere (h : ctx.Suits counts setting frame) (here there : Option Nat) :
    (ctx.withProbe here).Suits counts setting { frame with probe := there } :=
  ⟨h.setting, h.inTrivia, h.quiet, h.depth, h.counts⟩

theorem Suits.probing (h : ctx.Suits counts setting frame) (probe : Option Nat) :
    (ctx.withProbe probe).Fits counts setting { frame with probe } :=
  ⟨h.elsewhere probe probe, .inr rfl⟩

theorem Suits.quietly (h : ctx.Suits counts setting frame) :
    ctx.quieter.Fits counts setting { frame with quiet := true } :=
  ⟨⟨h.setting, h.inTrivia, by simp [quieter], h.depth, fun _ => Nat.succ_pos _⟩, .inl rfl⟩

theorem Suits.trivia (h : ctx.Suits counts setting frame) :
    ({ ctx with inTrivia := true } : Context).quieter.Fits counts setting
      { frame with inTrivia := true, quiet := true } :=
  ⟨⟨h.setting, rfl, by simp [quieter], h.depth, fun _ => Nat.succ_pos _⟩, .inl rfl⟩

theorem Fits.deeper (h : ctx.Fits counts setting frame) :
    ctx.deeper.Fits counts setting { frame with depth := frame.depth + 1 } :=
  ⟨⟨h.setting, h.inTrivia, h.quiet, congrArg (· + 1) h.depth, h.counts⟩, h.probe⟩

theorem Suits.rules_load (h : ctx.Suits counts setting frame) (s : State) :
    setting.rules = (ctx.load counts s).rules := congrArg Setting.rules h.setting

theorem Suits.beyond_load (h : ctx.Suits counts setting frame) (s : State) :
    setting.beyond = (ctx.load counts s).beyond := congrArg Setting.beyond h.setting

/-- The result of a match and the context with the state after. -/
def resume (ctx : Context) (counts : Bool) (r : Option Outcome) : Option (Option Tree × Context) :=
  r.map fun o => (o.tree?, ctx.load counts o.state)

@[simp] theorem resume_none (ctx : Context) (counts : Bool) : ctx.resume counts none = none := rfl

@[simp] theorem resume_some (ctx : Context) (counts : Bool) (o : Outcome) :
    ctx.resume counts (some o) = some (o.tree?, ctx.load counts o.state) := rfl

end Context

namespace Engine

variable {α β : Type} {ctx : Context} {counts : Bool} {setting : Setting} {frame : Frame}
  {s : State}

/-! ## One step after the other -/

@[simp] theorem bind_apply (x : Engine α) (f : α → Engine β) (ctx : Context) :
    (x >>= f) ctx = (x ctx).bind fun r => f r.1 r.2 := rfl

@[simp] theorem pure_apply (a : α) (ctx : Context) :
    (pure a : Engine α) ctx = some (a, ctx) := rfl

@[simp] theorem map_apply (f : α → β) (x : Engine α) (ctx : Context) :
    (f <$> x) ctx = (x ctx).map fun r => (f r.1, r.2) := by
  show (x ctx).bind _ = _
  cases x ctx <;> rfl

@[simp] theorem failure_apply (ctx : Context) : (failure : Engine α) ctx = none := rfl

@[simp] theorem get_apply (ctx : Context) : (get : Engine Context) ctx = some (ctx, ctx) := rfl

@[simp] theorem set_apply (new ctx : Context) :
    (set new : Engine PUnit) ctx = some (⟨⟩, new) := rfl

@[simp] theorem modify_apply (f : Context → Context) (ctx : Context) :
    (modify f : Engine PUnit) ctx = some (⟨⟩, f ctx) := rfl

@[simp] theorem ite_apply {c : Prop} [Decidable c] (x y : Engine α) (ctx : Context) :
    (if c then x else y) ctx = if c then x ctx else y ctx := by
  split <;> rfl

/-! ## The parts of a loaded context -/

section Parts

variable (ctx counts s)

@[simp] theorem cursor_load : (ctx.load counts s).cursor = s.cursor := rfl

@[simp] theorem isSome_fatal_load : (ctx.load counts s).fatal.isSome = s.isAborted := by
  rw [State.isAborted, Context.load]

@[simp] theorem fuel_load : (ctx.load counts s).fuel = s.fuel := rfl

@[simp] theorem setCursor_load (cursor : Cursor) :
    setCursor cursor (ctx.load counts s) = some ((), ctx.load counts { s with cursor }) := rfl

@[simp] theorem setProbe_load (probe : Option Nat) :
    setProbe probe (ctx.load counts s) =
      some (ctx.probeAt, (ctx.withProbe probe).load counts s) := rfl

@[simp] theorem abort_load (offset : Nat) (cause : Abort) :
    abort offset cause (ctx.load counts s) =
      some ((), ctx.load counts (s.abort offset cause)) := by
  unfold abort State.abort
  rw [modify_apply]
  cases h : s.aborted <;> simp [Context.load, h]

theorem emit_load (e : Event) (he : e.isFailure = false) :
    emit e (ctx.load counts s) = some ((), ctx.load counts (s.add e)) := by
  cases e with
  | failed => cases he
  | _ => rfl

theorem consumeFuel_load :
    consumeFuel (ctx.load counts s) = some (s.charge.1, ctx.load counts s.charge.2) := by
  unfold consumeFuel State.charge
  cases ha : s.isAborted with
  | true => simp [ha]
  | false =>
      rcases hf : s.fuel with _ | _ | n
      · simp [ha, hf]
      · simp [ha, hf]
      · simp [ha, hf]
        rfl

end Parts

theorem record_load (h : ctx.Suits counts setting frame) (f : Failure) :
    record f (ctx.load counts s) = some ((), ctx.load counts (s.fail frame f)) := by
  unfold record State.fail
  rw [modify_apply, h.quiet]
  by_cases hq : 0 < ctx.quietDepth
  · simp [Context.load, hq]
  · cases counts with
    | true => simp [Context.load, hq, State.add, Event.failures, Event.isFailure]
    | false => exact absurd (h.counts rfl) hq

theorem expectToken_load (h : ctx.Fits counts setting frame) (offset : Nat)
    (description : String) :
    expectToken offset description (ctx.load counts s) =
      some ((), ctx.load counts (s.missToken frame offset description)) := by
  show record _ (ctx.load counts s) = _
  rw [record_load h.toSuits]
  rcases h.probe with hquiet | hprobe
  · simp [State.missToken, State.fail, hquiet]
  · rw [State.missToken, hprobe]
    rfl

theorem expectTerm_load (h : ctx.Suits counts setting frame) (offset : Nat) :
    expectTerm offset (ctx.load counts s) =
      some ((), ctx.load counts (s.missTerm frame offset)) := record_load h _

theorem enterRule_load (h : ctx.Suits counts setting frame) :
    enterRule (ctx.load counts s) =
      if setting.depthLimit.any (· ≤ frame.depth) then
        some (false, ctx.load counts (s.abort s.cursor.offset .recursionLimitExceeded))
      else
        some (true, ctx.deeper.load counts s) := by
  rw [h.setting, h.depth]
  unfold enterRule
  rw [bind_apply, get_apply, Option.bind_some, ite_apply, bind_apply, abort_load]
  rfl

/-- What was entered is left. -/
theorem exitRule_load :
    exitRule (ctx.deeper.load counts s) = some ((), ctx.load counts s) := rfl

/-- What is done quietly is done in a context one deeper, and the depth goes back. -/
theorem quietly_load (ctx : Context) {act : Engine (Option Tree)} {r : Option Outcome}
    (h : act (ctx.quieter.load counts s) = ctx.quieter.resume counts r) :
    quietly act (ctx.load counts s) = ctx.resume counts r := by
  show (act (ctx.quieter.load counts s)).bind _ = _
  rw [h]
  cases r <;> rfl

end Engine

end OperatorPeg
