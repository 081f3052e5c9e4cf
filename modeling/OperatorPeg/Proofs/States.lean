import OperatorPeg.Engine.State

/-!
# What the operations on states change

Events and failures are written down without moving the cursor, spending fuel or
ending the parse; only `abort` ends it, and the first cause stands.
-/

namespace OperatorPeg.State

variable (s : State)

@[simp] theorem cursor_add (e : Event) : (s.add e).cursor = s.cursor := rfl

@[simp] theorem fuel_add (e : Event) : (s.add e).fuel = s.fuel := rfl

@[simp] theorem aborted_add (e : Event) : (s.add e).aborted = s.aborted := rfl

@[simp] theorem isAborted_add (e : Event) : (s.add e).isAborted = s.isAborted := rfl

@[simp] theorem cursor_fail (frame : Frame) (f : Failure) : (s.fail frame f).cursor = s.cursor := by
  unfold fail
  split <;> rfl

@[simp] theorem fuel_fail (frame : Frame) (f : Failure) : (s.fail frame f).fuel = s.fuel := by
  unfold fail
  split <;> rfl

@[simp] theorem aborted_fail (frame : Frame) (f : Failure) :
    (s.fail frame f).aborted = s.aborted := by
  unfold fail
  split <;> rfl

@[simp] theorem cursor_missToken (frame : Frame) (o : Nat) (d : String) :
    (s.missToken frame o d).cursor = s.cursor := cursor_fail ..

@[simp] theorem fuel_missToken (frame : Frame) (o : Nat) (d : String) :
    (s.missToken frame o d).fuel = s.fuel := fuel_fail ..

@[simp] theorem aborted_missToken (frame : Frame) (o : Nat) (d : String) :
    (s.missToken frame o d).aborted = s.aborted := aborted_fail ..

@[simp] theorem cursor_missTerm (frame : Frame) (o : Nat) :
    (s.missTerm frame o).cursor = s.cursor := cursor_fail ..

@[simp] theorem fuel_missTerm (frame : Frame) (o : Nat) :
    (s.missTerm frame o).fuel = s.fuel := fuel_fail ..

@[simp] theorem aborted_missTerm (frame : Frame) (o : Nat) :
    (s.missTerm frame o).aborted = s.aborted := aborted_fail ..

@[simp] theorem cursor_abort (o : Nat) (cause : Abort) : (s.abort o cause).cursor = s.cursor := by
  unfold abort
  split <;> rfl

@[simp] theorem fuel_abort (o : Nat) (cause : Abort) : (s.abort o cause).fuel = s.fuel := by
  unfold abort
  split <;> rfl

@[simp] theorem events_abort (o : Nat) (cause : Abort) : (s.abort o cause).events = s.events := by
  unfold abort
  split <;> rfl

theorem aborted_abort (o : Nat) (cause : Abort) :
    (s.abort o cause).aborted = some (s.aborted.getD (o, cause)) := by
  unfold abort
  split <;> simp [*]

/-- A parse that is ended does not go on. -/
theorem aborted_abort_ne (o : Nat) (cause : Abort) : (s.abort o cause).aborted ≠ none := by
  simp [aborted_abort]

@[simp] theorem isAborted_abort (o : Nat) (cause : Abort) :
    (s.abort o cause).isAborted = true := by
  simp [isAborted, aborted_abort]

variable {s}

theorem isAborted_eq_false_iff : s.isAborted = false ↔ s.aborted = none := by
  simp [isAborted]

/-- Without a limit a pattern is paid for unless the parse has ended. -/
theorem charge_of_unlimited (h : s.fuel = none) : s.charge = (!s.isAborted, s) := by
  unfold charge
  cases ha : s.isAborted <;> simp [h]

theorem charge_of_running (hfuel : s.fuel = none) (hrunning : s.aborted = none) :
    s.charge = (true, s) := by
  rw [charge_of_unlimited hfuel, isAborted_eq_false_iff.mpr hrunning]
  rfl

end OperatorPeg.State
