import OperatorPeg.Engine.Parse
import OperatorPeg.Proofs.Cursors
import OperatorPeg.Proofs.Runs

/-!
# States further on

What a parse reads, writes and reports, moved behind a text that stands before all of
it: cursors have that text passed already, and every offset counts its bytes. Nothing
that a parse does to its state can tell.
-/

namespace OperatorPeg

/-! ## What is reported -/

namespace Tree

mutual
/-- The tree with `by'` added to every offset. -/
def shift (by' : Nat) : Tree → Tree
  | value o text => .value (o + by') text
  | sequence o children => .sequence (o + by') (shiftAll by' children)
  | choice o chosen child => .choice (o + by') chosen (child.shift by')
  | quantifier o children => .quantifier (o + by') (shiftAll by' children)
  | label o name child => .label (o + by') name (child.shift by')
  | lookup o key child => .lookup (o + by') key (child.shift by')
  | lookahead o child => .lookahead (o + by') (shiftSide by' child)
  | expression o operator left mid right =>
      .expression (o + by') operator (shiftSide by' left) (mid.shift by') (shiftSide by' right)

def shiftAll (by' : Nat) : List Tree → List Tree
  | [] => []
  | t :: ts => t.shift by' :: shiftAll by' ts

def shiftSide (by' : Nat) : Option Tree → Option Tree
  | none => none
  | some t => some (t.shift by')
end

variable (by' : Nat)

theorem shiftAll_eq_map (ts : List Tree) : shiftAll by' ts = ts.map (shift by') := by
  induction ts with
  | nil => rfl
  | cons t ts ih => rw [shiftAll, ih, List.map_cons]

theorem shiftSide_eq_map (side : Option Tree) : shiftSide by' side = side.map (shift by') := by
  cases side <;> rfl

@[simp] theorem offset_shift (t : Tree) : (t.shift by').offset = t.offset + by' := by
  cases t <;> rfl

end Tree

/-- The error with `by'` added to its offset. -/
def ParseError.shift (by' : Nat) : ParseError → ParseError
  | unexpectedToken o expected => .unexpectedToken (o + by') expected
  | expressionTerm o => .expressionTerm (o + by')
  | aborted o cause => .aborted (o + by') cause

def Failure.shift (by' : Nat) (f : Failure) : Failure := { f with offset := f.offset + by' }

/-- The event with `by'` added to its offsets. -/
def Event.shift (by' : Nat) : Event → Event
  | entered rule o => .entered rule (o + by')
  | left rule stop => .left rule (stop.map (· + by'))
  | tried description o matched => .tried description (o + by') matched
  | operator name o => .operator name (o + by')
  | reduced name => .reduced name
  | backtracked alternative o => .backtracked alternative (o + by')
  | failed f => .failed (f.shift by')

/-- The report with `by'` added to every offset, of the tree or of the error and of what
happened. -/
def Report.shift (by' : Nat) (r : Report) : Report where
  result := match r.result with
    | .ok tree => .ok (tree.shift by')
    | .error e => .error (e.shift by')
  events := r.events.map (Event.shift by')

/-! ## What a parse works on -/

/-- The cursor in a text that `before` is put before. -/
def Cursor.shift (before : List Char) (c : Cursor) : Cursor :=
  ⟨c.passed ++ before.reverse, c.ahead, c.offset + Text.byteLength before⟩

def Frame.shift (before : List Char) (frame : Frame) : Frame :=
  { frame with probe := frame.probe.map (· + Text.byteLength before) }

def State.shift (before : List Char) (s : State) : State where
  cursor := s.cursor.shift before
  fuel := s.fuel
  aborted := s.aborted.map fun (o, cause) => (o + Text.byteLength before, cause)
  events := s.events.map (Event.shift (Text.byteLength before))

def Outcome.shift (before : List Char) (o : Outcome) : Outcome :=
  ⟨o.tree?.map (Tree.shift (Text.byteLength before)), o.state.shift before⟩

variable (before : List Char)

/-! ### Cursors -/

namespace Cursor

variable (c : Cursor)

@[simp] theorem ahead_shift : (c.shift before).ahead = c.ahead := rfl

@[simp] theorem offset_shift : (c.shift before).offset = c.offset + Text.byteLength before := rfl

theorem beq_offset_shift (d : Cursor) :
    ((c.shift before).offset == (d.shift before).offset) = (c.offset == d.offset) := by
  rw [Bool.eq_iff_iff, beq_iff_eq, beq_iff_eq]
  exact Nat.add_right_cancel_iff

theorem step?_shift :
    (c.shift before).step? = c.step?.map fun (ch, next) => (ch, next.shift before) := by
  obtain ⟨passed, ahead, offset⟩ := c
  cases ahead with
  | nil => rfl
  | cons ch rest => simp [step?, shift, Nat.add_right_comm]

theorem after?_shift (text : List Char) :
    after? text (c.shift before) = (after? text c).map (shift before) := by
  induction text generalizing c with
  | nil => rfl
  | cons t text ih =>
      simp only [after?, step?_shift]
      rcases c.step? with _ | ⟨ch, next⟩
      · rfl
      · simp only [Option.map_some]
        split
        · exact ih next
        · rfl

theorem textUpTo_shift (stop : Cursor) :
    (c.shift before).textUpTo (stop.shift before) = c.textUpTo stop := by
  simp only [textUpTo, ahead_shift, offset_shift, Nat.add_sub_add_right]

end Cursor

/-! ### States -/

namespace State

variable {before} (s : State)

@[simp] theorem cursor_shift : (s.shift before).cursor = s.cursor.shift before := rfl

@[simp] theorem isAborted_shift : (s.shift before).isAborted = s.isAborted := by
  simp [isAborted, shift]

theorem abort_shift (o : Nat) (cause : Abort) :
    (s.shift before).abort (o + Text.byteLength before) cause
      = (s.abort o cause).shift before := by
  unfold abort
  cases h : s.aborted with
  | none => simp [shift, h]
  | some ended => simp [shift, h]

theorem charge_shift :
    (s.shift before).charge = (s.charge.1, s.charge.2.shift before) := by
  simp only [charge, isAborted_shift]
  cases s.isAborted with
  | true => rfl
  | false =>
      have hfuel : (s.shift before).fuel = s.fuel := rfl
      simp only [hfuel, Bool.false_eq_true, if_false]
      rcases s.fuel with _ | _ | n
      · rfl
      · simp [abort_shift]
      · rfl

variable (frame : Frame)

theorem fail_shift (f : Failure) :
    (s.shift before).fail (frame.shift before) (f.shift (Text.byteLength before))
      = (s.fail frame f).shift before := by
  have hquiet : (frame.shift before).quiet = frame.quiet := rfl
  simp only [fail, hquiet]
  split <;> rfl

theorem missToken_shift (o : Nat) (d : String) :
    (s.shift before).missToken (frame.shift before) (o + Text.byteLength before) d
      = (s.missToken frame o d).shift before := by
  have hprobe : (frame.shift before).probe = some (o + Text.byteLength before) ↔
      frame.probe = some o := by
    cases hp : frame.probe <;> simp [Frame.shift, hp]
  simp only [missToken, hprobe]
  exact s.fail_shift frame ⟨o, _, .token d⟩

theorem missTerm_shift (o : Nat) :
    (s.shift before).missTerm (frame.shift before) (o + Text.byteLength before)
      = (s.missTerm frame o).shift before := s.fail_shift frame ⟨o, .term, .term⟩

theorem tried_shift (t : Terminal) (matched : Option String) :
    (s.shift before).tried (frame.shift before) t matched
      = (s.tried frame t matched).shift before := by
  have hin : (frame.shift before).inTrivia = frame.inTrivia := rfl
  simp only [tried, hin]
  split <;> rfl

theorem textUpTo_shift (stop : Cursor) :
    (s.shift before).textUpTo (stop.shift before) = s.textUpTo stop :=
  congrArg String.ofList (s.cursor.textUpTo_shift before stop)

end State

/-! ### The reported failure -/

namespace Failure

variable (by' : Nat)

/-- The best failure and all terminals missed there, further on. -/
def Best.shift (b : Best) : Best := { b with failure := b.failure.shift by' }

theorem beq_offset_shift (f g : Failure) :
    ((f.shift by').offset == (g.shift by').offset) = (f.offset == g.offset) := by
  rw [Bool.eq_iff_iff]
  simp only [shift, beq_iff_eq, Nat.add_right_cancel_iff]

theorem improvesOn_shift (f g : Failure) :
    (f.shift by').improvesOn (g.shift by') = f.improvesOn g := by
  have hless : decide ((g.shift by').offset < (f.shift by').offset)
      = decide (g.offset < f.offset) := by simp only [shift, Nat.add_lt_add_iff_right]
  rw [improvesOn, beq_offset_shift, hless]
  rfl

theorem tiesWith_shift (f g : Failure) : (f.shift by').tiesWith (g.shift by') = f.tiesWith g := by
  rw [tiesWith, beq_offset_shift]
  rfl

theorem record_shift (best : Option Best) (f : Failure) :
    Best.record (best.map (Best.shift by')) (f.shift by')
      = (Best.record best f).map (Best.shift by') := by
  cases best with
  | none => rfl
  | some b =>
      have hfailure : (b.shift by').failure = b.failure.shift by' := rfl
      have hmissing : ∀ g : Failure, (g.shift by').missing = g.missing := fun _ => rfl
      have hexpected : (b.shift by').expected = b.expected := rfl
      simp only [Best.record, Option.map_some, hfailure, hexpected, improvesOn_shift,
        tiesWith_shift, hmissing]
      split
      · rfl
      split
      · split
        · split <;> rfl
        · rfl
      · rfl

theorem best_shift (failures : List Failure) :
    best (failures.map (shift by')) = (best failures).map (Best.shift by') := by
  have hfold (b : Option Best) :
      (failures.map (shift by')).foldl Best.record (b.map (Best.shift by'))
        = (failures.foldl Best.record b).map (Best.shift by') := by
    induction failures generalizing b with
    | nil => rfl
    | cons f failures ih => rw [List.map_cons, List.foldl_cons, record_shift, ih, List.foldl_cons]
  exact hfold none

theorem error_shift (b : Best) : (b.shift by').error = b.error.shift by' := by
  cases h : b.failure.missing <;> simp [Best.error, Best.shift, shift, h, ParseError.shift]

end Failure

theorem Event.failures_shift (by' : Nat) (events : List Event) :
    failures (events.map (Event.shift by')) = (failures events).map (Failure.shift by') := by
  induction events with
  | nil => rfl
  | cons e events ih =>
      simp only [failures, List.map_cons, List.filterMap_cons] at ih ⊢
      cases e <;> simp [Event.shift, ih]

theorem reportedError_shift (s : State) :
    reportedError (s.shift before) = (reportedError s).shift (Text.byteLength before) := by
  have haborted : (s.shift before).aborted =
      s.aborted.map fun (o, cause) => (o + Text.byteLength before, cause) := rfl
  have hevents : (s.shift before).events = s.events.map (Event.shift (Text.byteLength before)) :=
    rfl
  unfold reportedError
  rw [haborted]
  cases s.aborted with
  | some ended => rfl
  | none =>
      simp only [Option.map_none, hevents, ← List.map_reverse, Event.failures_shift,
        Failure.best_shift]
      cases Failure.best (Event.failures s.events.reverse) with
      | none => rfl
      | some b => exact Failure.error_shift _ b

theorem reject_shift (s : State) :
    reject (s.shift before) = (reject s).shift (Text.byteLength before) := by
  simp only [reject, Report.shift, reportedError_shift, List.map_reverse]
  rfl

end OperatorPeg
