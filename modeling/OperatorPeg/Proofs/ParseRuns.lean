import OperatorPeg.Engine.Parse
import OperatorPeg.Proofs.Runs

/-!
# Runs of a parse

A parse enters its start rule, if it starts with one, matches the start pattern
once and concludes: with a tree if trivia leads from there to the end of the
range, otherwise by rejecting.
-/

namespace OperatorPeg

/-- The pattern that a parse begins with. -/
def Start.pattern? (rules : Rules) : Start → Option Pattern
  | .rule name => rules.get? name
  | .pattern p => some p

/-- The state in which the start pattern is matched. -/
def Start.enter (start : Start) (s : State) : State :=
  match start with
  | .pattern _ => s
  | .rule name => s.add (.entered name s.cursor.offset)

/-- What is concluded from after the start pattern. -/
def Start.leave (start : Start) (o : Outcome) : Outcome :=
  match start with
  | .pattern _ => o
  | .rule name =>
      { o with state := o.state.add (.left name (o.tree?.map fun _ => o.state.cursor.offset)) }

/-- A parse matches its start pattern once, without a past, and concludes. -/
theorem parseWindow_of_defined {rules : Rules} {start : Start} {p : Pattern}
    (hp : start.pattern? rules = some p) (layers : Nat) (limits : Limits) (window : Window) :
    parseWindow layers rules limits start window =
      (matchPattern ⟨rules, window.beyond, limits.depth⟩ layers .outermost p
        (start.enter (State.start window.start limits.fuel))).bind fun o =>
          conclude (matchPattern ⟨rules, window.beyond, limits.depth⟩ layers)
            ⟨rules, window.beyond, limits.depth⟩ (start.leave o) := by
  cases start with
  | pattern q =>
      cases hp
      rfl
  | rule name =>
      have hget : rules.get? name = some p := hp
      simp only [parseWindow, hget]
      rfl

/-- A parse from a rule that is not there ends at once. -/
theorem parseWindow_of_undefined {rules : Rules} {start : Start}
    (hp : start.pattern? rules = none) :
    ∃ name, ∀ layers limits window, parseWindow layers rules limits start window =
      some ⟨.error (.aborted window.start.offset (.undefinedRule name)), []⟩ := by
  cases start with
  | pattern q => cases hp
  | rule name =>
      have hget : rules.get? name = none := hp
      refine ⟨name, fun layers limits window => ?_⟩
      simp only [parseWindow, hget]
      rfl

namespace Start

variable (start : Start)

@[simp] theorem cursor_enter (s : State) : (start.enter s).cursor = s.cursor := by
  cases start <;> rfl

@[simp] theorem fuel_enter (s : State) : (start.enter s).fuel = s.fuel := by
  cases start <;> rfl

@[simp] theorem aborted_enter (s : State) : (start.enter s).aborted = s.aborted := by
  cases start <;> rfl

@[simp] theorem tree?_leave (o : Outcome) : (start.leave o).tree? = o.tree? := by
  cases start <;> rfl

@[simp] theorem cursor_leave (o : Outcome) :
    (start.leave o).state.cursor = o.state.cursor := by
  cases start <;> rfl

@[simp] theorem fuel_leave (o : Outcome) : (start.leave o).state.fuel = o.state.fuel := by
  cases start <;> rfl

@[simp] theorem aborted_leave (o : Outcome) :
    (start.leave o).state.aborted = o.state.aborted := by
  cases start <;> rfl

end Start

/-- The start pattern is matched in a state without a past, and nothing but an event comes
between the match and the conclusion. -/
theorem parseWindow_eq_some {layers : Nat} {rules : Rules} {limits : Limits} {start : Start}
    {window : Window} {report : Report} {p : Pattern} (hp : start.pattern? rules = some p)
    (h : parseWindow layers rules limits start window = some report) :
    ∃ s o o', s.cursor = window.start ∧ s.fuel = limits.fuel ∧
      matchPattern ⟨rules, window.beyond, limits.depth⟩ layers .outermost p s = some o ∧
      o'.tree? = o.tree? ∧ o'.state.cursor = o.state.cursor ∧
      o'.state.fuel = o.state.fuel ∧ o'.state.aborted = o.state.aborted ∧
      conclude (matchPattern ⟨rules, window.beyond, limits.depth⟩ layers)
        ⟨rules, window.beyond, limits.depth⟩ o' = some report := by
  rw [parseWindow_of_defined hp] at h
  obtain ⟨o, ho, hconclude⟩ := Option.bind_eq_some_iff.mp h
  exact ⟨_, o, start.leave o, by simp [State.start], by simp [State.start], ho, by simp, by simp,
    by simp, by simp, hconclude⟩

/-- Whether something ended the parse. -/
def Report.isFatal (r : Report) : Bool :=
  match r.result with
  | .ok _ => false
  | .error e => e.isFatal

/-- The error of a parse that is rejected. -/
def Report.error? (r : Report) : Option ParseError :=
  match r.result with
  | .ok _ => none
  | .error e => some e

theorem Report.error?_eq_some_iff {r : Report} {e : ParseError} :
    r.error? = some e ↔ r.result = .error e := by
  cases hr : r.result <;> simp [Report.error?, hr]

/-- What is so of the tree of a parse is so of some tree. -/
theorem Report.exists_tree {r : Report} {test : Tree → Bool}
    (h : r.result.toOption.any test = true) : ∃ tree, r.result = .ok tree ∧ test tree = true := by
  cases hr : r.result with
  | ok tree =>
      rw [hr] at h
      exact ⟨tree, rfl, h⟩
  | error e =>
      rw [hr] at h
      cases h

/-- The best failure is never reported as an end of the parse. -/
theorem isFatal_reject (s : State) : (reject s).isFatal = s.isAborted := by
  unfold Report.isFatal reject reportedError State.isAborted
  cases s.aborted with
  | some _ => rfl
  | none =>
      cases Failure.best (Event.failures s.events.reverse) with
      | none => rfl
      | some best =>
          rcases best with ⟨⟨_, _, _ | _⟩, _⟩ <;> rfl

/-- How a parse ends: without a match, after one that reaches the end with the trivia
behind it, or after one that does not. -/
inductive ConcludeRun (m : Matcher) (setting : Setting) (o : Outcome) : Report → Prop
  | missed : o.tree? = none → ConcludeRun m setting o (reject o.state)
  | reached {tree : Tree} {s : State} :
      o.tree? = some tree → SkipRun m setting .outermost o.state s → s.isAborted = false →
      s.cursor.ahead = [] → ConcludeRun m setting o ⟨.ok tree, s.events.reverse⟩
  | short {tree : Tree} {s : State} :
      o.tree? = some tree → SkipRun m setting .outermost o.state s →
      (s.isAborted = true ∨ s.cursor.ahead ≠ []) →
      ConcludeRun m setting o
        (reject (s.missToken .outermost s.cursor.offset endOfInput))

theorem conclude_eq_some_iff {m : Matcher} {setting : Setting} {o : Outcome} {report : Report} :
    conclude m setting o = some report ↔ ConcludeRun m setting o report := by
  constructor
  · intro h
    unfold conclude at h
    cases ho : o.tree? with
    | none =>
        simp only [ho, Option.some.injEq] at h
        exact h ▸ .missed ho
    | some tree =>
        simp only [ho] at h
        cases hs : skipTrivia m setting .outermost o.state with
        | none => simp [hs] at h
        | some s =>
            have hskip := skipTrivia_eq_some_iff.mp hs
            simp only [hs] at h
            split at h
            · next hend =>
                simp only [Bool.and_eq_true, Bool.not_eq_true', List.isEmpty_iff] at hend
                cases h
                exact .reached ho hskip hend.1 hend.2
            · next hend =>
                cases h
                refine .short ho hskip ?_
                cases ha : s.isAborted with
                | true => exact .inl rfl
                | false =>
                    refine .inr fun hahead => ?_
                    simp [ha, hahead] at hend
  · rintro (ho | ⟨ho, hskip, ha, hahead⟩ | ⟨ho, hskip, hshort⟩)
    · simp only [conclude, ho]
    · simp only [conclude, ho, skipTrivia_eq_some_iff.mpr hskip, ha, hahead, List.isEmpty_nil,
        Bool.not_false, Bool.and_self, if_true]
    · simp only [conclude, ho, skipTrivia_eq_some_iff.mpr hskip]
      rw [if_neg]
      rcases hshort with ha | hahead
      · simp [ha]
      · simp [hahead]

/-- What a match came to is concluded if trivia can be skipped behind it. -/
theorem conclude_of_skipRun {m : Matcher} {setting : Setting} {o : Outcome}
    (h : ∃ s, SkipRun m setting .outermost o.state s) :
    ∃ report, conclude m setting o = some report := by
  cases htree : o.tree? with
  | none => exact ⟨_, conclude_eq_some_iff.mpr (.missed htree)⟩
  | some tree =>
      obtain ⟨s, hrun⟩ := h
      by_cases hend : s.isAborted = false ∧ s.cursor.ahead = []
      · exact ⟨_, conclude_eq_some_iff.mpr (.reached htree hrun hend.1 hend.2)⟩
      · rw [Decidable.not_and_iff_or_not, Bool.not_eq_false] at hend
        exact ⟨_, conclude_eq_some_iff.mpr (.short htree hrun hend)⟩

end OperatorPeg
