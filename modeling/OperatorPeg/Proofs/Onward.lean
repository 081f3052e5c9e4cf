import OperatorPeg.Proofs.Course

/-!
# Matching goes onward

Whatever a match comes to, the cursor after it is not behind the cursor before it,
an end of the parse stands, and a parse without a limit on fuel stays without one.
With a limit no fuel is ever won back.
-/

namespace OperatorPeg

/-- `s'` may come after `s` in a parse. -/
structure State.Onward (s s' : State) : Prop where
  cursor : s.cursor.Reaches s'.cursor
  aborted : ∀ end', s.aborted = some end' → s'.aborted = some end'
  unlimited : s.fuel = none → s'.fuel = none

namespace State.Onward

variable {s s₁ s₂ : State}

theorem refl (s : State) : s.Onward s := ⟨.refl _, fun _ h => h, id⟩

theorem trans (h₁ : s.Onward s₁) (h₂ : s₁.Onward s₂) : s.Onward s₂ :=
  ⟨h₁.cursor.trans h₂.cursor, fun e h => h₂.aborted e (h₁.aborted e h),
    fun h => h₂.unlimited (h₁.unlimited h)⟩

/-- A parse that has not ended had not ended before. -/
theorem running (h : s.Onward s₁) (hs : s₁.aborted = none) : s.aborted = none := by
  cases ha : s.aborted with
  | none => rfl
  | some e => rw [h.aborted e ha] at hs; cases hs

theorem abort (o : Nat) (cause : Abort) : s.Onward (s.abort o cause) where
  cursor := by
    rw [cursor_abort]
    exact .refl _
  aborted := fun e h => by rw [aborted_abort, h, Option.getD_some]
  unlimited := by simp

theorem add (e : Event) : s.Onward (s.add e) := ⟨.refl _, fun _ h => h, id⟩

/-- Going back to where it began is still onward. -/
theorem back (h : s.Onward s₁) : s.Onward { s₁ with cursor := s.cursor } :=
  ⟨.refl _, h.aborted, h.unlimited⟩

theorem fail (frame : Frame) (f : Failure) : s.Onward (s.fail frame f) where
  cursor := by
    rw [cursor_fail]
    exact .refl _
  aborted := by simp
  unlimited := by simp

theorem isCourse : State.IsCourse State.Onward where
  refl := .refl
  trans := .trans
  note := fun _ => .add _
  call := fun _ _ h => (add _).trans (h.trans (.add _))
  missToken := fun frame _ => .fail frame _
  missTerm := fun frame h => h.back.trans (.fail frame _)
  abort := .abort _
  spend := fun hf => ⟨.refl _, fun _ h => h, fun h => by rw [hf] at h; cases h⟩
  move := fun h => ⟨h, fun _ h => h, id⟩
  back := .back

end State.Onward

/-- `s'` may come after `s` in a parse, and no fuel is won on the way. -/
structure State.Proceeds (s s' : State) : Prop extends State.Onward s s' where
  fuel : ∀ n, s.fuel = some n → ∃ n' ≤ n, s'.fuel = some n'

namespace State.Proceeds

variable {s s₁ s₂ : State}

/-- What keeps the fuel only has to go onward. -/
theorem of_fuel_eq (h : s.Onward s₁) (hfuel : s₁.fuel = s.fuel) : s.Proceeds s₁ :=
  ⟨h, fun n hn => ⟨n, Nat.le_refl n, hfuel.trans hn⟩⟩

theorem refl (s : State) : s.Proceeds s := .of_fuel_eq (.refl s) rfl

theorem trans (h₁ : s.Proceeds s₁) (h₂ : s₁.Proceeds s₂) : s.Proceeds s₂ := by
  refine ⟨h₁.toOnward.trans h₂.toOnward, fun n hn => ?_⟩
  obtain ⟨n₁, hle₁, hn₁⟩ := h₁.fuel n hn
  obtain ⟨n₂, hle₂, hn₂⟩ := h₂.fuel n₁ hn₁
  exact ⟨n₂, Nat.le_trans hle₂ hle₁, hn₂⟩

theorem add (e : Event) : s.Proceeds (s.add e) := .of_fuel_eq (.add e) rfl

theorem back (h : s.Proceeds s₁) : s.Proceeds { s₁ with cursor := s.cursor } :=
  ⟨h.toOnward.back, h.fuel⟩

theorem isCourse : State.IsCourse State.Proceeds where
  refl := .refl
  trans := .trans
  note := fun _ => .add _
  call := fun _ _ h => (add _).trans (h.trans (.add _))
  missToken := fun frame d => .of_fuel_eq (State.Onward.isCourse.missToken frame d) (fuel_fail ..)
  missTerm := fun frame h => (back h).trans (.of_fuel_eq (.fail frame _) (fuel_fail ..))
  abort := fun cause => .of_fuel_eq (.abort _ cause) (fuel_abort ..)
  spend := fun {_ n} hf => by
    refine ⟨State.Onward.isCourse.spend hf, fun n' hn' => ⟨n, ?_, rfl⟩⟩
    rw [hf, Option.some.injEq] at hn'
    omega
  move := fun h => .of_fuel_eq (State.Onward.isCourse.move h) rfl
  back := .back

end State.Proceeds

/-- **Matching goes onward.** -/
theorem matchPattern_onward {setting : Setting} {layers : Nat} {frame : Frame} {p : Pattern}
    {s : State} {o : Outcome} (h : matchPattern setting layers frame p s = some o) :
    s.Onward o.state := matchPattern_along State.Onward.isCourse setting layers frame p s o h

/-- The state after what could not be paid for. -/
theorem State.cursor_of_charge {s s' : State} {paid : Bool} (h : s.charge = (paid, s')) :
    s'.cursor = s.cursor := by
  unfold State.charge at h
  split at h
  · cases h
    rfl
  · split at h <;> cases h
    · rfl
    · exact State.cursor_abort _ _ _
    · rfl

theorem State.running_of_charge {s charged : State} (h : s.charge = (true, charged)) :
    s.isAborted = false ∧ charged.isAborted = false := by
  unfold State.charge at h
  split at h
  · cases h
  · next hs =>
      have hs : s.isAborted = false := by simpa using hs
      split at h <;> cases h
      · exact ⟨hs, hs⟩
      · exact ⟨hs, hs⟩

/-- Paying fails in a parse that goes on only for want of fuel. -/
theorem State.abort_of_charge {s s' : State} (hs : s.isAborted = false)
    (h : s.charge = (false, s')) : s' = s.abort s.cursor.offset .fuelExhausted := by
  simp only [State.charge, hs, Bool.false_eq_true, if_false] at h
  split at h <;> cases h
  rfl

/-- What cannot be paid for ends the parse, or finds it ended. -/
theorem State.aborted_of_unpaid {s s' : State} (h : s.charge = (false, s')) :
    s'.aborted ≠ none := by
  cases hs : s.isAborted with
  | true =>
      rw [State.charge, hs, if_pos rfl] at h
      cases h
      rw [State.isAborted, Option.isSome_iff_ne_none] at hs
      exact hs
  | false =>
      rw [State.abort_of_charge hs h]
      exact State.aborted_abort_ne _ _ _

/-- What fails and what only looks ahead ends where it began. -/
theorem LayerRun.back {m : Matcher} {setting : Setting} {frame : Frame} {p : Pattern}
    {s : State} {o : Outcome} (h : LayerRun m setting frame p s o)
    (ho : o.tree? = none ∨ p.isLookahead = true) : o.state.cursor = s.cursor := by
  cases h with
  | unpaid hc => exact State.cursor_of_charge hc
  | @tried _ _ inner =>
      unfold Outcome.settle at ho ⊢
      split
      · rfl
      · next hstay =>
          rw [if_neg hstay] at ho
          rcases ho with ho | ho <;> simp [ho] at hstay

/-- **A match that fails leaves the cursor where it was.** -/
theorem matchPattern_back {setting : Setting} {layers : Nat} {frame : Frame} {p : Pattern}
    {s : State} {o : Outcome} (h : matchPattern setting layers frame p s = some o)
    (ho : o.tree? = none) : o.state.cursor = s.cursor := by
  cases layers with
  | zero => cases h
  | succ layers => exact (matchOnce_eq_some_iff.mp h).back (.inl ho)

/-- **A lookahead leaves the cursor where it was.** -/
theorem matchPattern_stays {setting : Setting} {layers : Nat} {frame : Frame} {p : Pattern}
    {s : State} {o : Outcome} (h : matchPattern setting layers frame p s = some o)
    (hp : p.isLookahead = true) : o.state.cursor = s.cursor := by
  cases layers with
  | zero => cases h
  | succ layers => exact (matchOnce_eq_some_iff.mp h).back (.inr hp)

end OperatorPeg
