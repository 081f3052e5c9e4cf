import OperatorPeg.Proofs.Log
import OperatorPeg.Proofs.States

/-!
# Limits and runs in step

A limit is compared with having none: what it lets a run pay for, and how the states of
the free run and of the limited one belong together. They are in step up to the first
attempt that the limit does not afford; from there on the limited run has ended.
-/

namespace OperatorPeg

/-- Which limit there is: on how many patterns are tried, or on how deep rules nest. -/
inductive Limit where
  | fuel
  | depth (most : Nat)

namespace Limit

/-- What ends the parse that exceeds the limit. -/
def cause : Limit → Abort
  | fuel => .fuelExhausted
  | depth _ => .recursionLimitExceeded

/-- What an attempt within `nesting` rules leaves of what was left, if it is afforded. Only
fuel is used up. -/
def pay : Limit → Nat → Nat → Option Nat
  | fuel, 0, _ => none
  | fuel, left + 1, _ => some left
  | depth most, left, nesting => if nesting ≤ most then some left else none

/-- What attempts leave of what was left, if all of them are afforded. -/
def spend (l : Limit) : Nat → List Nat → Option Nat
  | left, [] => some left
  | left, nesting :: rest => (l.pay left nesting).bind fun left => l.spend left rest

theorem spend_append (l : Limit) (left : Nat) (a b : List Nat) :
    l.spend left (a ++ b) = (l.spend left a).bind fun left => l.spend left b := by
  induction a generalizing left with
  | nil => rfl
  | cons nesting a ih =>
      simp only [List.cons_append, spend, Option.bind_assoc]
      exact congrArg _ (funext fun left => ih left)

theorem spend_singleton (l : Limit) (left nesting : Nat) :
    l.spend left [nesting] = l.pay left nesting := by
  rw [spend]
  cases l.pay left nesting <;> rfl

/-- Fuel is afforded for as many attempts as there is fuel. -/
theorem spend_fuel (left : Nat) (a : List Nat) :
    fuel.spend left a = if a.length ≤ left then some (left - a.length) else none := by
  induction a generalizing left with
  | nil => simp [spend]
  | cons nesting a ih =>
      cases left with
      | zero => simp [spend, pay]
      | succ left => simp [spend, pay, ih]

/-- Depth is afforded if every attempt is within few enough rules. -/
theorem spend_depth (most left : Nat) (a : List Nat) :
    (depth most).spend left a = if a.foldr max 0 ≤ most then some left else none := by
  induction a with
  | nil => simp [spend]
  | cons nesting a ih =>
      simp only [List.foldr_cons, Nat.max_le]
      by_cases h : nesting ≤ most
      · simp [spend, pay, ih, h]
      · simp [spend, pay, h]

/-- The fuel of the free run and of the limited one. -/
def Fuels : Limit → Nat → Option Nat → Option Nat → Prop
  | fuel, left, free, limited => free = none ∧ limited = some left
  | depth _, _, free, limited => free = limited

/-- Whether a limited parse gets to patterns within `nesting` rules. -/
def Admits : Limit → Nat → Prop
  | fuel, _ => True
  | depth most, nesting => nesting ≤ most

theorem admits_outermost (l : Limit) : l.Admits Frame.outermost.depth := by
  cases l with
  | fuel => trivial
  | depth most => exact Nat.zero_le most

/-- The depth limits of the free run and of the limited one. -/
def Depths : Limit → Option Nat → Option Nat → Prop
  | fuel, free, limited => free = limited
  | depth most, free, limited => free = none ∧ limited = some most

/-- The settings of the free run and of the limited one. -/
structure Settings (l : Limit) (free limited : Setting) : Prop where
  rules : free.rules = limited.rules
  beyond : free.beyond = limited.beyond
  depths : l.Depths free.depthLimit limited.depthLimit

/-- A rule that the limited run does not enter at all, the free one does not either. -/
theorem Settings.any_of_any {l : Limit} {free limited : Setting} (h : l.Settings free limited)
    {nesting : Nat} (hd : free.depthLimit.any (· ≤ nesting) = true) :
    limited.depthLimit.any (· ≤ nesting) = true := by
  have hdepths := h.depths
  cases l with
  | fuel =>
      rw [Depths] at hdepths
      rwa [← hdepths]
  | depth most => simp [hdepths.1] at hd

/-- Where the free run enters a rule, the limited one is admitted to it or its limit is one on
depth and reached. -/
theorem Settings.admits_or_reached {l : Limit} {free limited : Setting}
    (h : l.Settings free limited) {nesting : Nat}
    (hd : free.depthLimit.any (· ≤ nesting) = false) :
    (limited.depthLimit.any (· ≤ nesting) = false ∧ l.Admits (nesting + 1)) ∨
      (limited.depthLimit.any (· ≤ nesting) = true ∧
        ∃ most, l = depth most ∧ most ≤ nesting) := by
  have hdepths := h.depths
  cases l with
  | fuel =>
      rw [Depths] at hdepths
      exact .inl ⟨hdepths ▸ hd, trivial⟩
  | depth most =>
      rw [hdepths.2]
      by_cases hle : most ≤ nesting
      · exact .inr ⟨by simpa using hle, most, rfl, hle⟩
      · exact .inl ⟨by simpa using hle, by simp only [Admits]; omega⟩

/-! ## In step -/

/-- The free run and the limited one are at the same place. Once the parse has ended, rules
may still be entered in the free run, so the events agree only up to there. -/
structure InStep (l : Limit) (left : Nat) (s t : State) : Prop where
  cursor : s.cursor = t.cursor
  aborted : s.aborted = t.aborted
  events : s.aborted = none → s.events = t.events
  fuels : l.Fuels left s.fuel t.fuel

/-- The limit ended the parse. -/
def Ended (l : Limit) (t : State) : Prop := ∃ o, t.aborted = some (o, l.cause)

theorem Ended.isAborted {l : Limit} {t : State} (h : l.Ended t) : t.isAborted = true := by
  obtain ⟨o, ho⟩ := h
  rw [State.isAborted, ho]
  rfl

theorem Ended.of_aborted {l : Limit} {t t' : State} (h : l.Ended t)
    (ht : t'.aborted = t.aborted) : l.Ended t' := by
  rwa [Ended, ht]

namespace InStep

variable {l : Limit} {left : Nat} {s t : State}

theorem isAborted (h : l.InStep left s t) : s.isAborted = t.isAborted := by
  simp only [State.isAborted, h.aborted]

theorem add (h : l.InStep left s t) (e : Event) : l.InStep left (s.add e) (t.add e) :=
  ⟨h.cursor, h.aborted, fun ha => congrArg (e :: ·) (h.events ha), h.fuels⟩

theorem move (h : l.InStep left s t) (c : Cursor) :
    l.InStep left { s with cursor := c } { t with cursor := c } :=
  ⟨rfl, h.aborted, h.events, h.fuels⟩

theorem abort (h : l.InStep left s t) (o : Nat) (cause : Abort) :
    l.InStep left (s.abort o cause) (t.abort o cause) where
  cursor := by simp [h.cursor]
  aborted := by simp [State.aborted_abort, h.aborted]
  events := fun ha => by simp [State.aborted_abort] at ha
  fuels := by simpa using h.fuels

theorem fail (h : l.InStep left s t) (frame : Frame) (f : Failure) :
    l.InStep left (s.fail frame f) (t.fail frame f) := by
  unfold State.fail
  split
  · exact h
  · exact h.add _

theorem tried (h : l.InStep left s t) (frame : Frame) (x : Terminal) (matched : Option String) :
    l.InStep left (s.tried frame x matched) (t.tried frame x matched) := by
  simp only [State.tried, h.cursor]
  split
  · exact h
  · exact h.add _

end InStep

/-- How a limited run fares whose free one makes the attempts `a`: it comes to the same if
they are afforded, and otherwise the limit ends the parse. Then `halts` holds, which
says that the limited matcher does nothing more. -/
inductive Fares (l : Limit) (halts : Prop) (left : Nat) (a : List Nat) {α : Type} :
    α → State → α → State → Prop
  | afforded {left' : Nat} {x : α} {s t : State} :
      l.spend left a = some left' → l.InStep left' s t → Fares l halts left a x s x t
  | cut {x y : α} {s t : State} :
      halts → l.spend left a = none → l.Ended t → Fares l halts left a x s y t

namespace Fares

variable {l : Limit} {halts : Prop} {left left' : Nat} {a b : List Nat} {α β : Type}
  {x y : α} {s t : State}

theorem unchanged (h : l.InStep left s t) : l.Fares halts left [] x s x t := .afforded rfl h

/-- What comes after attempts that are afforded. -/
theorem after (ha : l.spend left a = some left') (h : l.Fares halts left' b x s y t) :
    l.Fares halts left (a ++ b) x s y t := by
  have hspend : l.spend left (a ++ b) = l.spend left' b := by
    rw [spend_append, ha]
    rfl
  cases h with
  | afforded hb h => exact .afforded (hspend.trans hb) h
  | cut hh hb h => exact .cut hh (hspend.trans hb) h

/-- What comes after attempts that are not. -/
theorem cut_append (hh : halts) (ha : l.spend left a = none) (h : l.Ended t) :
    l.Fares halts left (a ++ b) x s y t := by
  refine .cut hh ?_ h
  rw [spend_append, ha]
  rfl

theorem halts_of {halts' : Prop} (hh : halts') (h : l.Fares halts left a x s y t) :
    l.Fares halts' left a x s y t := by
  cases h with
  | afforded ha hs => exact .afforded ha hs
  | cut _ ha hended => exact .cut hh ha hended

/-- Either the attempts are afforded or the limit ended the parse. -/
theorem same_or_ended (h : l.Fares halts left a x s y t) :
    (∃ left', l.spend left a = some left' ∧ l.InStep left' s t ∧ x = y) ∨
      (halts ∧ l.spend left a = none ∧ l.Ended t) := by
  cases h with
  | afforded ha hs => exact .inl ⟨_, ha, hs, rfl⟩
  | cut hh ha hended => exact .inr ⟨hh, ha, hended⟩

end Fares

end Limit

end OperatorPeg
