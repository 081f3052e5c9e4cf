import OperatorPeg.Proofs.Balance.Mirroring

/-!
# Matching leaves its context balanced

What is set in the context of a parse on the way is put back on every way out: after a
match, whatever it came to, the context differs from the one before only in its
cursor, fuel, failures, end and trace, and in these only as far as the contract of
matching allows.

All but one clause is read off the state of the matcher, since the context after a
match is the one before with that state taken in. That failures in a quiet context
count for nothing is the same fact, with a state whose failures are not counted.
-/

namespace OperatorPeg

namespace Engine

variable {α β : Type}

/-! ## The best failure -/

/-- A computation that leaves the best failure as it is. -/
def KeepsBest (x : Engine α) : Prop := ∀ ctx r, x ctx = some r → r.2.best = ctx.best

theorem KeepsBest.bind {x : Engine α} {f : α → Engine β} (hx : KeepsBest x)
    (hf : ∀ a, KeepsBest (f a)) : KeepsBest (x >>= f) := by
  intro ctx r h
  obtain ⟨⟨a, between⟩, hfirst, hrest⟩ := Option.bind_eq_some_iff.mp h
  exact (hf a between r hrest).trans (hx ctx _ hfirst)

theorem KeepsBest.pure (a : α) : KeepsBest (pure a : Engine α) := by
  rintro ctx r ⟨⟩
  rfl

theorem KeepsBest.get : KeepsBest (get : Engine Context) := by
  rintro ctx r ⟨⟩
  rfl

theorem KeepsBest.modify {f : Context → Context} (hf : ∀ ctx, (f ctx).best = ctx.best) :
    KeepsBest (modify f) := by
  rintro ctx r ⟨⟩
  exact hf ctx

theorem KeepsBest.consumeFuel : KeepsBest consumeFuel := by
  intro ctx r h
  have hload := consumeFuel_load ctx false ctx.state
  rw [Context.load_state] at hload
  cases hload.symm.trans h
  rfl

/-- **In a quiet context no failure is recorded.** -/
theorem best_of_quiet {layers : Nat} {p : Pattern} {ctx after : Context} {result : Option Tree}
    (h : tryMatch layers p ctx = some (result, after)) (hquiet : 0 < ctx.quietDepth) :
    after.best = ctx.best := by
  have hmirrors := tryMatch_mirrors false ctx.setting layers ctx ctx.frame
    (ctx.fits_frame fun _ => hquiet) p ctx.state
  rw [Context.load_state, h] at hmirrors
  obtain ⟨o, -, ho⟩ := Option.map_eq_some_iff.mp hmirrors.symm
  cases ho
  rfl

theorem KeepsBest.quietly (layers : Nat) (p : Pattern) :
    KeepsBest (quietly (tryMatch layers p)) := by
  intro ctx r h
  obtain ⟨⟨result, inner⟩, hinner, hr⟩ := Option.bind_eq_some_iff.mp
    (show (tryMatch layers p ctx.quieter).bind _ = some r from h)
  cases hr
  have hkept := best_of_quiet hinner (Nat.succ_pos _)
  exact hkept

theorem KeepsBest.skipTrivia (layers : Nat) : KeepsBest (skipTrivia (tryMatch layers)) := by
  refine .bind .get fun ctx => ?_
  split
  · exact .pure ()
  · split
    · exact .pure ()
    · exact .bind (.modify fun _ => rfl) fun _ => .bind (.quietly layers _) fun _ =>
        .modify fun _ => rfl

theorem KeepsBest.tryLookahead (layers : Nat) (inner : Pattern) (wanted : Bool) :
    KeepsBest (tryLookahead (tryMatch layers) inner wanted) := by
  refine .bind .get fun ctx => .bind (.quietly layers inner) fun probe =>
    .bind (.modify fun _ => rfl) fun _ => .bind .get fun after => ?_
  split
  · exact .pure none
  · exact .pure _

/-- **A lookahead records no failure.** -/
theorem KeepsBest.tryMatch {p : Pattern} (hp : p.isLookahead = true) (layers : Nat) :
    KeepsBest (tryMatch layers p) := by
  cases layers with
  | zero => exact fun _ _ h => nomatch h
  | succ layers =>
      obtain ⟨inner, wanted, rfl⟩ : ∃ inner wanted, p = .lookahead inner wanted := by
        cases p with
        | lookahead inner wanted => exact ⟨inner, wanted, rfl⟩
        | _ => cases hp
      refine .bind .consumeFuel fun paid => ?_
      split
      · refine .bind .get fun ctx => .bind (.skipTrivia layers) fun _ =>
          .bind (.tryLookahead layers inner wanted) fun result => ?_
        split
        · exact .bind (.modify fun _ => rfl) fun _ => .pure result
        · exact .pure result
      · exact .pure none

end Engine

/-! ## The contract of matching -/

section Places

variable (ctx : Context) (counts : Bool) {s : State} (h : ctx.cursor.Reaches s.cursor)

include h

theorem Context.stop_load : (ctx.load counts s).stop = ctx.stop := by
  obtain ⟨text, -, hahead, hoffset⟩ := h
  show s.cursor.offset + Text.byteLength s.cursor.ahead = _
  rw [Context.stop, hoffset, hahead, Text.byteLength_append, Nat.add_assoc]

theorem Context.source_load : (ctx.load counts s).source = ctx.source := by
  obtain ⟨text, hpassed, hahead, -⟩ := h
  show s.cursor.passed.reverse ++ s.cursor.ahead ++ ctx.beyond = _
  rw [Context.source, hpassed, hahead]
  simp

end Places

/-- What a match leaves behind, against the context in which it began. -/
structure Context.Balanced (p : Pattern) (ctx : Context) (result : Option Tree) (after : Context) :
    Prop where
  missed : result = none → after.cursor = ctx.cursor
  lookahead : p.isLookahead = true → after.cursor = ctx.cursor
  onward : ctx.cursor.offset ≤ after.cursor.offset
  within : after.cursor.offset ≤ ctx.stop
  quietDepth : after.quietDepth = ctx.quietDepth
  inTrivia : after.inTrivia = ctx.inTrivia
  probeAt : after.probeAt = ctx.probeAt
  recursionDepth : after.recursionDepth = ctx.recursionDepth
  recursionLimit : after.recursionLimit = ctx.recursionLimit
  stop : after.stop = ctx.stop
  source : after.source = ctx.source
  rules : after.rules = ctx.rules
  unlimited : ctx.fuel = none → after.fuel = none
  fuel : ∀ n, ctx.fuel = some n → ∃ left ≤ n, after.fuel = some left
  fatal : ∀ cause, ctx.fatal = some cause → after.fatal = some cause
  best : 0 < ctx.quietDepth ∨ p.isLookahead = true → after.best = ctx.best

/-- **Matching keeps its contract and leaves the context balanced.** Matching in a context
comes to what the matcher comes to on the state that the context holds. -/
theorem tryMatch_balanced (layers : Nat) (p : Pattern) (ctx : Context) :
    Engine.tryMatch layers p ctx =
        ctx.resume true (matchPattern ctx.setting layers ctx.frame p ctx.state) ∧
      ∀ result after, Engine.tryMatch layers p ctx = some (result, after) →
        ctx.Balanced p result after := by
  have hmirrors := Engine.tryMatch_mirrors true ctx.setting layers ctx ctx.frame
    (ctx.fits_frame nofun) p ctx.state
  rw [Context.load_state] at hmirrors
  refine ⟨hmirrors, fun result after h => ?_⟩
  obtain ⟨o, ho, heq⟩ := Option.map_eq_some_iff.mp (hmirrors.symm.trans h)
  cases heq
  have hproceeds := matchPattern_along State.Proceeds.isCourse _ _ _ _ _ _ ho
  have hstop := ctx.stop_load true hproceeds.cursor
  exact {
    missed := matchPattern_back ho
    lookahead := matchPattern_stays ho
    onward := hproceeds.cursor.offset_le
    within := hstop ▸ Nat.le_add_right ..
    quietDepth := rfl
    inTrivia := rfl
    probeAt := rfl
    recursionDepth := rfl
    recursionLimit := rfl
    stop := hstop
    source := ctx.source_load true hproceeds.cursor
    rules := rfl
    unlimited := hproceeds.unlimited
    fuel := hproceeds.fuel
    fatal := hproceeds.aborted
    best := by
      rintro (hquiet | hp)
      · exact Engine.best_of_quiet h hquiet
      · exact Engine.KeepsBest.tryMatch hp layers ctx _ h }

/-- A parse that looks ahead at a sum in parentheses. -/
def lookingAhead : Context where
  rules := ⟨[("_", .terminal (.literal " ")),
    ("sum", .table [⟨"one", none, none, .terminal (.literal "1")⟩,
      ⟨"add", some 1, some 1, .terminal (.literal "+")⟩])]⟩
  beyond := [')']
  cursor := ⟨['('], ['1', ' ', '+', '1'], 1⟩
  best := none
  fatal := none
  quietDepth := 1
  probeAt := some 1
  inTrivia := false
  fuel := some 40
  recursionDepth := 2
  recursionLimit := some 5
  trace := []

theorem tryMatch_balanced_sample :
    ∃ tree after, Engine.tryMatch 4 (.lookup "sum") lookingAhead = some (some tree, after) ∧
      lookingAhead.Balanced (.lookup "sum") (some tree) after := by
  have hmatches : (Engine.tryMatch 4 (.lookup "sum") lookingAhead).any (·.1.isSome) = true := by
    decide +kernel
  rcases h : Engine.tryMatch 4 (.lookup "sum") lookingAhead with _ | ⟨_ | tree, after⟩
  · simp [h] at hmatches
  · simp [h] at hmatches
  · exact ⟨tree, after, rfl, (tryMatch_balanced 4 _ _).2 _ _ h⟩

end OperatorPeg
