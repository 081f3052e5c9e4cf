import OperatorPeg.Proofs.Onward
import OperatorPeg.Proofs.ParseRuns
import OperatorPeg.Proofs.Recognition
import OperatorPeg.Proofs.References

/-!
# Runs are derivations

What the matcher comes to without limits, unless something ends the parse, is what
`Recognizes` derives. Since a pattern has one answer at a cursor, this goes both
ways: whatever is derived is what the matcher comes to.

The law is about patterns that lead to no operator tables.
-/

namespace OperatorPeg

/-! ## Patterns without operator tables -/

namespace Pattern

mutual
/-- Whether no part of the pattern is an operator table. -/
def isTableFree : Pattern → Bool
  | terminal _ | lookup _ => true
  | sequence steps => isTableFreeInSteps steps
  | choice alternatives => isTableFreeInAll alternatives
  | quantifier inner _ _ | label _ inner | lookahead inner _ => inner.isTableFree
  | table _ => false

def isTableFreeInSteps : List Step → Bool
  | [] => true
  | ⟨_, p⟩ :: steps => p.isTableFree && isTableFreeInSteps steps

def isTableFreeInAll : List Pattern → Bool
  | [] => true
  | p :: ps => p.isTableFree && isTableFreeInAll ps
end

end Pattern

namespace Rules

/-- No operator table is part of the pattern or of what it uses. -/
def TableFree (rules : Rules) (p : Pattern) : Prop :=
  ∀ q, rules.Uses p q → q.isTableFree = true

namespace TableFree

variable {rules : Rules} {p p' : Pattern}

/-- A pattern that refers to no more rules uses no more tables. -/
theorem of_references (h : rules.TableFree p) (hsub : p'.references ⊆ p.references)
    (hfree : p'.isTableFree = true) : rules.TableFree p' := by
  intro q hq
  rcases hq.of_references hsub with rfl | hq
  · exact hfree
  · exact h q hq

theorem of_uses (h : rules.TableFree p) (hp : rules.Uses p p') : rules.TableFree p' :=
  fun q hq => h q (hp.trans hq)

theorem trivia {t : Pattern} (h : rules.TableFree p) (ht : rules.trivia? = some t) :
    rules.TableFree t :=
  h.of_uses (.trivia ht)

theorem rule {key : String} (h : rules.TableFree (.lookup key))
    (hget : rules.get? key = some p') : rules.TableFree p' :=
  h.of_uses (.rule .itself (List.mem_singleton_self key) hget)

theorem steps {step : Step} {steps : List Step} (h : rules.TableFree (.sequence (step :: steps))) :
    rules.TableFree step.pattern ∧ rules.TableFree (.sequence steps) := by
  obtain ⟨keep, p⟩ := step
  have hfree := h _ .itself
  simp only [Pattern.isTableFree, Pattern.isTableFreeInSteps, Bool.and_eq_true] at hfree
  exact ⟨h.of_references (List.subset_append_left _ _) hfree.1,
    h.of_references (List.subset_append_right _ _) hfree.2⟩

theorem alternatives {ps : List Pattern} (h : rules.TableFree (.choice (p :: ps))) :
    rules.TableFree p ∧ rules.TableFree (.choice ps) := by
  have hfree := h _ .itself
  simp only [Pattern.isTableFree, Pattern.isTableFreeInAll, Bool.and_eq_true] at hfree
  exact ⟨h.of_references (List.subset_append_left _ _) hfree.1,
    h.of_references (List.subset_append_right _ _) hfree.2⟩

theorem rounds {least : Nat} {most : Option Nat} (h : rules.TableFree (.quantifier p least most)) :
    rules.TableFree p := by
  have hfree := h _ .itself
  exact h.of_references (List.Subset.refl _) hfree

theorem label {name : String} (h : rules.TableFree (.label name p)) : rules.TableFree p := by
  have hfree := h _ .itself
  exact h.of_references (List.Subset.refl _) hfree

theorem lookahead {wanted : Bool} (h : rules.TableFree (.lookahead p wanted)) :
    rules.TableFree p := by
  have hfree := h _ .itself
  exact h.of_references (List.Subset.refl _) hfree

/-- Rules without operator tables use none. -/
theorem of_entries (hp : p.isTableFree = true)
    (h : ∀ entry ∈ rules.entries, entry.2.isTableFree = true) : rules.TableFree p := by
  have hget : ∀ {key : String} {r : Pattern}, rules.get? key = some r → r.isTableFree = true := by
    intro key r hr
    exact h (key, r) (mem_entries_of_get? hr)
  intro q hq
  cases hq with
  | itself => exact hp
  | trivia ht => exact hget ht
  | rule _ _ hr => exact hget hr

theorem not_table {operators : List Operator} (h : rules.TableFree (.table operators)) : False :=
  nomatch h _ .itself

end TableFree

end Rules

/-! ## Loops -/

/-- Where an outcome ends, if there is a match. -/
def Outcome.stop? (o : Outcome) : Option Cursor := o.tree?.map fun _ => o.state.cursor

/-- What `m` comes to without limits is what is recognized, unless something ends the
parse. It goes onward, and a failure goes back. -/
structure MatchesAs (rules : Rules) (beyond : List Char) (inTrivia : Bool)
    (m : Pattern → State → Option Outcome) : Prop where
  onward : ∀ p, RunsAlong State.Onward (m p)
  back : ∀ p s o, m p s = some o → o.tree? = none → o.state.cursor = s.cursor
  answer : ∀ p, rules.TableFree p → ∀ s o, m p s = some o → s.fuel = none →
    o.state.aborted = none → Recognizes rules beyond inTrivia p s.cursor o.stop?

/-- Where a repetition ends that has had `count` rounds in all. -/
def Rounds.stop? (least : Nat) (r : Rounds) : Option Cursor :=
  if r.count < least then none else some r.state.cursor

/-- The same by the rounds still required. -/
theorem Rounds.stop?_eq (least : Nat) (r : Rounds) :
    r.stop? least = if least - r.count = 0 then some r.state.cursor else none := by
  unfold Rounds.stop?
  by_cases h : r.count < least
  · rw [if_pos h, if_neg (by omega)]
  · rw [if_neg h, if_pos (by omega)]

theorem Rounds.stop?_outcome {least offset : Nat} {r : Rounds} (h : r.state.aborted = none) :
    (r.outcome least offset).stop? = r.stop? least := by
  unfold Rounds.outcome Rounds.stop? Outcome.stop?
  rw [State.isAborted_eq_false_iff.mpr h, Bool.false_or]
  by_cases hcount : r.count < least <;> simp [hcount]

section Loops

variable {rules : Rules} {beyond : List Char} {inTrivia : Bool}
  {m : Pattern → State → Option Outcome} (hm : MatchesAs rules beyond inTrivia m)

include hm

theorem StepsRun.derives {offset : Nat} {kept : List Tree} {steps : List Step} {s : State}
    {o : Outcome} (h : StepsRun m offset kept steps s o)
    (hfree : rules.TableFree (.sequence steps)) (hfuel : s.fuel = none)
    (hrunning : o.state.aborted = none) :
    Says rules beyond inTrivia (.sequence steps) s.cursor o.stop? := by
  induction h with
  | done kept s => exact .sequenceEnd s.cursor
  | missed h => exact .sequenceFails (hm.answer _ hfree.steps.1 _ _ h hfuel hrunning)
  | matched h hrun ih =>
      -- what has not ended the parse by the last step had not done so by the first
      have hfirst := hm.answer _ hfree.steps.1 _ _ h hfuel
        ((hrun.along State.Onward.isCourse hm.onward).running hrunning)
      exact .sequenceStep hfirst
        (ih hfree.steps.2 ((hm.onward _ _ _ h).unlimited hfuel) hrunning)

theorem AlternativesRun.derives {offset index : Nat} {ps : List Pattern} {s : State}
    {o : Outcome} (h : AlternativesRun m offset index ps s o)
    (hfree : rules.TableFree (.choice ps)) (hfuel : s.fuel = none)
    (hrunning : o.state.aborted = none) :
    Says rules beyond inTrivia (.choice ps) s.cursor o.stop? := by
  induction h with
  | exhausted _ s => exact .choiceEnd s.cursor
  | chosen h => exact .choiceFirst (hm.answer _ hfree.alternatives.1 _ _ h hfuel hrunning)
  | aborted _ ha =>
      rw [State.isAborted, hrunning] at ha
      cases ha
  | missed h ha _ ih =>
      have hfirst := hm.answer _ hfree.alternatives.1 _ _ h hfuel
        (State.isAborted_eq_false_iff.mp ha)
      have hrest := ih hfree.alternatives.2 ((hm.onward _ _ _ h).unlimited hfuel) hrunning
      rw [State.cursor_add, hm.back _ _ _ h rfl] at hrest
      exact .choiceNext hfirst hrest

variable {inner : Pattern} (hfree : rules.TableFree inner)

include hfree

/-- When a round fails, what is left is decided by the rounds still required. -/
theorem roundsEnd_derives {least : Nat} {most : Option Nat} (hmost : most ≠ some 0) {r : Rounds}
    {s : State} (h : m inner r.state = some ⟨none, s⟩) (hfuel : r.state.fuel = none)
    (hrunning : s.aborted = none) :
    Says rules beyond inTrivia (.quantifier inner (least - r.count) most) r.state.cursor
      (Rounds.stop? least { r with state := s }) := by
  have hback : s.cursor = r.state.cursor := hm.back _ _ _ h rfl
  rw [Rounds.stop?_eq]
  show Says _ _ _ _ _ (if least - r.count = 0 then some s.cursor else none)
  rw [hback]
  exact .roundsEnd hmost (hm.answer _ hfree _ _ h hfuel hrunning)

theorem UpToRun.derives (least : Nat) {n : Nat} {r r' : Rounds} (h : UpToRun (m inner) n r r')
    (hfuel : r.state.fuel = none) (hrunning : r'.state.aborted = none) :
    Says rules beyond inTrivia (.quantifier inner (least - r.count) (some n)) r.state.cursor
      (r'.stop? least) := by
  induction h with
  | full r =>
      rw [Rounds.stop?_eq]
      exact .roundsFull _
  | missed h => exact roundsEnd_derives hm hfree (by simp) h hfuel hrunning
  | matched h hrun ih =>
      have hround := hm.answer _ hfree _ _ h hfuel
        ((hrun.along State.Onward.isCourse (hm.onward inner)).running hrunning)
      exact .round (by simp) hround (ih ((hm.onward _ _ _ h).unlimited hfuel) hrunning)

theorem WhileRun.derives (least : Nat) {budget : List Char} {r r' : Rounds}
    (h : WhileRun (m inner) budget r r') (hfuel : r.state.fuel = none)
    (hrunning : r'.state.aborted = none) :
    Says rules beyond inTrivia (.quantifier inner (least - r.count) none) r.state.cursor
      (r'.stop? least) := by
  induction h with
  | missed h => exact roundsEnd_derives hm hfree (by simp) h hfuel hrunning
  | stuck => exact absurd hrunning (State.aborted_abort_ne _ _ _)
  | matched h _ hrun ih =>
      have hround := hm.answer _ hfree _ _ h hfuel
        ((hrun.along State.Onward.isCourse (hm.onward inner)).running hrunning)
      exact .round (by simp) hround (ih ((hm.onward _ _ _ h).unlimited hfuel) hrunning)

theorem RoundsRun.derives {least : Nat} {most : Option Nat} {s : State} {r : Rounds}
    (h : RoundsRun (m inner) most s r) (hfuel : s.fuel = none)
    (hrunning : r.state.aborted = none) :
    Says rules beyond inTrivia (.quantifier inner least most) s.cursor (r.stop? least) := by
  cases most with
  | some n => exact UpToRun.derives hm hfree least h hfuel hrunning
  | none => exact WhileRun.derives hm hfree least h hfuel hrunning

end Loops

/-! ## Layers -/

theorem matchTerminal_derives {setting : Setting} {frame : Frame} (inTrivia : Bool) (t : Terminal)
    (s : State) :
    Says setting.rules setting.beyond inTrivia (.terminal t) s.cursor
      (matchTerminal setting frame t s).stop? := by
  have hstop : (matchTerminal setting frame t s).stop? = t.matchEnd? setting.beyond s.cursor := by
    cases h : t.matchEnd? setting.beyond s.cursor with
    | none => rw [matchTerminal_of_missed h]; rfl
    | some stop => rw [matchTerminal_of_matched h]; rfl
  rw [hstop]
  cases t with
  | regex source meaning => exact .regex source meaning s.cursor
  | literal text =>
      show Says _ _ _ _ _ (s.cursor.after? text.toList)
      cases h : s.cursor.after? text.toList with
      | none => exact .otherText (Cursor.after?_eq_none_iff.mp h)
      | some stop => exact .literal (Cursor.after?_eq_some_iff.mp h)

namespace Outcome

variable (o : Outcome) {p : Pattern} (start : Cursor)

theorem stop?_settle (hp : p.isLookahead = false) : (o.settle p start).stop? = o.stop? := by
  rcases o with ⟨_ | tree, s⟩ <;> simp [settle, stop?, hp]

theorem stop?_settle_lookahead (hp : p.isLookahead = true) :
    (o.settle p start).stop? = o.tree?.map fun _ => start := by
  rcases o with ⟨_ | tree, s⟩ <;> simp [settle, stop?, hp]

end Outcome

section Layer

variable {setting : Setting} {m : Matcher}
  (hm : ∀ frame, MatchesAs setting.rules setting.beyond frame.inTrivia (m frame))
  {frame : Frame}

include hm

theorem SkipRun.skipsTo {p : Pattern} (hfree : setting.rules.TableFree p) {s s' : State}
    (h : SkipRun m setting frame s s') (hfuel : s.fuel = none) (hrunning : s'.aborted = none) :
    SkipsTo setting.rules setting.beyond frame.inTrivia s.cursor s'.cursor := by
  cases h with
  | inside hi => exact hi ▸ .inside _
  | absent hi ht => exact hi ▸ .absent _ ht
  | @skipped trivia o hi ht h =>
      have hanswer := (hm _).answer _ (hfree.trivia ht) _ _ h hfuel hrunning
      -- a failure has led back, so both ways trivia ends where the run does
      have hcursor : o.stop?.getD s.cursor = o.state.cursor := by
        unfold Outcome.stop?
        cases ho : o.tree? with
        | none => exact ((hm _).back _ _ _ h ho).symm
        | some _ => rfl
      rw [hi, ← hcursor]
      exact .skipped ht hanswer

/-- A body that is not a lookahead says what its run comes to. -/
theorem BodyRun.derives {p : Pattern} (hfree : setting.rules.TableFree p)
    (hp : p.isLookahead = false) {s : State} {o : Outcome}
    (h : BodyRun m setting frame s p o) (hfuel : s.fuel = none)
    (hrunning : o.state.aborted = none) :
    Says setting.rules setting.beyond frame.inTrivia p s.cursor o.stop? := by
  cases h with
  | terminal t => exact matchTerminal_derives _ t s
  | sequence h => exact h.derives (hm frame) hfree hfuel hrunning
  | choice h => exact h.derives (hm frame) hfree hfuel hrunning
  | quantifier h =>
      rw [Rounds.state_outcome] at hrunning
      rw [Rounds.stop?_outcome hrunning]
      exact h.derives (hm frame) hfree.rounds hfuel hrunning
  | undefinedRule | tooDeep => exact absurd hrunning (State.aborted_abort_ne _ _ _)
  | lookup hget _ h =>
      have hanswer := (hm _).answer _ (hfree.rule hget) _ _ h hfuel hrunning
      simp only [Outcome.stop?, Option.map_map]
      exact .lookup hget hanswer
  | label h =>
      have hanswer := (hm _).answer _ hfree.label _ _ h hfuel hrunning
      simp only [Outcome.stop?, Option.map_map]
      exact .label hanswer
  | lookahead => cases hp
  | table => exact hfree.not_table.elim

theorem LayerRun.recognizes {p : Pattern} (hfree : setting.rules.TableFree p) {s : State}
    {o : Outcome} (h : LayerRun m setting frame p s o) (hfuel : s.fuel = none)
    (hrunning : o.state.aborted = none) :
    Recognizes setting.rules setting.beyond frame.inTrivia p s.cursor o.stop? := by
  have hcharge := State.charge_of_unlimited hfuel
  cases h with
  | unpaid hc =>
      obtain ⟨ha, rfl⟩ := Prod.mk.inj (hcharge.symm.trans hc)
      rw [State.isAborted_eq_false_iff.mpr hrunning] at ha
      cases ha
  | @tried _ ready o hc hskip hbody =>
      obtain ⟨-, rfl⟩ := Prod.mk.inj (hcharge.symm.trans hc)
      rw [Outcome.aborted_settle] at hrunning
      have honward := fun frame => (hm frame).onward
      have hfuel' := (hskip.along State.Onward.isCourse honward).unlimited hfuel
      have hready := (hbody.along State.Onward.isCourse honward).running hrunning
      have hskips := hskip.skipsTo hm hfree hfuel hready
      cases hp : p.isLookahead with
      | false =>
          rw [Outcome.stop?_settle _ _ hp]
          exact .afterTrivia hskips (hbody.derives hm hfree hp hfuel' hrunning)
      | true =>
          -- only here the start counts and not where the body leads to
          rw [Outcome.stop?_settle_lookahead _ _ hp]
          cases hbody with
          | @lookahead inner wanted seen h =>
              have hinner := (hm _).answer _ hfree.lookahead _ _ h hfuel' hrunning
              have hresult : Recognizes _ _ _ (.lookahead inner wanted) _ _ :=
                .lookahead hskips hinner
              have hrunning : seen.state.isAborted = false :=
                State.isAborted_eq_false_iff.mpr hrunning
              show Recognizes _ _ _ _ _ ((if _ then _ else _ : Option Tree).map _)
              rw [hrunning, Bool.false_or]
              rcases seen with ⟨_ | tree, after⟩ <;> cases wanted <;> exact hresult
          | _ => cases hp

end Layer

theorem matchPattern_matchesAs (rules : Rules) (beyond : List Char) (layers : Nat)
    (frame : Frame) :
    MatchesAs rules beyond frame.inTrivia (matchPattern ⟨rules, beyond, none⟩ layers frame) where
  onward := fun _ _ _ h => matchPattern_onward h
  back := fun _ _ _ h ho => matchPattern_back h ho
  answer := by
    induction layers generalizing frame with
    | zero =>
        intro p _ s o h
        cases h
    | succ layers ih =>
        intro p hfree s o h hfuel hrunning
        have hinner : ∀ frame : Frame, MatchesAs rules beyond frame.inTrivia
            (matchPattern ⟨rules, beyond, none⟩ layers frame) := fun frame =>
          ⟨fun _ _ _ h => matchPattern_onward h, fun _ _ _ h ho => matchPattern_back h ho, ih frame⟩
        exact (matchOnce_eq_some_iff.mp h).recognizes hinner hfree hfuel hrunning

/-! ## Parses -/

/-- A run that nothing ends comes to what is derived. -/
theorem matchPattern_iff_recognizes {rules : Rules} {p : Pattern} (hfree : rules.TableFree p)
    {beyond : List Char} {layers : Nat} {frame : Frame} {s : State} {o : Outcome}
    (h : matchPattern ⟨rules, beyond, none⟩ layers frame p s = some o) (hfuel : s.fuel = none)
    (hrunning : o.state.aborted = none) (r : Option Cursor) :
    o.stop? = r ↔ Recognizes rules beyond frame.inTrivia p s.cursor r := by
  have hanswer := (matchPattern_matchesAs rules beyond layers frame).answer p hfree s o h
    hfuel hrunning
  constructor
  · rintro rfl
    exact hanswer
  · intro hr
    exact hanswer.unique hr

/-- A parse that nothing ends gives a tree just if a match is derived and trivia reaches
the end from there. -/
theorem parseWindow_ok_iff {rules : Rules} {p : Pattern} (hfree : rules.TableFree p)
    {layers : Nat} {start : Start} {window : Window} {report : Report}
    (hp : start.pattern? rules = some p)
    (h : parseWindow layers rules .unlimited start window = some report)
    (hfatal : report.isFatal = false) :
    (∃ tree, report.result = .ok tree) ↔
      ∃ q stop, Recognizes rules window.beyond false p window.start (some q) ∧
        SkipsTo rules window.beyond false q stop ∧ stop.ahead = [] := by
  obtain ⟨s, o, o', hstart, hfuel, hrun, htree, hcursor, hfuel', haborted, hconclude⟩ :=
    parseWindow_eq_some hp h
  have hm := matchPattern_matchesAs rules window.beyond layers
  have hunlimited : o'.state.fuel = none :=
    hfuel'.trans ((matchPattern_onward hrun).unlimited hfuel)
  have hrecognized : o'.state.aborted = none →
      Recognizes rules window.beyond false p window.start o.stop? := fun hrunning => by
    rw [haborted] at hrunning
    rw [← hstart]
    exact (hm .outermost).answer p hfree s o hrun hfuel hrunning
  -- the one place that trivia leads to from where the match ends
  have hskipped : ∀ {after : State},
      SkipRun (matchPattern ⟨rules, window.beyond, none⟩ layers) ⟨rules, window.beyond, none⟩
        .outermost o'.state after →
      after.aborted = none → o'.state.aborted = none ∧
        SkipsTo rules window.beyond false o.state.cursor after.cursor := by
    intro after hskip hrunning
    refine ⟨(hskip.along State.Onward.isCourse fun frame => (hm frame).onward).running hrunning, ?_⟩
    rw [← hcursor]
    exact hskip.skipsTo hm hfree hunlimited hrunning
  constructor
  · rintro ⟨tree, hok⟩
    cases conclude_eq_some_iff.mp hconclude with
    | missed => cases hok
    | short => cases hok
    | @reached tree' after ho' hskip hrunning hend =>
        rw [State.isAborted_eq_false_iff] at hrunning
        obtain ⟨hrunning', hskips⟩ := hskipped hskip hrunning
        have hmatch := hrecognized hrunning'
        rw [Outcome.stop?, ← htree, ho'] at hmatch
        exact ⟨_, _, hmatch, hskips, hend⟩
  · rintro ⟨q, stop, hmatch, hskips, hend⟩
    cases conclude_eq_some_iff.mp hconclude with
    | reached => exact ⟨_, rfl⟩
    | missed ho' =>
        rw [isFatal_reject, State.isAborted_eq_false_iff] at hfatal
        have hnone := hrecognized hfatal
        rw [Outcome.stop?, ← htree, ho'] at hnone
        cases hnone.unique hmatch
    | @short tree after ho' hskip hshort =>
        rw [isFatal_reject, State.isAborted_eq_false_iff, State.aborted_missToken] at hfatal
        obtain ⟨hrunning, hskips'⟩ := hskipped hskip hfatal
        have hmatch' := hrecognized hrunning
        rw [Outcome.stop?, ← htree, ho'] at hmatch'
        cases hmatch'.unique hmatch
        rw [hskips'.unique hskips] at hshort
        rcases hshort with ha | hahead
        · rw [State.isAborted_eq_false_iff.mpr hfatal] at ha
          cases ha
        · exact absurd hend hahead

/-- Blanks are trivia, and a word is one or more letters. -/
private def blankedWord : Rules :=
  .ofList [("_", .terminal (.literal " ")),
    ("word", .quantifier (.terminal (.literal "a")) 1 none)]

end OperatorPeg
