import OperatorPeg.Proofs.ParseRuns
import OperatorPeg.Proofs.References
import OperatorPeg.Proofs.Termination

/-!
# Bounded parses come to an end

The loops of a parse end by themselves; only rules that enter one another could go on
for ever. A limit on depth bounds how many of them are inside one another, and between
two of them lie no more patterns than the highest rule has levels. A limit on fuel
bounds the patterns themselves, each of which pays before what is inside it is tried.
-/

namespace OperatorPeg

/-! ## Heights -/

namespace Pattern

theorem height_le_heightOfSteps {steps : List Step} {step : Step} (h : step ∈ steps) :
    step.pattern.height ≤ heightOfSteps steps := by
  induction steps with
  | nil => cases h
  | cons first steps ih =>
      obtain ⟨keep, p⟩ := first
      rw [heightOfSteps]
      cases h with
      | head => exact Nat.le_max_left _ _
      | tail _ h => exact Nat.le_trans (ih h) (Nat.le_max_right _ _)

theorem height_le_heightOfAll {ps : List Pattern} {p : Pattern} (h : p ∈ ps) :
    p.height ≤ heightOfAll ps := by
  induction ps with
  | nil => cases h
  | cons first ps ih =>
      rw [heightOfAll]
      cases h with
      | head => exact Nat.le_max_left _ _
      | tail _ h => exact Nat.le_trans (ih h) (Nat.le_max_right _ _)

theorem height_le_heightOfOperators {ops : List Operator} {op : Operator} (h : op ∈ ops) :
    op.pattern.height ≤ heightOfOperators ops := by
  induction ops with
  | nil => cases h
  | cons first ops ih =>
      obtain ⟨name, left, right, p⟩ := first
      rw [heightOfOperators]
      cases h with
      | head => exact Nat.le_max_left _ _
      | tail _ h => exact Nat.le_trans (ih h) (Nat.le_max_right _ _)

theorem height_pos (p : Pattern) : 0 < p.height := by
  cases p <;> simp only [height] <;> omega

/-- A part of a pattern is not as high as the pattern. -/
theorem height_lt_of_mem_parts {p inner : Pattern} (h : inner ∈ p.parts) :
    inner.height < p.height := by
  cases p with
  | terminal | lookup => cases h
  | sequence steps =>
      obtain ⟨step, hstep, rfl⟩ := List.mem_map.mp h
      exact Nat.lt_succ_of_le (height_le_heightOfSteps hstep)
  | choice alternatives => exact Nat.lt_succ_of_le (height_le_heightOfAll h)
  | quantifier | label | lookahead =>
      cases List.mem_singleton.mp h
      exact Nat.lt_succ_self _
  | table operators =>
      obtain ⟨op, hop, rfl⟩ := List.mem_map.mp h
      exact Nat.lt_succ_of_le (height_le_heightOfOperators hop)

end Pattern

namespace Rules

variable {rules : Rules}

theorem height_le_of_mem {entry : String × Pattern} (h : entry ∈ rules.entries) :
    entry.2.height ≤ rules.height := by
  -- what has been folded in so far varies
  have hfold : ∀ (entries : List (String × Pattern)) (most : Nat),
      most ≤ entries.foldl (fun most entry => max most entry.2.height) most ∧
        ∀ entry ∈ entries,
          entry.2.height ≤ entries.foldl (fun most entry => max most entry.2.height) most := by
    intro entries
    induction entries with
    | nil => exact fun most => ⟨Nat.le_refl most, nofun⟩
    | cons first entries ih =>
        intro most
        obtain ⟨hmost, hall⟩ := ih (max most first.2.height)
        exact ⟨Nat.le_trans (Nat.le_max_left _ _) hmost,
          List.forall_mem_cons.mpr ⟨Nat.le_trans (Nat.le_max_right _ _) hmost, hall⟩⟩
  exact (hfold rules.entries 0).2 entry h

theorem height_le_of_get? {key : String} {p : Pattern} (h : rules.get? key = some p) :
    p.height ≤ rules.height := height_le_of_mem (mem_entries_of_get? h)

end Rules

/-- No pattern that a parse begins with is as high as what `layersFor` reckons with. -/
theorem Start.height_le {rules : Rules} {start : Start} {p : Pattern}
    (h : start.pattern? rules = some p) : p.height ≤ max rules.height start.height := by
  cases start with
  | rule name => exact Nat.le_trans (Rules.height_le_of_get? h) (Nat.le_max_left _ _)
  | pattern q =>
      cases h
      exact Nat.le_max_right _ _

/-! ## A limit on depth -/

/-- How many more rules may be entered within one another. Trivia counts as one of them where
it may still be skipped. -/
def Frame.remaining (frame : Frame) (most : Nat) : Nat :=
  most - frame.depth + if frame.inTrivia then 0 else 1

theorem answers_of_remaining {setting : Setting} {most : Nat}
    (hlimit : setting.depthLimit = some most) (n : Nat) (frame : Frame) (p : Pattern)
    (hn : p.height + frame.remaining most * setting.rules.height ≤ n) :
    AnswersIn (matchPattern setting n frame) .everywhere p := by
  have hpos := p.height_pos
  induction n generalizing frame p with
  | zero => omega
  | succ n ih =>
      intro s _
      refine matchOnce_answers (matchPattern_along State.Proceeds.isCourse setting n) .everywhere
        (skips_of_trivia .everywhere fun hin trivia htrivia => ?_) ?_ ?_ fun _ _ => trivial
      · have hheight := Rules.height_le_of_get? htrivia
        refine ih _ trivia ?_ trivia.height_pos
        simp only [Frame.remaining, hin, Bool.false_eq_true, if_false, if_true, Nat.add_zero,
          Nat.add_mul, Nat.one_mul] at hn ⊢
        omega
      · intro inner hinner frame' htrivia hdepth
        have hheight := Pattern.height_lt_of_mem_parts hinner
        refine ih frame' inner ?_ inner.height_pos
        simp only [Frame.remaining, htrivia, hdepth] at hn ⊢
        omega
      · intro key q hp hget hdepth
        have hheight := Rules.height_le_of_get? hget
        have hless : frame.depth < most := by simpa [hlimit] using hdepth
        have hone : frame.remaining most =
            Frame.remaining { frame with depth := frame.depth + 1 } most + 1 := by
          simp only [Frame.remaining]
          omega
        refine ih _ q ?_ q.height_pos
        rw [hone, Nat.add_mul, Nat.one_mul] at hn
        omega

/-! ## A limit on fuel -/

theorem State.fueled_of_charge {s charged : State} {fuel : Nat}
    (hs : (Region.fueled (fuel + 1)).holds s) (h : s.charge = (true, charged)) :
    (Region.fueled fuel).holds charged := by
  obtain ⟨n, hn, hfuel⟩ := hs
  unfold State.charge at h
  split at h
  · cases h
  · rw [hfuel] at h
    cases n with
    | zero => cases h
    | succ n =>
        cases h
        exact ⟨n, Nat.le_of_succ_le_succ hn, rfl⟩

/-- Each layer pays for itself, so there are enough of them for what is left inside. -/
theorem answers_of_fuel (setting : Setting) (fuel : Nat) (frame : Frame) (p : Pattern) :
    AnswersIn (matchPattern setting (fuel + 1) frame) (.fueled fuel) p := by
  induction fuel generalizing frame p with
  | zero =>
      rintro s ⟨n, hn, hfuel⟩
      cases Nat.le_zero.mp hn
      have hunpaid : s.charge.1 = false := by
        unfold State.charge
        rw [hfuel]
        split <;> rfl
      exact ⟨_, matchOnce_eq_some_iff.mpr (.unpaid (Prod.ext hunpaid rfl))⟩
  | succ fuel ih =>
      intro s hs
      exact matchOnce_answers (matchPattern_along State.Proceeds.isCourse setting (fuel + 1))
        (.fueled fuel) (skips_of_trivia (.fueled fuel) fun _ trivia _ => ih _ trivia)
        (fun inner _ frame' _ _ => ih frame' inner) (fun key q _ _ _ => ih _ q)
        fun charged => State.fueled_of_charge hs

/-! ## Parses -/

theorem Region.enter (region : Region) (start : Start) {s : State} (hs : region.holds s) :
    region.holds (start.enter s) := by
  cases start with
  | pattern => exact hs
  | rule => exact region.closed hs (.add _)

theorem Region.leave (region : Region) (start : Start) {o : Outcome}
    (ho : region.holds o.state) : region.holds (start.leave o).state := by
  cases start with
  | pattern => exact ho
  | rule => exact region.closed ho (.add _)

/-- A parse comes to something if its start pattern and its trivia do. -/
theorem parseWindow_answers {layers : Nat} {rules : Rules} {limits : Limits} {start : Start}
    {window : Window} (region : Region)
    (hstart : region.holds (State.start window.start limits.fuel))
    (h : ∀ frame p, frame.depth = 0 → p.height ≤ max rules.height start.height →
      AnswersIn (matchPattern ⟨rules, window.beyond, limits.depth⟩ layers frame) region p) :
    ∃ report, parseWindow layers rules limits start window = some report := by
  cases hp : start.pattern? rules with
  | none =>
      obtain ⟨name, hundefined⟩ := parseWindow_of_undefined hp
      exact ⟨_, hundefined layers limits window⟩
  | some p =>
      have hentered := region.enter start hstart
      obtain ⟨o, ho⟩ := h .outermost p rfl (Start.height_le hp) _ hentered
      have hleft := region.leave start (region.closed hentered
        (matchPattern_along State.Proceeds.isCourse _ _ _ _ _ _ ho))
      rw [parseWindow_of_defined hp, ho]
      refine conclude_of_skipRun (skips_of_trivia region (fun _ trivia htrivia => ?_) _ hleft)
      exact h _ trivia rfl
        (Nat.le_trans (Rules.height_le_of_get? htrivia) (Nat.le_max_left _ _))

/-- The layers that a parse is given are enough for its limit on depth. -/
theorem le_layersFor_of_depth {rules : Rules} {limits : Limits} {start : Start} {source : String}
    {most : Nat} (h : limits.depth = some most) {height : Nat}
    (hheight : height ≤ max rules.height start.height) :
    height + (most + 1) * rules.height ≤ layersFor rules limits start source := by
  have hcalls : most + 2 ≤
      2 * (rules.size + 1) * (source.length + 1) + 2 * limits.depth.getD 0 + 2 := by
    rw [h, Option.getD_some]
    omega
  have hrules : rules.height ≤ max rules.height start.height := Nat.le_max_left _ _
  unfold layersFor
  refine Nat.le_trans ?_ (Nat.le_add_right _ _)
  calc height + (most + 1) * rules.height
      ≤ max rules.height start.height + (most + 1) * max rules.height start.height :=
        Nat.add_le_add hheight (Nat.mul_le_mul_left _ hrules)
    _ = max rules.height start.height * (most + 2) := by
        rw [Nat.mul_comm _ (most + 2), Nat.succ_mul (most + 1), Nat.add_comm]
    _ ≤ _ := Nat.mul_le_mul (Nat.le_succ _) hcalls

/-- The layers that a parse is given are enough for its limit on fuel. -/
theorem lt_layersFor_of_fuel {rules : Rules} {limits : Limits} {start : Start} {source : String}
    {fuel : Nat} (h : limits.fuel = some fuel) :
    fuel + 1 ≤ layersFor rules limits start source := by
  unfold layersFor
  rw [h, Option.getD_some, Nat.add_comm]
  exact Nat.add_le_add_right (Nat.mul_pos (Nat.succ_pos _) (Nat.succ_pos _)) fuel

/-- The layers that a parse is given are enough for its limits. -/
theorem parseRange_of_bounded (rules : Rules) {limits : Limits} (start : Start)
    (source : String) (first last : Nat)
    (hbounded : limits.fuel.isSome = true ∨ limits.depth.isSome = true) :
    ∃ report, parseRange rules limits start source first last = some report := by
  rcases hbounded with hfuel | hdepth
  · obtain ⟨fuel, hfuel⟩ := Option.isSome_iff_exists.mp hfuel
    obtain ⟨layers, hlayers⟩ := Nat.exists_eq_add_of_le (lt_layersFor_of_fuel hfuel)
    show ∃ report, parseWindow (layersFor rules limits start source) _ _ _ _ = _
    rw [hlayers, Nat.add_right_comm]
    exact parseWindow_answers (.fueled (fuel + layers))
      ⟨fuel, Nat.le_add_right _ _, hfuel⟩ fun frame p _ _ => answers_of_fuel _ _ frame p
  · obtain ⟨most, hdepth⟩ := Option.isSome_iff_exists.mp hdepth
    refine parseWindow_answers .everywhere trivial fun frame p hframe hheight => ?_
    have hremaining : frame.remaining most ≤ most + 1 := by
      unfold Frame.remaining
      split <;> omega
    exact answers_of_remaining hdepth _ frame p
      (Nat.le_trans (Nat.add_le_add_left (Nat.mul_le_mul_right _ hremaining) _)
        (le_layersFor_of_depth hdepth hheight))

/-- So many layers that the limit on fuel, or the one on depth, does not let a match run out
of them. -/
theorem matchPattern_of_bounded {setting : Setting} (frame : Frame) (p : Pattern) {s : State}
    (hbounded : s.fuel.isSome = true ∨ setting.depthLimit.isSome = true) :
    ∃ layers o, matchPattern setting layers frame p s = some o := by
  rcases hbounded with hfuel | hdepth
  · obtain ⟨fuel, hfuel⟩ := Option.isSome_iff_exists.mp hfuel
    exact ⟨fuel + 1, answers_of_fuel setting fuel frame p s ⟨fuel, Nat.le_refl _, hfuel⟩⟩
  · obtain ⟨most, hdepth⟩ := Option.isSome_iff_exists.mp hdepth
    exact ⟨_, answers_of_remaining hdepth _ frame p (Nat.le_refl _) s trivial⟩

/-- **Bounded parses come to an end.** With a limit on fuel or on depth a parse comes to a
report, whatever the rules are, and so does matching any pattern from any state that is within
such a limit. The loops need no limit for that: a repetition without an upper bound ends if
what it repeats does, and an expression if its operators and trivia do. -/
theorem bounded_parses_terminate (rules : Rules) (limits : Limits) (start : Start)
    (source : String) (first last : Nat)
    (hbounded : limits.fuel.isSome = true ∨ limits.depth.isSome = true) :
    (∃ report, parseRange rules limits start source first last = some report) ∧
    (∀ beyond frame p s, s.fuel.isSome = true ∨ limits.depth.isSome = true →
      ∃ layers o, matchPattern ⟨rules, beyond, limits.depth⟩ layers frame p s = some o) ∧
    (∀ setting layers frame s,
      (∀ p least, AnswersIn (matchPattern setting layers frame) (.after s) p →
        ∃ o, matchQuantifier (matchPattern setting layers frame p) least none s = some o) ∧
      (∀ operators,
        (∀ op ∈ operators, ∀ probe,
          AnswersIn (matchPattern setting layers { frame with probe }) (.after s) op.pattern) →
        (∀ s', s.Proceeds s' → ∃ s'', skipTrivia (matchPattern setting layers) setting frame s'
          = some s'') →
        ∃ o, matchExpression ⟨matchPattern setting layers,
          peekPastTrivia (matchPattern setting layers) setting frame, frame, operators⟩ s
          = some o)) := by
  refine ⟨parseRange_of_bounded rules start source first last hbounded,
    fun _ frame p s hs => matchPattern_of_bounded frame p hs, fun setting layers frame s => ?_⟩
  have hm := matchPattern_along State.Proceeds.isCourse setting layers
  refine ⟨fun p least hp => ?_, fun operators hoperators hskip => ?_⟩
  · obtain ⟨r, hr⟩ := rounds_answer (hm frame) hp none (State.Proceeds.refl s)
    exact ⟨_, matchQuantifier_eq_some_iff.mpr ⟨r, hr, rfl⟩⟩
  · simp only [skipTrivia_eq_some_iff] at hskip
    obtain ⟨ms, o, hrun⟩ := expression_answers hm (.after s) hskip
      (fun probe op hop => hoperators op hop probe) (State.Proceeds.refl s)
    exact ⟨o, matchExpression_eq_some_iff.mpr ⟨ms, hrun⟩⟩

/-- An expression may begin with itself, and its operators may be empty. -/
private def selfReferring : Rules :=
  .ofList [("sum", .choice [.sequence [⟨true, .lookup "sum"⟩, ⟨true, .terminal (.literal "+")⟩],
      .table [⟨"nothing", none, none, .terminal (.literal "")⟩,
        ⟨"beside", some 1, some 1, .terminal (.literal "")⟩]])]

theorem bounded_parses_terminate_sample :
    (∃ report, parseRange selfReferring ⟨none, some 3⟩ (.rule "sum") "1+" 0 2 = some report) ∧
      ∃ report, parseRange selfReferring ⟨some 9, none⟩ (.rule "sum") "1+" 0 2 = some report :=
  ⟨(bounded_parses_terminate selfReferring ⟨none, some 3⟩ (.rule "sum") "1+" 0 2 (.inr rfl)).1,
    (bounded_parses_terminate selfReferring ⟨some 9, none⟩ (.rule "sum") "1+" 0 2 (.inl rfl)).1⟩

end OperatorPeg
