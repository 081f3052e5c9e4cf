import OperatorPeg.Pattern.Build
import OperatorPeg.Proofs.Onward

/-!
# What patterns yield

How the matches of the parts of a pattern make a match of the pattern, with the tree
that comes of it. All of it is about parses without limits that nothing has ended,
outside trivia, and about matchers with enough layers: how many is counted along.
-/

namespace OperatorPeg

/-- A parse without limits that nothing has ended stands at `c`. -/
structure State.At (s : State) (c : Cursor) : Prop where
  cursor : s.cursor = c
  unlimited : s.fuel = none
  running : s.aborted = none

namespace State.At

variable {s : State} {c : Cursor}

theorem isAborted (h : s.At c) : s.isAborted = false := isAborted_eq_false_iff.mpr h.running

theorem charge (h : s.At c) : s.charge = (true, s) := by
  rw [charge_of_unlimited h.unlimited, h.isAborted]
  rfl

theorem add (h : s.At c) (e : Event) : (s.add e).At c := ⟨h.cursor, h.unlimited, h.running⟩

theorem move (h : s.At c) (c' : Cursor) : ({ s with cursor := c' } : State).At c' :=
  ⟨rfl, h.unlimited, h.running⟩

theorem tried (h : s.At c) (frame : Frame) (t : Terminal) (matched : Option String) :
    (s.tried frame t matched).At c := by
  unfold State.tried
  split
  · exact h
  · exact h.add _

theorem missToken (h : s.At c) (frame : Frame) (o : Nat) (d : String) :
    (s.missToken frame o d).At c :=
  ⟨by rw [cursor_missToken, h.cursor], by rw [fuel_missToken, h.unlimited],
    by rw [aborted_missToken, h.running]⟩

end State.At

/-- With `n` layers or more, `f` comes to `tree?` at `c` and leaves the cursor at `c'`. -/
def Brings (f : Nat → Frame → State → Option Outcome) (n : Nat) (c : Cursor)
    (tree? : Option Tree) (c' : Cursor) : Prop :=
  ∀ layers, n ≤ layers → ∀ frame : Frame, frame.inTrivia = false → ∀ s : State, s.At c →
    ∃ s', f layers frame s = some ⟨tree?, s'⟩ ∧ s'.At c'

theorem Brings.mono {f : Nat → Frame → State → Option Outcome} {n n' : Nat} {c c' : Cursor}
    {tree? : Option Tree} (h : Brings f n c tree? c') (hn : n ≤ n') : Brings f n' c tree? c' :=
  fun layers hlayers => h layers (Nat.le_trans hn hlayers)

/-- What matching a pattern at `c` comes to. -/
abbrev Yields (setting : Setting) (n : Nat) (p : Pattern) (c : Cursor) (tree? : Option Tree)
    (c' : Cursor) : Prop :=
  Brings (fun layers frame s => matchPattern setting layers frame p s) n c tree? c'

/-- What a pattern comes to where significant text begins. -/
abbrev YieldsHere (setting : Setting) (n : Nat) (p : Pattern) (c : Cursor)
    (tree? : Option Tree) (c' : Cursor) : Prop :=
  Brings (fun layers frame s => matchBody (matchPattern setting layers) setting frame p s)
    n c tree? c'

/-- What the steps of a sequence that began at `offset` come to, after those that left the
nodes `kept`. -/
abbrev StepsYield (setting : Setting) (n : Nat) (offset : Nat) (kept : List Tree)
    (steps : List Step) (c : Cursor) (tree? : Option Tree) (c' : Cursor) : Prop :=
  Brings (fun layers frame s =>
    matchSteps (matchPattern setting layers frame) offset kept steps s) n c tree? c'

/-- What the alternatives of a choice from number `index` on come to. -/
abbrev AlternativesYield (setting : Setting) (n : Nat) (offset index : Nat)
    (alternatives : List Pattern) (c : Cursor) (tree? : Option Tree) (c' : Cursor) : Prop :=
  Brings (fun layers frame s =>
    matchAlternatives (matchPattern setting layers frame) offset index alternatives s) n c tree? c'

/-- Skipping trivia leads from `c` to `c'`. -/
def Skips (setting : Setting) (n : Nat) (c c' : Cursor) : Prop :=
  ∀ layers, n ≤ layers → ∀ frame : Frame, frame.inTrivia = false → ∀ s : State, s.At c →
    ∃ s', skipTrivia (matchPattern setting layers) setting frame s = some s' ∧ s'.At c'

section

variable {setting : Setting} {n : Nat} {p : Pattern} {c c' c'' : Cursor} {tree : Tree}
  {tree? : Option Tree}

/-! ## Layers -/

/-- A body that matches after trivia. -/
theorem Yields.matched (hp : p.isLookahead = false) (hskip : Skips setting n c c')
    (h : YieldsHere setting n p c' (some tree) c'') :
    Yields setting (n + 1) p c (some tree) c'' := by
  intro layers hlayers frame hframe s hs
  obtain ⟨k, rfl⟩ : ∃ k, layers = k + 1 := ⟨layers - 1, by omega⟩
  obtain ⟨ready, hready, hat⟩ := hskip k (by omega) frame hframe s hs
  obtain ⟨after, hafter, hat'⟩ := h k (by omega) frame hframe ready hat
  refine ⟨after, ?_, hat'⟩
  show matchOnce _ _ _ _ _ = _
  simp only [matchOnce, hs.charge, hready, hafter, Option.isNone_some, hp, Bool.or_self,
    Bool.false_eq_true, if_false]

/-- A body that fails after trivia: the cursor goes back. -/
theorem Yields.missed (hskip : Skips setting n c c')
    (h : YieldsHere setting n p c' none c'') : Yields setting (n + 1) p c none c := by
  intro layers hlayers frame hframe s hs
  obtain ⟨k, rfl⟩ : ∃ k, layers = k + 1 := ⟨layers - 1, by omega⟩
  obtain ⟨ready, hready, hat⟩ := hskip k (by omega) frame hframe s hs
  obtain ⟨after, hafter, hat'⟩ := h k (by omega) frame hframe ready hat
  refine ⟨{ after with cursor := c }, ?_, hat'.move c⟩
  show matchOnce _ _ _ _ _ = _
  simp only [matchOnce, hs.charge, hready, hafter, Option.isNone_none, Bool.true_or, if_true,
    hs.cursor]

/-- A lookahead that sees what it wants. -/
theorem Yields.lookahead {wanted : Bool} (hskip : Skips setting n c c')
    (h : Yields setting n p c' tree? c'') (hwanted : tree?.isSome = wanted) :
    Yields setting (n + 1) (.lookahead p wanted) c (some (.lookahead c'.offset tree?)) c := by
  intro layers hlayers frame hframe s hs
  obtain ⟨k, rfl⟩ : ∃ k, layers = k + 1 := ⟨layers - 1, by omega⟩
  obtain ⟨ready, hready, hat⟩ := hskip k (by omega) frame hframe s hs
  obtain ⟨after, hafter, hat'⟩ := h k (by omega) { frame with quiet := true } hframe ready hat
  have hbody : matchBody (matchPattern setting k) setting frame (.lookahead p wanted) ready
      = some ⟨some (.lookahead c'.offset tree?), { after with cursor := ready.cursor }⟩ := by
    have hrun : BodyRun (matchPattern setting k) setting frame ready (.lookahead p wanted) _ :=
      .lookahead hafter
    rw [← matchBody_eq_some_iff] at hrun
    simpa [hat'.isAborted, hwanted, hat.cursor] using hrun
  refine ⟨{ after with cursor := c }, ?_, hat'.move c⟩
  show matchOnce _ _ _ _ _ = _
  simp only [matchOnce, hs.charge, hready, hbody, Pattern.isLookahead, Bool.or_true, if_true,
    hs.cursor]

/-- A lookahead that sees what it does not want. -/
theorem Yields.lookahead_missed {wanted : Bool} (hskip : Skips setting n c c')
    (h : Yields setting n p c' tree? c'') (hwanted : tree?.isSome ≠ wanted) :
    Yields setting (n + 1) (.lookahead p wanted) c none c := by
  suffices YieldsHere setting n (.lookahead p wanted) c' none c' from .missed hskip this
  intro layers hlayers frame hframe s hs
  obtain ⟨after, hafter, hat'⟩ := h layers hlayers { frame with quiet := true } hframe s hs
  refine ⟨{ after with cursor := c' }, ?_, hat'.move c'⟩
  have hrun : BodyRun (matchPattern setting layers) setting frame s (.lookahead p wanted) _ :=
    .lookahead hafter
  rw [← matchBody_eq_some_iff] at hrun
  simpa [hwanted, hs.cursor] using hrun

/-! ## What patterns say -/

theorem YieldsHere.terminal {t : Terminal} {w : List Char}
    (h : t.matchEnd? setting.beyond c = some c') (hw : c.Passes w c') :
    YieldsHere setting n (.terminal t) c (some (.value c.offset (String.ofList w))) c' := by
  intro layers _ frame _ s hs
  have htext : s.textUpTo c' = String.ofList w := by rw [State.textUpTo, hs.cursor, hw.textUpTo]
  rw [← hs.cursor] at h
  refine ⟨{ s.tried frame t (some (String.ofList w)) with cursor := c' }, ?_, (hs.tried ..).move c'⟩
  show some (matchTerminal _ _ _ _) = _
  rw [matchTerminal_of_matched h, htext, hs.cursor]

theorem YieldsHere.terminal_missed {t : Terminal} (h : t.matchEnd? setting.beyond c = none) :
    YieldsHere setting n (.terminal t) c none c := by
  intro layers _ frame _ s hs
  rw [← hs.cursor] at h
  refine ⟨_, ?_, (hs.tried frame t none).missToken frame s.cursor.offset t.description⟩
  show some (matchTerminal _ _ _ _) = _
  rw [matchTerminal_of_missed h]

theorem YieldsHere.lookup {key : String} (hdepth : setting.depthLimit = none)
    (hget : setting.rules.get? key = some p) (h : Yields setting n p c tree? c') :
    YieldsHere setting n (.lookup key) c (tree?.map (.lookup c.offset key)) c' := by
  intro layers hlayers frame hframe s hs
  obtain ⟨after, hafter, hat⟩ := h layers hlayers { frame with depth := frame.depth + 1 } hframe
    _ (hs.add (.entered key s.cursor.offset))
  have hrun := BodyRun.lookup hget (by simp [hdepth]) hafter
  rw [← matchBody_eq_some_iff, hs.cursor] at hrun
  exact ⟨_, hrun, hat.add _⟩

theorem YieldsHere.label (name : String) (h : Yields setting n p c tree? c') :
    YieldsHere setting n (.label name p) c (tree?.map (.label c.offset name)) c' := by
  intro layers hlayers frame hframe s hs
  obtain ⟨after, hafter, hat⟩ := h layers hlayers frame hframe s hs
  have hrun : BodyRun (matchPattern setting layers) setting frame s (.label name p) _ :=
    .label hafter
  rw [← matchBody_eq_some_iff, hs.cursor] at hrun
  exact ⟨after, hrun, hat⟩

/-! ## Sequences -/

theorem StepsYield.done (offset : Nat) (kept : List Tree) (c : Cursor) :
    StepsYield setting n offset kept [] c (some (.sequence offset kept.reverse)) c :=
  fun _ _ _ _ s hs => ⟨s, rfl, hs⟩

theorem StepsYield.matched {offset : Nat} {kept : List Tree} {step : Step} {steps : List Step}
    (h : Yields setting n step.pattern c (some tree) c')
    (hrest : StepsYield setting n offset (if step.keep then tree :: kept else kept) steps c'
      tree? c'') :
    StepsYield setting n offset kept (step :: steps) c tree? c'' := by
  intro layers hlayers frame hframe s hs
  obtain ⟨s', hs', hat'⟩ := h layers hlayers frame hframe s hs
  obtain ⟨s'', hs'', hat''⟩ := hrest layers hlayers frame hframe s' hat'
  refine ⟨s'', ?_, hat''⟩
  simp only [matchSteps, hs']
  exact hs''

theorem StepsYield.missed {offset : Nat} {kept : List Tree} {step : Step} {steps : List Step}
    (h : Yields setting n step.pattern c none c') :
    StepsYield setting n offset kept (step :: steps) c none c' := by
  intro layers hlayers frame hframe s hs
  obtain ⟨s', hs', hat'⟩ := h layers hlayers frame hframe s hs
  exact ⟨s', by simp only [matchSteps, hs'], hat'⟩

theorem YieldsHere.sequence {steps : List Step}
    (h : StepsYield setting n c.offset [] steps c tree? c') :
    YieldsHere setting n (.sequence steps) c tree? c' := by
  intro layers hlayers frame hframe s hs
  obtain ⟨s', hs', hat'⟩ := h layers hlayers frame hframe s hs
  rw [← hs.cursor] at hs'
  exact ⟨s', hs', hat'⟩

/-! ## Choices -/

theorem AlternativesYield.exhausted (offset index : Nat) (c : Cursor) :
    AlternativesYield setting n offset index [] c none c :=
  fun _ _ _ _ s hs => ⟨s, rfl, hs⟩

theorem AlternativesYield.chosen {offset index : Nat} {ps : List Pattern}
    (h : Yields setting n p c (some tree) c') :
    AlternativesYield setting n offset index (p :: ps) c (some (.choice offset index tree)) c' := by
  intro layers hlayers frame hframe s hs
  obtain ⟨s', hs', hat'⟩ := h layers hlayers frame hframe s hs
  exact ⟨s', by simp only [matchAlternatives, hs'], hat'⟩

theorem AlternativesYield.missed {offset index : Nat} {ps : List Pattern}
    (h : Yields setting n p c none c)
    (hrest : AlternativesYield setting n offset (index + 1) ps c tree? c') :
    AlternativesYield setting n offset index (p :: ps) c tree? c' := by
  intro layers hlayers frame hframe s hs
  obtain ⟨s', hs', hat'⟩ := h layers hlayers frame hframe s hs
  obtain ⟨s'', hs'', hat''⟩ :=
    hrest layers hlayers frame hframe _ (hat'.add (.backtracked index offset))
  refine ⟨s'', ?_, hat''⟩
  simp only [matchAlternatives, hs', hat'.isAborted, Bool.false_eq_true, if_false]
  exact hs''

theorem YieldsHere.choice {alternatives : List Pattern}
    (h : AlternativesYield setting n c.offset 0 alternatives c tree? c') :
    YieldsHere setting n (.choice alternatives) c tree? c' := by
  intro layers hlayers frame hframe s hs
  obtain ⟨s', hs', hat'⟩ := h layers hlayers frame hframe s hs
  rw [← hs.cursor] at hs'
  exact ⟨s', hs', hat'⟩

/-! ## Repetitions -/

/-- One optional round that matches. -/
theorem YieldsHere.oneRound (h : Yields setting n p c (some tree) c') :
    YieldsHere setting n p.optional c (some (.quantifier c.offset [tree])) c' := by
  intro layers hlayers frame hframe s hs
  obtain ⟨s', hs', hat'⟩ := h layers hlayers frame hframe s hs
  refine ⟨s', ?_, hat'⟩
  simp only at hs'
  show matchQuantifier (matchPattern setting layers frame p) 0 (some 1) s = _
  simp [matchQuantifier, matchUpTo, hs', hat'.isAborted, hs.cursor]

/-- One optional round that does not match. -/
theorem YieldsHere.noRound (h : Yields setting n p c none c) :
    YieldsHere setting n p.optional c (some (.quantifier c.offset [])) c := by
  intro layers hlayers frame hframe s hs
  obtain ⟨s', hs', hat'⟩ := h layers hlayers frame hframe s hs
  refine ⟨s', ?_, hat'⟩
  simp only at hs'
  show matchQuantifier (matchPattern setting layers frame p) 0 (some 1) s = _
  simp [matchQuantifier, matchUpTo, hs', hat'.isAborted, hs.cursor]

/-- Rounds that move the cursor, one after the other, up to one that fails. -/
inductive RoundsYield (setting : Setting) (n : Nat) (p : Pattern) :
    Cursor → List Tree → Cursor → Prop
  | missed {c : Cursor} : Yields setting n p c none c → RoundsYield setting n p c [] c
  | matched {c c' c'' : Cursor} {tree : Tree} {trees : List Tree} :
      Yields setting n p c (some tree) c' → c'.offset ≠ c.offset →
      RoundsYield setting n p c' trees c'' → RoundsYield setting n p c (tree :: trees) c''

/-- A round that matches moves onward. -/
theorem Brings.reaches (h : Yields setting n p c tree? c') : c.Reaches c' := by
  obtain ⟨s', hs', hat'⟩ := h n (Nat.le_refl n) .outermost rfl (.start c none) ⟨rfl, rfl, rfl⟩
  have honward := (matchPattern_onward hs').cursor
  rwa [hat'.cursor] at honward

theorem RoundsYield.run {trees : List Tree} (h : RoundsYield setting n p c trees c')
    {layers : Nat} (hlayers : n ≤ layers) {frame : Frame} (hframe : frame.inTrivia = false)
    {r : Rounds} (hr : r.state.At c) {budget : List Char}
    (hbudget : c.ahead.length ≤ budget.length) :
    ∃ r', WhileRun (matchPattern setting layers frame p) budget r r' ∧ r'.state.At c' ∧
      r'.count = r.count + trees.length ∧ r'.nodes = trees.reverse ++ r.nodes := by
  induction h generalizing r budget with
  | missed h =>
      obtain ⟨s', hs', hat'⟩ := h layers hlayers frame hframe r.state hr
      exact ⟨_, .missed hs', hat', rfl, rfl⟩
  | @matched c c₁ _ tree trees h hmoved _ ih =>
      obtain ⟨s', hs', hat'⟩ := h layers hlayers frame hframe r.state hr
      have hshorter := h.reaches.length_lt hmoved
      cases budget with
      | nil => simp only [List.length_nil] at hbudget; omega
      | cons ch budget =>
          simp only [List.length_cons] at hbudget
          obtain ⟨r', hrun, hat'', hcount, hnodes⟩ :=
            @ih ⟨r.count + 1, tree :: r.nodes, s'⟩ hat' budget (by omega)
          have hmoved' : s'.cursor.offset ≠ r.state.cursor.offset := by
            rwa [hat'.cursor, hr.cursor]
          refine ⟨r', .matched hs' hmoved' hrun, hat'', ?_, ?_⟩
          · rw [hcount, List.length_cons, Nat.add_right_comm, Nat.add_assoc]
          · rw [hnodes, List.reverse_cons, List.append_assoc]
            rfl

theorem RoundsYield.roundsRun {trees : List Tree} (h : RoundsYield setting n p c trees c')
    {layers : Nat} (hlayers : n ≤ layers) {frame : Frame} (hframe : frame.inTrivia = false)
    {s : State} (hs : s.At c) :
    ∃ r, RoundsRun (matchPattern setting layers frame p) none s r ∧ r.state.At c' ∧
      r.count = trees.length ∧ r.nodes = trees.reverse := by
  have hbudget : c.ahead.length ≤ s.cursor.ahead.length := Nat.le_of_eq (by rw [hs.cursor])
  obtain ⟨r, hrun, hat, hcount, hnodes⟩ :=
    RoundsYield.run h hlayers hframe (show (Rounds.mk 0 [] s).state.At c from hs) hbudget
  exact ⟨r, hrun, hat, by rw [hcount, Nat.zero_add], by rw [hnodes, List.append_nil]⟩

/-- An unbounded repetition yields its rounds, if there are enough. -/
theorem YieldsHere.quantifier {least : Nat} {trees : List Tree}
    (h : RoundsYield setting n p c trees c') (hleast : least ≤ trees.length) :
    YieldsHere setting n (.quantifier p least none) c
      (some (.quantifier c.offset trees)) c' := by
  intro layers hlayers frame hframe s hs
  obtain ⟨r, hrun, hat, hcount, hnodes⟩ := h.roundsRun hlayers hframe hs
  have henough : ¬ r.count < least := by omega
  refine ⟨r.state, matchQuantifier_eq_some_iff.mpr ⟨r, hrun, ?_⟩, hat⟩
  simp [Rounds.outcome, hat.isAborted, henough, hnodes, hs.cursor]

/-! ## Trivia -/

/-- Trivia that is a single terminal. -/
theorem Skips.terminal {t : Terminal} (htrivia : setting.rules.trivia? = some (.terminal t))
    (h : t.matchEnd? setting.beyond c = some c') : Skips setting 1 c c' := by
  intro layers hlayers frame hframe s hs
  obtain ⟨k, rfl⟩ : ∃ k, layers = k + 1 := ⟨layers - 1, by omega⟩
  rw [← hs.cursor] at h
  let inside : Frame := { frame with inTrivia := true, quiet := true }
  refine ⟨{ s.tried inside t (some (s.textUpTo c')) with cursor := c' }, ?_,
    (hs.tried inside t _).move c'⟩
  simp only [skipTrivia, hframe, Bool.false_eq_true, if_false, htrivia, matchPattern, matchOnce,
    hs.charge, if_true, matchBody, matchTerminal_of_matched h]
  rfl

end

end OperatorPeg
