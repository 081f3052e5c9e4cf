import OperatorPeg.Proofs.Past
import OperatorPeg.Proofs.Probing
import OperatorPeg.Proofs.Significance

/-!
# Starting by name and by reference

To parse from a rule is to parse from a reference to it, without the node for the reference.
A reference skips trivia before the rule does, enters the rule one deeper, and goes back to
where it began if the rule does. Where a second skip never moves, it finds nothing if it comes to
its end; how deep rules are nested is not read without a limit; and what happened before the
rule is matched is told behind it, with no failure in it.

A rule that is itself a lookahead goes back behind the trivia that the reference has skipped
already, so the two parses conclude from different places, from which trivia leads to the same.

A second skip that does not move may end the parse instead, or come to nothing. Most rules skip
again themselves and come to the same then. A terminal does not, and neither do the few patterns
that try nothing and fail: the parse from such a rule goes on where the one from a reference ends.
-/

namespace OperatorPeg

/-! ## What a report tells of a state -/

/-- What a report can tell of a state: where the cursor is, what has ended the parse and which
failures there were. -/
def State.seen (s : State) : Cursor × Option (Nat × Abort) × List Failure :=
  (s.cursor, s.aborted, s.failures)

theorem State.seen_eq_iff {s t : State} :
    s.seen = t.seen ↔ s.cursor = t.cursor ∧ s.aborted = t.aborted ∧ s.failures = t.failures := by
  simp only [seen, Prod.mk.injEq]

theorem reportedError_congr {s t : State} (h : s.seen = t.seen) :
    reportedError s = reportedError t := by
  obtain ⟨hcursor, haborted, hfailures⟩ := State.seen_eq_iff.mp h
  rw [State.failures, State.failures] at hfailures
  simp only [reportedError, hcursor, haborted, hfailures]

theorem State.seen_missToken {s t : State} (h : s.seen = t.seen) (frame : Frame) (o : Nat)
    (description : String) :
    (s.missToken frame o description).seen = (t.missToken frame o description).seen := by
  obtain ⟨hcursor, haborted, hfailures⟩ := seen_eq_iff.mp h
  refine seen_eq_iff.mpr ⟨by simp [hcursor], by simp [haborted], ?_⟩
  have hs := Misses.missToken s frame o description
  have ht := Misses.missToken t frame o description
  rw [Misses] at hs ht
  rw [hs, ht, hfailures]

/-- Two matches are concluded alike, but for what `f` makes of the tree, if what is seen is the
same: of a failed match now, of another one behind the trivia that follows. -/
theorem conclude_congr {m : Matcher} {setting : Setting} {o o' : Outcome} {f : Tree → Tree}
    (htree : o'.tree? = o.tree?.map f) (hmissed : o.tree? = none → o'.state.seen = o.state.seen)
    (hskip : o.tree?.isSome → (skipTrivia m setting .outermost o'.state).map State.seen
      = (skipTrivia m setting .outermost o.state).map State.seen) :
    (conclude m setting o').map (·.result) = (conclude m setting o).map (·.result.map f) := by
  cases h : o.tree? with
  | none =>
      rw [h, Option.map_none] at htree
      simp only [conclude, h, htree, Option.map_some, reject, reportedError_congr (hmissed h)]
      rfl
  | some tree =>
      rw [h, Option.map_some] at htree
      simp only [conclude, h, htree]
      have hseen := hskip (by simp [h])
      cases hs : skipTrivia m setting .outermost o.state with
      | none =>
          rw [hs, Option.map_none, Option.map_eq_none_iff] at hseen
          rw [hseen]
          rfl
      | some s =>
          rw [hs, Option.map_some] at hseen
          obtain ⟨s', hs', hsame⟩ := Option.map_eq_some_iff.mp hseen
          obtain ⟨hcursor, haborted, -⟩ := State.seen_eq_iff.mp hsame
          have hend : s'.isAborted = s.isAborted := by
            rw [State.isAborted, State.isAborted, haborted]
          simp only [hs', hend, hcursor]
          split
          · rfl
          · have herror := reportedError_congr
              (State.seen_missToken hsame .outermost s.cursor.offset endOfInput)
            simp only [Option.map_some, reject, herror]
            rfl

/-! ## Without limits -/

section

variable {rules : Rules} {beyond : List Char}

/-- Matching what the pattern says at the cursor, without limits and without a past. -/
def bodyFrom (layers : Nat) (rules : Rules) (beyond : List Char) (p : Pattern) (c : Cursor) :
    Option Outcome :=
  matchBody (matchPattern ⟨rules, beyond, none⟩ layers) ⟨rules, beyond, none⟩ .outermost p
    (.start c none)

theorem failures_skipFrom {layers : Nat} {c : Cursor} {s : State}
    (h : skipFrom layers rules beyond c = some s) : s.failures = [] :=
  failures_skipTrivia rfl h rfl

/-- A state that goes on without a limit on fuel is one without a past, but for the past. -/
theorem State.recall_start {s : State} (hfuel : s.fuel = none) (hrunning : s.aborted = none) :
    (State.start s.cursor none).recall s.events = s := by
  obtain ⟨cursor, fuel, aborted, events⟩ := s
  cases hfuel
  cases hrunning
  rfl

theorem skipTrivia_eq_skipFrom (rules : Rules) (beyond : List Char) (layers depth : Nat)
    {s : State} (hfuel : s.fuel = none) (hrunning : s.aborted = none) :
    skipTrivia (matchPattern ⟨rules, beyond, none⟩ layers) ⟨rules, beyond, none⟩
        { Frame.outermost with depth } s
      = (skipFrom layers rules beyond s.cursor).map (State.recall s.events) := by
  have h := skipTrivia_recall ⟨rules, beyond, none⟩ rfl layers .outermost depth
    (.start s.cursor none) s.events
  rwa [State.recall_start hfuel hrunning] at h

/-- Behind trivia a pattern does what it says, whatever happened before. -/
theorem matchPattern_eq_bodyFrom (rules : Rules) (beyond : List Char) (layers depth : Nat)
    (p : Pattern) {s ready : State}
    (hfuel : s.fuel = none) (hrunning : s.aborted = none)
    (hskip : skipFrom layers rules beyond s.cursor = some ready)
    (hready : ready.aborted = none) (hunlimited : ready.fuel = none) :
    matchPattern ⟨rules, beyond, none⟩ (layers + 1) { Frame.outermost with depth } p s
      = (bodyFrom layers rules beyond p ready.cursor).map fun o =>
          (o.retell (· ++ (ready.events ++ s.events))).settle p s.cursor := by
  have hcharge := State.charge_of_running hfuel hrunning
  have hbody := matchBody_recall ⟨rules, beyond, none⟩ rfl layers .outermost depth
    (.start ready.cursor none) p (ready.events ++ s.events)
  have hsame : (State.start ready.cursor none).recall (ready.events ++ s.events)
      = ready.recall s.events :=
    congrArg (State.recall s.events) (State.recall_start hunlimited hready)
  rw [hsame] at hbody
  simp only [matchPattern, matchOnce, hcharge,
    skipTrivia_eq_skipFrom rules beyond layers depth hfuel hrunning, hskip, Option.map_some, hbody]
  simp only [bodyFrom]
  rcases matchBody (matchPattern ⟨rules, beyond, none⟩ layers) ⟨rules, beyond, none⟩ .outermost p
    (.start ready.cursor none) with _ | o
  · rfl
  · simp only [Option.map_some, Outcome.settle]
    split <;> rfl

theorem unlimited_skipFrom {layers : Nat} {c : Cursor} {s : State}
    (h : skipFrom layers rules beyond c = some s) : s.fuel = none := by
  obtain ⟨_, -, halike⟩ := SkipRun.alike (matchPattern_ignoresHistory rfl layers) rfl
    (skipTrivia_eq_some_iff.mp h) (t := .start c none) ⟨rfl, rfl, rfl, rfl⟩
  exact halike.unlimited

theorem unlimited_bodyFrom {layers : Nat} {p : Pattern} {c : Cursor} {o : Outcome}
    (h : bodyFrom layers rules beyond p c = some o) : o.state.fuel = none := by
  obtain ⟨_, -, halike⟩ := BodyRun.alike (matchPattern_ignoresHistory rfl layers) rfl rfl
    (matchBody_eq_some_iff.mp h) (t := .start c none) ⟨rfl, rfl, rfl, rfl⟩
  exact halike.state.unlimited

/-- A lookahead that succeeds has not ended the parse. -/
theorem aborted_bodyFrom_of_isLookahead {layers : Nat} {p : Pattern} {c : Cursor} {o : Outcome}
    (h : bodyFrom layers rules beyond p c = some o) (hp : p.isLookahead = true)
    (htree : o.tree?.isSome) : o.state.aborted = none := by
  cases matchBody_eq_some_iff.mp h with
  | @lookahead inner wanted o hinner =>
      simp only at htree ⊢
      cases hend : o.state.isAborted with
      | false => exact State.isAborted_eq_false_iff.mp hend
      | true => simp [hend] at htree
  | _ => cases hp

/-- Two states from which the same is seen are the same behind trivia. -/
theorem skipTrivia_seen (layers : Nat) {s t : State} (h : s.seen = t.seen)
    (hfuel : s.fuel = t.fuel) :
    (skipTrivia (matchPattern ⟨rules, beyond, none⟩ layers) ⟨rules, beyond, none⟩ .outermost
        s).map State.seen
      = (skipTrivia (matchPattern ⟨rules, beyond, none⟩ layers) ⟨rules, beyond, none⟩ .outermost
          t).map State.seen := by
  obtain ⟨hcursor, haborted, hfailures⟩ := State.seen_eq_iff.mp h
  have hfresh : s.fresh = t.fresh := by
    rw [State.fresh, State.fresh, hcursor, haborted, hfuel]
  have hs := skipTrivia_recall ⟨rules, beyond, none⟩ rfl layers .outermost 0 s.fresh s.events
  have ht := skipTrivia_recall ⟨rules, beyond, none⟩ rfl layers .outermost 0 t.fresh t.events
  rw [State.recall_fresh] at hs ht
  rw [show Frame.outermost = { Frame.outermost with depth := 0 } from rfl, hs, ht, hfresh,
    Option.map_map, Option.map_map]
  refine congrArg (Option.map · _) (funext fun after => State.seen_eq_iff.mpr ⟨rfl, rfl, ?_⟩)
  exact (State.failures_recall s.events after).trans
    ((congrArg (· ++ _) hfailures).trans (State.failures_recall t.events after).symm)

/-! ## The two matches -/

/-- What a reference makes of what its rule came to. -/
def Outcome.referred (name : String) (offset : Nat) (o : Outcome) : Outcome :=
  ⟨o.tree?.map (.lookup offset name),
    o.state.add (.left name (o.tree?.map fun _ => o.state.cursor.offset))⟩

theorem matchLookup_eq {m : Matcher} (setting : Setting) (hdepth : setting.depthLimit = none)
    {name : String} {p : Pattern} (hget : setting.rules.get? name = some p) (frame : Frame)
    (s : State) :
    matchLookup m setting frame name s
      = (m { frame with depth := frame.depth + 1 } p
          (s.add (.entered name s.cursor.offset))).map (Outcome.referred name s.cursor.offset) := by
  simp only [matchLookup, hget, hdepth, Option.any_none, Bool.false_eq_true, if_false]
  rcases m { frame with depth := frame.depth + 1 } p (s.add (.entered name s.cursor.offset))
    with _ | ⟨_ | child, s'⟩ <;> rfl

/-- What the rule says, matched behind the first skip as a parse that starts with it does. -/
def byName (name : String) (p : Pattern) (c : Cursor) (before : List Event) (o : Outcome) :
    Outcome :=
  Start.leave (.rule name)
    ((o.retell (· ++ (before ++ [.entered name c.offset]))).settle p c)

/-- What the rule says, matched behind both skips as a parse that starts with a reference does. -/
def byReference (name : String) (p : Pattern) (c d : Cursor) (before between : List Event)
    (o : Outcome) : Outcome :=
  ((((o.retell (· ++ (between ++ [.entered name d.offset]))).settle p d).referred name
    d.offset).retell (· ++ before)).settle (.lookup name) c

section

variable {name : String} {p : Pattern} {c : Cursor} {layers : Nat} {ready again : State}
  (hskip : skipFrom layers rules beyond c = some ready) (hready : ready.aborted = none)

include hskip hready

theorem matchPattern_byName :
    (matchPattern ⟨rules, beyond, none⟩ (layers + 1) .outermost p
        (Start.enter (.rule name) (.start c none))).map (Start.leave (.rule name))
      = (bodyFrom layers rules beyond p ready.cursor).map (byName name p c ready.events) := by
  have h := matchPattern_eq_bodyFrom rules beyond layers 0 p
    (s := (State.start c none).add (.entered name c.offset)) rfl rfl hskip hready
    (unlimited_skipFrom hskip)
  refine (congrArg (Option.map _) h).trans ?_
  rw [Option.map_map]
  rfl

theorem matchPattern_byReference (hget : rules.get? name = some p)
    (hagain : skipFrom layers rules beyond ready.cursor = some again)
    (hrunning : again.aborted = none) (hback : again.cursor = ready.cursor) :
    matchPattern ⟨rules, beyond, none⟩ (layers + 2) .outermost (.lookup name) (.start c none)
      = (bodyFrom layers rules beyond p ready.cursor).map
          (byReference name p c ready.cursor ready.events again.events) := by
  have houter := matchPattern_eq_bodyFrom rules beyond (layers + 1) 0 (.lookup name)
    (s := .start c none) rfl rfl (skipFrom_mono (Nat.le_succ layers) hskip) hready
    (unlimited_skipFrom hskip)
  have hinner := matchPattern_eq_bodyFrom rules beyond layers 1 p
    (s := (State.start ready.cursor none).add (.entered name ready.cursor.offset)) rfl rfl
    hagain hrunning (unlimited_skipFrom hagain)
  have hlookup : bodyFrom (layers + 1) rules beyond (.lookup name) ready.cursor = _ :=
    matchLookup_eq ⟨rules, beyond, none⟩ rfl hget .outermost _
  rw [hback] at hinner
  rw [show (State.start c none).events = [] from rfl, List.append_nil] at houter
  refine houter.trans ?_
  rw [hlookup]
  refine (congrArg (Option.map _ ∘ Option.map _) hinner).trans ?_
  simp only [Function.comp_apply, Option.map_map]
  rfl

end

/-! ## The two conclusions -/

section

theorem Outcome.failures_settle (o : Outcome) (p : Pattern) (start : Cursor) :
    (o.settle p start).state.failures = o.state.failures := by
  simp only [State.failures, Outcome.events_settle]

theorem Outcome.failures_retell {past : List Event} (hpast : Event.failures past.reverse = [])
    (o : Outcome) : (o.retell (· ++ past)).state.failures = o.state.failures :=
  (State.failures_recall past o.state).trans (congrArg (· ++ _) hpast)

theorem Outcome.failures_referred (name : String) (offset : Nat) (o : Outcome) :
    (o.referred name offset).state.failures = o.state.failures :=
  (State.failures_add o.state _).trans (List.append_nil _)

/-- A rule that is entered is no failure. -/
theorem failures_enter {before : List Event} (hbefore : Event.failures before.reverse = [])
    (name : String) (offset : Nat) :
    Event.failures (before ++ [Event.entered name offset]).reverse = [] := by
  simpa [Event.failures] using hbefore

variable (name : String) (p : Pattern) (c d : Cursor) {before between : List Event}
  (hbefore : Event.failures before.reverse = []) (hbetween : Event.failures between.reverse = [])
  (o : Outcome)

theorem tree?_byReference :
    (byReference name p c d before between o).tree?
      = (byName name p c before o).tree?.map (.lookup d.offset name) := by
  simp [byReference, byName, Outcome.referred, Outcome.retell]

theorem fuel_byName : (byName name p c before o).state.fuel = o.state.fuel := by
  simp [byName, Outcome.retell]

theorem fuel_byReference :
    (byReference name p c d before between o).state.fuel = o.state.fuel := by
  simp [byReference, Outcome.referred, Outcome.retell]

include hbefore

theorem seen_byName :
    (byName name p c before o).state.seen
      = (if o.tree?.isNone || p.isLookahead then c else o.state.cursor, o.state.aborted,
        o.state.failures) := by
  simp only [State.seen, Prod.mk.injEq]
  refine ⟨?_, ?_, ?_⟩
  · simp [byName, Outcome.retell, Outcome.cursor_settle]
  · simp [byName, Outcome.retell]
  · rw [byName, Start.failures_leave, Outcome.failures_settle,
      Outcome.failures_retell (failures_enter hbefore name c.offset)]

include hbetween

theorem seen_byReference :
    (byReference name p c d before between o).state.seen
      = (if o.tree?.isNone then c else if p.isLookahead then d else o.state.cursor,
        o.state.aborted, o.state.failures) := by
  simp only [State.seen, Prod.mk.injEq]
  refine ⟨?_, ?_, ?_⟩
  · cases htree : o.tree?.isNone with
    | true => simp [byReference, Outcome.referred, Outcome.retell, Outcome.cursor_settle, htree]
    | false =>
        have hname : (Pattern.lookup name).isLookahead = false := rfl
        simp [byReference, Outcome.referred, Outcome.retell, Outcome.cursor_settle, htree, hname]
  · simp [byReference, Outcome.referred, Outcome.retell]
  · rw [byReference, Outcome.failures_settle, Outcome.failures_retell hbefore,
      Outcome.failures_referred, Outcome.failures_settle,
      Outcome.failures_retell (failures_enter hbetween name d.offset)]

end

/-- **The two parses conclude alike**, where a skip that begins behind the first one stays. -/
theorem conclude_byReference {name : String} {p : Pattern} {c : Cursor} {layers layers' : Nat}
    (hle : layers ≤ layers') {ready again : State} {o : Outcome}
    (hskip : skipFrom layers rules beyond c = some ready) (hready : ready.aborted = none)
    (hagain : skipFrom layers rules beyond ready.cursor = some again)
    (hrunning : again.aborted = none) (hback : again.cursor = ready.cursor)
    (ho : bodyFrom layers rules beyond p ready.cursor = some o) :
    (conclude (matchPattern ⟨rules, beyond, none⟩ layers') ⟨rules, beyond, none⟩
        (byReference name p c ready.cursor ready.events again.events o)).map (·.result)
      = (conclude (matchPattern ⟨rules, beyond, none⟩ layers') ⟨rules, beyond, none⟩
          (byName name p c ready.events o)).map
            (·.result.map (.lookup ready.cursor.offset name)) := by
  have hname := seen_byName name p c (failures_skipFrom hskip) o
  have href := seen_byReference name p c ready.cursor (failures_skipFrom hskip)
    (failures_skipFrom hagain) o
  have htree : (byName name p c ready.events o).tree? = o.tree? := by
    simp [byName, Outcome.retell]
  refine conclude_congr (tree?_byReference ..) (fun hnone => ?_) (fun hsome => ?_)
  · rw [htree] at hnone
    simp only [hname, href, hnone, Option.isNone_none, Bool.true_or, if_true]
  · rw [htree] at hsome
    have hisNone : o.tree?.isNone = false := by simpa using hsome
    cases hp : p.isLookahead with
    | false =>
        refine skipTrivia_seen layers' ?_ ((fuel_byReference ..).trans (fuel_byName ..).symm)
        simp only [hname, href, hisNone, hp, Bool.or_self, Bool.false_eq_true, if_false]
    | true =>
        have hfuel := unlimited_bodyFrom ho
        have hended := aborted_bodyFrom_of_isLookahead ho hp hsome
        simp only [hisNone, hp, Bool.or_true, Bool.false_eq_true, if_true, if_false, hended,
          State.seen, Prod.mk.injEq] at hname href
        rw [show Frame.outermost = { Frame.outermost with depth := 0 } from rfl,
          skipTrivia_eq_skipFrom rules beyond layers' 0 ((fuel_byReference ..).trans hfuel)
            href.2.1,
          skipTrivia_eq_skipFrom rules beyond layers' 0 ((fuel_byName ..).trans hfuel) hname.2.1,
          hname.1, href.1, skipFrom_mono hle hskip, skipFrom_mono hle hagain]
        simp only [Option.map_some, Option.some.injEq]
        refine State.seen_eq_iff.mpr ⟨hback, hrunning.trans hready.symm, ?_⟩
        have hnothing : again.failures = ready.failures :=
          (failures_skipFrom hagain).trans (failures_skipFrom hskip).symm
        refine (State.failures_recall _ again).trans
          (Eq.trans ?_ (State.failures_recall _ ready).symm)
        exact congrArg₂ (· ++ ·) (href.2.2.trans hname.2.2.symm) hnothing

/-! ## Parses -/

/-- Skipping trivia from the cursor ends the parse at this offset for this cause. -/
def EndsInTrivia (rules : Rules) (beyond : List Char) (c : Cursor) (offset : Nat)
    (cause : Abort) : Prop :=
  ∃ layers s, skipFrom layers rules beyond c = some s ∧ s.aborted = some (offset, cause)

/-- Two parses with the same report, but for a node that goes around the tree, and none but errors
if trivia ends the parse where it begins. -/
structure ReportAlike (name : String) (ready : State) (byName byReference : Option Report) :
    Prop where
  same : byReference.map (·.result)
    = byName.map (·.result.map (.lookup ready.cursor.offset name))
  running : ready.aborted = none ∨ ∃ e, byName.map (·.result) = some (.error e)

/-- Two parses that report the same error. -/
theorem ReportAlike.of_error {name : String} {ready : State} {r r' : Option Report}
    {e : ParseError} (h : r.map (·.result) = some (.error e))
    (h' : r'.map (·.result) = some (.error e)) : ReportAlike name ready r r' := by
  refine ⟨?_, .inr ⟨e, h⟩⟩
  obtain ⟨report, rfl, herror⟩ := Option.map_eq_some_iff.mp h
  rw [h', Option.map_some, herror]
  rfl

section

variable {name : String} {p : Pattern} (hget : rules.get? name = some p) {window : Window}

include hget

/-- A parse from a reference comes to what the parse from the rule comes to, with the node for
the reference, if both may use layers enough: where the second skip ends at once, and where it
ends the parse, if the rule skips again. -/
theorem parsesIn_byReference {before : Nat} {ready : State}
    (hskip : skipFrom before rules window.beyond window.start = some ready)
    (hsecond : ready.aborted = none → ∃ behind again,
      skipFrom behind rules window.beyond ready.cursor = some again ∧
        (again.aborted = none ∧ again.cursor = ready.cursor ∨
          again.aborted ≠ none ∧ p.skipsAgain rules = true)) :
    ∃ enough, ∀ layers, enough ≤ layers → ReportAlike name ready
      (parsesIn (layers + 1) (layers + 2) rules (.rule name) p window)
      (parsesIn (layers + 2) (layers + 2) rules (.pattern (.lookup name)) (.lookup name)
        window) := by
  cases hend : ready.aborted with
  | some ended =>
      refine ⟨before + 1, fun layers hle => ?_⟩
      obtain ⟨layers, rfl⟩ := Nat.exists_eq_add_of_le' (Nat.le_of_add_left_le hle)
      have hskips : ∀ more, skipFrom (layers + 1 + more) rules window.beyond window.start
          = some ready := fun more => skipFrom_mono (by omega) hskip
      exact .of_error (parsesIn_of_ended (hskips 0) hend (layers + 2) (.rule name) p)
        (parsesIn_of_ended (hskips 1) hend (layers + 2) (.pattern (.lookup name)) (.lookup name))
  | none =>
      obtain ⟨behind, again, hagain, ⟨hrunning, hback⟩ | ⟨hended, hp⟩⟩ := hsecond hend
      · refine ⟨max before behind, fun layers hle => ⟨?_, .inl hend⟩⟩
        have hskip' := skipFrom_mono (Nat.le_trans (Nat.le_max_left _ _) hle) hskip
        have hagain' := skipFrom_mono (Nat.le_trans (Nat.le_max_right _ _) hle) hagain
        have href : (matchPattern ⟨rules, window.beyond, none⟩ (layers + 2) .outermost
            (.lookup name) (Start.enter (.pattern (.lookup name)) (.start window.start none))).map
              (Start.leave (.pattern (.lookup name))) = _ :=
          congrArg (Option.map _) (matchPattern_byReference hskip' hend hget hagain' hrunning hback)
        rw [parsesIn, parsesIn, matchPattern_byName hskip' hend, href]
        cases ho : bodyFrom layers rules window.beyond p ready.cursor with
        | none => rfl
        | some o =>
            exact conclude_byReference (Nat.le_add_right layers 2) hskip' hend hagain' hrunning
              hback ho
      · obtain ⟨⟨offset, cause⟩, hcause⟩ := Option.ne_none_iff_exists'.mp hended
        have href := Pattern.skipsAgain_lookup hget
        exact ⟨max before behind + 2, fun layers hle => .of_error
          (parsesIn_stops _ hp hskip hend hagain hcause (by omega) (by omega) (by omega))
          (parsesIn_stops _ href hskip hend hagain hcause (by omega) (by omega) (by omega))⟩

/-- The second report is what the first one is, with the node for a reference behind trivia. -/
def Report.Refers (rules : Rules) (window : Window) (name : String) (r r' : Report) : Prop :=
  ∃ d, r'.result = r.result.map (.lookup d.offset name) ∧
    ∀ tree, r.result = .ok tree → PastTrivia rules window.beyond false window.start d

omit hget in
theorem ReportAlike.refers {before : Nat} {ready : State}
    (hskip : skipFrom before rules window.beyond window.start = some ready) {r r' : Report}
    (h : ReportAlike name ready (some r) (some r')) : r.Refers rules window name r' := by
  refine ⟨ready.cursor, Option.some.inj h.same, fun tree htree => ?_⟩
  rcases h.running with hrunning | ⟨e, herror⟩
  · exact pastTrivia_iff.mpr ⟨before, ready, hskip, hrunning, rfl⟩
  · rw [Option.map_some, htree] at herror
    cases herror

variable (honce : rules.SkipsOnce window)
  (hsecond : p.skipsAgain rules = true ∨
    ∀ d, PastTrivia rules window.beyond false window.start d →
      ∃ d', PastTrivia rules window.beyond false d d') {layers : Nat}

include honce hsecond

omit hget in
/-- Behind trivia it is skipped again, by either parse if the rule skips again. -/
theorem second_skip {before : Nat} {ready : State}
    (hskip : skipFrom before rules window.beyond window.start = some ready)
    (hruns : p.skipsAgain rules = true → ready.aborted = none → ∃ behind again,
      skipFrom behind rules window.beyond ready.cursor = some again)
    (hrunning : ready.aborted = none) :
    ∃ behind again, skipFrom behind rules window.beyond ready.cursor = some again ∧
      (again.aborted = none ∧ again.cursor = ready.cursor ∨
        again.aborted ≠ none ∧ p.skipsAgain rules = true) := by
  have hpast : PastTrivia rules window.beyond false window.start ready.cursor :=
    pastTrivia_iff.mpr ⟨before, ready, hskip, hrunning, rfl⟩
  have hback {behind : Nat} {again : State} (hend : again.aborted = none)
      (hagain : skipFrom behind rules window.beyond ready.cursor = some again) :
      again.cursor = ready.cursor :=
    honce _ _ _ (.refl _) hpast (pastTrivia_iff.mpr ⟨behind, again, hagain, hend, rfl⟩)
  rcases hsecond with hp | hends
  · obtain ⟨behind, again, hagain⟩ := hruns hp hrunning
    refine ⟨behind, again, hagain, ?_⟩
    cases hend : again.aborted with
    | none => exact .inl ⟨rfl, hback hend hagain⟩
    | some ended => exact .inr ⟨nofun, hp⟩
  · obtain ⟨d', hd'⟩ := hends _ hpast
    obtain ⟨behind, again, hagain, hend, -⟩ := pastTrivia_iff.mp hd'
    exact ⟨behind, again, hagain, .inl ⟨hend, hback hend hagain⟩⟩

theorem exists_byReference {r : Report}
    (h : parseWindow layers rules .unlimited (.rule name) window = some r) :
    ∃ layers' r', parseWindow layers' rules .unlimited (.pattern (.lookup name)) window = some r' ∧
      r.Refers rules window name r' := by
  rw [parseWindow_eq_parsesIn (.rule name) hget] at h
  obtain ⟨before, ready, -, -, hskip, -⟩ := exists_run_of_parsesIn h
  obtain ⟨enough, halike⟩ := parsesIn_byReference hget hskip
    (second_skip honce hsecond hskip fun hp hready => exists_skipFrom_ready hp hskip hready h)
  have halike := halike (max enough layers) (Nat.le_max_left _ _)
  rw [parsesIn_mono (by omega) (by omega) h] at halike
  obtain ⟨r', h', -⟩ := Option.map_eq_some_iff.mp halike.same
  refine ⟨max enough layers + 2, r', ?_, ?_⟩
  · rw [parseWindow_eq_parsesIn (.pattern (.lookup name)) rfl]
    exact h'
  · rw [h'] at halike
    exact halike.refers hskip

theorem exists_byName {r' : Report}
    (h : parseWindow layers rules .unlimited (.pattern (.lookup name)) window = some r') :
    ∃ layers' r, parseWindow layers' rules .unlimited (.rule name) window = some r ∧
      r.Refers rules window name r' := by
  have href := Pattern.skipsAgain_lookup hget
  rw [parseWindow_eq_parsesIn (.pattern (.lookup name)) rfl] at h
  obtain ⟨before, ready, -, -, hskip, -⟩ := exists_run_of_parsesIn h
  obtain ⟨enough, halike⟩ := parsesIn_byReference hget hskip
    (second_skip honce hsecond hskip fun _ hready => exists_skipFrom_ready href hskip hready h)
  have halike := halike (max enough layers) (Nat.le_max_left _ _)
  rw [parsesIn_mono (by omega) (by omega) h] at halike
  obtain ⟨r, hr, -⟩ := Option.map_eq_some_iff.mp halike.same.symm
  refine ⟨max enough layers + 2, r, ?_, ?_⟩
  · rw [parseWindow_eq_parsesIn (.rule name) hget]
    exact parsesIn_mono (Nat.le_succ _) (Nat.le_refl _) hr
  · rw [hr] at halike
    exact halike.refers hskip

end

/-- Reports that are the same but for the node for the reference have trees and errors alike. -/
theorem Report.Refers.agree {window : Window} {name : String} {r r' : Report}
    (h : r.Refers rules window name r') :
    (∀ tree, r.result = .ok tree ↔
      ∃ d, PastTrivia rules window.beyond false window.start d ∧
        r'.result = .ok (.lookup d.offset name tree)) ∧
    ∀ e, r.result = .error e ↔ r'.result = .error e := by
  obtain ⟨d, hresult, hpast⟩ := h
  rw [hresult]
  cases hr : r.result with
  | ok tree =>
      refine ⟨fun tree' => ⟨?_, ?_⟩, fun e => ⟨nofun, nofun⟩⟩
      · rintro ⟨⟩
        exact ⟨d, hpast tree hr, rfl⟩
      · rintro ⟨_, -, h⟩
        obtain ⟨-, -, rfl⟩ := Tree.lookup.inj (Except.ok.inj h)
        rfl
  | error e =>
      refine ⟨fun tree => ⟨nofun, ?_⟩, fun e' => ⟨?_, ?_⟩⟩
      · rintro ⟨_, -, h⟩
        cases h
      · rintro ⟨⟩
        rfl
      · rintro ⟨⟩
        rfl

/-- A parse by reference ends with the second skip, if that ends it. -/
theorem exists_byReference_of_endsInTrivia {name : String} {p : Pattern}
    (hget : rules.get? name = some p) {window : Window} {d : Cursor}
    (hpast : PastTrivia rules window.beyond false window.start d) {offset : Nat} {cause : Abort}
    (hends : EndsInTrivia rules window.beyond d offset cause) :
    ∃ layers r', parseWindow layers rules .unlimited (.pattern (.lookup name)) window = some r' ∧
      r'.result = .error (.aborted offset cause) := by
  have href := Pattern.skipsAgain_lookup hget
  obtain ⟨before, ready, hskip, hready, rfl⟩ := pastTrivia_iff.mp hpast
  obtain ⟨behind, again, hagain, hend⟩ := hends
  obtain ⟨r', h', herror⟩ := Option.map_eq_some_iff.mp
    (parsesIn_stops (.pattern (.lookup name)) href hskip hready hagain hend
      (Nat.le_max_left before (behind + 2)) (Nat.le_max_right _ _) (Nat.le_succ _))
  refine ⟨max before (behind + 2) + 1, r', ?_, herror⟩
  rw [parseWindow_eq_parsesIn (.pattern (.lookup name)) rfl]
  exact h'

end

/-- **Starting by name is starting by reference, minus the node for the reference.** Without
limits, and where a skip of trivia that begins where one has ended never moves, a parse from a rule
ends if a parse from a reference to it does. The second one has a tree just if the first one has,
with a node around it that starts where the trivia before it ends; otherwise both report the same
error.

That is so whenever the second skip, behind the trivia at the start, comes to its end. If instead
it ends the parse, or comes to nothing, it is so of a rule that skips again itself, and the parse
by reference reports what ended it. -/
theorem start_by_reference {rules : Rules} {name : String} {p : Pattern} {source : String}
    {first last : Nat} (hget : rules.get? name = some p)
    (honce : rules.SkipsOnce (Window.ofRange source.toList first last)) :
    let window := Window.ofRange source.toList first last
    let byName := parseRange rules .unlimited (.rule name) source first last
    let byReference := parseRange rules .unlimited (.pattern (.lookup name)) source first last
    (p.skipsAgain rules = true ∨
        (∀ d, PastTrivia rules window.beyond false window.start d →
          ∃ d', PastTrivia rules window.beyond false d d') →
      (byName.isSome ↔ byReference.isSome) ∧
      ∀ r r', byName = some r → byReference = some r' →
        (∀ tree, r.result = .ok tree ↔
          ∃ d, PastTrivia rules window.beyond false window.start d ∧
            r'.result = .ok (.lookup d.offset name tree)) ∧
        ∀ e, r.result = .error e ↔ r'.result = .error e) ∧
    ∀ d offset cause, PastTrivia rules window.beyond false window.start d →
      EndsInTrivia rules window.beyond d offset cause →
      ∃ r', byReference = some r' ∧ r'.result = .error (.aborted offset cause) := by
  intro window byName byReference
  refine ⟨fun hsecond => ?_, fun d offset cause hpast hends => ?_⟩
  · have hforth {r : Report} (h : byName = some r) :
        ∃ r', byReference = some r' ∧ r.Refers rules window name r' := by
      obtain ⟨layers, hlayers⟩ := parseRange_eq_some_iff.mp h
      obtain ⟨layers', r', h', hrefers⟩ := exists_byReference hget honce hsecond hlayers
      exact ⟨r', parseRange_eq_some_iff.mpr ⟨layers', h'⟩, hrefers⟩
    have hback {r' : Report} (h' : byReference = some r') : ∃ r, byName = some r := by
      obtain ⟨layers, hlayers⟩ := parseRange_eq_some_iff.mp h'
      obtain ⟨layers', r, h, -⟩ := exists_byName hget honce hsecond hlayers
      exact ⟨r, parseRange_eq_some_iff.mpr ⟨layers', h⟩⟩
    refine ⟨⟨fun h => ?_, fun h => ?_⟩, fun r r' h h' => ?_⟩
    · obtain ⟨r, hr⟩ := Option.isSome_iff_exists.mp h
      obtain ⟨r', hr', -⟩ := hforth hr
      exact Option.isSome_of_eq_some hr'
    · obtain ⟨r', hr'⟩ := Option.isSome_iff_exists.mp h
      obtain ⟨r, hr⟩ := hback hr'
      exact Option.isSome_of_eq_some hr
    · obtain ⟨r'', hr'', hrefers⟩ := hforth h
      obtain rfl : r' = r'' := Option.some.inj (h'.symm.trans hr'')
      exact hrefers.agree
  · obtain ⟨layers, r', h', herror⟩ := exists_byReference_of_endsInTrivia hget hpast hends
    exact ⟨r', parseRange_eq_some_iff.mpr ⟨layers, h'⟩, herror⟩

/-- Whether in so many layers trivia is skipped where the window begins, and again behind it,
without an end of the parse. -/
def Rules.skipsTwiceIn (layers : Nat) (rules : Rules) (window : Window) : Bool :=
  (skipFrom layers rules window.beyond window.start).any fun s =>
    (skipFrom layers rules window.beyond s.cursor).any (!·.isAborted)

/-- What is computed is that the second skip comes to its end. -/
theorem Rules.exists_pastTrivia_of_skipsTwiceIn {layers : Nat} {rules : Rules} {window : Window}
    (h : rules.skipsTwiceIn layers window = true) (d : Cursor)
    (hd : PastTrivia rules window.beyond false window.start d) :
    ∃ d', PastTrivia rules window.beyond false d d' := by
  obtain ⟨s, hskip, hs⟩ := (Option.any_eq_true _ _).mp h
  obtain ⟨s', hskip', hs'⟩ := (Option.any_eq_true _ _).mp hs
  obtain ⟨-, rfl⟩ := hd.of_skipFrom hskip
  exact ⟨s'.cursor, pastTrivia_iff.mpr
    ⟨layers, s', hskip', State.isAborted_eq_false_iff.mp (by simpa using hs'), rfl⟩⟩

/-- A line is seen before it is read: the letter may follow a blank, and a sign may follow the
letter. It can also be read as one text. -/
private def seenLine : Rules :=
  .ofList [
    ("_", .quantifier (.terminal (.literal " ")) 0 none),
    ("seen", .lookahead (.lookup "line") true),
    ("text", .terminal (.literal "é +")),
    ("line", .sequence [⟨true, .terminal (.literal "é")⟩,
      ⟨true, .quantifier (.terminal (.literal "+")) 0 none⟩])]

/-- Trivia is a blank, and where there is none it goes around in a circle. -/
private def circlingTrivia : Rules :=
  .ofList [
    ("_", .choice [.terminal (.literal " "), .quantifier (.terminal (.literal "")) 0 none]),
    ("a", .terminal (.literal "x")),
    ("b", .lookup "a")]

/-- The line is read behind the blank, also as a text, which does not skip again; the rule that
only sees it reads nothing, and from either start the end is missed behind the blank. Where trivia
circles behind the blank, a reference to a rule ends there, and so does a rule that refers to
another one. -/
theorem start_by_reference_sample :
    seenLine.SkipsOnce (Window.ofRange " é +".toList 0 5) ∧
    (∀ name ∈ ["line", "text"], ∃ r r' tree d,
      parseRange seenLine .unlimited (.rule name) " é +" 0 5 = some r ∧
      parseRange seenLine .unlimited (.pattern (.lookup name)) " é +" 0 5 = some r' ∧
      r.result = .ok tree ∧ r'.result = .ok (.lookup d name tree)) ∧
    (∃ r r',
      parseRange seenLine .unlimited (.rule "seen") " é +" 0 5 = some r ∧
      parseRange seenLine .unlimited (.pattern (.lookup "seen")) " é +" 0 5 = some r' ∧
      r.result = .error (.unexpectedToken 1 [endOfInput]) ∧
      r'.result = .error (.unexpectedToken 1 [endOfInput])) ∧
    circlingTrivia.SkipsOnce (Window.ofRange " x ".toList 0 3) ∧
    (∃ r',
      parseRange circlingTrivia .unlimited (.pattern (.lookup "a")) " x " 0 3 = some r' ∧
      r'.result = .error (.aborted 1 .zeroLengthMatch)) ∧
    ∃ r r',
      parseRange circlingTrivia .unlimited (.rule "b") " x " 0 3 = some r ∧
      parseRange circlingTrivia .unlimited (.pattern (.lookup "b")) " x " 0 3 = some r' ∧
      r.result = .error (.aborted 1 .zeroLengthMatch) ∧
      r'.result = .error (.aborted 1 .zeroLengthMatch) := by
  have honce := Rules.SkipsOnce.of_skipsOnceIn
    (show seenLine.skipsOnceIn 3 (Window.ofRange " é +".toList 0 5) = true by decide +kernel)
  have hcircles := Rules.SkipsOnce.of_skipsOnceIn
    (show circlingTrivia.skipsOnceIn 4 (Window.ofRange " x ".toList 0 3) = true by decide +kernel)
  have htwice := Rules.exists_pastTrivia_of_skipsTwiceIn
    (show seenLine.skipsTwiceIn 3 (Window.ofRange " é +".toList 0 5) = true by decide +kernel)
  refine ⟨honce, fun name hname => ?_, ?_, hcircles, ?_, ?_⟩
  · have hruns : ∀ name ∈ ["line", "text"], (seenLine.get? name).isSome ∧
        (parseRange seenLine .unlimited (.rule name) " é +" 0 5).any
          (fun r => r.result.toOption.any fun _ => true) = true := by
      decide +kernel
    obtain ⟨hget, hrun⟩ := hruns name hname
    obtain ⟨p, hget⟩ := Option.isSome_iff_exists.mp hget
    obtain ⟨r, h, hreport⟩ := (Option.any_eq_true _ _).mp hrun
    obtain ⟨tree, htree, -⟩ := r.exists_tree hreport
    obtain ⟨hends, hsame⟩ := (start_by_reference hget honce).1 (.inr htwice)
    obtain ⟨r', h'⟩ := Option.isSome_iff_exists.mp (hends.mp (Option.isSome_of_eq_some h))
    obtain ⟨d, -, hreferred⟩ := ((hsame r r' h h').1 tree).mp htree
    exact ⟨r, r', tree, d.offset, h, h', htree, hreferred⟩
  · have hrun : (parseRange seenLine .unlimited (.rule "seen") " é +" 0 5).any
        (fun r => r.error? == some (.unexpectedToken 1 [endOfInput])) = true := by
      decide +kernel
    obtain ⟨r, h, hreport⟩ := (Option.any_eq_true _ _).mp hrun
    have herror := Report.error?_eq_some_iff.mp (beq_iff_eq.mp hreport)
    have hget : seenLine.get? "seen" = some _ := rfl
    obtain ⟨hends, hsame⟩ := (start_by_reference hget honce).1 (.inl rfl)
    obtain ⟨r', h'⟩ := Option.isSome_iff_exists.mp (hends.mp (Option.isSome_of_eq_some h))
    exact ⟨r, r', h, h', herror, ((hsame r r' h h').2 _).mp herror⟩
  · have hskips : (skipFrom 4 circlingTrivia [] (Window.ofRange " x ".toList 0 3).start).any
        (fun s => s.aborted.isNone && (skipFrom 4 circlingTrivia [] s.cursor).any
          fun s' => s'.aborted == some (1, .zeroLengthMatch)) = true := by
      decide +kernel
    obtain ⟨s, hskip, hs⟩ := (Option.any_eq_true _ _).mp hskips
    obtain ⟨hrunning, hs⟩ := Bool.and_eq_true_iff.mp hs
    obtain ⟨s', hskip', hend⟩ := (Option.any_eq_true _ _).mp hs
    have hget : circlingTrivia.get? "a" = some _ := rfl
    exact (start_by_reference hget hcircles).2 s.cursor 1 .zeroLengthMatch
      (pastTrivia_iff.mpr ⟨4, s, hskip, Option.isNone_iff_eq_none.mp hrunning, rfl⟩)
      ⟨4, s', hskip', beq_iff_eq.mp hend⟩
  · have hrun : (parseRange circlingTrivia .unlimited (.rule "b") " x " 0 3).any
        (fun r => r.error? == some (.aborted 1 .zeroLengthMatch)) = true := by
      decide +kernel
    obtain ⟨r, h, hreport⟩ := (Option.any_eq_true _ _).mp hrun
    have herror := Report.error?_eq_some_iff.mp (beq_iff_eq.mp hreport)
    have hget : circlingTrivia.get? "b" = some _ := rfl
    obtain ⟨hends, hsame⟩ := (start_by_reference hget hcircles).1 (.inl rfl)
    obtain ⟨r', h'⟩ := Option.isSome_iff_exists.mp (hends.mp (Option.isSome_of_eq_some h))
    exact ⟨r, r', h, h', herror, ((hsame r r' h h').2 _).mp herror⟩

/-- The second skip may end the parse although it does not move: behind the blank trivia circles.
The text `x` is read without it, and a reference to the rule skips again and ends there. -/
theorem start_by_reference_ends_in_trivia :
    circlingTrivia.SkipsOnce (Window.ofRange " x ".toList 0 3) ∧
    circlingTrivia.get? "a" = some (.terminal (.literal "x")) ∧
    ∃ r r' tree,
      parseRange circlingTrivia .unlimited (.rule "a") " x " 0 3 = some r ∧
      parseRange circlingTrivia .unlimited (.pattern (.lookup "a")) " x " 0 3 = some r' ∧
      r.result = .ok tree ∧ r'.result = .error (.aborted 1 .zeroLengthMatch) := by
  have hcircles := Rules.SkipsOnce.of_skipsOnceIn
    (show circlingTrivia.skipsOnceIn 4 (Window.ofRange " x ".toList 0 3) = true by decide +kernel)
  have hname : (parseRange circlingTrivia .unlimited (.rule "a") " x " 0 3).any
      (fun r => r.result.toOption.any fun _ => true) = true := by
    decide +kernel
  have href : (parseRange circlingTrivia .unlimited (.pattern (.lookup "a")) " x " 0 3).any
      (fun r => r.error? == some (.aborted 1 .zeroLengthMatch)) = true := by
    decide +kernel
  obtain ⟨r, h, hreport⟩ := (Option.any_eq_true _ _).mp hname
  obtain ⟨tree, htree, -⟩ := r.exists_tree hreport
  obtain ⟨r', h', hreport'⟩ := (Option.any_eq_true _ _).mp href
  exact ⟨hcircles, rfl, r, r', tree, h, h', htree,
    Report.error?_eq_some_iff.mp (beq_iff_eq.mp hreport')⟩

end OperatorPeg
