import Mathlib.Order.Interval.Set.Defs
import OperatorPeg.Proofs.BestFailure
import OperatorPeg.Proofs.Onward
import OperatorPeg.Proofs.ParseRuns
import OperatorPeg.Text.Range

/-!
# What a failed parse reports

A parse stays within its range: so do its cursor, its failures and what ends it.
From the failures it reports the best, and where none was recorded the place where
it began.
-/

namespace OperatorPeg

/-! ## Ranges -/

namespace Text

/-- A cut within a beginning of the text is a cut of the text that stays within. -/
theorem cut_min_byteLength_append (n : Nat) (inside beyond : List Char) :
    (cut (min n (byteLength inside)) (inside ++ beyond)).1 = (cut n inside).1 := by
  induction inside generalizing n with
  | nil =>
      rw [byteLength, Nat.min_zero]
      have := cut_byteLength_append [] beyond
      rw [byteLength, List.nil_append] at this
      rw [List.nil_append, this]
      rfl
  | cons c inside ih =>
      simp only [byteLength, List.cons_append, cut]
      by_cases hc : c.utf8Size ≤ n
      · have hrest : min n (c.utf8Size + byteLength inside) - c.utf8Size
            = min (n - c.utf8Size) (byteLength inside) := by omega
        rw [if_pos (by omega), if_pos hc, hrest]
        simp only [ih]
      · rw [if_neg (by omega), if_neg hc]

end Text

/-- Where the range of a window ends. -/
def Window.stop (w : Window) : Nat := w.start.offset + Text.byteLength w.start.ahead

/-- The end of a range is moved back to a place between two characters. -/
theorem Window.stop_ofRange (source : List Char) (first last : Nat) :
    (Window.ofRange source first last).stop = Text.floorOffset source last := by
  simp only [stop, ofRange, Text.floorOffset]
  rw [← Text.byteLength_append, Text.cut_append]

/-- The start of a range is not after its end and moved back likewise. -/
theorem Window.offset_start_ofRange (source : List Char) (first last : Nat) :
    (Window.ofRange source first last).start.offset
      = Text.floorOffset source (min first (Text.floorOffset source last)) := by
  have hcut := Text.cut_min_byteLength_append first (Text.cut last source).1
    (Text.cut last source).2
  rw [Text.cut_append] at hcut
  simp only [ofRange, Text.floorOffset]
  rw [hcut]

/-! ## Within the range -/

theorem Event.mem_failures {f : Failure} {es : List Event} :
    f ∈ Event.failures es ↔ .failed f ∈ es := by
  simp only [Event.failures, List.mem_filterMap]
  constructor
  · rintro ⟨e, he, hf⟩
    cases e with
    | failed g =>
        cases hf
        exact he
    | _ => cases hf
  · intro h
    exact ⟨_, h, rfl⟩

/-- A law of the places where a parse may be and of the offsets that it may have on record. -/
structure Cursor.Law (here : Cursor → Prop) (recorded : Nat → Prop) : Prop where
  onward : ∀ {c d}, here c → c.Reaches d → here d
  offset : ∀ {c}, here c → recorded c.offset

/-- A cursor within a range stays there. -/
theorem Cursor.law_within (lo hi : Nat) :
    Cursor.Law (fun c => lo ≤ c.offset ∧ c.offset + Text.byteLength c.ahead = hi)
      (· ∈ Set.Icc lo hi) where
  onward := by
    rintro c d ⟨hstart, hstop⟩ ⟨text, hpasses⟩
    rw [hpasses.ahead, Text.byteLength_append] at hstop
    rw [hpasses.offset]
    omega
  offset := by
    rintro c ⟨hstart, hstop⟩
    exact ⟨hstart, by omega⟩

/-- The parse respects the law where it is, in the failures on record and in what ended it. -/
structure State.Respects (here : Cursor → Prop) (recorded : Nat → Prop) (s : State) : Prop where
  cursor : here s.cursor
  failures : ∀ f, .failed f ∈ s.events → f.IsProper ∧ recorded f.offset
  aborted : ∀ o cause, s.aborted = some (o, cause) → recorded o

namespace State.Respects

variable {here : Cursor → Prop} {recorded : Nat → Prop} {s : State}

theorem fail (h : s.Respects here recorded) (frame : Frame) {f : Failure} (hf : f.IsProper)
    (ho : recorded f.offset) : (s.fail frame f).Respects here recorded := by
  unfold State.fail
  split
  · exact h
  · refine ⟨h.cursor, ?_, h.aborted⟩
    intro g hg
    rcases List.mem_cons.mp hg with heq | hg
    · cases heq
      exact ⟨hf, ho⟩
    · exact h.failures g hg

theorem add (h : s.Respects here recorded) {e : Event} (he : Event.failures [e] = []) :
    (s.add e).Respects here recorded := by
  refine ⟨h.cursor, ?_, h.aborted⟩
  intro f hf
  rcases List.mem_cons.mp hf with rfl | hf
  · cases he
  · exact h.failures f hf

/-- The parse moves from where it is to another place within. -/
theorem at_cursor (h : s.Respects here recorded) {c : Cursor} (hc : here c) :
    ({ s with cursor := c } : State).Respects here recorded := ⟨hc, h.failures, h.aborted⟩

variable (hlaw : Cursor.Law here recorded)

include hlaw

theorem missToken (h : s.Respects here recorded) (frame : Frame) (d : String) :
    (s.missToken frame s.cursor.offset d).Respects here recorded := by
  refine h.fail frame ?_ (hlaw.offset h.cursor)
  by_cases hp : frame.probe = some s.cursor.offset <;> simp [Failure.IsProper, hp]

/-- **A parse goes on respecting the law.** -/
theorem isCourse :
    State.IsCourse fun s s' => s.Respects here recorded → s'.Respects here recorded where
  refl := fun _ => id
  trans := fun h₁ h₂ h => h₂ (h₁ h)
  note := by
    intro s e he h
    cases e with
    | failed => cases he
    | _ => exact h.add rfl
  call := fun _ _ h hs => (h (hs.add rfl)).add rfl
  missToken := fun frame d h => h.missToken hlaw frame d
  missTerm := fun frame hafter h =>
    ((hafter h).at_cursor h.cursor).fail frame (by simp [Failure.IsProper])
      (hlaw.offset (hafter h).cursor)
  abort := by
    intro s cause h
    refine ⟨?_, ?_, ?_⟩
    · rw [State.cursor_abort]
      exact h.cursor
    · rw [State.events_abort]
      exact h.failures
    · intro o cause' ho
      rw [State.aborted_abort] at ho
      cases ha : s.aborted with
      | none =>
          rw [ha] at ho
          cases ho
          exact hlaw.offset h.cursor
      | some ended =>
          rw [ha] at ho
          cases ho
          exact h.aborted _ _ ha
  spend := fun _ h => ⟨h.cursor, h.failures, h.aborted⟩
  move := fun hreaches h => h.at_cursor (hlaw.onward h.cursor hreaches)
  back := fun hs h => (hs h).at_cursor h.cursor

end State.Respects

/-! ## The reported error -/

/-- What a parse reports that nothing ended, after these failures: the place where it
began if there were none, otherwise a failure of the greatest offset and priority. -/
inductive Failure.Reported (begin : Nat) (failures : List Failure) : ParseError → Prop
  | nowhere : failures = [] → Reported begin failures (.unexpectedToken begin [])
  | token {f : Failure} {d : String} :
      f ∈ failures → (∀ g ∈ failures, g.key ≤ f.key) → f.missing = .token d →
      Reported begin failures (.unexpectedToken f.offset (expectedAt f.key failures))
  | term {f : Failure} :
      f ∈ failures → (∀ g ∈ failures, g.key ≤ f.key) → f.missing = .term →
      Reported begin failures (.expressionTerm f.offset)

/-- The best failure is the one to be reported. -/
theorem Failure.Best.IsOf.reported {b : Best} {begin : Nat} {failures : List Failure}
    (h : b.IsOf failures) : Reported begin failures b.error := by
  unfold Best.error
  cases hmissing : b.failure.missing with
  | term => exact .term h.mem h.greatest hmissing
  | token d =>
      dsimp only
      rw [h.expected]
      exact .token h.mem h.greatest hmissing

/-- What is reported is on record, or where the parse began. -/
theorem Failure.Reported.recorded {recorded : Nat → Prop} {begin : Nat} {failures : List Failure}
    {e : ParseError} (h : Reported begin failures e) (hbegin : recorded begin)
    (hfailures : ∀ f ∈ failures, recorded f.offset) : recorded e.offset := by
  cases h with
  | nowhere => exact hbegin
  | token hf => exact hfailures _ hf
  | term hf => exact hfailures _ hf

namespace State.Respects

variable {here : Cursor → Prop} {recorded : Nat → Prop} {s : State}
  (h : s.Respects here recorded)

include h

/-- The failures on record are as they should be. -/
theorem onRecord : ∀ f ∈ Event.failures s.events.reverse, f.IsProper ∧ recorded f.offset :=
  fun f hf => h.failures f (List.mem_reverse.mp (Event.mem_failures.mp hf))

/-- What a rejected parse reports, unless something ended it: the best failure. A parse without
failures is rejected where it began. -/
theorem reported {begin : Nat}
    (hback : Event.failures s.events.reverse = [] → s.cursor.offset = begin)
    (hfatal : (reportedError s).isFatal = false) :
    Failure.Reported begin (Event.failures s.events.reverse) (reportedError s) := by
  unfold reportedError at hfatal ⊢
  cases ha : s.aborted with
  | some ended =>
      rw [ha] at hfatal
      cases hfatal
  | none =>
      rcases Failure.best_isOf fun f hf => (h.onRecord f hf).1 with ⟨hnil, hbest⟩ | ⟨b, hbest, hb⟩
      · rw [hbest]
        dsimp only
        rw [hback hnil]
        exact .nowhere hnil
      · rw [hbest]
        exact hb.reported

theorem recorded_reportedError (hlaw : Cursor.Law here recorded) :
    recorded (reportedError s).offset := by
  cases hfatal : (reportedError s).isFatal with
  | false =>
      exact (h.reported (fun _ => rfl) hfatal).recorded (hlaw.offset h.cursor)
        fun f hf => (h.onRecord f hf).2
  | true =>
      -- only what ended the parse is fatal
      have hended : s.isAborted = true := (isFatal_reject s).symm.trans hfatal
      obtain ⟨⟨o, cause⟩, ho⟩ := Option.isSome_iff_exists.mp hended
      have hoffset : (reportedError s).offset = o := by
        rw [reportedError, ho]
        rfl
      rw [hoffset]
      exact h.aborted o cause ho

end State.Respects

namespace Start

variable {R : State → State → Prop} (hR : State.IsCourse R) (start : Start)

include hR

/-- The start rule is entered before the match and left after it. -/
theorem along {s : State} {o : Outcome} (h : R (start.enter s) o.state) :
    R s (start.leave o).state := by
  cases start with
  | pattern => exact h
  | rule => exact hR.call _ _ h

end Start

/-- A parse of a window reports what is to be reported, under any law that holds where it
begins. -/
theorem parseWindow_respects {here : Cursor → Prop} {recorded : Nat → Prop}
    (hlaw : Cursor.Law here recorded) {layers : Nat} {rules : Rules} {limits : Limits}
    {start : Start} {window : Window} {report : Report} {e : ParseError}
    (hhere : here window.start) (h : parseWindow layers rules limits start window = some report)
    (he : report.result = .error e) :
    (e.isFatal = false →
        Failure.Reported window.start.offset (Event.failures report.events) e) ∧
      (∀ f ∈ Event.failures report.events, f.IsProper ∧ recorded f.offset) ∧
      recorded e.offset := by
  cases hp : start.pattern? rules with
  | none =>
      obtain ⟨name, hundefined⟩ := parseWindow_of_undefined hp
      rw [hundefined] at h
      cases h
      cases he
      exact ⟨nofun, nofun, hlaw.offset hhere⟩
  | some p =>
      rw [parseWindow_of_defined hp] at h
      obtain ⟨o, ho, hconclude⟩ := Option.bind_eq_some_iff.mp h
      have hcourse := State.Respects.isCourse hlaw
      have hstart : (State.start window.start limits.fuel).Respects here recorded :=
        ⟨hhere, nofun, nofun⟩
      have hleft : (start.leave o).state.Respects here recorded :=
        start.along hcourse (matchPattern_along hcourse _ _ _ _ _ _ ho) hstart
      cases conclude_eq_some_iff.mp hconclude with
      | reached => cases he
      | missed hnone =>
          cases he
          have hback : (start.leave o).state.cursor.offset = window.start.offset := by
            rw [start.tree?_leave] at hnone
            rw [start.cursor_leave, matchPattern_back ho hnone, start.cursor_enter]
            rfl
          exact ⟨hleft.reported fun _ => hback, hleft.onRecord, hleft.recorded_reportedError hlaw⟩
      | @short tree s _ hskip _ =>
          cases he
          have hmissed := (hskip.along hcourse (fun _ _ => matchPattern_along hcourse _ _ _ _)
            hleft).missToken hlaw .outermost endOfInput
          refine ⟨hmissed.reported fun hnil => ?_, hmissed.onRecord,
            hmissed.recorded_reportedError hlaw⟩
          simp [State.missToken, State.fail, Frame.outermost, State.add, Event.failures] at hnil

/-- A parse of a window reports a place in it. -/
theorem parseWindow_reported {layers : Nat} {rules : Rules} {limits : Limits} {start : Start}
    {window : Window} {report : Report} {e : ParseError}
    (h : parseWindow layers rules limits start window = some report)
    (he : report.result = .error e) :
    (e.isFatal = false →
        Failure.Reported window.start.offset (Event.failures report.events) e) ∧
      (∀ f ∈ Event.failures report.events, f.IsProper) ∧
      e.offset ∈ Set.Icc window.start.offset window.stop := by
  obtain ⟨hreported, hfailures, hoffset⟩ := parseWindow_respects
    (Cursor.law_within window.start.offset window.stop) ⟨le_refl _, rfl⟩ h he
  exact ⟨hreported, fun f hf => (hfailures f hf).1, hoffset⟩

/-- **A parse that fails reports the best of its failures.** Whatever it reports is within
the range, and unless something ended it, it is a failure of the greatest offset
and priority, with all that is expected there, or the start of the range if
nothing failed on record. -/
theorem reports_best_failure {layers : Nat} {rules : Rules} {limits : Limits} {start : Start}
    {source : String} {first last : Nat} {report : Report} {e : ParseError}
    (h : parseWithin layers rules limits start source first last = some report)
    (he : report.result = .error e) :
    let stop := Text.floorOffset source.toList last
    let begin := Text.floorOffset source.toList (min first stop)
    (e.isFatal = false → Failure.Reported begin (Event.failures report.events) e) ∧
      (∀ f ∈ Event.failures report.events, f.IsProper) ∧ e.offset ∈ Set.Icc begin stop := by
  have hreported := parseWindow_reported h he
  rwa [Window.offset_start_ofRange, Window.stop_ofRange] at hreported

/-- Three ways to go on after an `a`, the last one like the first. -/
private def branching : Pattern :=
  .choice (["b", "c", "b"].map fun next =>
    .sequence [⟨true, .terminal (.literal "a")⟩, ⟨true, .terminal (.literal next)⟩])

theorem reports_best_failure_sample :
    ∃ report, parseWithin 3 .empty .unlimited (.pattern branching) "ax" 0 9 = some report ∧
      report.result = .error (.unexpectedToken 1 ["'b'", "'c'"]) ∧
      Failure.Reported 0 (Event.failures report.events) (.unexpectedToken 1 ["'b'", "'c'"]) ∧
      (∀ f ∈ Event.failures report.events, f.IsProper) ∧ 1 ∈ Set.Icc 0 2 := by
  have hrun : (parseWithin 3 .empty .unlimited (.pattern branching) "ax" 0 9).any
      (fun r => r.error? == some (.unexpectedToken 1 ["'b'", "'c'"])) = true := by
    decide +kernel
  obtain ⟨report, h, hreport⟩ := (Option.any_eq_true _ _).mp hrun
  have he : report.result = .error (.unexpectedToken 1 ["'b'", "'c'"]) :=
    Report.error?_eq_some_iff.mp (beq_iff_eq.mp hreport)
  obtain ⟨hbest, hproper, hoffset⟩ := reports_best_failure h he
  exact ⟨report, h, he, hbest rfl, hproper, hoffset⟩

end OperatorPeg
