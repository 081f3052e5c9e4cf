import OperatorPeg.Proofs.Limits.Layers

/-!
# Limits

A limit only cuts a parse short. Two runs are compared, the free one without the limit
and the one with it: they go in step up to the first attempt that the limit does not
afford, and from there on the limited one has ended and does nothing more. So what the
limited parse comes to is known from the attempts of the free one.
-/

namespace OperatorPeg

/-! ## Parses -/

namespace Limit

variable {l : Limit} {left : Nat}

theorem InStep.result_reject {s t : State} (h : l.InStep left s t) :
    (reject t).result = (reject s).result := by
  simp only [reject, reportedError, ← h.aborted]
  cases ha : s.aborted with
  | some ended => rfl
  | none =>
      dsimp only
      rw [h.events ha, h.cursor]

theorem Ended.result_reject {t : State} (h : l.Ended t) :
    ∃ o, (reject t).result = .error (.aborted o l.cause) := by
  obtain ⟨o, ho⟩ := h
  exact ⟨o, by simp only [reject, reportedError, ho]⟩

/-- How the report of a limited parse fares whose free one makes the attempts `a`. -/
structure Reports (l : Limit) (left : Nat) (a : List Nat) (free limited : Report) : Prop where
  same : l.spend left a ≠ none → limited.result = free.result
  cut : l.spend left a = none → ∃ o, limited.result = .error (.aborted o l.cause)

namespace Reports

variable {a b : List Nat} {free limited : Report}

theorem of_same {left' : Nat} (ha : l.spend left a = some left')
    (h : limited.result = free.result) : l.Reports left a free limited :=
  ⟨fun _ => h, fun hnone => by rw [ha] at hnone; cases hnone⟩

theorem of_ended (ha : l.spend left a = none)
    (h : ∃ o, limited.result = .error (.aborted o l.cause)) : l.Reports left a free limited :=
  ⟨fun hne => absurd ha hne, fun _ => h⟩

/-- Attempts that come before and are afforded. -/
theorem after {left' : Nat} (ha : l.spend left a = some left')
    (h : l.Reports left' b free limited) : l.Reports left (a ++ b) free limited := by
  have hspend : l.spend left (a ++ b) = l.spend left' b := by
    rw [spend_append, ha]
    rfl
  exact ⟨fun hne => h.same (hspend ▸ hne), fun hnone => h.cut (hspend ▸ hnone)⟩

end Reports

end Limit

/-- The trivia at the end are attempted too. -/
theorem ConcludeRun.fares {l : Limit} {m m' : Matcher} {a : Log Nat} (hm : l.Paired m m' a)
    {setting setting' : Setting} (hset : l.Settings setting setting') {left : Nat}
    {before : List Nat} {o o' : Outcome} {report : Report}
    (h : ConcludeRun m setting o report)
    (ho : l.Fares m'.Halts left before o.tree? o.state o'.tree? o'.state) :
    ∃ report', ConcludeRun m' setting' o' report' ∧
      l.Reports left (before ++ concludeLog Moment.attempts m a setting o) report report' := by
  have hframe := l.admits_outermost
  rw [concludeLog_of_silent Moment.attempts fun _ => rfl]
  rcases o' with ⟨tree?', t⟩
  rcases ho.same_or_ended with ⟨left', hb, hst, rfl⟩ | ⟨hhalts, hb, hended⟩
  · cases h with
    | missed hnone =>
        simp only [hnone]
        exact ⟨_, .missed rfl, .after hb (.of_same rfl hst.result_reject)⟩
    | reached htree hskip hend hahead =>
        simp only [htree]
        obtain ⟨t', hskip', hfares⟩ := hskip.fares hm hset hframe .outside hst
        rcases hfares.same_or_ended with ⟨left'', ha, hs, -⟩ | ⟨-, ha, hended⟩
        · exact ⟨_, .reached rfl hskip' (hs.isAborted ▸ hend) (hs.cursor ▸ hahead),
            .after hb (.of_same ha rfl)⟩
        · exact ⟨_, .short rfl hskip' (.inl hended.isAborted),
            .after hb (.of_ended ha (hended.of_aborted (by simp)).result_reject)⟩
    | short htree hskip hshort =>
        simp only [htree]
        obtain ⟨t', hskip', hfares⟩ := hskip.fares hm hset hframe .outside hst
        rcases hfares.same_or_ended with ⟨left'', ha, hs, -⟩ | ⟨-, ha, hended⟩
        · rw [hs.isAborted, hs.cursor] at hshort
          refine ⟨_, .short rfl hskip' hshort, .after hb (.of_same ha ?_)⟩
          rw [hs.cursor]
          exact (hs.fail _ _).result_reject
        · exact ⟨_, .short rfl hskip' (.inl hended.isAborted),
            .after hb (.of_ended ha (hended.of_aborted (by simp)).result_reject)⟩
  · have hcut : ∀ rest, l.spend left (before ++ rest) = none := fun rest => by
      rw [Limit.spend_append, hb]
      rfl
    cases tree?' with
    | none => exact ⟨_, .missed rfl, .of_ended (hcut _) hended.result_reject⟩
    | some tree =>
        exact ⟨_, .short rfl (SkipRun.halts hhalts hended.isAborted) (.inl hended.isAborted),
          .of_ended (hcut _) (hended.of_aborted (by simp)).result_reject⟩

/-- Leaving the start rule changes nothing but the events. -/
theorem Start.leave_fares {l : Limit} {halts : Prop} {left : Nat} {a : List Nat}
    (start : Start) (o o' : Outcome)
    (h : l.Fares halts left a o.tree? o.state o'.tree? o'.state) :
    l.Fares halts left a (start.leave o).tree? (start.leave o).state (start.leave o').tree?
      (start.leave o').state := by
  cases start with
  | pattern => exact h
  | rule name =>
      rcases o with ⟨tree?, s⟩
      rcases o' with ⟨tree?', t⟩
      rcases h.same_or_ended with ⟨left', ha, hs, rfl⟩ | ⟨hh, ha, hended⟩
      · have hcursor : s.cursor = t.cursor := hs.cursor
        simp only [Start.leave, hcursor]
        exact .afforded ha (hs.add _)
      · exact .cut hh ha hended

/-- **A limit only cuts a parse short**, and does so at the first attempt that it does not
afford. -/
theorem parseWindow_reports (l : Limit) (left : Nat) {layers layers' : Nat}
    (hle : layers ≤ layers') {rules : Rules} (limits limits' : Limits)
    (hfuels : l.Fuels left limits.fuel limits'.fuel)
    (hdepths : l.Depths limits.depth limits'.depth) {start : Start} {window : Window}
    {report : Report} (h : parseWindow layers rules limits start window = some report) :
    ∃ report', parseWindow layers' rules limits' start window = some report' ∧
      l.Reports left (windowLog Moment.attempts layers rules limits start window) report
        report' := by
  cases hp : start.pattern? rules with
  | none =>
      obtain ⟨_, hundefined⟩ := parseWindow_of_undefined hp
      obtain ⟨_, hlog⟩ := windowLog_of_undefined Moment.attempts hp layers limits window
      rw [hlog]
      rw [hundefined] at h
      cases h
      exact ⟨_, hundefined .., .of_same rfl rfl⟩
  | some p =>
      rw [parseWindow_of_defined hp] at h
      obtain ⟨o, ho, hconclude⟩ := Option.bind_eq_some_iff.mp h
      have hset : l.Settings ⟨rules, window.beyond, limits.depth⟩
          ⟨rules, window.beyond, limits'.depth⟩ := ⟨rfl, rfl, hdepths⟩
      have hm := matchPattern_paired hset hle
      have hstart : l.InStep left (start.enter (State.start window.start limits.fuel))
          (start.enter (State.start window.start limits'.fuel)) := by
        have hfresh : l.InStep left (State.start window.start limits.fuel)
            (State.start window.start limits'.fuel) := ⟨rfl, rfl, fun _ => rfl, hfuels⟩
        cases start with
        | pattern => exact hfresh
        | rule => exact hfresh.add _
      obtain ⟨tree?, t, hrun, hfares⟩ :=
        (hm.tied .outside .outermost l.admits_outermost).agrees hstart ho
      obtain ⟨report', hconclude', hreports⟩ :=
        (conclude_eq_some_iff.mp hconclude).fares hm hset
          (start.leave_fares o ⟨tree?, t⟩ hfares)
      simp only [windowLog, hp, ho]
      refine ⟨report', ?_, hreports⟩
      rw [parseWindow_of_defined hp, hrun]
      exact conclude_eq_some_iff.mpr hconclude'

/-- **Limits only cut parses short, exactly at their threshold.** If a parse comes to an end
without a limit on fuel, then with enough fuel for each of its attempts it comes to
the same, and with less it runs out of fuel. Likewise without a limit on depth: a
limit that its nesting does not exceed changes nothing, and a lower one is exceeded.
The other limit is the same with and without. -/
theorem limits_cut_exactly {layers layers' : Nat} (hle : layers ≤ layers') (rules : Rules)
    (start : Start) (source : String) (first last : Nat) :
    (∀ depth report, parseWithin layers rules ⟨none, depth⟩ start source first last = some report →
      ∀ n, ∃ report',
        parseWithin layers' rules ⟨some n, depth⟩ start source first last = some report' ∧
        (chargesOf layers rules depth start source first last ≤ n →
          report'.result = report.result) ∧
        (n < chargesOf layers rules depth start source first last →
          ∃ o, report'.result = .error (.aborted o .fuelExhausted))) ∧
    (∀ fuel report, parseWithin layers rules ⟨fuel, none⟩ start source first last = some report →
      ∀ d, ∃ report',
        parseWithin layers' rules ⟨fuel, some d⟩ start source first last = some report' ∧
        (nestingOf layers rules fuel start source first last ≤ d →
          report'.result = report.result) ∧
        (d < nestingOf layers rules fuel start source first last →
          ∃ o, report'.result = .error (.aborted o .recursionLimitExceeded))) := by
  constructor
  · intro depth report h n
    obtain ⟨report', h', hreports⟩ := parseWindow_reports .fuel n hle ⟨none, depth⟩
      ⟨some n, depth⟩ ⟨rfl, rfl⟩ rfl h
    refine ⟨report', h', fun hn => hreports.same ?_, fun hn => hreports.cut ?_⟩
    · simpa [Limit.spend_fuel, chargesOf, parseAttempts, parseLog] using hn
    · simpa [Limit.spend_fuel, chargesOf, parseAttempts, parseLog] using hn
  · intro fuel report h d
    obtain ⟨report', h', hreports⟩ := parseWindow_reports (.depth d) 0 hle ⟨fuel, none⟩
      ⟨fuel, some d⟩ rfl ⟨rfl, rfl⟩ h
    refine ⟨report', h', fun hd => hreports.same ?_, fun hd => hreports.cut ?_⟩
    · simpa [Limit.spend_depth, nestingOf, parseAttempts, parseLog] using hd
    · simpa [Limit.spend_depth, nestingOf, parseAttempts, parseLog] using hd

/-- Blanks are trivia, and nests are in one another. -/
private def nests : Rules :=
  .ofList [("_", .terminal (.literal " ")),
    ("nest", .sequence [⟨true, .terminal (.literal "(")⟩,
      ⟨true, .quantifier (.lookup "nest") 0 (some 1)⟩, ⟨true, .terminal (.literal ")")⟩])]

/-- One nest in another takes 25 attempts, and rules are nested twice where a third nest is
looked for. -/
theorem limits_cut_exactly_sample :
    ∃ report, parseWithin 9 nests .unlimited (.rule "nest") "(()) " 0 5 = some report ∧
      report.result.toBool = true ∧
      (∃ r, parseWithin 9 nests ⟨some 25, none⟩ (.rule "nest") "(()) " 0 5 = some r ∧
        r.result = report.result) ∧
      (∃ r o, parseWithin 9 nests ⟨some 24, none⟩ (.rule "nest") "(()) " 0 5 = some r ∧
        r.result = .error (.aborted o .fuelExhausted)) ∧
      (∃ r, parseWithin 9 nests ⟨none, some 2⟩ (.rule "nest") "(()) " 0 5 = some r ∧
        r.result = report.result) ∧
      (∃ r o, parseWithin 9 nests ⟨none, some 1⟩ (.rule "nest") "(()) " 0 5 = some r ∧
        r.result = .error (.aborted o .recursionLimitExceeded)) := by
  have hrun : (parseWithin 9 nests .unlimited (.rule "nest") "(()) " 0 5).any
      (·.result.toBool) = true := by decide +kernel
  obtain ⟨report, h, hok⟩ := (Option.any_eq_true _ _).mp hrun
  have hcharges : chargesOf 9 nests none (.rule "nest") "(()) " 0 5 = 25 := by decide +kernel
  have hnesting : nestingOf 9 nests none (.rule "nest") "(()) " 0 5 = 2 := by decide +kernel
  obtain ⟨hfuel, hdepth⟩ := limits_cut_exactly (Nat.le_refl 9) nests (.rule "nest") "(()) " 0 5
  obtain ⟨r₁, h₁, hsame₁, -⟩ := hfuel none report h 25
  obtain ⟨r₂, h₂, -, hcut₂⟩ := hfuel none report h 24
  obtain ⟨r₃, h₃, hsame₃, -⟩ := hdepth none report h 2
  obtain ⟨r₄, h₄, -, hcut₄⟩ := hdepth none report h 1
  obtain ⟨o₂, ho₂⟩ := hcut₂ (by omega)
  obtain ⟨o₄, ho₄⟩ := hcut₄ (by omega)
  exact ⟨report, h, hok, ⟨r₁, h₁, hsame₁ (by omega)⟩, ⟨r₂, o₂, h₂, ho₂⟩,
    ⟨r₃, h₃, hsame₃ (by omega)⟩, ⟨r₄, o₄, h₄, ho₄⟩⟩

end OperatorPeg
