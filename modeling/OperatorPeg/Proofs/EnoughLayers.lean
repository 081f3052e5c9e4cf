import Mathlib.Data.List.ProdSigma
import Mathlib.Data.List.Perm.Subperm
import Mathlib.Data.Nat.Find
import OperatorPeg.Proofs.Bounded
import OperatorPeg.Proofs.History
import OperatorPeg.Proofs.Layers
import OperatorPeg.Proofs.Limits.Layers
import OperatorPeg.Proofs.Yields

/-!
# Enough layers

A parse that comes to something comes to it with the layers that it is given. Limits
see to that themselves. Without limits, a rule that is entered at some place while it
is being matched there, both times in trivia or both times not, needs fewer layers the
second time, and it would need as many if it ever came to something. So the rules that
are inside one another without moving are different ones, and there are only so many.
-/

namespace OperatorPeg

variable {setting : Setting}

/-- So many layers bring a rule to an end at the cursor, in trivia or not. -/
def RuleEnds (setting : Setting) (layers : Nat) (c : Cursor) (entry : String × Bool) : Prop :=
  ∃ q frame s o, setting.rules.get? entry.1 = some q ∧ frame.inTrivia = entry.2 ∧ s.At c ∧
    matchPattern setting layers frame q s = some o

namespace RuleEnds

variable {layers layers' : Nat} {c : Cursor} {entry : String × Bool}

theorem mono (h : RuleEnds setting layers c entry) (hle : layers ≤ layers') :
    RuleEnds setting layers' c entry := by
  obtain ⟨q, frame, s, o, hget, hframe, hs, ho⟩ := h
  exact ⟨q, frame, s, o, hget, hframe, hs, matchPattern_mono hle ho⟩

theorem not_zero : ¬ RuleEnds setting 0 c entry := by
  rintro ⟨q, frame, s, o, -, -, -, ho⟩
  cases ho

/-- What ends once at a place ends there always. -/
theorem again (hdepth : setting.depthLimit = none) (h : RuleEnds setting layers c entry)
    {q : Pattern} (hget : setting.rules.get? entry.1 = some q) {frame : Frame}
    (hframe : frame.inTrivia = entry.2) {s : State} (hs : s.At c) :
    ∃ o, matchPattern setting layers frame q s = some o := by
  obtain ⟨q', frame', s', o, hget', hframe', hs', ho⟩ := h
  cases hget.symm.trans hget'
  obtain ⟨o', ho', -⟩ := matchPattern_ignoresHistory hdepth layers frame' frame
    (hframe'.trans hframe.symm) q ⟨hs'.cursor.trans hs.cursor.symm,
      hs'.running.trans hs.running.symm, hs'.unlimited, hs.unlimited⟩ ho
  exact ⟨o', ho'⟩

end RuleEnds

/-! ## Entries at one place -/

/-- Rules that are entered at the cursor, in trivia or not, and need more layers. -/
structure EntriesAt (setting : Setting) (layers : Nat) (c : Cursor)
    (entries : List (String × Bool)) : Prop where
  nodup : entries.Nodup
  named : ∀ entry ∈ entries, entry.1 ∈ setting.rules.names
  open' : ∀ entry ∈ entries, ¬ RuleEnds setting layers c entry

/-- How many more rules may be entered within one another from the cursor on. -/
def Rules.room (rules : Rules) (c : Cursor) (entries : List (String × Bool)) : Nat :=
  2 * rules.size * (c.ahead.length + 1) - entries.length

namespace EntriesAt

variable {layers layers' : Nat} {c c' : Cursor} {entries : List (String × Bool)}

theorem nil : EntriesAt setting layers c [] := ⟨List.nodup_nil, nofun, nofun⟩

theorem mono (h : EntriesAt setting layers c entries) (hle : layers' ≤ layers) :
    EntriesAt setting layers' c entries :=
  ⟨h.nodup, h.named, fun entry hentry hends => h.open' entry hentry (hends.mono hle)⟩

/-- There are two entries for each rule. -/
theorem length_le (h : EntriesAt setting layers c entries) :
    entries.length ≤ 2 * setting.rules.size := by
  have hsub : entries ⊆ setting.rules.names ×ˢ [true, false] := fun entry hentry =>
    List.pair_mem_product.mpr ⟨h.named entry hentry, by simp⟩
  have hle := (h.nodup.subperm hsub).length_le
  rw [List.length_product, Rules.names, List.length_map, List.length_cons, List.length_singleton,
    Nat.mul_comm] at hle
  exact hle

/-- Farther on there is room for all entries again. -/
theorem move (h : EntriesAt setting layers c entries) (hreach : c.Reaches c') :
    ∃ entries', EntriesAt setting layers c' entries' ∧
      setting.rules.room c' entries' ≤ setting.rules.room c entries := by
  by_cases hc : c'.offset = c.offset
  · rw [hreach.eq_of_offset hc]
    exact ⟨entries, h, Nat.le_refl _⟩
  · refine ⟨[], nil, ?_⟩
    have hlength := h.length_le
    have hless : 2 * setting.rules.size * (c'.ahead.length + 1)
        ≤ 2 * setting.rules.size * c.ahead.length :=
      Nat.mul_le_mul_left _ (hreach.length_lt hc)
    simp only [Rules.room, List.length_nil, Nat.mul_succ] at hless ⊢
    omega

/-- A rule that comes to an end is not among those entered, and the least layers that bring it
to an end are one too many for what is inside it. -/
theorem enter (h : EntriesAt setting layers c entries) (entry : String × Bool)
    (hnamed : entry.1 ∈ setting.rules.names) (hends : RuleEnds setting layers c entry) :
    ∃ inside < layers, RuleEnds setting (inside + 1) c entry ∧
      EntriesAt setting inside c (entry :: entries) ∧
      setting.rules.room c (entry :: entries) < setting.rules.room c entries := by
  classical
  have hexists : ∃ n, RuleEnds setting n c entry := ⟨layers, hends⟩
  obtain ⟨inside, hinside⟩ : ∃ n, Nat.find hexists = n + 1 :=
    Nat.exists_eq_succ_of_ne_zero fun hzero =>
      RuleEnds.not_zero (hzero ▸ Nat.find_spec hexists)
  have hless : inside < layers := by
    have hleast := Nat.find_min' hexists hends
    rwa [hinside] at hleast
  have hopen : ¬ RuleEnds setting inside c entry :=
    Nat.find_min hexists (hinside ▸ Nat.lt_succ_self inside)
  have hentries : EntriesAt setting inside c (entry :: entries) := by
    refine ⟨List.nodup_cons.mpr ⟨fun hmem => h.open' entry hmem hends, h.nodup⟩,
      List.forall_mem_cons.mpr ⟨hnamed, h.named⟩,
      List.forall_mem_cons.mpr ⟨hopen, (h.mono (Nat.le_of_lt hless)).open'⟩⟩
  refine ⟨inside, hless, hinside ▸ Nat.find_spec hexists, hentries, ?_⟩
  have hlength := hentries.length_le
  have hroom : 2 * setting.rules.size ≤ 2 * setting.rules.size * (c.ahead.length + 1) :=
    Nat.le_mul_of_pos_right _ (Nat.succ_pos _)
  simp only [Rules.room, List.length_cons] at hlength ⊢
  omega

end EntriesAt

/-! ## Without limits -/

/-- A match from a state that has ended takes one layer. -/
theorem matchPattern_of_ended {layers layers' : Nat} (hpos : 0 < layers') {frame : Frame}
    {p : Pattern} {s : State} {o : Outcome} (hend : s.isAborted = true)
    (h : matchPattern setting layers frame p s = some o) :
    matchPattern setting layers' frame p s = some o := by
  obtain ⟨layers', rfl⟩ := Nat.exists_eq_succ_of_ne_zero (Nat.ne_of_gt hpos)
  rw [matchPattern_of_aborted h hend]
  exact matchPattern_halts setting layers' frame p s hend

/-- A match that does with so many layers and one more does with as many as its pattern is high
and the room that the rules entered leave. -/
def FitsRoom (setting : Setting) (layers : Nat) : Prop :=
  ∀ {c : Cursor} {entries : List (String × Bool)} {frame : Frame} {p : Pattern} {s : State}
    {o : Outcome}, EntriesAt setting layers c entries → s.At c →
    matchPattern setting (layers + 1) frame p s = some o →
    matchPattern setting
      (p.height + setting.rules.room c entries * setting.rules.height + 1) frame p s = some o

section Room

variable {layers : Nat} {c : Cursor} {entries : List (String × Bool)} {p : Pattern} {s : State}
  (ih : ∀ fewer < layers, FitsRoom setting fewer) (hentries : EntriesAt setting layers c entries)
  (hs : s.At c)

/-- What comes after a state without limits is such a state, if it has not ended. -/
theorem State.At.after {s' : State} (hs : s.At c) (hproceeds : s.Proceeds s')
    (hrunning : s'.isAborted = false) : s'.At s'.cursor :=
  ⟨rfl, hproceeds.unlimited hs.unlimited, State.isAborted_eq_false_iff.mp hrunning⟩

include ih hentries hs

/-- A part is less high than the pattern. -/
theorem part_of_room {inner : Pattern} (hinner : inner ∈ p.parts) (frame : Frame) :
    FollowsIn (matchPattern setting layers frame inner)
      (matchPattern setting
        (p.height + setting.rules.room c entries * setting.rules.height) frame inner)
      (.after s) := by
  intro s' hs' o' ho'
  have hheight := Pattern.height_lt_of_mem_parts hinner
  cases hend : s'.isAborted with
  | true => exact matchPattern_of_ended (by omega) hend ho'
  | false =>
      cases layers with
      | zero => cases ho'
      | succ layers =>
          obtain ⟨entries', hentries', hroom⟩ :=
            (hentries.mono (Nat.le_succ layers)).move (hs.cursor ▸ hs'.cursor)
          have hless := Nat.mul_le_mul_right setting.rules.height hroom
          exact matchPattern_mono (by omega)
            (ih layers (Nat.lt_succ_self _) hentries' (hs.after hs' hend) ho')

/-- A rule that is entered leaves less room. -/
theorem rule_of_room (hdepth : setting.depthLimit = none) {key : String} {q : Pattern}
    (hget : setting.rules.get? key = some q) (frame : Frame) :
    FollowsIn (matchPattern setting layers frame q)
      (matchPattern setting
        (p.height + setting.rules.room c entries * setting.rules.height) frame q)
      (.after s) := by
  intro s' hs' o' ho'
  have hpos := p.height_pos
  have hheight := Rules.height_le_of_get? hget
  cases hend : s'.isAborted with
  | true => exact matchPattern_of_ended (by omega) hend ho'
  | false =>
      have hat := hs.after hs' hend
      obtain ⟨entries', hentries', hroom⟩ := hentries.move (hs.cursor ▸ hs'.cursor)
      have hnamed : key ∈ setting.rules.names :=
        Rules.contains_iff_mem_names.mp (Option.isSome_of_eq_some hget)
      obtain ⟨inside, hless, hends, hinside, hroom'⟩ := hentries'.enter
        (key, frame.inTrivia) hnamed ⟨q, frame, s', o', hget, rfl, hat, ho'⟩
      obtain ⟨o'', ho''⟩ := hends.again hdepth hget rfl hat
      cases ho'.symm.trans (matchPattern_mono hless ho'')
      have hle := Nat.mul_le_mul_right setting.rules.height
        (Nat.le_trans (Nat.succ_le_of_lt hroom') hroom)
      rw [Nat.succ_mul] at hle
      exact matchPattern_mono (by omega) (ih inside hless hinside hat ho'')

end Room

/-- Whatever number of layers a match does with, it does with a number that is known
beforehand. -/
theorem matchPattern_of_room (hdepth : setting.depthLimit = none) (layers : Nat) :
    FitsRoom setting layers := by
  induction layers using Nat.strong_induction_on with
  | _ layers ih =>
    intro c entries frame p s o hentries hs h
    have hrule := fun {key q} (hget : setting.rules.get? key = some q) =>
      rule_of_room (p := p) ih hentries hs hdepth hget
    exact matchOnce_eq_some_iff.mpr ((matchOnce_eq_some_iff.mp h).follow
      (matchPattern_along State.Proceeds.isCourse setting layers)
      (fun _ trivia htrivia => hrule htrivia _)
      (fun inner hinner frame' _ => part_of_room ih hentries hs hinner frame')
      (fun key q _ hget => hrule hget _) (State.Proceeds.refl s))

/-! ## Parses -/

/-- A parse comes to the same if its start pattern and its trivia do. -/
theorem parseWindow_follow {layers layers' : Nat} {rules : Rules} {limits : Limits}
    {start : Start} {window : Window} (region : Region)
    (hstart : region.holds (State.start window.start limits.fuel))
    (hfollow : ∀ frame p, p.height ≤ max rules.height start.height →
      FollowsIn (matchPattern ⟨rules, window.beyond, limits.depth⟩ layers frame p)
        (matchPattern ⟨rules, window.beyond, limits.depth⟩ layers' frame p) region)
    {report : Report} (h : parseWindow layers rules limits start window = some report) :
    parseWindow layers' rules limits start window = some report := by
  cases hp : start.pattern? rules with
  | none =>
      obtain ⟨name, hundefined⟩ := parseWindow_of_undefined hp
      rw [hundefined] at h ⊢
      exact h
  | some p =>
      rw [parseWindow_of_defined hp] at h ⊢
      obtain ⟨o, ho, hconclude⟩ := Option.bind_eq_some_iff.mp h
      have hentered := region.enter start hstart
      have hleft := region.leave start (region.closed hentered
        (matchPattern_along State.Proceeds.isCourse _ _ _ _ _ _ ho))
      refine Option.bind_eq_some_iff.mpr
        ⟨o, hfollow .outermost p (Start.height_le hp) _ hentered o ho, ?_⟩
      have hskip {s : State}
          (hrun : SkipRun (matchPattern ⟨rules, window.beyond, limits.depth⟩ layers)
            ⟨rules, window.beyond, limits.depth⟩ .outermost (start.leave o).state s) :
          SkipRun (matchPattern ⟨rules, window.beyond, limits.depth⟩ layers')
            ⟨rules, window.beyond, limits.depth⟩ .outermost (start.leave o).state s :=
        hrun.follow (fun _ trivia htrivia => hfollow _ trivia
          (Nat.le_trans (Rules.height_le_of_get? htrivia) (Nat.le_max_left _ _))) hleft
      refine conclude_eq_some_iff.mpr ?_
      cases conclude_eq_some_iff.mp hconclude with
      | missed hnone => exact .missed hnone
      | reached htree hrun hend hahead => exact .reached htree (hskip hrun) hend hahead
      | short htree hrun hshort => exact .short htree (hskip hrun) hshort

theorem parseWithin_mono {layers layers' : Nat} (hle : layers ≤ layers') {rules : Rules}
    {limits : Limits} {start : Start} {source : String} {first last : Nat} {report : Report}
    (h : parseWithin layers rules limits start source first last = some report) :
    parseWithin layers' rules limits start source first last = some report :=
  parseWindow_follow .everywhere trivial
    (fun _ _ _ _ _ _ ho => matchPattern_mono hle ho) h

theorem length_ahead_ofRange_le (source : List Char) (first last : Nat) :
    (Window.ofRange source first last).start.ahead.length ≤ source.length := by
  have hcut (n : Nat) (cs : List Char) :
      (Text.cut n cs).1.length + (Text.cut n cs).2.length = cs.length := by
    rw [← List.length_append, Text.cut_append]
  have hinside := hcut last source
  have hahead := hcut first (Text.cut last source).1
  simp only [Window.ofRange]
  omega

/-- The layers that a parse is given are enough without limits. -/
theorem le_layersFor_of_room (rules : Rules) (limits : Limits) {start : Start} (source : String)
    {c : Cursor} (hc : c.ahead.length ≤ source.length) {height : Nat}
    (hheight : height ≤ max rules.height start.height) :
    height + rules.room c [] * rules.height + 1 ≤ layersFor rules limits start source := by
  unfold layersFor
  refine Nat.le_trans ?_ (Nat.le_add_right _ _)
  generalize hhighest : max rules.height start.height = highest at hheight ⊢
  have hrules : rules.height ≤ highest := hhighest ▸ Nat.le_max_left _ _
  have hroom : rules.room c [] + 1 ≤
      2 * (rules.size + 1) * (source.length + 1) + 2 * limits.depth.getD 0 + 1 := by
    have hmul : 2 * rules.size * (c.ahead.length + 1)
        ≤ 2 * (rules.size + 1) * (source.length + 1) := Nat.mul_le_mul (by omega) (by omega)
    simp only [Rules.room, List.length_nil]
    omega
  calc height + rules.room c [] * rules.height + 1
      ≤ highest + rules.room c [] * highest + 1 :=
        Nat.succ_le_succ (Nat.add_le_add hheight (Nat.mul_le_mul_left _ hrules))
    _ = highest * (rules.room c [] + 1) + 1 := by
        rw [Nat.mul_comm _ (_ + 1), Nat.succ_mul, Nat.add_comm highest]
    _ ≤ (highest + 1) * (2 * (rules.size + 1) * (source.length + 1)
          + 2 * limits.depth.getD 0 + 2) :=
        Nat.add_one_le_iff.mpr (Nat.mul_lt_mul_of_le_of_lt (Nat.le_succ _)
          (Nat.lt_succ_of_le hroom) (Nat.succ_pos _))

/-- **Enough layers.** A parse that comes to something with some number of layers comes to it
with the layers that it is given. -/
theorem parseRange_of_parseWithin {layers : Nat} {rules : Rules} {limits : Limits}
    {start : Start} {source : String} {first last : Nat} {report : Report}
    (h : parseWithin layers rules limits start source first last = some report) :
    parseRange rules limits start source first last = some report := by
  by_cases hbounded : limits.fuel.isSome = true ∨ limits.depth.isSome = true
  · obtain ⟨report', h'⟩ := parseRange_of_bounded rules start source first last hbounded
    let enough := layersFor rules limits start source
    have hmore := parseWithin_mono (Nat.le_max_left layers enough) h
    have hmore' := parseWithin_mono (Nat.le_max_right layers enough) h'
    rwa [← Option.some.inj (hmore.symm.trans hmore')] at h'
  · simp only [not_or, Bool.not_eq_true, Option.isSome_eq_false_iff, Option.isNone_iff_eq_none]
      at hbounded
    obtain ⟨hfuel, hdepth⟩ := hbounded
    refine parseWindow_follow (.after (State.start _ limits.fuel)) (.refl _)
      (fun frame p hheight s hs o ho => ?_) h
    have henough := le_layersFor_of_room rules limits source
      (Nat.le_trans hs.cursor.length_le (length_ahead_ofRange_le _ first last)) hheight
    cases hend : s.isAborted with
    | true => exact matchPattern_of_ended (by omega) hend ho
    | false =>
        cases layers with
        | zero => cases ho
        | succ layers =>
            have hat : s.At s.cursor :=
              ⟨rfl, hs.unlimited hfuel, State.isAborted_eq_false_iff.mp hend⟩
            exact matchPattern_mono henough (matchPattern_of_room hdepth _ .nil hat ho)

theorem parseRange_eq_some_iff {rules : Rules} {limits : Limits} {start : Start}
    {source : String} {first last : Nat} {report : Report} :
    parseRange rules limits start source first last = some report ↔
      ∃ layers, parseWithin layers rules limits start source first last = some report :=
  ⟨fun h => ⟨_, h⟩, fun ⟨_, h⟩ => parseRange_of_parseWithin h⟩

end OperatorPeg
