import OperatorPeg.Proofs.Log
import OperatorPeg.Proofs.Onward
import OperatorPeg.Proofs.References

/-!
# Where the moments of a parse are

Whatever happens in a match happens at places that its cursor can get to, in a frame that says
what the innermost expression does. A rule that is not there is one that the pattern leads to.
The end of the range is not looked for in a match, but only when the start pattern has come to
a tree.

This is shown of a log once, whatever it notes of the moments.
-/

namespace OperatorPeg

/-- This may happen in matching `p` from `c` on. What a pattern comes to then is what it says,
at a place that can be got to. -/
def Happening.Follows (setting : Setting) (frame : Frame) (p : Pattern) (c : Cursor) :
    Happening → Prop
  | .tries _ s | .unpaid s | .faces _ s => c.Reaches s.cursor
  | .comesTo p o => c.Reaches o.state.cursor ∧
      ∃ m ready, c.Reaches ready.cursor ∧ BodyRun m setting frame ready p o
  | .lacksRule name offset =>
      setting.rules.Misses p name ∧ ∃ d, c.Reaches d ∧ d.offset = offset
  | .stuck offset | .tooDeep offset | .lacksOperand offset => ∃ d, c.Reaches d ∧ d.offset = offset
  | .lacksEnd _ => False

/-- The moment may come in matching `p` from `c` on. -/
structure Moment.Follows (setting : Setting) (p : Pattern) (c : Cursor) (moment : Moment) :
    Prop where
  suits : moment.situation.Suits moment.frame
  happening : moment.happening.Follows setting moment.frame p c

namespace Moment.Follows

variable {setting : Setting} {p p' : Pattern} {c d : Cursor} {moment : Moment}

/-- What may come from further on may come from here. -/
theorem of_reaches (h : moment.Follows setting p d) (hcd : c.Reaches d) :
    moment.Follows setting p c := by
  obtain ⟨situation, frame, happening⟩ := moment
  obtain ⟨hsuits, hfollows⟩ := h
  refine ⟨hsuits, ?_⟩
  cases happening with
  | tries | unpaid | faces => exact hcd.trans hfollows
  | comesTo p o =>
      obtain ⟨hreaches, m, ready, hready, hrun⟩ := hfollows
      exact ⟨hcd.trans hreaches, m, ready, hcd.trans hready, hrun⟩
  | lacksRule =>
      obtain ⟨hmisses, e, he, hoffset⟩ := hfollows
      exact ⟨hmisses, e, hcd.trans he, hoffset⟩
  | stuck | tooDeep | lacksOperand =>
      obtain ⟨e, he, hoffset⟩ := hfollows
      exact ⟨e, hcd.trans he, hoffset⟩
  | lacksEnd => exact hfollows

/-- What may come in matching a pattern may come in matching one that misses as many rules. -/
theorem of_misses (h : moment.Follows setting p' c)
    (hmisses : ∀ key, setting.rules.Misses p' key → setting.rules.Misses p key) :
    moment.Follows setting p c := by
  obtain ⟨situation, frame, happening⟩ := moment
  obtain ⟨hsuits, hfollows⟩ := h
  refine ⟨hsuits, ?_⟩
  cases happening with
  | lacksRule name => exact ⟨hmisses name hfollows.1, hfollows.2⟩
  | _ => exact hfollows

end Moment.Follows

section

variable {α : Type} (note : Moment → List α)

/-- All this is noted of moments that may come in matching `p` from `c` on. -/
def AllFollow (setting : Setting) (p : Pattern) (c : Cursor) (log : List α) : Prop :=
  ∀ entry ∈ log, ∃ moment : Moment, moment.Follows setting p c ∧ entry ∈ note moment

/-- What is noted of a match in a frame that suits is noted of moments that may come in it. -/
def Log.Follow (setting : Setting) (w : Log α) : Prop :=
  ∀ situation frame, situation.Suits frame → ∀ p s,
    AllFollow note setting p s.cursor (w situation frame p s)

variable {note} {setting : Setting}

namespace AllFollow

variable {p p' : Pattern} {c d : Cursor} {before after : List α}

theorem nil : AllFollow note setting p c [] := fun _ hmem => absurd hmem List.not_mem_nil

theorem append (h₁ : AllFollow note setting p c before) (h₂ : AllFollow note setting p c after) :
    AllFollow note setting p c (before ++ after) :=
  List.forall_mem_append.mpr ⟨h₁, h₂⟩

theorem one {moment : Moment} (h : moment.Follows setting p c) :
    AllFollow note setting p c (note moment) :=
  fun _ hmem => ⟨moment, h, hmem⟩

theorem of_reaches (h : AllFollow note setting p d after) (hcd : c.Reaches d) :
    AllFollow note setting p c after := by
  intro entry hmem
  obtain ⟨moment, hfollows, hnote⟩ := h entry hmem
  exact ⟨moment, hfollows.of_reaches hcd, hnote⟩

theorem of_misses (h : AllFollow note setting p' c after)
    (hmisses : ∀ key, setting.rules.Misses p' key → setting.rules.Misses p key) :
    AllFollow note setting p c after := by
  intro entry hmem
  obtain ⟨moment, hfollows, hnote⟩ := h entry hmem
  exact ⟨moment, hfollows.of_misses hmisses, hnote⟩

theorem of_references (h : AllFollow note setting p' c after)
    (hsub : p'.references ⊆ p.references) : AllFollow note setting p c after :=
  h.of_misses fun _ hkey => hkey.of_references hsub

theorem of_uses (h : AllFollow note setting p' c after) (hp : setting.rules.Uses p p') :
    AllFollow note setting p c after :=
  h.of_misses fun _ hkey => hkey.of_uses hp

end AllFollow

section Loops

variable {m : Pattern → State → Option Outcome} {w : Pattern → State → List α}
  (hw : ∀ p s, AllFollow note setting p s.cursor (w p s))
  (hm : ∀ p, RunsAlong State.Onward (m p))

include hw hm

theorem stepsLog_follow (steps : List Step) (s : State) :
    AllFollow note setting (.sequence steps) s.cursor (stepsLog m w steps s) := by
  induction steps generalizing s with
  | nil => exact .nil
  | cons step steps ih =>
      obtain ⟨keep, p⟩ := step
      refine ((hw p s).of_references (List.subset_append_left _ _)).append ?_
      split
      · next s' hmatch =>
          have hrest := (ih s').of_reaches (hm _ _ _ hmatch).cursor
          exact hrest.of_references (List.subset_append_right _ _)
      · exact .nil

theorem alternativesLog_follow (offset index : Nat) (ps : List Pattern) (s : State) :
    AllFollow note setting (.choice ps) s.cursor (alternativesLog m w offset index ps s) := by
  induction ps generalizing index s with
  | nil => exact .nil
  | cons p ps ih =>
      refine ((hw p s).of_references (List.subset_append_left _ _)).append ?_
      split
      · next s' hmatch =>
          split
          · exact .nil
          · have hrest := (ih (index + 1) (s'.add (.backtracked index offset))).of_reaches
              (hm _ _ _ hmatch).cursor
            exact hrest.of_references (List.subset_append_right _ _)
      · exact .nil

theorem operatorsLog_follow (wantOperand : Bool) (ops : List Operator) (s : State) :
    AllFollow note setting (.table ops) s.cursor (operatorsLog m w wantOperand ops s) := by
  induction ops generalizing s with
  | nil => exact .nil
  | cons op ops ih =>
      obtain ⟨name, left, right, p⟩ := op
      have hothers : (Pattern.table ops).references ⊆
          (Pattern.table (⟨name, left, right, p⟩ :: ops)).references :=
        List.subset_append_right _ _
      rw [operatorsLog]
      split
      · exact (ih s).of_references hothers
      · refine ((hw p s).of_references (List.subset_append_left _ _)).append ?_
        split
        · next s' hmatch =>
            exact ((ih s').of_reaches (hm _ _ _ hmatch).cursor).of_references hothers
        · exact .nil

end Loops

section Rounds

variable {p q : Pattern} {m : State → Option Outcome} {w : State → List α}
  (hw : ∀ s, AllFollow note setting p s.cursor (w s)) (hm : RunsAlong State.Onward m)

include hw hm

theorem upToLog_follow (n : Nat) (s : State) :
    AllFollow note setting p s.cursor (upToLog m w n s) := by
  induction n generalizing s with
  | zero => exact .nil
  | succ n ih =>
      refine (hw s).append ?_
      split
      · next s' hmatch => exact (ih s').of_reaches (hm _ _ hmatch).cursor
      · exact .nil

variable {stuck : Nat → List α}
  (hstuck : ∀ c : Cursor, AllFollow note setting p c (stuck c.offset))

include hstuck

theorem whileLog_follow (budget : List Char) (s : State) :
    AllFollow note setting p s.cursor (whileLog m w stuck budget s) := by
  induction budget generalizing s with
  | nil =>
      rw [whileLog]
      refine (hw s).append ?_
      split
      · next after hmatch =>
          split
          · exact (hstuck after.cursor).of_reaches (hm _ _ hmatch).cursor
          · exact .nil
      · exact .nil
  | cons _ budget ih =>
      rw [whileLog]
      refine (hw s).append ?_
      split
      · next after hmatch =>
          split
          · exact (hstuck after.cursor).of_reaches (hm _ _ hmatch).cursor
          · exact (ih after).of_reaches (hm _ _ hmatch).cursor
      · exact .nil

theorem roundsLog_follow (most : Option Nat) (s : State) :
    AllFollow note setting p s.cursor (roundsLog m w stuck most s) := by
  cases most with
  | some n => exact upToLog_follow hw hm n s
  | none => exact whileLog_follow hw hm hstuck _ s

end Rounds

section Expressions

variable {c : Climbing} {w : Log α} {peek : State → List α}
  (hw : w.Follow note setting)
  (hpeek : ∀ s, AllFollow note setting (.table c.operators) s.cursor (peek s))
  (hc : c.RunsAlong State.Onward)

include hw hpeek hc

theorem findsLog_follow (operand : Option Tree) (s : State) :
    AllFollow note setting (.table c.operators) s.cursor (findsLog c w peek operand s) := by
  refine .append ?_ ?_
  · split
    · exact .nil
    · exact hpeek s
  · split
    · exact .nil
    · next place before hprobe =>
        rw [← Climbing.cursor_probe hc.cursor_of_peek hprobe]
        exact operatorsLog_follow (hw _ _ (.inr (Situation.place?_trying place).symm))
          (hc.matcher _) _ _ before

variable (hframe : Situation.within.Suits c.frame)

include hframe

omit hw in
theorem finishLog_follow (operand : Option Tree) (s : State) :
    AllFollow note setting (.table c.operators) s.cursor (finishLog note c peek operand s) := by
  cases operand with
  | some _ => exact .nil
  | none =>
      refine (hpeek s).append ?_
      split
      · exact .nil
      · next offset s' hlook =>
          obtain ⟨after, hafter, rfl, -⟩ := hc.peek _ _ _ hlook
          exact .one ⟨hframe, after.cursor, hafter.cursor, rfl⟩

theorem climbLog_follow (rounds : Nat) (stack : List Pending) (operand : Option Tree)
    (lastEmpty : Option Nat) (s : State) :
    AllFollow note setting (.table c.operators) s.cursor
      (climbLog note c w peek rounds stack operand lastEmpty s) := by
  induction rounds generalizing stack operand lastEmpty s with
  | zero => exact .nil
  | succ rounds ih =>
      refine (findsLog_follow hw hpeek hc operand s).append ?_
      split
      · exact .nil
      · next before found after hfind =>
          have hfinds := Climbing.find_eq_some_iff.mp hfind
          have hafter := hfinds.along State.Onward.isCourse hc
          split
          · exact .nil
          · split
            · exact (finishLog_follow hpeek hc hframe operand after).of_reaches hafter.cursor
            · next op mid =>
                split
                · have hbefore := hfinds.cursor_before hc
                  exact .one ⟨hframe, s.cursor, .refl _, by rw [hbefore]⟩
                · refine AllFollow.of_reaches ?_ hafter.cursor
                  -- what an operator takes does not move
                  generalize htake : takeOperand op stack operand
                    (after.add (.operator op.name mid.offset)) = taken
                  obtain ⟨⟨rest, left⟩, s'⟩ := taken
                  have hstays := cursor_takeOperand htake
                  rw [State.cursor_add] at hstays
                  rw [← hstays]
                  dsimp only
                  split
                  · exact ih _ _ _ _
                  · exact ih _ _ _ (s'.add _)

end Expressions

section Layers

variable {m : Matcher} {w : Log α} (hw : w.Follow note setting)
  (hm : ∀ frame p, RunsAlong State.Onward (m frame p))

include hw

theorem skipLog_follow (situation : Situation) (frame : Frame) (p : Pattern) (s : State) :
    AllFollow note setting p s.cursor (skipLog w setting situation frame s) := by
  unfold skipLog
  split
  · exact .nil
  · split
    · exact .nil
    · next trivia htrivia =>
        exact (hw situation { frame with inTrivia := true, quiet := true } (.inl rfl) trivia
          s).of_uses (.trivia htrivia)

variable {situation : Situation} {frame : Frame} (hsuits : situation.Suits frame)

include hsuits

theorem lookupLog_follow (key : String) (s : State) :
    AllFollow note setting (.lookup key) s.cursor
      (lookupLog note w setting situation frame key s) := by
  have hkey : key ∈ (Pattern.lookup key).references := List.mem_singleton_self key
  unfold lookupLog
  split
  · next hget =>
      have hmissing : setting.rules.contains key = false := by rw [Rules.contains, hget]; rfl
      exact .one ⟨hsuits, ⟨_, .itself, hkey, hmissing⟩, s.cursor, .refl _, rfl⟩
  · next p hget =>
      split
      · exact .one ⟨hsuits, s.cursor, .refl _, rfl⟩
      · exact (hw situation { frame with depth := frame.depth + 1 } hsuits p
          (s.add (.entered key s.cursor.offset))).of_uses (.rule .itself hkey hget)

include hm

theorem bodyLog_follow (p : Pattern) (s : State) :
    AllFollow note setting p s.cursor (bodyLog note m w setting situation frame p s) := by
  cases p with
  | terminal => exact .nil
  | sequence steps => exact stepsLog_follow (hw situation frame hsuits) (hm frame) steps s
  | choice alternatives =>
      exact alternativesLog_follow (hw situation frame hsuits) (hm frame) _ _ alternatives s
  | quantifier inner _ most =>
      have hstuck : ∀ c : Cursor, AllFollow note setting inner c
          (note ⟨situation, frame, .stuck c.offset⟩) := fun c => .one ⟨hsuits, c, .refl c, rfl⟩
      have hrounds : AllFollow note setting inner s.cursor
          (roundsLog (m frame inner) (w situation frame inner)
            (fun offset => note ⟨situation, frame, .stuck offset⟩) most s) :=
        roundsLog_follow (hw situation frame hsuits inner) (hm frame inner) hstuck most s
      exact hrounds.of_references (List.Subset.refl _)
  | lookup key => exact lookupLog_follow hw hsuits key s
  | label _ inner =>
      exact (hw situation frame hsuits inner s).of_references (List.Subset.refl _)
  | lookahead inner _ =>
      exact (hw situation { frame with quiet := true } (.inl rfl) inner s).of_references
        (List.Subset.refl _)
  | table operators =>
      exact climbLog_follow hw (skipLog_follow hw .within frame (.table operators))
        (climbing_along State.Onward.isCourse hm operators) (.inr rfl) _ _ _ _ s

theorem layerLog_follow (p : Pattern) (s : State) :
    AllFollow note setting p s.cursor (layerLog note m w setting situation frame p s) := by
  refine AllFollow.append (.one ⟨hsuits, .refl s.cursor⟩) ?_
  split
  · exact .one ⟨hsuits, .refl s.cursor⟩
  · next charged hc =>
      have hcharged := State.cursor_of_charge hc
      rw [← hcharged]
      refine (skipLog_follow hw situation frame p charged).append ?_
      split
      · exact .nil
      · next ready hskip =>
          have hready := ((skipTrivia_eq_some_iff.mp hskip).along State.Onward.isCourse hm).cursor
          refine .append (.one ⟨hsuits, hready⟩) (.append ?_ ?_)
          · exact (bodyLog_follow hw hm hsuits p ready).of_reaches hready
          · split
            · exact .nil
            · next o hbody =>
                have hrun := matchBody_eq_some_iff.mp hbody
                have hreaches := (hrun.along State.Onward.isCourse hm).cursor
                exact .one ⟨hsuits, hready.trans hreaches, m, ready, hready, hrun⟩

end Layers

/-- **What is noted of a match is noted of moments at places that its cursor gets to**, and the
frame of each says what the situation is. -/
theorem logOf_follow (note : Moment → List α) (setting : Setting) (layers : Nat) :
    (logOf note setting layers).Follow note setting := by
  induction layers with
  | zero => exact fun _ _ _ _ _ => .nil
  | succ layers ih =>
      exact fun _ _ hsuits p s => layerLog_follow ih
        (matchPattern_along State.Onward.isCourse setting layers) hsuits p s

end

/-! ### In a parse -/

/-- The pattern that says where a parse begins. -/
def Start.asPattern : Start → Pattern
  | .rule name => .lookup name
  | .pattern p => p

theorem Start.uses_of_pattern? {start : Start} {rules : Rules} {p : Pattern}
    (h : start.pattern? rules = some p) : rules.Uses start.asPattern p := by
  cases start with
  | rule name => exact .rule .itself (List.mem_singleton_self name) h
  | pattern => cases h; exact .itself

/-- A moment of a parse of `p` that begins at `c`: one of a match from there on, or the end of
the range is missed, which is looked for outside all expressions. -/
inductive Moment.Belongs (setting : Setting) (p : Pattern) (c : Cursor) : Moment → Prop where
  | follows {moment : Moment} (h : moment.Follows setting p c) : Belongs setting p c moment
  | lacksEnd {s : State} (h : c.Reaches s.cursor) :
      Belongs setting p c ⟨.outside, .outermost, .lacksEnd s⟩

theorem Moment.Belongs.suits {setting : Setting} {p : Pattern} {c : Cursor} {moment : Moment}
    (h : moment.Belongs setting p c) : moment.situation.Suits moment.frame := by
  cases h with
  | follows h => exact h.suits
  | lacksEnd => exact .inr rfl

section

variable {α : Type} {note : Moment → List α}

/-- All this is noted of moments of a parse. -/
def AllBelong (note : Moment → List α) (setting : Setting) (p : Pattern) (c : Cursor)
    (log : List α) : Prop :=
  ∀ entry ∈ log, ∃ moment : Moment, moment.Belongs setting p c ∧ entry ∈ note moment

namespace AllBelong

variable {setting : Setting} {p : Pattern} {c : Cursor} {before after : List α}

theorem nil : AllBelong note setting p c [] := fun _ hmem => absurd hmem List.not_mem_nil

theorem append (h₁ : AllBelong note setting p c before) (h₂ : AllBelong note setting p c after) :
    AllBelong note setting p c (before ++ after) :=
  List.forall_mem_append.mpr ⟨h₁, h₂⟩

theorem of_follow (h : AllFollow note setting p c after) : AllBelong note setting p c after := by
  intro entry hmem
  obtain ⟨moment, hfollows, hnote⟩ := h entry hmem
  exact ⟨moment, .follows hfollows, hnote⟩

end AllBelong

theorem concludeLog_belong {setting : Setting} {m : Matcher} {w : Log α}
    (hw : w.Follow note setting) (hm : ∀ frame p, RunsAlong State.Onward (m frame p))
    {p : Pattern} {c : Cursor} {o : Outcome} (hc : c.Reaches o.state.cursor) :
    AllBelong note setting p c (concludeLog note m w setting o) := by
  unfold concludeLog
  split
  · exact .nil
  · refine .append (.of_follow ((skipLog_follow hw _ _ p o.state).of_reaches hc)) ?_
    split
    · exact .nil
    · next s hskip =>
        split
        · exact .nil
        · have hskipped :=
            ((skipTrivia_eq_some_iff.mp hskip).along State.Onward.isCourse hm).cursor
          exact fun _ hmem => ⟨_, .lacksEnd (hc.trans hskipped), hmem⟩

/-- **What is noted of a parse is noted of moments at places that its cursor gets to.** -/
theorem windowLog_belong (note : Moment → List α) (layers : Nat) (rules : Rules)
    (limits : Limits) (start : Start) (window : Window) :
    AllBelong note ⟨rules, window.beyond, limits.depth⟩ start.asPattern window.start
      (windowLog note layers rules limits start window) := by
  have honward := matchPattern_along State.Onward.isCourse ⟨rules, window.beyond, limits.depth⟩
    layers
  have hfollow := logOf_follow note ⟨rules, window.beyond, limits.depth⟩ layers
  have hentered : (start.enter (State.start window.start limits.fuel)).cursor = window.start := by
    simp [State.start]
  simp only [windowLog]
  split
  · next hnone =>
      cases start with
      | pattern => exact .nil
      | rule name =>
          have hmissing : rules.contains name = false := by
            rw [Rules.contains, show rules.get? name = none from hnone]; rfl
          exact .of_follow (.one ⟨.inr rfl,
            ⟨_, .itself, List.mem_singleton_self name, hmissing⟩, window.start, .refl _, by
              rw [hentered]⟩)
  · next p hp =>
      have hmatch := hfollow .outside .outermost (.inr rfl) p
        (start.enter (State.start window.start limits.fuel))
      rw [hentered] at hmatch
      refine .append (.of_follow (hmatch.of_uses (Start.uses_of_pattern? hp))) ?_
      split
      · exact .nil
      · next o ho =>
          have hreaches := (honward .outermost p _ _ ho).cursor
          rw [hentered, ← start.cursor_leave o] at hreaches
          exact concludeLog_belong hfollow honward hreaches

end

/-- **The moments of a parse are at places that its cursor gets to.** -/
theorem windowMoments_belong (layers : Nat) (rules : Rules) (limits : Limits) (start : Start)
    (window : Window) :
    ∀ moment ∈ windowLog ([·]) layers rules limits start window,
      moment.Belongs ⟨rules, window.beyond, limits.depth⟩ start.asPattern window.start := by
  intro moment hmem
  obtain ⟨_, hbelongs, hnote⟩ := windowLog_belong ([·]) layers rules limits start window moment hmem
  exact List.mem_singleton.mp hnote ▸ hbelongs

/-! ### Rules that are missed -/

/-- A rule is noted to end the parse of a moment at which it is not there. -/
theorem Moment.lacksRule_of_aborts {moment : Moment} {offset : Nat} {name : String}
    (h : (offset, .undefinedRule name) ∈ moment.aborts) :
    moment.happening = .lacksRule name offset := by
  obtain ⟨situation, frame, happening⟩ := moment
  cases happening with
  | unpaid s =>
      simp only [aborts] at h
      split at h <;> simp at h
  | stuck | lacksRule | tooDeep => simp_all [aborts]
  | _ => cases h

/-- **No parse with closed rules meets a rule that is not there**, if it begins with one of
them. So it does not report one either. -/
theorem parse_noneUndefined {rules : Rules} (hrules : rules.Closed) {name : String}
    (hname : name ∈ rules.names) (layers : Nat) (limits : Limits) (source : String)
    (first last : Nat) :
    ∀ e ∈ parseAborts layers rules limits (.rule name) source first last,
      ∀ key, e.2 ≠ .undefinedRule key := by
  rintro ⟨offset, cause⟩ hmem key rfl
  obtain ⟨moment, hbelongs, hnote⟩ := windowLog_belong Moment.aborts layers rules limits
    (.rule name) (.ofRange source.toList first last) _ hmem
  have hlacks := Moment.lacksRule_of_aborts hnote
  obtain ⟨situation, frame, happening⟩ := moment
  obtain rfl : happening = .lacksRule key offset := hlacks
  have hresolves : rules.Resolves (Start.rule name).asPattern := by
    intro key hkey
    rw [List.mem_singleton.mp hkey]
    exact Rules.contains_iff_mem_names.mpr hname
  cases hbelongs with
  | follows hfollows => exact hrules.not_misses hresolves hfollows.happening.1

end OperatorPeg
