import Mathlib.Order.Bounds.Defs
import OperatorPeg.Proofs.Faithful
import OperatorPeg.Proofs.Moments

/-!
# Ranges of a source

A parse may be given any two numbers as its range. The range that is parsed ends between two
characters on both sides, as near to these numbers as that can be; and whatever a parse looks
at, says in its tree or reports lies between two characters of that range.

Here a place between two characters is one where the bytes of the source can be divided, and
a slice is what stands between two such places. So where a text is sliced, the slice is there.
-/

namespace OperatorPeg

namespace Text

/-! ## Boundaries -/

/-- The offset is where a character of the text starts or where the text ends. -/
def IsBoundary (text : String) (offset : Nat) : Prop :=
  (⟨offset⟩ : String.Pos.Raw).IsValid text

theorem isBoundary_iff {text : String} {offset : Nat} :
    IsBoundary text offset ↔
      ∃ before after, text.toList = before ++ after ∧ byteLength before = offset := by
  rw [IsBoundary, String.Pos.Raw.isValid_iff_exists_append]
  constructor
  · rintro ⟨before, after, rfl, hoffset⟩
    refine ⟨before.toList, after.toList, String.toList_append, ?_⟩
    rw [byteLength_toList]
    exact (congrArg String.Pos.Raw.byteIdx hoffset).symm
  · rintro ⟨before, after, htext, rfl⟩
    refine ⟨.ofList before, .ofList after, ?_, ?_⟩
    · rw [← String.ofList_append, ← htext, String.ofList_toList]
    · exact String.Pos.Raw.ext (byteLength_ofList before).symm

/-- A beginning that takes at most `n` bytes is cut off with them. -/
theorem byteLength_le_cut {before : List Char} {n : Nat} (h : byteLength before ≤ n)
    (after : List Char) : byteLength before ≤ byteLength (cut n (before ++ after)).1 := by
  induction before generalizing n with
  | nil => exact Nat.zero_le _
  | cons c before ih =>
      simp only [byteLength] at h
      have hrest : byteLength before ≤ n - c.utf8Size := by omega
      have := ih hrest
      simp only [List.cons_append, cut, byteLength]
      rw [if_pos (by omega)]
      simp only [byteLength]
      omega

/-- **A bound of a range is moved back to the nearest boundary.** -/
theorem isGreatest_floorOffset (text : String) (n : Nat) :
    IsGreatest {o | IsBoundary text o ∧ o ≤ min n text.utf8ByteSize}
      (floorOffset text.toList n) := by
  refine ⟨⟨isBoundary_iff.mpr ⟨_, _, (cut_append n text.toList).symm, rfl⟩, ?_⟩, ?_⟩
  · rw [← byteLength_toList]
    exact Nat.le_min.mpr ⟨floorOffset_le _ n, floorOffset_le_byteLength _ n⟩
  · rintro o ⟨ho, hle⟩
    obtain ⟨before, after, htext, rfl⟩ := isBoundary_iff.mp ho
    rw [floorOffset, htext]
    exact byteLength_le_cut (Nat.le_min.mp hle).1 after

theorem isBoundary_floorOffset (text : String) (n : Nat) :
    IsBoundary text (floorOffset text.toList n) :=
  (isGreatest_floorOffset text n).1.1

theorem isBoundary_utf8ByteSize (text : String) : IsBoundary text text.utf8ByteSize :=
  isBoundary_iff.mpr ⟨text.toList, [], (List.append_nil _).symm, byteLength_toList text⟩

namespace IsBoundary

variable {text : String} {offset : Nat}

theorem le_utf8ByteSize (h : IsBoundary text offset) : offset ≤ text.utf8ByteSize := by
  obtain ⟨before, after, htext, rfl⟩ := isBoundary_iff.mp h
  rw [← byteLength_toList, htext, byteLength_append]
  exact Nat.le_add_right _ _

theorem le_floorOffset {n : Nat} (h : IsBoundary text offset) (hle : offset ≤ n) :
    offset ≤ floorOffset text.toList n :=
  (isGreatest_floorOffset text n).2 ⟨h, Nat.le_min.mpr ⟨hle, h.le_utf8ByteSize⟩⟩

/-- Between two boundaries there is a part of the text. -/
theorem exists_part {first last : Nat} (hfirst : IsBoundary text first)
    (hlast : IsBoundary text last) (h : first ≤ last) :
    ∃ before part after, text.toList = before ++ (part ++ after) ∧ byteLength before = first ∧
      byteLength before + byteLength part = last := by
  obtain ⟨before, after, htext, rfl⟩ := isBoundary_iff.mp hfirst
  obtain ⟨before', after', htext', rfl⟩ := isBoundary_iff.mp hlast
  rcases List.append_eq_append_iff.mp (htext.symm.trans htext') with
    ⟨part, rfl, rfl⟩ | ⟨part, rfl, rfl⟩
  · exact ⟨before, part, after', htext, rfl, (byteLength_append _ _).symm⟩
  · -- the beginnings are the same, since the first is not the longer one
    rw [byteLength_append] at h ⊢
    have hnil : part = [] := byteLength_eq_zero_iff.mp (by omega)
    subst hnil
    exact ⟨before', [], after, by simpa using htext, by simp [byteLength], rfl⟩

end IsBoundary

/-! ## Slices -/

/-- The bytes from `first` to `last` are those of `slice`, and neither end divides a character. -/
structure IsSlice (text : String) (first last : Nat) (slice : String) : Prop where
  starts : IsBoundary text first
  ends : IsBoundary text last
  ordered : first ≤ last
  bytes : text.toByteArray.extract first last = slice.toByteArray

theorem isSlice_of_toList {text : String} {before slice after : List Char}
    (h : text.toList = before ++ (slice ++ after)) :
    IsSlice text (byteLength before) (byteLength before + byteLength slice) (.ofList slice) where
  starts := isBoundary_iff.mpr ⟨before, _, h, rfl⟩
  ends := isBoundary_iff.mpr
    ⟨before ++ slice, after, by rw [h, List.append_assoc], byteLength_append before slice⟩
  ordered := Nat.le_add_right _ _
  bytes := by
    have htext : text = .ofList before ++ (.ofList slice ++ .ofList after) := by
      rw [← String.ofList_append, ← String.ofList_append, ← h, String.ofList_toList]
    have hbefore : byteLength before = (String.ofList before).toByteArray.size :=
      (byteLength_ofList before).symm
    have hslice : byteLength slice = (String.ofList slice).toByteArray.size :=
      (byteLength_ofList slice).symm
    rw [htext, String.toByteArray_append, String.toByteArray_append, hbefore]
    exact (ByteArray.extract_append_size_add (i := 0)).trans
      (ByteArray.extract_append_eq_left hslice)

end Text

/-! ## Places in a range -/

/-- The offset lies between two characters of the range. -/
def InRange (source : String) (begin stop offset : Nat) : Prop :=
  offset ∈ Set.Icc begin stop ∧ Text.IsBoundary source offset

/-- The cursor lies between two characters of the range, and the rest of the range is ahead. -/
structure Cursor.StandsIn (source : String) (begin stop : Nat) (c : Cursor) : Prop where
  offset : c.offset ∈ Set.Icc begin stop
  ahead : Text.IsSlice source c.offset stop (.ofList c.ahead)

namespace Cursor.PlacedIn

variable {source : String} {begin stop : Nat} {c c' : Cursor}

/-- What a cursor passes is the slice of the source between where it was and where it is. -/
theorem isSlice (h : c.PlacedIn source.toList begin stop) {text : List Char}
    (hp : c.Passes text c') : Text.IsSlice source c.offset c'.offset (.ofList text) := by
  obtain ⟨before, after, hsource, hoffset⟩ := h.standsAt hp
  have hslice := Text.isSlice_of_toList hsource
  rwa [hoffset, ← hp.offset] at hslice

theorem standsIn (h : c.PlacedIn source.toList begin stop) : c.StandsIn source begin stop := by
  obtain ⟨d, hd, -⟩ := Cursor.Passes.exists_of_ahead (List.append_nil c.ahead).symm
  have hslice := h.isSlice hd
  rw [hd.offset, h.stop] at hslice
  exact ⟨⟨h.start, h.offset_le⟩, hslice⟩

theorem inRange (h : c.PlacedIn source.toList begin stop) : InRange source begin stop c.offset :=
  ⟨h.standsIn.offset, h.standsIn.ahead.starts⟩

end Cursor.PlacedIn

/-! ## Moments -/

/-- What happens is where it should be. A terminal that matches has the text as its value that is
between where it begins and where the cursor has got to. -/
def Happening.StaysIn (source : String) (begin stop : Nat) : Happening → Prop
  | .tries _ s | .unpaid s | .faces _ s | .lacksEnd s => s.cursor.StandsIn source begin stop
  | .comesTo p o => o.state.cursor.StandsIn source begin stop ∧
      ∀ t tree, p = .terminal t → o.tree? = some tree →
        ∃ offset text, tree = .value offset text ∧ InRange source begin stop offset ∧
          Text.IsSlice source offset o.state.cursor.offset text
  | .stuck offset | .lacksRule _ offset | .tooDeep offset | .lacksOperand offset =>
      InRange source begin stop offset

/-- A terminal cuts its value out of the source. -/
theorem matchTerminal_slices {source : String} {begin stop : Nat} {setting : Setting}
    {frame : Frame} {t : Terminal} {s : State} (h : s.cursor.PlacedIn source.toList begin stop)
    {tree : Tree} (htree : (matchTerminal setting frame t s).tree? = some tree) :
    ∃ offset text, tree = .value offset text ∧ InRange source begin stop offset ∧
      Text.IsSlice source offset (matchTerminal setting frame t s).state.cursor.offset text := by
  cases hend : t.matchEnd? setting.beyond s.cursor with
  | none =>
      rw [matchTerminal_of_missed hend] at htree
      cases htree
  | some after =>
      obtain ⟨text, hp⟩ := Terminal.reaches_of_matchEnd? hend
      rw [matchTerminal_of_matched hend] at htree ⊢
      cases htree
      refine ⟨_, _, rfl, h.inRange, ?_⟩
      have hslice := h.isSlice hp
      rwa [← hp.textUpTo] at hslice

/-- **A moment of a parse stays in the range of the parse.** -/
theorem Moment.Belongs.staysIn {source : String} {begin stop : Nat} {setting : Setting}
    {p : Pattern} {c : Cursor} (hc : c.PlacedIn source.toList begin stop) {moment : Moment}
    (h : moment.Belongs setting p c) : moment.happening.StaysIn source begin stop := by
  cases h with
  | lacksEnd hreaches => exact (hc.reaches hreaches).standsIn
  | follows h =>
      obtain ⟨situation, frame, happening⟩ := moment
      have hfollows := h.happening
      cases happening with
      | tries | unpaid | faces => exact (hc.reaches hfollows).standsIn
      | comesTo p o =>
          obtain ⟨hreaches, m, ready, hready, hrun⟩ := hfollows
          dsimp only at hrun
          refine ⟨(hc.reaches hreaches).standsIn, ?_⟩
          rintro t tree rfl htree
          cases hrun with
          | terminal => exact matchTerminal_slices (hc.reaches hready) htree
      | lacksRule =>
          obtain ⟨-, d, hd, rfl⟩ := hfollows
          exact (hc.reaches hd).inRange
      | stuck | tooDeep | lacksOperand =>
          obtain ⟨d, hd, rfl⟩ := hfollows
          exact (hc.reaches hd).inRange
      | lacksEnd => exact hfollows.elim

/-! ## Trees -/

/-- The node starts in the range, and if it is a text, that is the slice of the source there. -/
structure Tree.LiesIn (source : String) (begin stop : Nat) (node : Tree) : Prop where
  offset : InRange source begin stop node.offset
  text : ∀ offset text, node = .value offset text →
    offset + text.utf8ByteSize ≤ stop ∧
      Text.IsSlice source offset (offset + text.utf8ByteSize) text

section Trees

variable {source : String} {begin stop : Nat} {skips : Cursor → Cursor → Prop}
  (hskips : ∀ {c d}, skips c d → c.Reaches d)

include hskips

/-- What is built on places of the range lies in it. -/
theorem Tree.law_liesIn :
    Tree.Law (Cursor.PlacedIn source.toList begin stop) skips (Tree.LiesIn source begin stop) where
  onward := fun hc hreaches => hc.reaches hreaches
  text := by
    intro c ready after text hc hskip hp
    have hready := hc.reaches (hskips hskip)
    refine ⟨hready.inRange, ?_⟩
    rintro offset text' heq
    cases heq
    rw [Text.byteLength_ofList, ← hp.offset]
    exact ⟨(hready.passes hp).offset_le, hready.isSlice hp⟩
  composed := fun hc hskip hcomposed hoffset =>
    ⟨hoffset ▸ (hc.reaches (hskips hskip)).inRange, fun offset text h =>
      absurd h (hcomposed offset text)⟩
  expression := fun hcomposed hoffset hpart =>
    ⟨hoffset ▸ hpart.offset, fun offset text h => absurd h (hcomposed offset text)⟩

/-- **What is built lies in the range.** -/
theorem Builds.liesIn {rules : Rules} {beyond : List Char} {p : Pattern} {c c' : Cursor}
    {tree : Tree} (hc : c.PlacedIn source.toList begin stop)
    (h : Builds rules beyond skips p c tree c') :
    tree.Everywhere (Tree.LiesIn source begin stop) :=
  h.everywhere (Tree.law_liesIn hskips) hskips hc

end Trees

/-! ## Parses -/

theorem Cursor.law_placedIn (source : String) (begin stop : Nat) :
    Cursor.Law (Cursor.PlacedIn source.toList begin stop) (InRange source begin stop) :=
  ⟨fun hc hreaches => hc.reaches hreaches, fun hc => hc.inRange⟩

/-- **Parsing is safe on any range.** The range that is parsed ends at the nearest boundaries. From
then on every cursor and every offset, in the tree or the error, lies between two characters of
the range, and every text is a slice of the source in it. -/
theorem parse_stays_in_range (layers : Nat) (rules : Rules) (limits : Limits) (start : Start)
    (source : String) (first last : Nat) :
    let window := Window.ofRange source.toList first last
    let begin := window.start.offset
    let stop := window.stop
    begin ≤ stop ∧ stop ≤ source.utf8ByteSize ∧
    IsGreatest {o | Text.IsBoundary source o ∧ o ≤ min last source.utf8ByteSize} stop ∧
    IsGreatest {o | Text.IsBoundary source o ∧ o ≤ min first stop} begin ∧
    window.start.StandsIn source begin stop ∧
    (∀ moment ∈ parseMoments layers rules limits start source first last,
      moment.happening.StaysIn source begin stop) ∧
    ∀ report, parseWithin layers rules limits start source first last = some report →
      (∀ tree, report.result = .ok tree → tree.Everywhere (Tree.LiesIn source begin stop)) ∧
      ∀ e, report.result = .error e → InRange source begin stop e.offset := by
  intro window begin stop
  have hstop : stop = Text.floorOffset source.toList last := Window.stop_ofRange _ _ _
  have hbegin : begin = Text.floorOffset source.toList (min first stop) := by
    rw [hstop]
    exact Window.offset_start_ofRange _ _ _
  have hplaced : window.start.PlacedIn source.toList begin stop := by
    rw [hbegin, hstop]
    exact Window.placedIn_ofRange _ _ _
  have hlast := Text.isGreatest_floorOffset source last
  rw [← hstop] at hlast
  have hsize : stop ≤ source.utf8ByteSize := (Nat.le_min.mp hlast.1.2).2
  have hfirst := Text.isGreatest_floorOffset source (min first stop)
  rw [← hbegin, Nat.min_eq_left (Nat.le_trans (Nat.min_le_right first stop) hsize)] at hfirst
  refine ⟨hplaced.offset_le, hsize, hlast, hfirst, hplaced.standsIn, ?_, ?_⟩
  · intro moment hmem
    exact (windowMoments_belong layers rules limits start window moment hmem).staysIn hplaced
  · intro report h
    refine ⟨fun tree htree => ?_, fun e he => ?_⟩
    · obtain ⟨p, _, _, -, hbuilds, -, -⟩ := parseWindow_builds h htree
      exact hbuilds.liesIn PastTrivia.reaches hplaced
    · exact (parseWindow_respects (Cursor.law_placedIn source begin stop) hplaced h he).2.2

/-- The range begins within the first letter and ends within the second one. -/
theorem parse_stays_in_range_sample :
    let pattern := Pattern.sequence
      [⟨true, .terminal (.literal "é")⟩, ⟨true, .terminal (.literal "+")⟩]
    ∃ report tree,
      parseWithin 3 .empty .unlimited (.pattern pattern) "é+é" 1 4 = some report ∧
      report.result = .ok tree ∧ tree.leaves = [(0, "é"), (2, "+")] ∧
      tree.Everywhere (Tree.LiesIn "é+é" 0 3) ∧
      IsGreatest {o | Text.IsBoundary "é+é" o ∧ o ≤ min 4 5} 3 ∧
      IsGreatest {o | Text.IsBoundary "é+é" o ∧ o ≤ min 1 3} 0 := by
  intro pattern
  have hrun : (parseWithin 3 .empty .unlimited (.pattern pattern) "é+é" 1 4).any
      (fun r => r.result.toOption.any fun tree => tree.leaves == [(0, "é"), (2, "+")]) = true := by
    decide +kernel
  obtain ⟨report, h, hreport⟩ := (Option.any_eq_true _ _).mp hrun
  obtain ⟨tree, htree, htest⟩ := report.exists_tree hreport
  obtain ⟨-, -, hstop, hbegin, -, -, hreports⟩ :=
    parse_stays_in_range 3 .empty .unlimited (.pattern pattern) "é+é" 1 4
  exact ⟨report, tree, h, htree, beq_iff_eq.mp htest, (hreports report h).1 tree htree, hstop,
    hbegin⟩

end OperatorPeg
