import OperatorPeg.Proofs.AfterTheEnd
import OperatorPeg.Proofs.Nodes
import OperatorPeg.Proofs.SkipsAgain

/-!
# Nodes start at significant input

Every match skips the trivia before it, once more than the match around it did, and the
offset of its node is where this last skip ended. If a skip that begins where one has ended
stays there, then no node starts with trivia: not one that consumed nothing, not an
expression, which starts where its first operand does, and not what was only seen ahead.
-/

namespace OperatorPeg

/-! ## Skips that stay -/

/-- No skip of trivia that begins here moves on, whatever the limits of the parse and whatever it
has been through. -/
def Significant (rules : Rules) (beyond : List Char) (c : Cursor) : Prop :=
  ∀ (depthLimit : Option Nat) (layers : Nat) (frame : Frame) (s s' : State), s.cursor = c →
    skipTrivia (matchPattern ⟨rules, beyond, depthLimit⟩ layers) ⟨rules, beyond, depthLimit⟩
      frame s = some s' →
    s'.cursor = c

/-- A skip that ends the parse goes back to where it began. -/
theorem SkipRun.back_of_ended {setting : Setting} {layers : Nat} {frame : Frame} {s s' : State}
    (h : SkipRun (matchPattern setting layers) setting frame s s') (hend : s'.isAborted = true) :
    s'.cursor = s.cursor := by
  cases h with
  | inside | absent => rfl
  | @skipped trivia o _ _ ho =>
      cases htree : o.tree? with
      | none => exact matchPattern_back ho htree
      | some tree =>
          obtain ⟨hout, -⟩ := (outlasts_of_matched ho (by simp [htree]) hend).behind_trivia
          cases hout

/-- Input is significant if trivia there, skipped without limits, ends where it begins. -/
theorem significant_iff {rules : Rules} {beyond : List Char} {c : Cursor} :
    Significant rules beyond c ↔ ∀ d, PastTrivia rules beyond false c d → d = c := by
  constructor
  · rintro h d ⟨layers, s, hskip, -, rfl⟩
    exact h none layers _ _ s rfl (skipTrivia_eq_some_iff.mpr hskip)
  · rintro h depthLimit layers frame s s' rfl hskip
    replace hskip := skipTrivia_eq_some_iff.mp hskip
    cases hend : s'.isAborted with
    | true => exact hskip.back_of_ended hend
    | false =>
        cases hin : frame.inTrivia with
        | false =>
            have hpast := hskip.pastTrivia (State.isAborted_eq_false_iff.mp hend)
            rw [hin] at hpast
            exact h _ hpast
        | true =>
            cases hskip with
            | inside => rfl
            | absent hout | skipped hout => simp [hin] at hout

/-! ## Trivia that is skipped once -/

/-- Where a skip has ended another one stays where it is, if it comes to its end. It may also end
the parse there, or come to nothing. -/
def Rules.SkipsOnce (rules : Rules) (window : Window) : Prop :=
  ∀ c d d', window.start.Reaches c → PastTrivia rules window.beyond false c d →
    PastTrivia rules window.beyond false d d' → d' = d

/-- The places that the cursor gets to over what is ahead. -/
def Cursor.places (c : Cursor) : List Cursor :=
  (List.range (c.ahead.length + 1)).map fun n =>
    ⟨(c.ahead.take n).reverse ++ c.passed, c.ahead.drop n,
      c.offset + Text.byteLength (c.ahead.take n)⟩

theorem Cursor.Reaches.mem_places {c d : Cursor} (h : c.Reaches d) : d ∈ c.places := by
  obtain ⟨text, hp⟩ := h
  refine List.mem_map.mpr ⟨text.length, List.mem_range.mpr ?_, ?_⟩
  · have := hp.length
    omega
  · rw [hp.ahead, List.take_left, List.drop_left, ← hp.passed, ← hp.offset]

/-- Whether in so many layers the skip at each place of the window comes to something, and if it
does not end the parse, so does the one behind it, which ends it or stays. -/
def Rules.skipsOnceIn (layers : Nat) (rules : Rules) (window : Window) : Bool :=
  window.start.places.all fun c => (skipFrom layers rules window.beyond c).any fun s =>
    s.isAborted || (skipFrom layers rules window.beyond s.cursor).any fun s' =>
      s'.isAborted || s'.cursor.offset == s.cursor.offset

/-- What is computed is that trivia is skipped once. -/
theorem Rules.SkipsOnce.of_skipsOnceIn {layers : Nat} {rules : Rules} {window : Window}
    (h : rules.skipsOnceIn layers window = true) : rules.SkipsOnce window := by
  intro c d d' hc hd hd'
  have hplace := List.all_eq_true.mp h c hc.mem_places
  obtain ⟨s, hskip, hs⟩ := (Option.any_eq_true _ _).mp hplace
  obtain ⟨hrunning, rfl⟩ := hd.of_skipFrom hskip
  simp only [State.isAborted, hrunning, Option.isSome_none, Bool.false_or] at hs
  obtain ⟨s', hskip', hs'⟩ := (Option.any_eq_true _ _).mp hs
  obtain ⟨hrunning', rfl⟩ := hd'.of_skipFrom hskip'
  simp only [hrunning', Option.isSome_none, Bool.false_or, beq_iff_eq] at hs'
  exact hd'.reaches.eq_of_offset hs'

/-! ## Nodes -/

/-- The node starts at significant input that a parse of the window may come to. -/
def Tree.StartsSignificantly (rules : Rules) (window : Window) (node : Tree) : Prop :=
  ∃ c, window.start.Reaches c ∧ c.offset = node.offset ∧ Significant rules window.beyond c

/-- What comes after trivia is significant, if trivia is skipped only once. -/
theorem Rules.SkipsOnce.significant {rules : Rules} {window : Window} (h : rules.SkipsOnce window)
    {c ready : Cursor} (hc : window.start.Reaches c)
    (hskip : PastTrivia rules window.beyond false c ready) :
    window.start.Reaches ready ∧ Significant rules window.beyond ready :=
  ⟨hc.trans hskip.reaches, significant_iff.mpr fun d hd => h c ready d hc hskip hd⟩

theorem Tree.law_startsSignificantly {rules : Rules} {window : Window}
    (h : rules.SkipsOnce window) :
    Tree.Law window.start.Reaches (PastTrivia rules window.beyond false)
      (Tree.StartsSignificantly rules window) where
  onward := fun hc hreaches => hc.trans hreaches
  text := fun hc hskip _ =>
    have ⟨hready, hsignificant⟩ := h.significant hc hskip
    ⟨_, hready, rfl, hsignificant⟩
  composed := fun hc hskip _ hoffset =>
    have ⟨hready, hsignificant⟩ := h.significant hc hskip
    ⟨_, hready, hoffset.symm, hsignificant⟩
  expression := fun _ hoffset ⟨c, hc, hstart, hsignificant⟩ =>
    ⟨c, hc, hstart.trans hoffset.symm, hsignificant⟩

/-- **Nodes start at significant input.** If trivia is skipped once and for all, then in the tree
of a parse no trivia can be skipped at the offset of a node. -/
theorem nodes_start_significantly {layers : Nat} {rules : Rules} {limits : Limits}
    {start : Start} {source : String} {first last : Nat} {report : Report} {tree : Tree}
    (honce : rules.SkipsOnce (Window.ofRange source.toList first last))
    (h : parseWithin layers rules limits start source first last = some report)
    (htree : report.result = .ok tree) :
    tree.Everywhere
      (Tree.StartsSignificantly rules (Window.ofRange source.toList first last)) := by
  obtain ⟨p, _, _, -, hbuilds, -, -⟩ := parseWindow_builds h htree
  exact hbuilds.everywhere (Tree.law_startsSignificantly honce) PastTrivia.reaches (.refl _)

/-- A sum is looked at before it is read, blanks may stand anywhere, and there may be semicolons
behind it. -/
private def blankSum : Rules :=
  .ofList [
    ("_", .quantifier (.terminal (.literal " ")) 0 none),
    ("sum", .table [
      ⟨"letter", none, none, .terminal (.literal "é")⟩,
      ⟨"negate", none, some 1, .terminal (.literal "-")⟩,
      ⟨"add", some 2, some 2, .terminal (.literal "+")⟩]),
    ("line", .sequence [
      ⟨true, .lookahead (.lookup "sum") true⟩,
      ⟨true, .lookup "sum"⟩,
      ⟨true, .quantifier (.terminal (.literal ";")) 0 none⟩])]

/-- The node for the semicolons that are not there starts behind the last blank. -/
theorem nodes_start_significantly_sample :
    let window := Window.ofRange " é + -é  ".toList 0 11
    ∃ report tree,
      parseWithin 9 blankSum .unlimited (.rule "line") " é + -é  " 0 11 = some report ∧
      report.result = .ok tree ∧ tree.children.map Tree.offset = [1, 1, 11] ∧
      blankSum.SkipsOnce window ∧
      tree.Everywhere (Tree.StartsSignificantly blankSum window) := by
  intro window
  have hrun : (parseWithin 9 blankSum .unlimited (.rule "line") " é + -é  " 0 11).any
      (fun r => r.result.toOption.any fun tree => tree.children.map Tree.offset == [1, 1, 11])
        = true := by
    decide +kernel
  have htwice : blankSum.skipsOnceIn 3 window = true := by decide +kernel
  have honce := Rules.SkipsOnce.of_skipsOnceIn htwice
  obtain ⟨report, h, hreport⟩ := (Option.any_eq_true _ _).mp hrun
  obtain ⟨tree, htree, htest⟩ := report.exists_tree hreport
  exact ⟨report, tree, h, htree, beq_iff_eq.mp htest, honce,
    nodes_start_significantly honce h htree⟩

end OperatorPeg
