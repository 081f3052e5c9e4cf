import OperatorPeg.Proofs.AfterTheEnd
import OperatorPeg.Proofs.Building
import OperatorPeg.Proofs.Places
import OperatorPeg.Proofs.References
import OperatorPeg.Proofs.Trees

/-!
# Grammars that lose nothing

Text is consumed without a trace in two ways only: as trivia, and by a step that is not
kept. Where there is neither, the values of a tree put together are the text that its
match passed.
-/

namespace OperatorPeg

/-! ## Grammars that keep all steps -/

namespace Pattern

mutual
/-- Whether every step of every sequence in the pattern is kept. -/
def keepsAll : Pattern → Bool
  | terminal _ | lookup _ => true
  | sequence steps => keepsAllInSteps steps
  | choice alternatives => keepsAllInEach alternatives
  | quantifier inner _ _ | label _ inner | lookahead inner _ => inner.keepsAll
  | table operators => keepsAllInOperators operators

def keepsAllInSteps : List Step → Bool
  | [] => true
  | ⟨keep, p⟩ :: steps => keep && p.keepsAll && keepsAllInSteps steps

def keepsAllInEach : List Pattern → Bool
  | [] => true
  | p :: ps => p.keepsAll && keepsAllInEach ps

def keepsAllInOperators : List Operator → Bool
  | [] => true
  | ⟨_, _, _, p⟩ :: ops => p.keepsAll && keepsAllInOperators ops
end

theorem keepsAllInSteps_iff {steps : List Step} :
    keepsAllInSteps steps = true ↔
      ∀ step ∈ steps, step.keep = true ∧ step.pattern.keepsAll = true := by
  induction steps with
  | nil => simp [keepsAllInSteps]
  | cons step steps ih =>
      rcases step with ⟨keep, p⟩
      simp [keepsAllInSteps, ih]

theorem keepsAllInEach_iff {ps : List Pattern} :
    keepsAllInEach ps = true ↔ ∀ p ∈ ps, p.keepsAll = true := by
  induction ps with
  | nil => simp [keepsAllInEach]
  | cons p ps ih => simp [keepsAllInEach, ih]

theorem keepsAllInOperators_iff {ops : List Operator} :
    keepsAllInOperators ops = true ↔ ∀ op ∈ ops, op.pattern.keepsAll = true := by
  induction ops with
  | nil => simp [keepsAllInOperators]
  | cons op ops ih =>
      rcases op with ⟨name, left, right, p⟩
      simp [keepsAllInOperators, ih]

end Pattern

/-- Every step of every sequence in the rules is kept. -/
def Rules.KeepAll (rules : Rules) : Prop :=
  ∀ entry ∈ rules.entries, entry.2.keepsAll = true

/-- Every step of every sequence in the start pattern is kept, if it is not one of the rules. -/
def Start.keepsAll : Start → Bool
  | .rule _ => true
  | .pattern p => p.keepsAll

theorem Start.keepsAll_of_pattern? {start : Start} {rules : Rules} {p : Pattern}
    (hrules : rules.KeepAll) (h : start.keepsAll = true) (hp : start.pattern? rules = some p) :
    p.keepsAll = true := by
  cases start with
  | rule name => exact hrules (name, p) (Rules.mem_entries_of_get? hp)
  | pattern q =>
      cases hp
      exact h

/-! ## What is consumed -/

/-- An expression consumes what its operators consume, in their order. -/
theorem Skeleton.consumed {sk : Skeleton} {tree : Tree} (h : sk.tree? = some tree) :
    tree.consumed = (sk.inorder.map (·.2)).flatMap Tree.consumed := by
  have hside : ∀ side : Skeleton,
      (∀ {t}, side.tree? = some t → t.consumed = (side.inorder.map (·.2)).flatMap Tree.consumed) →
      side.tree?.toList.flatMap Tree.consumed = (side.inorder.map (·.2)).flatMap Tree.consumed := by
    intro side hside
    cases hsome : side.tree? with
    | none =>
        cases side with
        | absent => rfl
        | node => cases hsome
    | some t => simp [hside hsome]
  induction sk generalizing tree with
  | absent => cases h
  | node left op mid right ihLeft ihRight =>
      cases h
      rw [Tree.consumed_of_isInner rfl]
      show (left.tree?.toList ++ mid :: right.tree?.toList).flatMap Tree.consumed = _
      rw [List.flatMap_append, List.flatMap_cons, hside left ihLeft, hside right ihRight]
      simp [Skeleton.inorder]

section

variable {rules : Rules} {beyond : List Char} {skips : Cursor → Cursor → Prop}

mutual
/-- **What is built consumes what its match passes.** -/
theorem Builds.passes (hskips : ∀ {c d}, skips c d → d = c) (hrules : rules.KeepAll)
    {p : Pattern} {c stop : Cursor} {tree : Tree} :
    Builds rules beyond skips p c tree stop → p.keepsAll = true → c.Passes tree.consumed stop
  | .terminal hskip hend, _ => by
      rw [← hskips hskip]
      obtain ⟨text, hpasses⟩ := Terminal.reaches_of_matchEnd? hend
      rw [hpasses.textUpTo]
      simpa [Tree.consumed, Tree.values] using hpasses
  | .sequence hskip hnodes, hkeeps => by
      have hsteps := Pattern.keepsAllInSteps_iff.mp hkeeps
      have hlength := hnodes.length_eq
      rw [List.length_map] at hlength
      rw [← hskips hskip, Tree.consumed_of_isInner rfl, Tree.children,
        keptNodes_of_all (fun step hstep => (hsteps step hstep).1) (Nat.le_of_eq hlength)]
      refine BuildsAll.passes hskips hrules hnodes fun p hp => ?_
      obtain ⟨step, hstep, rfl⟩ := List.mem_map.mp hp
      exact (hsteps step hstep).2
  | .choice hskip hp hchild, hkeeps => by
      rw [← hskips hskip, Tree.consumed_of_isInner rfl]
      simpa [Tree.children] using Builds.passes hskips hrules hchild
        (Pattern.keepsAllInEach_iff.mp hkeeps _ (List.mem_of_getElem? hp))
  | .quantifier hskip _ _ hnodes, hkeeps => by
      rw [← hskips hskip, Tree.consumed_of_isInner rfl]
      refine BuildsAll.passes hskips hrules hnodes fun p hp => ?_
      rw [List.eq_of_mem_replicate hp]
      exact hkeeps
  | .lookup hskip hget hchild, _ => by
      rw [← hskips hskip, Tree.consumed_of_isInner rfl]
      simpa [Tree.children] using Builds.passes hskips hrules hchild
        (hrules _ (Rules.mem_entries_of_get? hget))
  | .label hskip hchild, hkeeps => by
      rw [← hskips hskip, Tree.consumed_of_isInner rfl]
      simpa [Tree.children] using Builds.passes hskips hrules hchild hkeeps
  | .seen _ _, _ => .nil _
  | .unseen _, _ => .nil _
  | .table hskip hmem hnodes _ htree, hkeeps => by
      rw [← hskips hskip, Skeleton.consumed htree]
      refine BuildsAll.passes hskips hrules hnodes fun p hp => ?_
      obtain ⟨found, hfound, rfl⟩ := List.mem_map.mp hp
      exact Pattern.keepsAllInOperators_iff.mp hkeeps _ (hmem found hfound)

theorem BuildsAll.passes (hskips : ∀ {c d}, skips c d → d = c) (hrules : rules.KeepAll)
    {ps : List Pattern} {c stop : Cursor} {nodes : List Tree} :
    BuildsAll rules beyond skips ps c nodes stop → (∀ p ∈ ps, p.keepsAll = true) →
      c.Passes (nodes.flatMap Tree.consumed) stop
  | .nil c, _ => .nil c
  | .cons hnode hnodes, hkeeps => by
      obtain ⟨hp, hps⟩ := List.forall_mem_cons.mp hkeeps
      rw [List.flatMap_cons]
      exact (Builds.passes hskips hrules hnode hp).append
        (BuildsAll.passes hskips hrules hnodes hps)
end

end

/-! ## Matches and parses -/

/-- Without a rule for trivia the parse goes on behind every match. -/
theorem running_of_matched {setting : Setting} (htrivia : setting.rules.trivia? = none)
    {layers : Nat} {frame : Frame} {p : Pattern} {s : State} {o : Outcome}
    (h : matchPattern setting layers frame p s = some o) (htree : o.tree?.isSome) :
    o.state.aborted = none := by
  rw [← State.isAborted_eq_false_iff, ← Bool.not_eq_true]
  intro hend
  have htriviaSome := (outlasts_of_matched h htree hend).behind_trivia.2
  rw [htrivia] at htriviaSome
  cases htriviaSome

/-- The values of the tree, joined, are what stands in the source between the two offsets. -/
def Tree.Covers (source : List Char) (begin stop : Nat) (t : Tree) : Prop :=
  Text.StandsAt source begin (String.join t.values).toList ∧
    begin + (String.join t.values).utf8ByteSize = stop

theorem Tree.covers_of_passes {source : List Char} {begin stop : Nat} {c c' : Cursor} {t : Tree}
    (hplaced : c.PlacedIn source begin stop) (hpasses : c.Passes t.consumed c') :
    t.Covers source c.offset c'.offset := by
  rw [Tree.Covers, ← Text.byteLength_toList, t.toList_join_values]
  exact ⟨hplaced.standsAt hpasses, hpasses.offset.symm⟩

/-- **A grammar that keeps all steps and has no trivia loses nothing.** The values of every match,
joined, are the text of the source from where the match begins to where it ends, and those
of a parse are the parsed range. -/
theorem keeping_all_loses_nothing {rules : Rules} (htrivia : rules.trivia? = none)
    (hrules : rules.KeepAll) :
    (∀ (beyond : List Char) (depthLimit : Option Nat) (layers : Nat) (frame : Frame) (p : Pattern)
        (s : State) (o : Outcome) (tree : Tree) (source : List Char) (begin stop : Nat),
      p.keepsAll = true → s.cursor.PlacedIn source begin stop →
      matchPattern ⟨rules, beyond, depthLimit⟩ layers frame p s = some o → o.tree? = some tree →
      tree.Covers source s.cursor.offset o.state.cursor.offset) ∧
    ∀ (layers : Nat) (limits : Limits) (start : Start) (source : String) (first last : Nat)
        (report : Report) (tree : Tree),
      start.keepsAll = true →
      parseWithin layers rules limits start source first last = some report →
      report.result = .ok tree →
      let stop := Text.floorOffset source.toList last
      let begin := Text.floorOffset source.toList (min first stop)
      tree.Covers source.toList begin stop := by
  constructor
  · intro beyond depthLimit layers frame p s o tree source begin stop hkeeps hplaced h htree
    have hrunning : o.state.aborted = none := running_of_matched htrivia h (by simp [htree])
    have hbuilds := matchPattern_builds h htree hrunning
    exact Tree.covers_of_passes hplaced
      (hbuilds.passes (fun hskip => hskip.eq_of_absent htrivia) hrules hkeeps)
  · intro layers limits start source first last report tree hkeeps h htree
    obtain ⟨p, stop, settled, hp, hbuilds, hsettled, hahead⟩ := parseWindow_builds h htree
    have hplaced := Window.placedIn_ofRange source.toList first last
    have hpasses := hbuilds.passes (fun hskip => hskip.eq_of_absent htrivia) hrules
      (Start.keepsAll_of_pattern? hrules hkeeps hp)
    -- behind the match there is no trivia either, so it ends with the range
    rw [hsettled.eq_of_absent htrivia] at hahead
    have hplacedStop := hplaced.passes hpasses
    have hend : stop.offset = Text.floorOffset source.toList last := by
      simpa [hahead, Text.byteLength] using hplacedStop.stop
    have hcovers := Tree.covers_of_passes hplaced hpasses
    rw [Window.offset_start_ofRange, hend] at hcovers
    exact hcovers

/-- A sum is looked at before it is read; everything is kept. -/
private def keptSum : Rules :=
  .ofList [
    ("sum", .table [
      ⟨"letter", none, none, .choice [.terminal (.literal "1"), .terminal (.literal "é")]⟩,
      ⟨"negate", none, some 1, .terminal (.literal "-")⟩,
      ⟨"add", some 2, some 2, .terminal (.literal "+")⟩]),
    ("line", .sequence [
      ⟨true, .lookahead (.lookup "sum") true⟩,
      ⟨true, .label "sum" (.lookup "sum")⟩,
      ⟨true, .quantifier (.terminal (.literal ";")) 1 none⟩])]

/-- The sum alone, and the whole line behind a parenthesis. -/
theorem keeping_all_loses_nothing_sample :
    (∃ o tree,
      matchPattern ⟨keptSum, [], none⟩ 9 .outermost (.lookup "sum")
          (.start (Window.ofRange "(é+-1;;".toList 1 8).start none) = some o ∧
        o.tree? = some tree ∧ tree.values = ["é", "+", "-", "1"] ∧
        tree.Covers "(é+-1;;".toList 1 o.state.cursor.offset) ∧
    ∃ report tree,
      parseWithin 9 keptSum .unlimited (.rule "line") "(é+-1;;" 1 8 = some report ∧
        report.result = .ok tree ∧ tree.values = ["é", "+", "-", "1", ";", ";"] ∧
        tree.Covers "(é+-1;;".toList 1 8 := by
  have htrivia : keptSum.trivia? = none := rfl
  have hkeeps : keptSum.KeepAll := by
    unfold Rules.KeepAll
    decide
  have hstop : Text.floorOffset "(é+-1;;".toList 8 = 8 := by decide +kernel
  have hbegin : Text.floorOffset "(é+-1;;".toList 1 = 1 := by decide +kernel
  constructor
  · have hrun : (matchPattern ⟨keptSum, [], none⟩ 9 .outermost (.lookup "sum")
        (.start (Window.ofRange "(é+-1;;".toList 1 8).start none)).any
          (fun o => o.tree?.any fun tree => tree.values == ["é", "+", "-", "1"]) = true := by
      decide +kernel
    obtain ⟨o, h, ho⟩ := (Option.any_eq_true _ _).mp hrun
    obtain ⟨tree, htree, hvalues⟩ := (Option.any_eq_true _ _).mp ho
    have hcovers := (keeping_all_loses_nothing htrivia hkeeps).1 _ _ _ _ _ _ _ _ _ _ _ rfl
      (Window.placedIn_ofRange "(é+-1;;".toList 1 8) h htree
    exact ⟨o, tree, h, htree, beq_iff_eq.mp hvalues, hcovers⟩
  · have hrun : (parseWithin 9 keptSum .unlimited (.rule "line") "(é+-1;;" 1 8).any
        (fun r => r.result.toOption.any fun tree =>
          tree.values == ["é", "+", "-", "1", ";", ";"]) = true := by
      decide +kernel
    obtain ⟨report, h, hreport⟩ := (Option.any_eq_true _ _).mp hrun
    obtain ⟨tree, htree, hvalues⟩ := report.exists_tree hreport
    have hcovers : Tree.Covers _ _ _ tree :=
      (keeping_all_loses_nothing htrivia hkeeps).2 _ _ _ _ _ _ _ _ rfl h htree
    rw [hstop, show min 1 8 = 1 from rfl, hbegin] at hcovers
    exact ⟨report, tree, h, htree, beq_iff_eq.mp hvalues, hcovers⟩

end OperatorPeg
