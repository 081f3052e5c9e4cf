import OperatorPeg.Proofs.ParseRuns
import OperatorPeg.Proofs.Precedence
import OperatorPeg.Proofs.Unlimited

/-!
# How trees are built

What a match leaves in its tree, and where it leaves the cursor, as a relation that
knows of successful matches only: where significant input begins, which parts were
matched one after the other, and what was made of them. Alternatives that were missed,
events, fuel and the stack of the climbing loop do not come up in it. A law about trees
and the places in the source that they stand for is an induction over `Builds`.
-/

namespace OperatorPeg

/-- The nodes of the steps that are kept. -/
def keptNodes : List Step → List Tree → List Tree
  | step :: steps, node :: nodes =>
      if step.keep then node :: keptNodes steps nodes else keptNodes steps nodes
  | _, _ => []

theorem keptNodes_sublist (steps : List Step) (nodes : List Tree) :
    (keptNodes steps nodes).Sublist nodes := by
  fun_induction keptNodes steps nodes with
  | case1 _ _ _ _ _ ih => exact ih.cons_cons _
  | case2 _ _ node _ _ ih => exact ih.cons node
  | case3 => exact List.nil_sublist _

theorem keptNodes_of_all {steps : List Step} {nodes : List Tree}
    (h : ∀ step ∈ steps, step.keep = true) (hlength : nodes.length ≤ steps.length) :
    keptNodes steps nodes = nodes := by
  induction steps generalizing nodes with
  | nil =>
      obtain rfl : nodes = [] := List.eq_nil_of_length_eq_zero (by simpa using hlength)
      rfl
  | cons step steps ih =>
      obtain ⟨hstep, hsteps⟩ := List.forall_mem_cons.mp h
      cases nodes with
      | nil => rfl
      | cons node nodes =>
          rw [keptNodes, if_pos hstep, ih hsteps (Nat.le_of_succ_le_succ hlength)]

mutual
/-- Matching the pattern at the first cursor makes the tree and ends at the second one.
`skips c d` says that trivia at `c` ends at `d`. -/
inductive Builds (rules : Rules) (beyond : List Char) (skips : Cursor → Cursor → Prop) :
    Pattern → Cursor → Tree → Cursor → Prop
  | terminal {t : Terminal} {c ready stop : Cursor} :
      skips c ready → t.matchEnd? beyond ready = some stop →
      Builds rules beyond skips (.terminal t) c
        (.value ready.offset (String.ofList (ready.textUpTo stop))) stop
  | sequence {steps : List Step} {nodes : List Tree} {c ready stop : Cursor} :
      skips c ready → BuildsAll rules beyond skips (steps.map Step.pattern) ready nodes stop →
      Builds rules beyond skips (.sequence steps) c
        (.sequence ready.offset (keptNodes steps nodes)) stop
  | choice {alternatives : List Pattern} {index : Nat} {p : Pattern} {child : Tree}
      {c ready stop : Cursor} :
      skips c ready → alternatives[index]? = some p →
      Builds rules beyond skips p ready child stop →
      Builds rules beyond skips (.choice alternatives) c (.choice ready.offset index child) stop
  | quantifier {inner : Pattern} {least : Nat} {most : Option Nat} {nodes : List Tree}
      {c ready stop : Cursor} :
      skips c ready → least ≤ nodes.length → (∀ n, most = some n → nodes.length ≤ n) →
      BuildsAll rules beyond skips (List.replicate nodes.length inner) ready nodes stop →
      Builds rules beyond skips (.quantifier inner least most) c
        (.quantifier ready.offset nodes) stop
  | lookup {key : String} {p : Pattern} {child : Tree} {c ready stop : Cursor} :
      skips c ready → rules.get? key = some p → Builds rules beyond skips p ready child stop →
      Builds rules beyond skips (.lookup key) c (.lookup ready.offset key child) stop
  | label {name : String} {inner : Pattern} {child : Tree} {c ready stop : Cursor} :
      skips c ready → Builds rules beyond skips inner ready child stop →
      Builds rules beyond skips (.label name inner) c (.label ready.offset name child) stop
  /-- What is seen ahead is matched, and then the cursor goes back, behind the trivia too. -/
  | seen {inner : Pattern} {child : Tree} {c ready stop : Cursor} :
      skips c ready → Builds rules beyond skips inner ready child stop →
      Builds rules beyond skips (.lookahead inner true) c
        (.lookahead ready.offset (some child)) c
  | unseen {inner : Pattern} {c ready : Cursor} :
      skips c ready →
      Builds rules beyond skips (.lookahead inner false) c (.lookahead ready.offset none) c
  /-- The operators are matched in their order in the tree. -/
  | table {operators : List Operator} {sk : Skeleton} {tree : Tree} {c ready stop : Cursor} :
      skips c ready → (∀ found ∈ sk.inorder, found.1 ∈ operators) →
      BuildsAll rules beyond skips (sk.inorder.map (·.1.pattern)) ready
        (sk.inorder.map (·.2)) stop →
      sk.Shaped → sk.tree? = some tree → Builds rules beyond skips (.table operators) c tree stop

/-- Matching the patterns one after the other makes the trees. -/
inductive BuildsAll (rules : Rules) (beyond : List Char) (skips : Cursor → Cursor → Prop) :
    List Pattern → Cursor → List Tree → Cursor → Prop
  | nil (c : Cursor) : BuildsAll rules beyond skips [] c [] c
  | cons {p : Pattern} {ps : List Pattern} {node : Tree} {nodes : List Tree}
      {c next stop : Cursor} :
      Builds rules beyond skips p c node next →
      BuildsAll rules beyond skips ps next nodes stop →
      BuildsAll rules beyond skips (p :: ps) c (node :: nodes) stop
end

section

variable {rules : Rules} {beyond : List Char} {skips : Cursor → Cursor → Prop}

theorem BuildsAll.length_eq {ps : List Pattern} {nodes : List Tree} {c stop : Cursor}
    (h : BuildsAll rules beyond skips ps c nodes stop) : nodes.length = ps.length := by
  induction ps generalizing nodes c with
  | nil =>
      cases h
      rfl
  | cons p ps ih =>
      cases h with
      | cons _ hrest => rw [List.length_cons, List.length_cons, ih hrest]

mutual
/-- Building goes onward. -/
theorem Builds.reaches (hskips : ∀ {c d}, skips c d → c.Reaches d) {p : Pattern} {c stop : Cursor}
    {tree : Tree} : Builds rules beyond skips p c tree stop → c.Reaches stop
  | .terminal hskip hend => (hskips hskip).trans (Terminal.reaches_of_matchEnd? hend)
  | .sequence hskip hnodes => (hskips hskip).trans (hnodes.reaches hskips)
  | .choice hskip _ hchild => (hskips hskip).trans (hchild.reaches hskips)
  | .quantifier hskip _ _ hnodes => (hskips hskip).trans (hnodes.reaches hskips)
  | .lookup hskip _ hchild => (hskips hskip).trans (hchild.reaches hskips)
  | .label hskip hchild => (hskips hskip).trans (hchild.reaches hskips)
  | .seen _ _ => .refl _
  | .unseen _ => .refl _
  | .table hskip _ hnodes _ _ => (hskips hskip).trans (hnodes.reaches hskips)

theorem BuildsAll.reaches (hskips : ∀ {c d}, skips c d → c.Reaches d) {ps : List Pattern}
    {c stop : Cursor} {nodes : List Tree} :
    BuildsAll rules beyond skips ps c nodes stop → c.Reaches stop
  | .nil c => .refl c
  | .cons hnode hnodes => (hnode.reaches hskips).trans (hnodes.reaches hskips)
end

/-! ## Loops -/

/-- Matches of `f` after which the parse goes on are built, and those that fail go back. -/
structure BuildsBy (rules : Rules) (beyond : List Char) (skips : Cursor → Cursor → Prop)
    (f : Pattern → State → Option Outcome) : Prop where
  onward : ∀ p, RunsAlong State.Onward (f p)
  back : ∀ {p s o}, f p s = some o → o.tree? = none → o.state.cursor = s.cursor
  builds : ∀ {p s o tree}, f p s = some o → o.tree? = some tree → o.state.aborted = none →
    Builds rules beyond skips p s.cursor tree o.state.cursor

variable {f : Pattern → State → Option Outcome} (hf : BuildsBy rules beyond skips f)

include hf

theorem StepsRun.builds {offset : Nat} {kept : List Tree} {steps : List Step} {s : State}
    {o : Outcome} (h : StepsRun f offset kept steps s o) {tree : Tree}
    (htree : o.tree? = some tree) (hrunning : o.state.aborted = none) :
    ∃ nodes, BuildsAll rules beyond skips (steps.map Step.pattern) s.cursor nodes
        o.state.cursor ∧
      tree = .sequence offset (kept.reverse ++ keptNodes steps nodes) := by
  induction h with
  | done kept s =>
      cases htree
      exact ⟨[], .nil _, by rw [keptNodes, List.append_nil]; exact nofun⟩
  | missed => cases htree
  | @matched kept step steps _ _ node _ hnode hrest ih =>
      obtain ⟨nodes, hnodes, rfl⟩ := ih htree hrunning
      have hgoes := (hrest.along State.Onward.isCourse hf.onward).running hrunning
      refine ⟨node :: nodes, .cons (hf.builds hnode rfl hgoes) hnodes, ?_⟩
      rw [keptNodes]
      cases step.keep <;> simp

theorem AlternativesRun.builds {offset index : Nat} {ps : List Pattern} {s : State}
    {o : Outcome} (h : AlternativesRun f offset index ps s o) {tree : Tree}
    (htree : o.tree? = some tree) (hrunning : o.state.aborted = none) :
    ∃ chosen p child, ps[chosen]? = some p ∧
      Builds rules beyond skips p s.cursor child o.state.cursor ∧
      tree = .choice offset (index + chosen) child := by
  induction h with
  | exhausted | aborted => cases htree
  | @chosen index p _ _ _ child hchild =>
      cases htree
      have hbuilds := hf.builds hchild rfl hrunning
      exact ⟨0, p, child, rfl, hbuilds, rfl⟩
  | missed hmissed _ _ ih =>
      obtain ⟨chosen, p, child, hp, hchild, rfl⟩ := ih htree hrunning
      rw [State.cursor_add, hf.back hmissed rfl] at hchild
      exact ⟨chosen + 1, p, child, hp, hchild, by rw [Nat.add_assoc, Nat.add_comm 1]⟩

/-- The rounds from `r` to `r'` are built one after the other, and counted. -/
def RoundsBuilt (rules : Rules) (beyond : List Char) (skips : Cursor → Cursor → Prop)
    (p : Pattern) (r r' : Rounds) : Prop :=
  ∃ nodes, BuildsAll rules beyond skips (List.replicate nodes.length p) r.state.cursor nodes
      r'.state.cursor ∧
    r'.nodes = nodes.reverse ++ r.nodes ∧ r'.count = r.count + nodes.length

omit hf in
theorem RoundsBuilt.none {p : Pattern} {r : Rounds} {s : State}
    (h : s.cursor = r.state.cursor) : RoundsBuilt rules beyond skips p r { r with state := s } :=
  ⟨[], by simp only [h]; exact .nil _, rfl, rfl⟩

omit hf in
theorem RoundsBuilt.cons {p : Pattern} {r r' : Rounds} {node : Tree} {s : State}
    (hnode : Builds rules beyond skips p r.state.cursor node s.cursor)
    (h : RoundsBuilt rules beyond skips p ⟨r.count + 1, node :: r.nodes, s⟩ r') :
    RoundsBuilt rules beyond skips p r r' := by
  obtain ⟨nodes, hnodes, heq, hcount⟩ := h
  refine ⟨node :: nodes, .cons hnode hnodes, ?_, ?_⟩
  · rw [heq, List.reverse_cons, List.append_assoc, List.singleton_append]
  · rw [hcount, List.length_cons]
    exact Nat.add_right_comm r.count 1 nodes.length

theorem UpToRun.built {p : Pattern} {n : Nat} {r r' : Rounds} (h : UpToRun (f p) n r r')
    (hrunning : r'.state.aborted = none) : RoundsBuilt rules beyond skips p r r' := by
  induction h with
  | full r => exact .none rfl
  | missed hmissed => exact .none (hf.back hmissed rfl)
  | matched hnode hrest ih =>
      have hgoes := (UpToRun.along State.Onward.isCourse (hf.onward p) hrest).running hrunning
      exact .cons (hf.builds hnode rfl hgoes) (ih hrunning)

omit hf in
theorem UpToRun.count_le {m : State → Option Outcome} {n : Nat} {r r' : Rounds}
    (h : UpToRun m n r r') : r'.count ≤ r.count + n := by
  induction h with
  | full r => exact Nat.le_refl _
  | missed => exact Nat.le_add_right _ _
  | matched _ _ ih =>
      simp only at ih
      omega

theorem WhileRun.built {p : Pattern} {budget : List Char} {r r' : Rounds}
    (h : WhileRun (f p) budget r r') (hrunning : r'.state.aborted = none) :
    RoundsBuilt rules beyond skips p r r' := by
  induction h with
  | missed hmissed => exact .none (hf.back hmissed rfl)
  | stuck => exact absurd hrunning (State.aborted_abort_ne _ _ _)
  | matched hnode _ hrest ih =>
      have hgoes := (WhileRun.along State.Onward.isCourse (hf.onward p) hrest).running hrunning
      exact .cons (hf.builds hnode rfl hgoes) (ih hrunning)

theorem RoundsRun.built {p : Pattern} {most : Option Nat} {s : State} {r : Rounds}
    (h : RoundsRun (f p) most s r) (hrunning : r.state.aborted = none) :
    RoundsBuilt rules beyond skips p ⟨0, [], s⟩ r := by
  cases most with
  | some n => exact UpToRun.built hf h hrunning
  | none => exact WhileRun.built hf h hrunning

omit hf in
theorem RoundsRun.count_le {m : State → Option Outcome} {most : Option Nat} {s : State}
    {r : Rounds} (h : RoundsRun m most s r) : ∀ n, most = some n → r.count ≤ n := by
  rintro n rfl
  have hle := UpToRun.count_le h
  rwa [Nat.zero_add] at hle

/-- A repetition that matches is built of its rounds, which are as many as it allows. -/
theorem RoundsRun.builds {p : Pattern} {least : Nat} {most : Option Nat} {c : Cursor} {s : State}
    {r : Rounds} (h : RoundsRun (f p) most s r) (hskip : skips c s.cursor) {tree : Tree}
    (htree : (r.outcome least s.cursor.offset).tree? = some tree)
    (hrunning : r.state.aborted = none) :
    Builds rules beyond skips (.quantifier p least most) c tree r.state.cursor := by
  obtain ⟨nodes, hnodes, heq, hcount⟩ := RoundsRun.built hf h hrunning
  have hmost := RoundsRun.count_le h
  simp only [List.append_nil, Nat.zero_add] at heq hcount
  unfold Rounds.outcome at htree
  split at htree
  · cases htree
  · next henough =>
      cases htree
      simp only [Bool.or_eq_true, decide_eq_true_eq, not_or, Nat.not_lt] at henough
      rw [heq, List.reverse_reverse]
      rw [hcount] at henough hmost
      exact .quantifier hskip henough.2 hmost hnodes

theorem OperatorsRun.builds {wantOperand : Bool} {ops : List Operator} {s : State}
    {r : Option (Operator × Tree) × State} (h : OperatorsRun f wantOperand ops s r)
    {found : Operator × Tree} (hfound : r.1 = some found) (hrunning : r.2.aborted = none) :
    found.1 ∈ ops ∧ Builds rules beyond skips found.1.pattern s.cursor found.2 r.2.cursor := by
  induction h with
  | exhausted => cases hfound
  | passed _ _ ih =>
      obtain ⟨hmem, hbuilds⟩ := ih hfound hrunning
      exact ⟨List.mem_cons_of_mem _ hmem, hbuilds⟩
  | matched _ hmid =>
      cases hfound
      exact ⟨List.mem_cons_self, hf.builds hmid rfl hrunning⟩
  | missed _ hmissed _ ih =>
      obtain ⟨hmem, hbuilds⟩ := ih hfound hrunning
      rw [hf.back hmissed rfl] at hbuilds
      exact ⟨List.mem_cons_of_mem _ hmem, hbuilds⟩

theorem OperatorsRun.back {wantOperand : Bool} {ops : List Operator} {s : State}
    {r : Option (Operator × Tree) × State} (h : OperatorsRun f wantOperand ops s r)
    (hnone : r.1 = none) : r.2.cursor = s.cursor := by
  induction h with
  | exhausted => rfl
  | passed _ _ ih => exact ih hnone
  | matched => cases hnone
  | missed _ hmissed _ ih => rw [ih hnone, hf.back hmissed rfl]

end

/-! ## Expressions -/

section

variable {rules : Rules} {beyond : List Char} {skips : Cursor → Cursor → Prop}

/-- The operators of a climbing loop are built, and it looks past trivia without moving. -/
structure Climbing.BuildsBy (rules : Rules) (beyond : List Char)
    (skips : Cursor → Cursor → Prop) (c : Climbing) : Prop where
  matcher : ∀ probe, OperatorPeg.BuildsBy rules beyond skips (c.matcher { c.frame with probe })
  peek : ∀ {s offset s'}, c.peek s = some (offset, s') → s'.cursor = s.cursor

variable {c : Climbing} (hc : c.BuildsBy rules beyond skips)

include hc

theorem Climbing.Finds.builds {operand : Option Tree} {s before after : State}
    {found : Operator × Tree} (h : c.Finds operand s before (some found) after)
    (hrunning : after.isAborted = false) :
    found.1 ∈ c.operators ∧
      Builds rules beyond skips found.1.pattern s.cursor found.2 after.cursor := by
  obtain ⟨probe, hprobe, hrun⟩ := h
  rw [State.isAborted_eq_false_iff] at hrunning
  have hbuilds := hrun.builds (hc.matcher probe) rfl hrunning
  rwa [Climbing.cursor_probe hc.peek hprobe] at hbuilds

theorem Climbing.Finds.back {operand : Option Tree} {s before after : State}
    (h : c.Finds operand s before none after) : after.cursor = s.cursor := by
  obtain ⟨probe, hprobe, hrun⟩ := h
  exact (hrun.back (hc.matcher probe) rfl).trans (Climbing.cursor_probe hc.peek hprobe)

theorem ClimbRun.builds {rounds : Nat} {stack : List Pending} {operand : Option Tree}
    {lastEmpty : Option Nat} {s : State} {ms : List (Operator × Tree)} {o : Outcome}
    (h : ClimbRun c rounds stack operand lastEmpty s ms o) (htree : o.tree?.isSome) :
    (∀ found ∈ ms, found.1 ∈ c.operators) ∧
      BuildsAll rules beyond skips (ms.map (·.1.pattern)) s.cursor (ms.map (·.2))
        o.state.cursor := by
  induction h with
  | aborted | repeated => cases htree
  | @finished _ stack operand _ s _ after o hfinds _ hfinish =>
      refine ⟨nofun, ?_⟩
      have hback : o.state.cursor = s.cursor := by
        cases operand with
        | some current =>
            cases hfinish
            exact (cursor_completeAll stack current after).trans (hfinds.back hc)
        | none =>
            simp only [finishExpression] at hfinish
            split at hfinish <;> cases hfinish
            cases htree
      rw [hback]
      exact .nil _
  | waits hfinds hrunning _ htake _ _ ih =>
      obtain ⟨hmem, hbuilds⟩ := hfinds.builds hc hrunning
      obtain ⟨hrest, hnodes⟩ := ih htree
      rw [cursor_takeOperand htake, State.cursor_add] at hnodes
      exact ⟨List.forall_mem_cons.mpr ⟨hmem, hrest⟩, .cons hbuilds hnodes⟩
  | completes hfinds hrunning _ htake _ _ ih =>
      obtain ⟨hmem, hbuilds⟩ := hfinds.builds hc hrunning
      obtain ⟨hrest, hnodes⟩ := ih htree
      rw [State.cursor_add, cursor_takeOperand htake, State.cursor_add] at hnodes
      exact ⟨List.forall_mem_cons.mpr ⟨hmem, hrest⟩, .cons hbuilds hnodes⟩

/-- An expression is built of its operators, which stand in its tree as they were found. -/
theorem ExpressionRun.builds {s : State} {found : List (Operator × Tree)} {o : Outcome}
    (h : ExpressionRun c s found o) {tree : Tree} (htree : o.tree? = some tree) :
    ∃ sk : Skeleton, sk.tree? = some tree ∧ sk.Shaped ∧
      (∀ found ∈ sk.inorder, found.1 ∈ c.operators) ∧
      BuildsAll rules beyond skips (sk.inorder.map (·.1.pattern)) s.cursor
        (sk.inorder.map (·.2)) o.state.cursor := by
  obtain ⟨hgrouped, horder, hpresent, hsk⟩ :=
    ClimbRun.assembles h htree Assembly.Grouped.empty rfl rfl
  obtain ⟨hskGrouped, hskOrder⟩ := hgrouped.reduceAll hpresent
  have hinorder := hskOrder.trans horder
  rw [show Assembly.empty.inorder ++ found = found from rfl] at hinorder
  have hsome : o.tree?.isSome := by simp [htree]
  have hbuilds : Climbing.BuildsBy rules beyond skips
      { c with frame := { c.frame with probe := none } } := ⟨hc.matcher, hc.peek⟩
  refine ⟨_, hsk, hskGrouped.shaped, ?_⟩
  rw [hinorder]
  exact ClimbRun.builds hbuilds h hsome

end

/-! ## Layers -/

/-- The layer inside builds what it matches. -/
def Matcher.BuildsIn (setting : Setting) (m : Matcher) : Prop :=
  ∀ frame : Frame, BuildsBy setting.rules setting.beyond
    (PastTrivia setting.rules setting.beyond frame.inTrivia) (m frame)

section

variable {m : Matcher} {setting : Setting} (hm : m.BuildsIn setting) {frame : Frame}

include hm

theorem climbing_buildsBy (operators : List Operator) :
    Climbing.BuildsBy setting.rules setting.beyond
      (PastTrivia setting.rules setting.beyond frame.inTrivia)
      ⟨m, peekPastTrivia m setting frame, frame, operators⟩ where
  matcher := fun probe => hm { frame with probe }
  peek := by
    intro s offset s' h
    obtain ⟨after, -, heq⟩ := Option.map_eq_some_iff.mp h
    cases heq
    rfl

/-- What a pattern says is built from where trivia ends; a lookahead leads back to where it
begins. -/
theorem BodyRun.builds {c : Cursor} {ready : State} {p : Pattern} {o : Outcome}
    (h : BodyRun m setting frame ready p o)
    (hskip : PastTrivia setting.rules setting.beyond frame.inTrivia c ready.cursor)
    {tree : Tree} (htree : o.tree? = some tree) (hrunning : o.state.aborted = none) :
    Builds setting.rules setting.beyond (PastTrivia setting.rules setting.beyond frame.inTrivia)
      p c tree (if p.isLookahead then c else o.state.cursor) := by
  cases h with
  | terminal t =>
      cases hend : t.matchEnd? setting.beyond ready.cursor with
      | none =>
          rw [matchTerminal_of_missed hend] at htree
          cases htree
      | some stop =>
          rw [matchTerminal_of_matched hend] at htree ⊢
          cases htree
          exact .terminal hskip hend
  | sequence hsteps =>
      obtain ⟨nodes, hnodes, rfl⟩ := hsteps.builds (hm frame) htree hrunning
      exact .sequence hskip hnodes
  | choice halternatives =>
      obtain ⟨chosen, p, child, hp, hchild, rfl⟩ :=
        halternatives.builds (hm frame) htree hrunning
      rw [Nat.zero_add]
      exact .choice hskip hp hchild
  | quantifier hrounds =>
      rw [Rounds.state_outcome] at hrunning ⊢
      exact RoundsRun.builds (hm frame) hrounds hskip htree hrunning
  | undefinedRule | tooDeep => cases htree
  | @lookup _ _ o hget _ hchild =>
      obtain ⟨child, hsome, rfl⟩ := Option.map_eq_some_iff.mp htree
      have hbuilds := (hm { frame with depth := frame.depth + 1 }).builds hchild hsome hrunning
      exact .lookup hskip hget hbuilds
  | label hchild =>
      obtain ⟨child, hsome, rfl⟩ := Option.map_eq_some_iff.mp htree
      have hbuilds := (hm frame).builds hchild hsome hrunning
      exact .label hskip hbuilds
  | @lookahead inner wanted o hchild =>
      have hrunning : o.state.aborted = none := hrunning
      simp only [State.isAborted_eq_false_iff.mpr hrunning, Bool.false_or] at htree
      split at htree
      · cases htree
      · next hseen =>
          cases htree
          simp only [bne_iff_ne, ne_eq, Decidable.not_not] at hseen
          subst hseen
          cases hsome : o.tree? with
          | none => exact .unseen hskip
          | some child =>
              exact .seen hskip ((hm { frame with quiet := true }).builds hchild hsome hrunning)
  | table hrun =>
      obtain ⟨sk, hsk, hshaped, hmem, hnodes⟩ :=
        ExpressionRun.builds (climbing_buildsBy hm _) hrun htree
      exact .table hskip hmem hnodes hshaped hsk

end

theorem LayerRun.builds {setting : Setting} {layers : Nat}
    (hm : (matchPattern setting layers).BuildsIn setting) {frame : Frame} {p : Pattern}
    {s : State} {o : Outcome} (h : LayerRun (matchPattern setting layers) setting frame p s o)
    {tree : Tree} (htree : o.tree? = some tree) (hrunning : o.state.aborted = none) :
    Builds setting.rules setting.beyond (PastTrivia setting.rules setting.beyond frame.inTrivia)
      p s.cursor tree o.state.cursor := by
  cases h with
  | unpaid => cases htree
  | @tried charged ready inner hc hskip hbody =>
      rw [Outcome.tree?_settle] at htree
      rw [Outcome.aborted_settle] at hrunning
      have hready := (hbody.along State.Onward.isCourse
        (matchPattern_along State.Onward.isCourse setting layers)).running hrunning
      have hpast := hskip.pastTrivia hready
      rw [State.cursor_of_charge hc] at hpast
      have hbuilds := hbody.builds hm hpast htree hrunning
      simp only [Outcome.settle, htree, Option.isNone_some, Bool.false_or]
      split
      · next hahead => rwa [if_pos hahead] at hbuilds
      · next hahead => rwa [if_neg hahead] at hbuilds

theorem matchPattern_buildsIn (setting : Setting) (layers : Nat) :
    (matchPattern setting layers).BuildsIn setting := by
  induction layers with
  | zero => exact fun _ => ⟨fun _ => nofun, nofun, nofun⟩
  | succ layers ih =>
      intro frame
      exact ⟨matchPattern_along State.Onward.isCourse setting _ frame, matchPattern_back,
        fun h htree hrunning => (matchOnce_eq_some_iff.mp h).builds ih htree hrunning⟩

/-- **Every tree is built**, if the parse goes on behind its match. -/
theorem matchPattern_builds {setting : Setting} {layers : Nat} {frame : Frame} {p : Pattern}
    {s : State} {o : Outcome} (h : matchPattern setting layers frame p s = some o) {tree : Tree}
    (htree : o.tree? = some tree) (hrunning : o.state.aborted = none) :
    Builds setting.rules setting.beyond (PastTrivia setting.rules setting.beyond frame.inTrivia)
      p s.cursor tree o.state.cursor :=
  (matchPattern_buildsIn setting layers frame).builds h htree hrunning

/-- The tree of a parse is built from the start of its range, and behind it trivia leads to the
end. -/
theorem parseWindow_builds {layers : Nat} {rules : Rules} {limits : Limits} {start : Start}
    {window : Window} {report : Report} {tree : Tree}
    (h : parseWindow layers rules limits start window = some report)
    (htree : report.result = .ok tree) :
    ∃ p stop last, start.pattern? rules = some p ∧
      Builds rules window.beyond (PastTrivia rules window.beyond false) p window.start tree
        stop ∧
      PastTrivia rules window.beyond false stop last ∧ last.ahead = [] := by
  cases hp : start.pattern? rules with
  | none =>
      obtain ⟨name, hundefined⟩ := parseWindow_of_undefined hp
      rw [hundefined] at h
      cases h
      cases htree
  | some p =>
      obtain ⟨s, o, o', hcursor, -, hmatch, hsame, hcursor', -, haborted, hconclude⟩ :=
        parseWindow_eq_some hp h
      cases conclude_eq_some_iff.mp hconclude with
      | missed | short => cases htree
      | @reached _ s' hsome hskip hrunning hahead =>
          cases htree
          rw [State.isAborted_eq_false_iff] at hrunning
          have hrunning' := (hskip.along State.Onward.isCourse
            (matchPattern_along State.Onward.isCourse _ layers)).running hrunning
          have hbuilds := matchPattern_builds hmatch (hsame.symm.trans hsome)
            (haborted.symm.trans hrunning')
          have hpast := hskip.pastTrivia hrunning
          rw [hcursor] at hbuilds
          rw [hcursor'] at hpast
          exact ⟨p, o.state.cursor, s'.cursor, rfl, hbuilds, hpast, hahead⟩

end OperatorPeg
