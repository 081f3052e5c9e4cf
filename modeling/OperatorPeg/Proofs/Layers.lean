import OperatorPeg.Proofs.Termination

/-!
# More layers change nothing

The matcher for what is inside a pattern is used where a match gets to and nowhere
else. If another matcher comes to the same there, the whole match comes to the same. So
a match that does not run out of layers does not run out of more of them, and what it
comes to is then one and the same.
-/

namespace OperatorPeg

/-- Wherever in the region `f` comes to something, `g` comes to the same. -/
def FollowsIn (f g : State → Option Outcome) (region : Region) : Prop :=
  ∀ s, region.holds s → ∀ o, f s = some o → g s = some o

/-! ## Loops -/

section Loops

variable {f g : Pattern → State → Option Outcome} (hf : ∀ p, RunsAlong State.Proceeds (f p))
  {region : Region}

include hf

theorem StepsRun.follow {offset : Nat} {kept : List Tree} {steps : List Step} {s : State}
    {o : Outcome} (h : StepsRun f offset kept steps s o)
    (hfg : ∀ step ∈ steps, FollowsIn (f step.pattern) (g step.pattern) region)
    (hs : region.holds s) : StepsRun g offset kept steps s o := by
  induction h with
  | done kept s => exact .done kept s
  | missed hm => exact .missed ((List.forall_mem_cons.mp hfg).1 _ hs _ hm)
  | matched hm _ ih =>
      obtain ⟨hstep, hsteps⟩ := List.forall_mem_cons.mp hfg
      exact .matched (hstep _ hs _ hm) (ih hsteps (region.closed hs (hf _ _ _ hm)))

theorem AlternativesRun.follow {offset index : Nat} {ps : List Pattern} {s : State} {o : Outcome}
    (h : AlternativesRun f offset index ps s o)
    (hfg : ∀ p ∈ ps, FollowsIn (f p) (g p) region) (hs : region.holds s) :
    AlternativesRun g offset index ps s o := by
  induction h with
  | exhausted index s => exact .exhausted index s
  | chosen hm => exact .chosen ((List.forall_mem_cons.mp hfg).1 _ hs _ hm)
  | aborted hm hend => exact .aborted ((List.forall_mem_cons.mp hfg).1 _ hs _ hm) hend
  | missed hm hend _ ih =>
      obtain ⟨hp, hps⟩ := List.forall_mem_cons.mp hfg
      exact .missed (hp _ hs _ hm) hend (ih hps (region.closed
        (region.closed hs (hf _ _ _ hm)) (State.Proceeds.isCourse.note rfl)))

theorem RoundsRun.follow {p : Pattern} {most : Option Nat} {s : State} {r : Rounds}
    (h : RoundsRun (f p) most s r) (hfg : FollowsIn (f p) (g p) region) (hs : region.holds s) :
    RoundsRun (g p) most s r := by
  cases most with
  | some n =>
      have hupTo {n : Nat} {r r' : Rounds} (h : UpToRun (f p) n r r')
          (hr : region.holds r.state) : UpToRun (g p) n r r' := by
        induction h with
        | full r => exact .full r
        | missed hm => exact .missed (hfg _ hr _ hm)
        | matched hm _ ih => exact .matched (hfg _ hr _ hm) (ih (region.closed hr (hf _ _ _ hm)))
      exact hupTo h hs
  | none =>
      have hwhile {budget : List Char} {r r' : Rounds} (h : WhileRun (f p) budget r r')
          (hr : region.holds r.state) : WhileRun (g p) budget r r' := by
        induction h with
        | missed hm => exact .missed (hfg _ hr _ hm)
        | stuck hm hc => exact .stuck (hfg _ hr _ hm) hc
        | matched hm hc _ ih =>
            exact .matched (hfg _ hr _ hm) hc (ih (region.closed hr (hf _ _ _ hm)))
      exact hwhile h hs

theorem OperatorsRun.follow {wantOperand : Bool} {ops : List Operator} {s : State}
    {r : Option (Operator × Tree) × State} (h : OperatorsRun f wantOperand ops s r)
    (hfg : ∀ op ∈ ops, FollowsIn (f op.pattern) (g op.pattern) region) (hs : region.holds s) :
    OperatorsRun g wantOperand ops s r := by
  induction h with
  | exhausted s => exact .exhausted s
  | passed hk _ ih => exact .passed hk (ih (List.forall_mem_cons.mp hfg).2 hs)
  | matched hk hm => exact .matched hk ((List.forall_mem_cons.mp hfg).1 _ hs _ hm)
  | missed hk hm _ ih =>
      obtain ⟨hop, hops⟩ := List.forall_mem_cons.mp hfg
      exact .missed hk (hop _ hs _ hm) (ih hops (region.closed hs (hf _ _ _ hm)))

end Loops

/-! ## Expressions -/

/-- The same expression, where the parts that `c` has come to something and those of `d` to
the same. -/
structure Climbing.FollowsIn (c d : Climbing) (region : Region) : Prop where
  along : c.RunsAlong State.Proceeds
  frame : d.frame = c.frame
  operators : d.operators = c.operators
  matcher : ∀ probe, ∀ op ∈ c.operators,
    OperatorPeg.FollowsIn (c.matcher { c.frame with probe } op.pattern)
      (d.matcher { c.frame with probe } op.pattern) region
  peek : ∀ s, region.holds s → ∀ r, c.peek s = some r → d.peek s = some r

section Expressions

variable {c d : Climbing} {region : Region} (hcd : c.FollowsIn d region)

include hcd

theorem Climbing.Finds.follow {operand : Option Tree} {s before after : State}
    {found : Option (Operator × Tree)} (h : c.Finds operand s before found after)
    (hs : region.holds s) : d.Finds operand s before found after := by
  obtain ⟨probe, hprobe, hrun⟩ := h
  have hboth : d.probe operand s = some (probe, before) ∧ region.holds before := by
    cases operand with
    | none =>
        cases hprobe
        exact ⟨rfl, hs⟩
    | some operand =>
        obtain ⟨⟨offset, s'⟩, hpeek, heq⟩ := Option.map_eq_some_iff.mp hprobe
        cases heq
        obtain ⟨after, hafter, -, rfl⟩ := hcd.along.peek _ _ _ hpeek
        refine ⟨?_, region.closed hs hafter.back⟩
        rw [Climbing.probe, hcd.peek _ hs _ hpeek]
        rfl
  refine ⟨probe, hboth.1, ?_⟩
  rw [hcd.frame, hcd.operators]
  exact hrun.follow (hcd.along.matcher _) (hcd.matcher probe) hboth.2

theorem finishExpression_follow {stack : List Pending} {operand : Option Tree} {s : State}
    {o : Outcome} (h : finishExpression c stack operand s = some o) (hs : region.holds s) :
    finishExpression d stack operand s = some o := by
  cases operand with
  | some operand => exact h
  | none =>
      cases hpeek : c.peek s with
      | none => simp [finishExpression, hpeek] at h
      | some r => simpa only [finishExpression, hpeek, hcd.peek _ hs _ hpeek, hcd.frame] using h

theorem ClimbRun.follow {rounds : Nat} {stack : List Pending} {operand : Option Tree}
    {lastEmpty : Option Nat} {s : State} {ms : List (Operator × Tree)} {o : Outcome}
    (h : ClimbRun c rounds stack operand lastEmpty s ms o) (hs : region.holds s) :
    ClimbRun d rounds stack operand lastEmpty s ms o := by
  have hR := State.Proceeds.isCourse
  induction h with
  | aborted hfinds hend => exact .aborted (hfinds.follow hcd hs) hend
  | finished hfinds hend hfinish =>
      have hafter := region.closed hs (hfinds.along hR hcd.along)
      exact .finished (hfinds.follow hcd hs) hend (finishExpression_follow hcd hfinish hafter)
  | repeated hfinds hend hempty hrepeats =>
      exact .repeated (hfinds.follow hcd hs) hend hempty hrepeats
  | waits hfinds hend hmoved htake hright _ ih =>
      have hafter := region.closed hs (hfinds.along hR hcd.along)
      exact .waits (hfinds.follow hcd hs) hend hmoved htake hright
        (ih (region.closed hafter (hR.trans (hR.note rfl) (takeOperand_along hR htake))))
  | completes hfinds hend hmoved htake hright _ ih =>
      have hafter := region.closed hs (hfinds.along hR hcd.along)
      have htaken := hR.trans (hR.note rfl) (takeOperand_along hR htake)
      exact .completes (hfinds.follow hcd hs) hend hmoved htake hright
        (ih (region.closed hafter (hR.trans htaken (hR.note rfl))))

end Expressions

/-! ## One layer -/

section Layer

variable {m m' : Matcher} (hm : ∀ frame p, RunsAlong State.Proceeds (m frame p))
  {setting : Setting} {frame : Frame} {region : Region}
  (htrivia : frame.inTrivia = false → ∀ trivia, setting.rules.trivia? = some trivia →
    FollowsIn (m { frame with inTrivia := true, quiet := true } trivia)
      (m' { frame with inTrivia := true, quiet := true } trivia) region)

include htrivia

theorem SkipRun.follow {s s' : State} (h : SkipRun m setting frame s s') (hs : region.holds s) :
    SkipRun m' setting frame s s' := by
  cases h with
  | inside hin => exact .inside hin
  | absent hin hnone => exact .absent hin hnone
  | skipped hin hsome ho => exact .skipped hin hsome (htrivia hin _ hsome _ hs _ ho)

include hm

/-- What a pattern says comes to the same if its parts do, and the rule that it looks up. -/
theorem BodyRun.follow {p : Pattern}
    (hparts : ∀ inner ∈ p.parts, ∀ frame' : Frame, frame'.inTrivia = frame.inTrivia →
      FollowsIn (m frame' inner) (m' frame' inner) region)
    (hrule : ∀ key q, p = .lookup key → setting.rules.get? key = some q →
      FollowsIn (m { frame with depth := frame.depth + 1 } q)
        (m' { frame with depth := frame.depth + 1 } q) region)
    {s : State} {o : Outcome} (h : BodyRun m setting frame s p o) (hs : region.holds s) :
    BodyRun m' setting frame s p o := by
  cases h with
  | terminal t => exact .terminal t
  | sequence h =>
      exact .sequence (h.follow (hm frame)
        (fun step hstep => hparts _ (List.mem_map_of_mem hstep) frame rfl) hs)
  | choice h => exact .choice (h.follow (hm frame) (fun p hp => hparts p hp frame rfl) hs)
  | quantifier h =>
      exact .quantifier (RoundsRun.follow (hm frame) h
        (hparts _ (List.mem_singleton_self _) frame rfl) hs)
  | undefinedRule hget => exact .undefinedRule hget
  | tooDeep hget hdepth => exact .tooDeep hget hdepth
  | lookup hget hdepth ho =>
      exact .lookup hget hdepth (hrule _ _ rfl hget _
        (region.closed hs (.add _)) _ ho)
  | label ho => exact .label (hparts _ (List.mem_singleton_self _) frame rfl _ hs _ ho)
  | lookahead ho =>
      exact .lookahead (hparts _ (List.mem_singleton_self _) { frame with quiet := true } rfl
        _ hs _ ho)
  | @table operators _ _ h =>
      refine .table (ClimbRun.follow (d := ⟨m', peekPastTrivia m' setting frame,
        { frame with probe := none }, operators⟩)
        ⟨climbing_along State.Proceeds.isCourse hm operators, rfl, rfl,
          fun probe op hop => hparts _ (List.mem_map_of_mem hop) { frame with probe } rfl,
          fun s hs r hr => ?_⟩ h hs)
      obtain ⟨after, hskip, heq⟩ := Option.map_eq_some_iff.mp hr
      exact Option.map_eq_some_iff.mpr ⟨after, skipTrivia_eq_some_iff.mpr
        ((skipTrivia_eq_some_iff.mp hskip).follow htrivia hs), heq⟩

/-- A layer comes to the same if what it pays for does. -/
theorem LayerRun.follow {p : Pattern}
    (hparts : ∀ inner ∈ p.parts, ∀ frame' : Frame, frame'.inTrivia = frame.inTrivia →
      FollowsIn (m frame' inner) (m' frame' inner) region)
    (hrule : ∀ key q, p = .lookup key → setting.rules.get? key = some q →
      FollowsIn (m { frame with depth := frame.depth + 1 } q)
        (m' { frame with depth := frame.depth + 1 } q) region)
    {s : State} {o : Outcome} (h : LayerRun m setting frame p s o) (hs : region.holds s) :
    LayerRun m' setting frame p s o := by
  cases h with
  | unpaid hc => exact .unpaid hc
  | tried hc hskip hbody =>
      have hcharged := region.closed hs (State.Proceeds.isCourse.charge hc)
      have hready := region.closed hcharged (hskip.along State.Proceeds.isCourse hm)
      exact .tried hc (hskip.follow htrivia hcharged)
        (hbody.follow hm htrivia hparts hrule hready)

end Layer

/-! ## Layers -/

/-- **More layers change nothing.** -/
theorem matchPattern_mono {setting : Setting} {layers layers' : Nat} (hle : layers ≤ layers')
    {frame : Frame} {p : Pattern} {s : State} {o : Outcome}
    (h : matchPattern setting layers frame p s = some o) :
    matchPattern setting layers' frame p s = some o := by
  induction layers generalizing layers' frame p s o with
  | zero => cases h
  | succ layers ih =>
      obtain ⟨layers', rfl⟩ := Nat.exists_eq_add_of_le' (Nat.lt_of_lt_of_le (Nat.succ_pos _) hle)
      have hle : layers ≤ layers' := Nat.le_of_succ_le_succ hle
      have hfollow : ∀ frame p, FollowsIn (matchPattern setting layers frame p)
          (matchPattern setting layers' frame p) .everywhere := fun _ _ _ _ _ => ih hle
      exact matchOnce_eq_some_iff.mpr ((matchOnce_eq_some_iff.mp h).follow
        (matchPattern_along State.Proceeds.isCourse setting layers) (fun _ _ _ => hfollow _ _)
        (fun _ _ _ _ => hfollow _ _) (fun _ _ _ _ => hfollow _ _) trivial)

end OperatorPeg
