import OperatorPeg.Proofs.Grammar.Tokens

/-!
# Parsing between gaps

What the base rules come to, told between the places where significant text begins.
Whether a match stops before the gap behind it or after it, or starts before the gap
in front of it or after it, makes no difference to any tree; so both are left open.
-/

namespace OperatorPeg.Grammar

/-- The base rules on a whole text, without limits. -/
def reading : Setting := ⟨base, [], none⟩

theorem Leads.unique {c r r' : Cursor} (h : Leads c r) (h' : Leads c r') : r = r' := by
  have hend : ∀ {r}, Leads c r → triviaMeaning.matchEnd? [] c = some r := fun h =>
    let ⟨_, hblank, htext⟩ := h.gap
    Regex.matchEnd?_zeroOrMore (follows_gap hblank htext h.significant)
  exact Option.some.inj ((hend h).symm.trans (hend h'))

/-- `f` makes the tree of what stands from `r` up to the gap before `r'`. -/
def Makes (f : Nat → Frame → State → Option Outcome) (n : Nat) (r : Cursor) (tree : Tree)
    (r' : Cursor) : Prop :=
  ∀ c, Leads c r → ∃ c', Leads c' r' ∧ Brings f n c (some tree) c'

/-- A pattern makes the tree of what stands from `r` up to the gap before `r'`. -/
abbrev Parses (n : Nat) (p : Pattern) (r : Cursor) (tree : Tree) (r' : Cursor) : Prop :=
  Makes (fun layers frame s => matchPattern reading layers frame p s) n r tree r'

/-- A pattern fails at `r`. -/
def Misses (n : Nat) (p : Pattern) (r : Cursor) : Prop :=
  ∀ c, Leads c r → Yields reading n p c none c

/-- The steps of a sequence make its tree. -/
abbrev StepsParse (n offset : Nat) (kept : List Tree) (steps : List Step) (r : Cursor)
    (tree : Tree) (r' : Cursor) : Prop :=
  Makes (fun layers frame s =>
    matchSteps (matchPattern reading layers frame) offset kept steps s) n r tree r'

/-- The steps of a sequence fail, wherever they come to. -/
def StepsMiss (n offset : Nat) (kept : List Tree) (steps : List Step) (r : Cursor) : Prop :=
  ∀ c, Leads c r → ∃ c', StepsYield reading n offset kept steps c none c'

/-- One of the alternatives from number `index` on makes the tree of a choice. -/
abbrev AlternativesParse (n offset index : Nat) (ps : List Pattern) (r : Cursor) (tree : Tree)
    (r' : Cursor) : Prop :=
  Makes (fun layers frame s =>
    matchAlternatives (matchPattern reading layers frame) offset index ps s) n r tree r'

section

variable {n m : Nat} {p : Pattern} {r r₁ r' : Cursor} {tree : Tree}

theorem Makes.mono {f : Nat → Frame → State → Option Outcome} (h : Makes f n r tree r')
    (hn : n ≤ m) : Makes f m r tree r' := fun c hc =>
  let ⟨c', hc', hyields⟩ := h c hc
  ⟨c', hc', hyields.mono hn⟩

theorem Misses.mono (h : Misses n p r) (hn : n ≤ m) : Misses m p r := fun c hc =>
  (h c hc).mono hn

theorem Leads.skips_of_le (hn : 1 ≤ n) {c : Cursor} (h : Leads c r) : Skips reading n c r :=
  fun layers hlayers => h.skips layers (Nat.le_trans hn hlayers)

/-- A pattern that matches at `r`. -/
theorem Parses.here (hp : p.isLookahead = false)
    (h : Significant r.ahead → ∃ e, Leads e r' ∧ YieldsHere reading (n + 1) p r (some tree) e) :
    Parses (n + 2) p r tree r' := fun _ hc =>
  let ⟨e, he, hyields⟩ := h hc.significant
  ⟨e, he, Yields.matched hp (hc.skips_of_le (Nat.le_add_left 1 n)) hyields⟩

theorem Misses.here
    (h : Significant r.ahead → ∃ e, YieldsHere reading (n + 1) p r none e) :
    Misses (n + 2) p r := fun _ hc =>
  let ⟨_, hyields⟩ := h hc.significant
  Yields.missed (hc.skips_of_le (Nat.le_add_left 1 n)) hyields

/-! ## Terminals -/

/-- A terminal at a token, and the gap behind it. -/
theorem Parses.terminal {t : Terminal} {text : List Char} {e : Cursor} (h : r.Passes text e)
    (hend : t.matchEnd? [] r = some e) (he : Leads e r') :
    Parses 2 (.terminal t) r (.value r.offset (String.ofList text)) r' :=
  .here rfl fun _ => ⟨e, he, .terminal hend h⟩

theorem Misses.terminal {t : Terminal} (h : t.matchEnd? [] r = none) : Misses 2 (.terminal t) r :=
  .here fun _ => ⟨r, .terminal_missed h⟩

/-- A symbol. -/
theorem Parses.literal {text : String} {e : Cursor} (h : r.Passes text.toList e)
    (he : Leads e r') : Parses 2 (.ofLiteral text) r (.value r.offset text) r' := by
  have hparses := Parses.terminal h (t := .literal text) (Cursor.after?_eq_some_iff.mpr h) he
  rwa [String.ofList_toList] at hparses

/-- A symbol is not where another character stands. -/
theorem Misses.literal {text : String} {ch : Char} (hch : text.toList.head? = some ch)
    (h : r.ahead.head? ≠ some ch) : Misses 2 (.ofLiteral text) r := by
  apply Misses.terminal
  apply Cursor.after?_eq_none_iff.mpr
  rintro ⟨rest, hrest⟩
  rw [← hrest, List.head?_append, hch] at h
  exact h rfl

/-! ## Patterns around patterns -/

theorem Parses.lookup {key : String} (hget : base.get? key = some p)
    (h : Parses (n + 1) p r tree r') :
    Parses (n + 2) (.lookup key) r (.lookup r.offset key tree) r' :=
  .here rfl fun hr =>
    let ⟨e, he, hyields⟩ := h r (.refl hr)
    ⟨e, he, .lookup rfl hget hyields⟩

theorem Misses.lookup {key : String} (hget : base.get? key = some p) (h : Misses (n + 1) p r) :
    Misses (n + 2) (.lookup key) r :=
  .here fun hr => ⟨r, .lookup rfl hget (h r (.refl hr))⟩

theorem Parses.label (name : String) (h : Parses (n + 1) p r tree r') :
    Parses (n + 2) (.label name p) r (.label r.offset name tree) r' :=
  .here rfl fun hr =>
    let ⟨e, he, hyields⟩ := h r (.refl hr)
    ⟨e, he, .label name hyields⟩

theorem Misses.label (name : String) (h : Misses (n + 1) p r) :
    Misses (n + 2) (.label name p) r :=
  .here fun hr => ⟨r, .label name (h r (.refl hr))⟩

/-- A negative lookahead sees nothing. -/
theorem Parses.notAhead (h : Misses (n + 1) p r) :
    Parses (n + 2) (.lookahead p false) r (.lookahead r.offset none) r := fun c hc =>
  ⟨c, hc, Yields.lookahead (hc.skips_of_le (Nat.le_add_left 1 n)) (h r (.refl hc.significant)) rfl⟩

theorem Misses.notAhead (h : Parses (n + 1) p r tree r') :
    Misses (n + 2) (.lookahead p false) r := fun _ hc =>
  let ⟨_, _, hyields⟩ := h r (.refl hc.significant)
  Yields.lookahead_missed (hc.skips_of_le (Nat.le_add_left 1 n)) hyields (by simp)

/-! ## Sequences -/

theorem StepsParse.done (n offset : Nat) (kept : List Tree) (r : Cursor) :
    StepsParse n offset kept [] r (.sequence offset kept.reverse) r := fun c hc =>
  ⟨c, hc, StepsYield.done offset kept c⟩

theorem StepsParse.step {offset : Nat} {kept : List Tree} {step : Step} {steps : List Step}
    {node : Tree} (h : Parses n step.pattern r node r₁)
    (hrest : StepsParse n offset (if step.keep then node :: kept else kept) steps r₁ tree r') :
    StepsParse n offset kept (step :: steps) r tree r' := fun c hc =>
  let ⟨c₁, hc₁, hyields⟩ := h c hc
  let ⟨c', hc', hyields'⟩ := hrest c₁ hc₁
  ⟨c', hc', StepsYield.matched hyields hyields'⟩

theorem Parses.sequence {steps : List Step}
    (h : StepsParse (n + 1) r.offset [] steps r tree r') :
    Parses (n + 2) (.sequence steps) r tree r' :=
  .here rfl fun hr =>
    let ⟨e, he, hyields⟩ := h r (.refl hr)
    ⟨e, he, .sequence hyields⟩

theorem StepsMiss.first {offset : Nat} {kept : List Tree} {step : Step} {steps : List Step}
    (h : Misses n step.pattern r) : StepsMiss n offset kept (step :: steps) r := fun c hc =>
  ⟨c, .missed (h c hc)⟩

theorem StepsMiss.later {offset : Nat} {kept : List Tree} {step : Step} {steps : List Step}
    {node : Tree} (h : Parses n step.pattern r node r₁)
    (hrest : StepsMiss n offset (if step.keep then node :: kept else kept) steps r₁) :
    StepsMiss n offset kept (step :: steps) r := fun c hc =>
  let ⟨c₁, hc₁, hyields⟩ := h c hc
  let ⟨c', hyields'⟩ := hrest c₁ hc₁
  ⟨c', .matched hyields hyields'⟩

theorem Misses.sequence {steps : List Step} (h : StepsMiss (n + 1) r.offset [] steps r) :
    Misses (n + 2) (.sequence steps) r :=
  .here fun hr =>
    let ⟨e, hyields⟩ := h r (.refl hr)
    ⟨e, .sequence hyields⟩

/-! ## Choices -/

theorem AlternativesParse.chosen {offset index : Nat} {ps : List Pattern}
    (h : Parses n p r tree r') :
    AlternativesParse n offset index (p :: ps) r (.choice offset index tree) r' := fun c hc =>
  let ⟨c', hc', hyields⟩ := h c hc
  ⟨c', hc', AlternativesYield.chosen hyields⟩

theorem AlternativesParse.missed {offset index : Nat} {ps : List Pattern} (h : Misses n p r)
    (hrest : AlternativesParse n offset (index + 1) ps r tree r') :
    AlternativesParse n offset index (p :: ps) r tree r' := fun c hc =>
  let ⟨c', hc', hyields⟩ := hrest c hc
  ⟨c', hc', AlternativesYield.missed (h c hc) hyields⟩

theorem Parses.choice {ps : List Pattern}
    (h : AlternativesParse (n + 1) r.offset 0 ps r tree r') :
    Parses (n + 2) (.choice ps) r tree r' :=
  .here rfl fun hr =>
    let ⟨e, he, hyields⟩ := h r (.refl hr)
    ⟨e, he, .choice hyields⟩

theorem Misses.choice {ps : List Pattern} (h : ∀ p ∈ ps, Misses (n + 1) p r) :
    Misses (n + 2) (.choice ps) r := by
  refine .here fun hr => ⟨r, .choice ?_⟩
  have hall : ∀ offset index, AlternativesYield reading (n + 1) offset index ps r none r := by
    intro offset index
    induction ps generalizing index with
    | nil => exact .exhausted offset index r
    | cons p ps ih =>
        exact .missed (h p List.mem_cons_self r (.refl hr))
          (ih (fun q hq => h q (List.mem_cons_of_mem p hq)) (index + 1))
  exact hall _ _

/-! ## Repetitions -/

theorem Parses.once (h : Parses (n + 1) p r tree r') :
    Parses (n + 2) p.optional r (.quantifier r.offset [tree]) r' :=
  .here rfl fun hr =>
    let ⟨e, he, hyields⟩ := h r (.refl hr)
    ⟨e, he, .oneRound hyields⟩

theorem Parses.absent (h : Misses (n + 1) p r) :
    Parses (n + 2) p.optional r (.quantifier r.offset []) r :=
  .here rfl fun hr => ⟨r, .refl hr, .noRound (h r (.refl hr))⟩

/-- Rounds that each take something, up to where the pattern fails. -/
inductive RoundsParse (n : Nat) (p : Pattern) : Cursor → List Tree → Cursor → Prop
  | done {r : Cursor} : Misses n p r → RoundsParse n p r [] r
  | round {r r₁ r' : Cursor} {tree : Tree} {trees : List Tree} :
      Parses n p r tree r₁ → r₁ ≠ r → RoundsParse n p r₁ trees r' →
      RoundsParse n p r (tree :: trees) r'

theorem RoundsParse.mono {trees : List Tree} (h : RoundsParse n p r trees r') (hn : n ≤ m) :
    RoundsParse m p r trees r' := by
  induction h with
  | done hmiss => exact .done (hmiss.mono hn)
  | round hparse hne _ ih => exact .round (hparse.mono hn) hne ih

theorem RoundsParse.yield {trees : List Tree} (h : RoundsParse n p r trees r') {c : Cursor}
    (hc : Leads c r) : ∃ c', Leads c' r' ∧ RoundsYield reading n p c trees c' := by
  induction h generalizing c with
  | done hmiss => exact ⟨c, hc, .missed (hmiss c hc)⟩
  | round hparse hne _ ih =>
      obtain ⟨c₁, hc₁, hyields⟩ := hparse c hc
      obtain ⟨c', hc', hrest⟩ := ih hc₁
      have hmoved : c₁.offset ≠ c.offset := by
        intro ho
        rw [hyields.reaches.eq_of_offset ho] at hc₁
        exact hne (hc₁.unique hc)
      exact ⟨c', hc', .matched hyields hmoved hrest⟩

theorem Parses.rounds {least : Nat} {trees : List Tree} (h : RoundsParse (n + 1) p r trees r')
    (hleast : least ≤ trees.length) :
    Parses (n + 2) (.quantifier p least none) r (.quantifier r.offset trees) r' :=
  .here rfl fun hr =>
    let ⟨e, he, hyields⟩ := h.yield (.refl hr)
    ⟨e, he, .quantifier hyields hleast⟩

end

end OperatorPeg.Grammar
