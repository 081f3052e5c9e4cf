import OperatorPeg.Engine.Parse
import OperatorPeg.Proofs.Onward

/-!
# Recognition

What patterns without operator tables recognize, as a big-step relation that knows
nothing of trees, events, fuel or limits: `Recognizes` moves past trivia and then
goes by what the pattern says. It is the semantics that a grammar's author has in
mind; every run of the matcher that ends by itself is a derivation of it.
-/

namespace OperatorPeg

mutual
/-- At a cursor a pattern ends at another one, or it fails (`none`). The Boolean says
whether this is inside trivia. -/
inductive Recognizes (rules : Rules) (beyond : List Char) :
    Bool → Pattern → Cursor → Option Cursor → Prop
  | afterTrivia {inTrivia : Bool} {p : Pattern} {c ready : Cursor} {r : Option Cursor} :
      SkipsTo rules beyond inTrivia c ready → Says rules beyond inTrivia p ready r →
      Recognizes rules beyond inTrivia p c r
  /-- A lookahead consumes nothing, not even the trivia before it. -/
  | lookahead {inTrivia wanted : Bool} {inner : Pattern} {c ready : Cursor}
      {seen : Option Cursor} :
      SkipsTo rules beyond inTrivia c ready →
      Recognizes rules beyond inTrivia inner ready seen →
      Recognizes rules beyond inTrivia (.lookahead inner wanted) c
        (if seen.isSome = wanted then some c else none)

/-- Moving past trivia. Inside trivia there is none. -/
inductive SkipsTo (rules : Rules) (beyond : List Char) : Bool → Cursor → Cursor → Prop
  | inside (c : Cursor) : SkipsTo rules beyond true c c
  | absent (c : Cursor) : rules.trivia? = none → SkipsTo rules beyond false c c
  | skipped {trivia : Pattern} {c : Cursor} {r : Option Cursor} :
      rules.trivia? = some trivia → Recognizes rules beyond true trivia c r →
      SkipsTo rules beyond false c (r.getD c)

/-- What a pattern says where significant input begins. -/
inductive Says (rules : Rules) (beyond : List Char) :
    Bool → Pattern → Cursor → Option Cursor → Prop
  | literal {inTrivia : Bool} {text : String} {c c' : Cursor} :
      c.Passes text.toList c' →
      Says rules beyond inTrivia (.terminal (.literal text)) c (some c')
  | otherText {inTrivia : Bool} {text : String} {c : Cursor} :
      ¬ text.toList <+: c.ahead →
      Says rules beyond inTrivia (.terminal (.literal text)) c none
  | regex {inTrivia : Bool} (source : String) (meaning : Regex) (c : Cursor) :
      Says rules beyond inTrivia (.terminal (.regex source meaning)) c
        (meaning.matchEnd? beyond c)
  | sequenceEnd {inTrivia : Bool} (c : Cursor) :
      Says rules beyond inTrivia (.sequence []) c (some c)
  | sequenceStep {inTrivia : Bool} {step : Step} {steps : List Step} {c c' : Cursor}
      {r : Option Cursor} :
      Recognizes rules beyond inTrivia step.pattern c (some c') →
      Says rules beyond inTrivia (.sequence steps) c' r →
      Says rules beyond inTrivia (.sequence (step :: steps)) c r
  | sequenceFails {inTrivia : Bool} {step : Step} {steps : List Step} {c : Cursor} :
      Recognizes rules beyond inTrivia step.pattern c none →
      Says rules beyond inTrivia (.sequence (step :: steps)) c none
  | choiceEnd {inTrivia : Bool} (c : Cursor) : Says rules beyond inTrivia (.choice []) c none
  | choiceFirst {inTrivia : Bool} {p : Pattern} {ps : List Pattern} {c c' : Cursor} :
      Recognizes rules beyond inTrivia p c (some c') →
      Says rules beyond inTrivia (.choice (p :: ps)) c (some c')
  | choiceNext {inTrivia : Bool} {p : Pattern} {ps : List Pattern} {c : Cursor}
      {r : Option Cursor} :
      Recognizes rules beyond inTrivia p c none →
      Says rules beyond inTrivia (.choice ps) c r →
      Says rules beyond inTrivia (.choice (p :: ps)) c r
  /-- The bounds of a repetition are those of the rounds still to come. -/
  | roundsFull {inTrivia : Bool} {inner : Pattern} {least : Nat} (c : Cursor) :
      Says rules beyond inTrivia (.quantifier inner least (some 0)) c
        (if least = 0 then some c else none)
  | roundsEnd {inTrivia : Bool} {inner : Pattern} {least : Nat} {most : Option Nat}
      {c : Cursor} :
      most ≠ some 0 → Recognizes rules beyond inTrivia inner c none →
      Says rules beyond inTrivia (.quantifier inner least most) c
        (if least = 0 then some c else none)
  | round {inTrivia : Bool} {inner : Pattern} {least : Nat} {most : Option Nat}
      {c c' : Cursor} {r : Option Cursor} :
      most ≠ some 0 → Recognizes rules beyond inTrivia inner c (some c') →
      Says rules beyond inTrivia (.quantifier inner (least - 1) (most.map (· - 1))) c' r →
      Says rules beyond inTrivia (.quantifier inner least most) c r
  | lookup {inTrivia : Bool} {key : String} {p : Pattern} {c : Cursor} {r : Option Cursor} :
      rules.get? key = some p → Recognizes rules beyond inTrivia p c r →
      Says rules beyond inTrivia (.lookup key) c r
  | label {inTrivia : Bool} {name : String} {inner : Pattern} {c : Cursor}
      {r : Option Cursor} :
      Recognizes rules beyond inTrivia inner c r →
      Says rules beyond inTrivia (.label name inner) c r
end

/-! ## There is one answer -/

section Determinism

variable {rules : Rules} {beyond : List Char}

mutual
/-- A pattern has one answer at a cursor. -/
theorem Recognizes.unique {inTrivia : Bool} {p : Pattern} {c : Cursor} {r r' : Option Cursor} :
    Recognizes rules beyond inTrivia p c r → Recognizes rules beyond inTrivia p c r' → r = r'
  | .afterTrivia hskip hsays, .afterTrivia hskip' hsays' => by
      cases hskip.unique hskip'
      exact hsays.unique hsays'
  | .lookahead hskip hinner, .lookahead hskip' hinner' => by
      cases hskip.unique hskip'
      rw [hinner.unique hinner']
  | .afterTrivia _ hsays, .lookahead _ _ => nomatch hsays
  | .lookahead _ _, .afterTrivia _ hsays => nomatch hsays

theorem SkipsTo.unique {inTrivia : Bool} {c d d' : Cursor} :
    SkipsTo rules beyond inTrivia c d → SkipsTo rules beyond inTrivia c d' → d = d'
  | .inside _, .inside _ => rfl
  | .absent _ _, .absent _ _ => rfl
  | .skipped ht h, .skipped ht' h' => by
      cases ht.symm.trans ht'
      rw [h.unique h']
  | .absent _ ht, .skipped ht' _ => nomatch ht.symm.trans ht'
  | .skipped ht _, .absent _ ht' => nomatch ht.symm.trans ht'

theorem Says.unique {inTrivia : Bool} {p : Pattern} {c : Cursor} {r r' : Option Cursor} :
    Says rules beyond inTrivia p c r → Says rules beyond inTrivia p c r' → r = r'
  | .literal h, .literal h' => by rw [h.unique h']
  | .literal h, .otherText hn => absurd ⟨_, h.ahead.symm⟩ hn
  | .otherText hn, .literal h => absurd ⟨_, h.ahead.symm⟩ hn
  | .otherText _, .otherText _ => rfl
  | .regex _ _ _, .regex _ _ _ => rfl
  | .sequenceEnd _, .sequenceEnd _ => rfl
  | .sequenceStep h hrest, .sequenceStep h' hrest' => by
      cases h.unique h'
      exact hrest.unique hrest'
  | .sequenceStep h _, .sequenceFails h' => nomatch h.unique h'
  | .sequenceFails h, .sequenceStep h' _ => nomatch h.unique h'
  | .sequenceFails _, .sequenceFails _ => rfl
  | .choiceEnd _, .choiceEnd _ => rfl
  | .choiceFirst h, .choiceFirst h' => h.unique h'
  | .choiceFirst h, .choiceNext h' _ => nomatch h.unique h'
  | .choiceNext h _, .choiceFirst h' => nomatch h.unique h'
  | .choiceNext _ hrest, .choiceNext _ hrest' => hrest.unique hrest'
  | .roundsFull _, .roundsFull _ => rfl
  | .roundsFull _, .roundsEnd hn _ => absurd rfl hn
  | .roundsFull _, .round hn _ _ => absurd rfl hn
  | .roundsEnd hn _, .roundsFull _ => absurd rfl hn
  | .roundsEnd _ _, .roundsEnd _ _ => rfl
  | .roundsEnd _ h, .round _ h' _ => nomatch h.unique h'
  | .round hn _ _, .roundsFull _ => absurd rfl hn
  | .round _ h _, .roundsEnd _ h' => nomatch h.unique h'
  | .round _ h hrest, .round _ h' hrest' => by
      cases h.unique h'
      exact hrest.unique hrest'
  | .lookup hg h, .lookup hg' h' => by
      cases hg.symm.trans hg'
      exact h.unique h'
  | .label h, .label h' => h.unique h'
end

end Determinism

end OperatorPeg
