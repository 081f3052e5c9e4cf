import Mathlib.Data.Int.Order.Basic
import Mathlib.Data.List.Induction
import Mathlib.Data.Prod.Lex
import OperatorPeg.Engine.Event

/-!
# The best failure

Of the failures of a parse only the best so far is held, with what is expected
there. Against the list of all failures: it is one whose offset and priority are
the greatest, and what is expected is what the failures with that offset and
priority name, each once, in the order in which it first came up.
-/

namespace OperatorPeg.Failure

/-- What decides which failure is reported: the offset, then the priority. -/
def key (f : Failure) : ℕ ×ₗ ℤ := toLex (f.offset, f.priority.rank)

/-- Operands are missed with the priority of a term, and nothing else is. -/
def IsProper (f : Failure) : Prop := f.priority = .term ↔ f.missing = .term

/-- What the failures with the key `k` name, each once, in the order in which it
first came up. -/
def expectedAt (k : ℕ ×ₗ ℤ) (failures : List Failure) : List String :=
  ((failures.filter (·.key = k)).flatMap expectations).eraseDups

theorem rank_injective : Function.Injective Priority.rank := by
  intro p q h
  cases p <;> cases q <;> first | rfl | cases h

theorem improvesOn_iff {f g : Failure} : f.improvesOn g = true ↔ g.key < f.key := by
  simp only [improvesOn, key, Prod.Lex.toLex_lt_toLex, Bool.or_eq_true, Bool.and_eq_true,
    decide_eq_true_eq, beq_iff_eq, @eq_comm _ f.offset]

theorem tiesWith_iff {f g : Failure} : f.tiesWith g = true ↔ f.key = g.key := by
  simp only [tiesWith, key, Bool.and_eq_true, beq_iff_eq, toLex_inj, Prod.mk.injEq,
    rank_injective.eq_iff]

/-- Failures that tie are of one kind. -/
theorem IsProper.missing_iff {f g : Failure} (hf : f.IsProper) (hg : g.IsProper)
    (h : f.key = g.key) : f.missing = .term ↔ g.missing = .term := by
  have hpriority : f.priority = g.priority := by
    simp only [key, toLex_inj, Prod.mk.injEq] at h
    exact rank_injective h.2
  rw [IsProper] at hf hg
  rw [← hf, ← hg, hpriority]

/-! ## What is expected -/

theorem expectedAt_concat_of_ne {k : ℕ ×ₗ ℤ} {failures : List Failure} {f : Failure}
    (h : f.key ≠ k) : expectedAt k (failures ++ [f]) = expectedAt k failures := by
  simp [expectedAt, h]

private theorem eraseDups_concat (names : List String) (d : String) :
    (names ++ [d]).eraseDups =
      if names.eraseDups.contains d then names.eraseDups else names.eraseDups ++ [d] := by
  rw [List.eraseDups_append, List.removeAll]
  by_cases hd : d ∈ names <;> simp [hd, List.eraseDups_cons]

/-- A further failure adds its terminal unless it is there. -/
theorem expectedAt_concat_of_token (failures : List Failure) {f : Failure} {d : String}
    (h : f.missing = .token d) :
    expectedAt f.key (failures ++ [f]) =
      if (expectedAt f.key failures).contains d then expectedAt f.key failures
      else expectedAt f.key failures ++ [d] := by
  have hnew : f.expectations = [d] := by rw [expectations, h]
  simp only [expectedAt, List.filter_append, List.flatMap_append, List.filter_cons, decide_true,
    if_true, List.filter_nil, List.flatMap_cons, List.flatMap_nil, List.append_nil, hnew]
  exact eraseDups_concat _ d

theorem expectedAt_concat_of_term (failures : List Failure) {f : Failure}
    (h : f.missing = .term) :
    expectedAt f.key (failures ++ [f]) = expectedAt f.key failures := by
  have hnew : f.expectations = [] := by rw [expectations, h]
  simp [expectedAt, hnew]

/-- Nothing before was as far: what is expected is what the failure names. -/
theorem expectedAt_concat_of_lt {failures : List Failure} {f : Failure}
    (h : ∀ g ∈ failures, g.key < f.key) :
    expectedAt f.key (failures ++ [f]) = f.expectations := by
  have hnone : failures.filter (·.key = f.key) = [] :=
    List.filter_eq_nil_iff.mpr fun g hg => by simpa using (h g hg).ne
  rw [expectedAt, List.filter_append, hnone]
  simp only [List.filter_cons, decide_true, if_true, List.filter_nil, List.nil_append,
    List.flatMap_cons, List.flatMap_nil, List.append_nil]
  rw [expectations]
  cases f.missing <;> rfl

/-! ## The best of a list -/

/-- `b` is what is to be held after these failures. -/
structure Best.IsOf (b : Best) (failures : List Failure) : Prop where
  mem : b.failure ∈ failures
  greatest : ∀ f ∈ failures, f.key ≤ b.failure.key
  expected : b.expected = expectedAt b.failure.key failures

/-- A failure that improves on all others is held alone. -/
theorem Best.IsOf.first {failures : List Failure} {f : Failure}
    (h : ∀ g ∈ failures, g.key < f.key) :
    (⟨f, f.expectations⟩ : Best).IsOf (failures ++ [f]) where
  mem := by simp
  greatest := by
    intro g hg
    rcases List.mem_append.mp hg with hg | hg
    · exact (h g hg).le
    · rw [List.mem_singleton.mp hg]
  expected := (expectedAt_concat_of_lt h).symm

/-- A failure that does not improve on the best leaves it. -/
theorem Best.IsOf.concat {b : Best} {failures : List Failure} {f : Failure} {expected}
    (h : b.IsOf failures) (hf : f.key ≤ b.failure.key)
    (he : expected = expectedAt b.failure.key (failures ++ [f])) :
    ({ b with expected } : Best).IsOf (failures ++ [f]) where
  mem := List.mem_append_left _ h.mem
  greatest := by
    intro g hg
    rcases List.mem_append.mp hg with hg | hg
    · exact h.greatest g hg
    · exact List.mem_singleton.mp hg ▸ hf
  expected := he

/-- One more failure is taken into account. -/
theorem Best.IsOf.record {b : Best} {failures : List Failure} {f : Failure}
    (h : b.IsOf failures) (hproper : ∀ g ∈ failures, g.IsProper) (hf : f.IsProper) :
    ∃ b', Best.record (some b) f = some b' ∧ b'.IsOf (failures ++ [f]) := by
  simp only [Best.record]
  by_cases himproves : f.improvesOn b.failure = true
  · have hlt := improvesOn_iff.mp himproves
    rw [if_pos himproves]
    exact ⟨_, rfl, .first fun g hg => (h.greatest g hg).trans_lt hlt⟩
  · have hle : f.key ≤ b.failure.key := not_lt.mp fun hlt => himproves (improvesOn_iff.mpr hlt)
    rw [if_neg himproves]
    by_cases hties : f.tiesWith b.failure = true
    · have hkey := tiesWith_iff.mp hties
      have hkind := hf.missing_iff (hproper _ h.mem) hkey
      rw [if_pos hties]
      cases hmissing : f.missing with
      | term =>
          have hexpected := expectedAt_concat_of_term failures hmissing
          rw [hkey, ← h.expected] at hexpected
          exact ⟨b, rfl, h.concat hle hexpected.symm⟩
      | token d =>
          obtain ⟨d', hd'⟩ : ∃ d', b.failure.missing = .token d' := by
            cases hb : b.failure.missing with
            | token d' => exact ⟨d', rfl⟩
            | term =>
                have hterm := hkind.mpr hb
                rw [hmissing] at hterm
                cases hterm
          have hexpected := expectedAt_concat_of_token failures hmissing
          rw [hkey, ← h.expected] at hexpected
          rw [hd']
          dsimp only
          split
          · next hcontains =>
              rw [if_pos hcontains] at hexpected
              exact ⟨b, rfl, h.concat hle hexpected.symm⟩
          · next hcontains =>
              rw [if_neg hcontains] at hexpected
              exact ⟨_, rfl, h.concat hle hexpected.symm⟩
    · have hne : f.key ≠ b.failure.key := fun hkey => hties (tiesWith_iff.mpr hkey)
      rw [if_neg hties]
      exact ⟨b, rfl, h.concat hle (h.expected.trans (expectedAt_concat_of_ne hne).symm)⟩

/-- **The best failure is the best of all**: none is held of none, and otherwise what
the list says is to be held. -/
theorem best_isOf {failures : List Failure} (hproper : ∀ f ∈ failures, f.IsProper) :
    (failures = [] ∧ best failures = none) ∨
      ∃ b, best failures = some b ∧ b.IsOf failures := by
  induction failures using List.reverseRecOn with
  | nil => exact .inl ⟨rfl, rfl⟩
  | append_singleton failures f ih =>
      have hconcat : best (failures ++ [f]) = Best.record (best failures) f := by
        simp only [best, List.foldl_append, List.foldl_cons, List.foldl_nil]
      right
      rw [hconcat]
      rcases ih fun g hg => hproper g (List.mem_append_left _ hg) with ⟨rfl, hnone⟩ | ⟨b, hb, hof⟩
      · rw [hnone]
        exact ⟨_, rfl, .first (by simp)⟩
      · rw [hb]
        exact hof.record (fun g hg => hproper g (List.mem_append_left _ hg))
          (hproper f (by simp))

end OperatorPeg.Failure
