import OperatorPeg.Pattern.Rules

/-!
# What patterns refer to

A pattern leads to others: through the rules that it refers to, and through the rule for
trivia. A reference to a rule that is not there is missed. If every reference of the rules is
to one of them, none is missed by a pattern whose own references are.
-/

namespace OperatorPeg

namespace Rules

/-- There is a rule for every reference of the pattern. -/
def Resolves (rules : Rules) (p : Pattern) : Prop :=
  ∀ key ∈ p.references, rules.contains key = true

/-- There is a rule for every reference of the rules. -/
def Closed (rules : Rules) : Prop := ∀ entry ∈ rules.entries, rules.Resolves entry.2

/-- Matching the first pattern may come to the second one, other than as a part: it is
the pattern itself, the rule for trivia, or a rule that one of these refers to. -/
inductive Uses (rules : Rules) (p : Pattern) : Pattern → Prop
  | itself : Uses rules p p
  | trivia {t : Pattern} : rules.trivia? = some t → Uses rules p t
  | rule {q r : Pattern} {key : String} :
      Uses rules p q → key ∈ q.references → rules.get? key = some r → Uses rules p r

/-- Matching the pattern may come to a reference to this rule, which is not there. -/
def Misses (rules : Rules) (p : Pattern) (key : String) : Prop :=
  ∃ q, rules.Uses p q ∧ key ∈ q.references ∧ rules.contains key = false

variable {rules : Rules} {p p' q : Pattern} {key : String}

theorem mem_entries_of_get? (h : rules.get? key = some p) : (key, p) ∈ rules.entries := by
  obtain ⟨before, after, hsplit, -⟩ := List.lookup_eq_some_iff.mp h
  exact hsplit ▸ by simp

theorem contains_iff_mem_names : rules.contains key = true ↔ key ∈ rules.names := by
  unfold contains get? names
  rw [Option.isSome_iff_ne_none, ne_eq, List.lookup_eq_none_iff, List.mem_map]
  simp [@eq_comm _ key]

namespace Uses

theorem trans (hp : rules.Uses p p') (h : rules.Uses p' q) : rules.Uses p q := by
  induction h with
  | itself => exact hp
  | trivia ht => exact .trivia ht
  | rule _ hkey hget ih => exact .rule ih hkey hget

/-- A pattern that refers to no more rules uses nothing more but itself. -/
theorem of_references (hsub : p'.references ⊆ p.references) (h : rules.Uses p' q) :
    q = p' ∨ rules.Uses p q := by
  induction h with
  | itself => exact .inl rfl
  | trivia ht => exact .inr (.trivia ht)
  | rule _ hkey hget ih =>
      rcases ih with rfl | ih
      · exact .inr (.rule .itself (hsub hkey) hget)
      · exact .inr (.rule ih hkey hget)

end Uses

namespace Misses

theorem of_uses (h : rules.Misses p' key) (hp : rules.Uses p p') : rules.Misses p key := by
  obtain ⟨q, hq, hkey, hmissing⟩ := h
  exact ⟨q, hp.trans hq, hkey, hmissing⟩

theorem of_references (h : rules.Misses p' key) (hsub : p'.references ⊆ p.references) :
    rules.Misses p key := by
  obtain ⟨q, hq, hkey, hmissing⟩ := h
  rcases hq.of_references hsub with rfl | hq
  · exact ⟨p, .itself, hsub hkey, hmissing⟩
  · exact ⟨q, hq, hkey, hmissing⟩

end Misses

theorem Closed.resolves_of_uses (h : rules.Closed) (hp : rules.Resolves p)
    (hq : rules.Uses p q) : rules.Resolves q := by
  cases hq with
  | itself => exact hp
  | trivia ht => exact h _ (mem_entries_of_get? ht)
  | rule _ _ hget => exact h _ (mem_entries_of_get? hget)

/-- **Closed rules miss nothing.** -/
theorem Closed.not_misses (h : rules.Closed) (hp : rules.Resolves p) : ¬ rules.Misses p key := by
  rintro ⟨q, hq, hkey, hmissing⟩
  rw [h.resolves_of_uses hp hq key hkey] at hmissing
  cases hmissing

end Rules

end OperatorPeg
