import Mathlib.Data.List.Forall2
import OperatorPeg.Grammar.Compile

/-!
# What passes the checks

A grammar is refused for the errors among its findings, wherever they stand in the
list. Names that are told apart give none.
-/

namespace OperatorPeg

/-! ## Errors among findings -/

namespace Diagnostics.Finding

theorem hasErrors_eq_any (fs : List Finding) :
    hasErrors fs = fs.any fun f => f.severity == .error := by
  rw [hasErrors, errorCount, countOf, Bool.eq_iff_iff]
  simp [List.countP_pos_iff]

theorem hasErrors_append (fs gs : List Finding) :
    hasErrors (fs ++ gs) = (hasErrors fs || hasErrors gs) := by
  simp only [hasErrors_eq_any, List.any_append]

theorem hasErrors_cons (f : Finding) (fs : List Finding) :
    hasErrors (f :: fs) = ((f.severity == .error) || hasErrors fs) := by
  simp only [hasErrors_eq_any, List.any_cons]

theorem hasErrors_insertSorted (f : Finding) (fs : List Finding) :
    hasErrors (insertSorted f fs) = hasErrors (f :: fs) := by
  induction fs with
  | nil => rfl
  | cons g gs ih =>
      unfold insertSorted
      split
      · rfl
      · rw [hasErrors_cons, ih]
        simp only [hasErrors_cons]
        rw [Bool.or_left_comm]

/-- Sorting neither adds nor loses errors. -/
theorem hasErrors_sort (fs : List Finding) : hasErrors (sort fs) = hasErrors fs := by
  induction fs with
  | nil => rfl
  | cons f fs ih => rw [sort, hasErrors_insertSorted, hasErrors_cons, hasErrors_cons, ih]

end Diagnostics.Finding

/-! ## Names -/

namespace Grammar

open Diagnostics

/-- Rules have names of their own if no error says otherwise. -/
theorem hasErrors_checkNames {earlier : List Token} {rules : List RuleDef} :
    Finding.hasErrors (checkNames earlier rules) = false ↔
      (rules.map (·.name.text)).Nodup ∧
        ∀ t ∈ earlier, ∀ rule ∈ rules, t.text ≠ rule.name.text := by
  induction rules generalizing earlier with
  | nil => simp [checkNames, Finding.hasErrors_eq_any]
  | cons rule rules ih =>
      unfold checkNames
      cases hfind : earlier.find? (·.text == rule.name.text) with
      | some first =>
          have hmem := List.mem_of_find?_eq_some hfind
          have htext := List.find?_some hfind
          simp only [beq_iff_eq] at htext
          constructor
          · intro h
            rw [Finding.hasErrors_cons] at h
            cases h
          · rintro ⟨-, h⟩
            exact absurd htext (h first hmem rule List.mem_cons_self)
      | none =>
          rw [ih]
          simp only [List.find?_eq_none, beq_iff_eq] at hfind
          simp only [List.map_cons, List.nodup_cons, List.mem_map, not_exists, not_and,
            List.mem_append, List.mem_cons]
          grind

/-! ## Results that may be errors -/

theorem bind_eq_ok {α β ε : Type} {x : Except ε α} {f : α → Except ε β} {b : β} :
    (x >>= f) = .ok b ↔ ∃ a, x = .ok a ∧ f a = .ok b := by
  cases x with
  | error => exact ⟨nofun, nofun⟩
  | ok a => exact ⟨fun h => ⟨a, rfl, h⟩, fun ⟨_, ha, h⟩ => by cases ha; exact h⟩

theorem mapError_eq_ok {α ε ε' : Type} {f : ε → ε'} {x : Except ε α} {a : α} :
    x.mapError f = .ok a ↔ x = .ok a := by
  cases x with
  | error => exact ⟨nofun, nofun⟩
  | ok a' => exact ⟨fun h => by cases h; rfl, fun h => by cases h; rfl⟩

theorem forall₂_of_mapM {α β ε : Type} {f : α → Except ε β} {xs : List α} {ys : List β}
    (h : xs.mapM f = .ok ys) : List.Forall₂ (fun x y => f x = .ok y) xs ys := by
  induction xs generalizing ys with
  | nil =>
      cases h
      exact .nil
  | cons x xs ih =>
      rw [List.mapM_cons, bind_eq_ok] at h
      obtain ⟨y, hy, h⟩ := h
      obtain ⟨rest, hrest, h⟩ := bind_eq_ok.mp h
      cases h
      exact .cons hy (ih hrest)

/-! ## Checks that find no errors -/

/-- A check that goes through and finds no errors. -/
def Passes (check : Except Unquotable (List Finding)) : Prop :=
  ∃ findings, check = .ok findings ∧ Finding.hasErrors findings = false

theorem Passes.of_none {check : Except Unquotable (List Finding)} (h : check = .ok []) :
    Passes check := ⟨[], h, rfl⟩

theorem passes_ok {findings : List Finding} :
    Passes (.ok findings) ↔ Finding.hasErrors findings = false := by
  constructor
  · rintro ⟨_, h, herrors⟩
    cases h
    exact herrors
  · exact fun herrors => ⟨findings, rfl, herrors⟩

theorem passes_pure {findings : List Finding} :
    Passes (pure findings) ↔ Finding.hasErrors findings = false := passes_ok

theorem passes_bind {α : Type} {x : Except Unquotable α}
    {f : α → Except Unquotable (List Finding)} :
    Passes (x >>= f) ↔ ∃ a, x = .ok a ∧ Passes (f a) := by
  constructor
  · rintro ⟨findings, h, herrors⟩
    obtain ⟨a, ha, h⟩ := bind_eq_ok.mp h
    exact ⟨a, ha, findings, h, herrors⟩
  · rintro ⟨a, ha, findings, h, herrors⟩
    exact ⟨findings, bind_eq_ok.mpr ⟨a, ha, h⟩, herrors⟩

/-- Two checks, one after the other. -/
theorem passes_append {first second : Except Unquotable (List Finding)} :
    Passes (do
      let here ← first
      let there ← second
      pure (here ++ there)) ↔ Passes first ∧ Passes second := by
  simp only [passes_bind, passes_pure, Finding.hasErrors_append, Bool.or_eq_false_iff]
  constructor
  · rintro ⟨here, hfirst, there, hsecond, hhere, hthere⟩
    exact ⟨⟨here, hfirst, hhere⟩, there, hsecond, hthere⟩
  · rintro ⟨⟨here, hfirst, hhere⟩, there, hsecond, hthere⟩
    exact ⟨here, hfirst, there, hsecond, hhere, hthere⟩

/-! ## Operators -/

/-- The operator has a name, precedences that fit and a pattern without errors. -/
structure OperatorDef.Passes (defined : List String) (op : OperatorDef) (name : String) :
    Prop where
  name : op.name.unescaped = .ok name
  left : Finding.hasErrors (checkPrecedence op.left) = false
  right : Finding.hasErrors (checkPrecedence op.right) = false
  pattern : Grammar.Passes (checkChoice defined op.pattern)

theorem lookup_eq_none_iff_not_mem {name : String} {earlier : List (String × Token)} :
    earlier.lookup name = none ↔ name ∉ earlier.map (·.1) := by
  rw [List.lookup_eq_none_iff]
  constructor
  · intro h hmem
    obtain ⟨entry, hentry, rfl⟩ := List.mem_map.mp hmem
    simpa using h entry hentry
  · intro h entry hentry
    rw [bne_iff_ne]
    rintro rfl
    exact h (List.mem_map_of_mem hentry)

/-- What the checks say of one operator, between those before it and those behind it. -/
theorem passes_operator {doubled left right : List Finding}
    {inside rest : Except Unquotable (List Finding)} :
    Passes (do
      let inside ← inside
      let rest ← rest
      pure (doubled ++ left ++ right ++ inside ++ rest)) ↔
        Finding.hasErrors doubled = false ∧ Finding.hasErrors left = false ∧
          Finding.hasErrors right = false ∧ Passes inside ∧ Passes rest := by
  simp only [passes_bind, passes_pure, Finding.hasErrors_append, Bool.or_eq_false_iff, and_assoc]
  constructor
  · rintro ⟨fs, hinside, gs, hrest, hdoubled, hleft, hright, hfs, hgs⟩
    exact ⟨hdoubled, hleft, hright, ⟨fs, hinside, hfs⟩, gs, hrest, hgs⟩
  · rintro ⟨hdoubled, hleft, hright, ⟨fs, hinside, hfs⟩, gs, hrest, hgs⟩
    exact ⟨fs, hinside, gs, hrest, hdoubled, hleft, hright, hfs, hgs⟩

theorem passes_checkOperators_cons {defined : List String} {earlier : List (String × Token)}
    {op : OperatorDef} {ops : List OperatorDef} :
    Passes (checkOperators defined earlier (op :: ops)) ↔
      ∃ name, op.Passes defined name ∧ name ∉ earlier.map (·.1) ∧
        Passes (checkOperators defined (earlier ++ [(name, op.name)]) ops) := by
  rw [checkOperators, passes_bind]
  constructor
  · rintro ⟨name, hname, h⟩
    cases hlookup : earlier.lookup name with
    | some first =>
        simp only [hlookup] at h
        cases (passes_operator.mp h).1
    | none =>
        simp only [hlookup] at h
        obtain ⟨-, hleft, hright, hpattern, hrest⟩ := passes_operator.mp h
        exact ⟨name, ⟨hname, hleft, hright, hpattern⟩, lookup_eq_none_iff_not_mem.mp hlookup, hrest⟩
  · rintro ⟨name, h, hnew, hrest⟩
    refine ⟨name, h.name, ?_⟩
    simp only [lookup_eq_none_iff_not_mem.mpr hnew]
    exact passes_operator.mpr ⟨rfl, h.left, h.right, h.pattern, hrest⟩

/-- Operators pass if each one does and they have names of their own. -/
theorem passes_checkOperators {defined : List String} {earlier : List (String × Token)}
    {ops : List OperatorDef} :
    Passes (checkOperators defined earlier ops) ↔
      ∃ names, List.Forall₂ (OperatorDef.Passes defined) ops names ∧ names.Nodup ∧
        ∀ name ∈ names, name ∉ earlier.map (·.1) := by
  induction ops generalizing earlier with
  | nil =>
      rw [checkOperators, passes_ok]
      simp [Finding.hasErrors_eq_any]
  | cons op ops ih =>
      rw [passes_checkOperators_cons]
      constructor
      · rintro ⟨name, hop, hnew, hrest⟩
        obtain ⟨names, hops, hnodup, hothers⟩ := ih.mp hrest
        refine ⟨name :: names, .cons hop hops, List.nodup_cons.mpr ⟨?_, hnodup⟩, ?_⟩
        · intro hmem
          exact hothers name hmem (by simp)
        · intro other hmem
          rcases List.mem_cons.mp hmem with rfl | hmem
          · exact hnew
          · intro hearlier
            apply hothers other hmem
            rw [List.map_append]
            exact List.mem_append_left _ hearlier
      · rintro ⟨_, hops, hnodup, hothers⟩
        cases hops with
        | @cons _ name _ names hop hops =>
            obtain ⟨hfresh, hnodup⟩ := List.nodup_cons.mp hnodup
            refine ⟨name, hop, hothers name List.mem_cons_self, ih.mpr ⟨names, hops, hnodup, ?_⟩⟩
            intro other hmem hearlier
            rw [List.map_append, List.mem_append] at hearlier
            rcases hearlier with hearlier | hlast
            · exact hothers other (List.mem_cons_of_mem _ hmem) hearlier
            · cases List.mem_singleton.mp hlast
              exact hfresh hmem

end Grammar

/-! ## Registries of rules with names of their own -/

namespace Rules

theorem insertInto_of_not_mem {name : String} {p : Pattern} {entries : List (String × Pattern)}
    (h : name ∉ entries.map (·.1)) : insertInto name p entries = entries ++ [(name, p)] := by
  induction entries with
  | nil => rfl
  | cons entry entries ih =>
      simp only [List.map_cons, List.mem_cons, not_or] at h
      rw [insertInto, if_neg (Ne.symm h.1), ih h.2, List.cons_append]

theorem ofList_of_nodup {entries : List (String × Pattern)} (h : (entries.map (·.1)).Nodup) :
    ofList entries = ⟨entries⟩ := by
  have hfoldl : ∀ (rest before : List (String × Pattern)), ((before ++ rest).map (·.1)).Nodup →
      rest.foldl (fun rules entry => rules.insert entry.1 entry.2) (⟨before⟩ : Rules)
        = ⟨before ++ rest⟩ := by
    intro rest
    induction rest with
    | nil => intro before _; rw [List.append_nil]; rfl
    | cons entry rest ih =>
        intro before hnodup
        have hnew : entry.1 ∉ before.map (·.1) := by
          rw [List.map_append, List.nodup_append] at hnodup
          intro hmem
          exact hnodup.2.2 _ hmem _ (by simp) rfl
        have happend : before ++ entry :: rest = (before ++ [entry]) ++ rest := by simp
        rw [List.foldl_cons, insert, insertInto_of_not_mem hnew, happend]
        rw [happend] at hnodup
        exact ih _ hnodup
  exact hfoldl entries [] h

end Rules

/-! ## Grammars -/

namespace Grammar

open Diagnostics

theorem passes_checkTable {defined : List String} {span : Span} {ops : List OperatorDef} :
    Passes (checkTable defined ⟨span, ops⟩) ↔
      ops ≠ [] ∧ Passes (checkOperators defined [] ops) := by
  unfold checkTable
  cases ops with
  | nil => simp [passes_ok, Finding.hasErrors_eq_any, Finding.make, Finding.severity, Kind.severity]
  | cons op ops =>
      simp only [List.isEmpty_cons, Bool.false_eq_true, if_false]
      rw [passes_bind]
      have hwarned : ∀ findings : List Finding,
          Passes (if (op :: ops).any fun op => op.left.isNone && op.right.isNone then pure findings
            else pure (findings ++ [.make .noNullaryOperator span none []])) ↔
            Finding.hasErrors findings = false := by
        intro findings
        split
        · exact passes_pure
        · -- a table without operands is warned of only
          rw [passes_pure, Finding.hasErrors_append, Bool.or_eq_false_iff]
          exact and_iff_left rfl
      simp only [hwarned, ne_eq, reduceCtorEq, not_false_eq_true, true_and]
      rfl

theorem passes_checkBodies {defined : List String} {rules : List RuleDef} :
    Passes (checkBodies defined rules) ↔
      ∀ rule ∈ rules, Passes (checkBody defined rule.body) := by
  induction rules with
  | nil =>
      rw [checkBodies, passes_ok]
      simp [Finding.hasErrors_eq_any]
  | cons rule rules ih =>
      rw [checkBodies, passes_append, ih, List.forall_mem_cons]

theorem passes_validate {g : Ast} :
    Passes (validate g) ↔ (g.rules.map (·.name.text)).Nodup ∧
      ∀ rule ∈ g.rules, Passes (checkBody (g.rules.map (·.name.text)) rule.body) := by
  have hnames : Finding.hasErrors (checkNames [] g.rules) = false ↔
      (g.rules.map (·.name.text)).Nodup := by
    rw [hasErrors_checkNames]
    simp
  rw [← passes_checkBodies, ← hnames, validate]
  simp only [passes_bind, passes_pure, Finding.hasErrors_sort, Finding.hasErrors_append,
    Bool.or_eq_false_iff]
  constructor
  · rintro ⟨inside, hinside, hchecked, herrors⟩
    exact ⟨hchecked, inside, hinside, herrors⟩
  · rintro ⟨hchecked, inside, hinside, herrors⟩
    exact ⟨inside, hinside, hchecked, herrors⟩

/-- A grammar as written is compiled if it passes all checks and can be lowered. -/
theorem ofAst_ok {ast : Ast} {rules : Rules} :
    (∃ findings, ofAst ast = .ok ⟨rules, findings⟩) ↔
      Passes (validate ast) ∧ lower ast = .ok rules := by
  constructor
  · rintro ⟨findings, h⟩
    obtain ⟨found, hvalidate, h⟩ := bind_eq_ok.mp h
    cases herrors : Finding.hasErrors found with
    | true =>
        simp only [herrors, if_true] at h
        cases h
    | false =>
        simp only [herrors, Bool.false_eq_true, if_false] at h
        obtain ⟨lowered, hlower, h⟩ := bind_eq_ok.mp h
        cases h
        exact ⟨⟨_, mapError_eq_ok.mp hvalidate, herrors⟩, mapError_eq_ok.mp hlower⟩
  · rintro ⟨⟨found, hvalidate, herrors⟩, hlower⟩
    refine ⟨found, bind_eq_ok.mpr ⟨found, mapError_eq_ok.mpr hvalidate, ?_⟩⟩
    simp only [herrors, Bool.false_eq_true, if_false]
    exact bind_eq_ok.mpr ⟨rules, mapError_eq_ok.mpr hlower, rfl⟩

end Grammar

end OperatorPeg
