import OperatorPeg.Proofs.Trees
import OperatorPeg.Proofs.Writing
import OperatorPeg.Tree.Dump

/-!
# A dump determines its tree

A dump is read from its first line on. The blanks before a line say how deep its node is, and
what follows them is the role, the kind, the offset and what belongs to the kind. What comes
next are the dumps of the nodes right below, as long as lines are indented deeper. So two trees
with one dump have the same first line, and the dumps below agree one after the other, up to a
line that is not deeper.

A name is written as it is, so it must not end the line.
-/

namespace OperatorPeg.Tree

/-! ## The first line of a dump -/

/-- What belongs to the kind of a node, as its line says it. -/
def payload : Tree → List Char
  | value _ text => ' ' :: (Text.escaped text).toList
  | choice _ i _ => ' ' :: '#' :: (toString i).toList
  | label _ name _ | lookup _ name _ | expression _ name _ _ _ => ' ' :: name.toList
  | sequence _ _ | quantifier _ _ | lookahead _ _ => []

/-- The nodes right below, with the roles that their lines begin with. -/
def parts : Tree → List (String × Tree)
  | value _ _ => []
  | sequence _ cs | quantifier _ cs => cs.map ("", ·)
  | choice _ _ c | label _ _ c | lookup _ _ c => [("", c)]
  | lookahead _ c => c.toList.map ("", ·)
  | expression _ _ l m r =>
      l.toList.map ("left: ", ·) ++ ("mid: ", m) :: r.toList.map ("right: ", ·)

theorem map_parts (t : Tree) : t.parts.map (·.2) = t.children := by
  cases t <;> simp [parts, children, Function.comp_def]

theorem mem_children_of_mem_parts {t : Tree} {part : String × Tree} (h : part ∈ t.parts) :
    part.2 ∈ t.children := by
  rw [← map_parts]
  exact List.mem_map_of_mem h

def roles : List String := ["", "left: ", "mid: ", "right: "]

def kinds : List String :=
  ["Value", "Sequence", "Choice", "Quantifier", "Label", "Lookup", "Lookahead", "Expression"]

theorem role_mem_roles {t : Tree} {part : String × Tree} (h : part ∈ t.parts) :
    part.1 ∈ roles := by
  cases t with
  | value => cases h
  | sequence | quantifier | lookahead =>
      obtain ⟨_, -, rfl⟩ := List.mem_map.mp h
      simp [roles]
  | choice | label | lookup =>
      cases List.mem_singleton.mp h
      simp [roles]
  | expression =>
      simp only [parts, List.mem_append, List.mem_cons, List.mem_map] at h
      obtain ⟨_, -, rfl⟩ | rfl | ⟨_, -, rfl⟩ := h <;> simp [roles]

theorem kind_mem_kinds (t : Tree) : t.kind ∈ kinds := by cases t <;> simp [kind, kinds]

/-- A line does not begin with a blank behind its indentation. -/
theorem head?_line {role : String} (h : role ∈ roles) (t : Tree) (rest : List Char) :
    (role.toList ++ t.kind.toList ++ rest).head? ≠ some ' ' := by
  have hall : ∀ role ∈ roles, ∀ kind ∈ kinds,
      (role.toList ++ kind.toList).head?.any (· != ' ') = true := by decide +kernel
  have hhead := hall role h t.kind t.kind_mem_kinds
  cases hline : role.toList ++ t.kind.toList with
  | nil => simp [hline] at hhead
  | cons c line => simpa [hline] using hhead

/-- The role and the kind are read off a line. -/
theorem role_kind_inj {role role' : String} (h : role ∈ roles) (h' : role' ∈ roles) {t t' : Tree}
    (heq : role.toList ++ t.kind.toList = role'.toList ++ t'.kind.toList) :
    role = role' ∧ t.kind = t'.kind := by
  have hall : ∀ role ∈ roles, ∀ role' ∈ roles, ∀ kind ∈ kinds, ∀ kind' ∈ kinds,
      role.toList ++ kind.toList = role'.toList ++ kind'.toList → role = role' ∧ kind = kind' := by
    decide +kernel
  exact hall role h role' h' _ t.kind_mem_kinds _ t'.kind_mem_kinds heq

theorem at_notMem_line {role : String} (h : role ∈ roles) (t : Tree) :
    '@' ∉ role.toList ++ t.kind.toList := by
  have hall : ∀ role ∈ roles, ∀ kind ∈ kinds, '@' ∉ role.toList ++ kind.toList := by
    decide +kernel
  exact hall role h t.kind t.kind_mem_kinds

/-- A node is what its line says and what is below it. -/
theorem eq_of_line {t t' : Tree} (hkind : t.kind = t'.kind) (hoffset : t.offset = t'.offset)
    (hpayload : t.payload = t'.payload) (hparts : t.parts = t'.parts) : t = t' := by
  have hchildren : t.children = t'.children := by rw [← map_parts, hparts, map_parts]
  cases t with
  | value o text =>
      cases t' with
      | value o' text' =>
          obtain rfl : o = o' := hoffset
          have htext := String.toList_inj.mp (List.cons.inj hpayload).2
          rw [Text.escaped_inj htext]
      | _ => simp [kind] at hkind
  | sequence o cs =>
      cases t' with
      | sequence o' cs' =>
          obtain rfl : o = o' := hoffset
          obtain rfl : cs = cs' := hchildren
          rfl
      | _ => simp [kind] at hkind
  | choice o i c =>
      cases t' with
      | choice o' i' c' =>
          obtain rfl : o = o' := hoffset
          obtain ⟨rfl, -⟩ := List.cons.inj hchildren
          have hnumber := (List.cons.inj (List.cons.inj hpayload).2).2
          rw [Text.toString_inj (String.toList_inj.mp hnumber)]
      | _ => simp [kind] at hkind
  | quantifier o cs =>
      cases t' with
      | quantifier o' cs' =>
          obtain rfl : o = o' := hoffset
          obtain rfl : cs = cs' := hchildren
          rfl
      | _ => simp [kind] at hkind
  | label o name c =>
      cases t' with
      | label o' name' c' =>
          obtain rfl : o = o' := hoffset
          obtain ⟨rfl, -⟩ := List.cons.inj hchildren
          rw [String.toList_inj.mp (List.cons.inj hpayload).2]
      | _ => simp [kind] at hkind
  | lookup o key c =>
      cases t' with
      | lookup o' key' c' =>
          obtain rfl : o = o' := hoffset
          obtain ⟨rfl, -⟩ := List.cons.inj hchildren
          rw [String.toList_inj.mp (List.cons.inj hpayload).2]
      | _ => simp [kind] at hkind
  | lookahead o c =>
      cases t' with
      | lookahead o' c' =>
          obtain rfl : o = o' := hoffset
          cases c <;> cases c' <;> simp_all [children]
      | _ => simp [kind] at hkind
  | expression o op l m r =>
      cases t' with
      | expression o' op' l' m' r' =>
          obtain rfl : o = o' := hoffset
          rw [String.toList_inj.mp (List.cons.inj hpayload).2]
          cases l <;> cases l' <;> cases r <;> cases r' <;> simp_all [parts]
      | _ => simp [kind] at hkind

/-- What is written as it is, if anything: the name of a label, a rule or an operator. -/
def name? : Tree → Option String
  | label _ name _ | lookup _ name _ | expression _ name _ _ _ => some name
  | _ => none

/-- The name of the node does not end its line. -/
def OnOneLine (t : Tree) : Prop := ∀ name ∈ t.name?, '\n' ∉ name.toList

theorem lineFeed_notMem_payload {t : Tree} (h : t.OnOneLine) : '\n' ∉ t.payload := by
  have hdigits : ∀ n, '\n' ∉ Nat.toDigits 10 n :=
    Text.notMem_toDigits (by decide) (by decide) (by decide)
  cases t with
  | value => simp [payload, Text.lineFeed_notMem_escaped]
  | choice => simp [payload, hdigits]
  | label | lookup | expression => simpa [payload] using h _ rfl
  | sequence | quantifier | lookahead => simp [payload]

/-- The line of a node, and what comes after it. -/
def lineBefore (depth : Nat) (role : String) (t : Tree) (below : List Char) : List Char :=
  List.replicate (2 * depth) ' ' ++ (role.toList ++ t.kind.toList ++ '@' ::
    ((toString t.offset).toList ++ (t.payload ++ '\n' :: below)))

/-- All that a line says is read off it, one after the other. -/
theorem lineBefore_inj {t t' : Tree} (h : t.OnOneLine) (h' : t'.OnOneLine) {depth : Nat}
    {role role' : String} (hrole : role ∈ roles) (hrole' : role' ∈ roles)
    {below below' : List Char}
    (heq : t.lineBefore depth role below = t'.lineBefore depth role' below') :
    role = role' ∧ t.kind = t'.kind ∧ t.offset = t'.offset ∧ t.payload = t'.payload ∧
      below = below' := by
  have hdigit : ∀ n : Nat, ∀ c ∈ (toString n).toList, c.isDigit = true := by
    intro n c hc
    rw [Nat.toString_eq_ofList_toDigits, String.toList_ofList] at hc
    exact Nat.isDigit_of_mem_toDigits (by decide) (by decide) hc
  have hafter : ∀ (t : Tree) (below : List Char),
      ∀ c ∈ (t.payload ++ '\n' :: below).head?, c.isDigit = false := by
    intro t below
    cases t <;> simp [payload]
  have hline := List.append_cancel_left heq
  obtain ⟨hfront, hline⟩ := Text.append_cons_inj (at_notMem_line hrole t)
    (at_notMem_line hrole' t') hline
  obtain ⟨hoffset, hline⟩ := Text.append_inj_of_kind (hdigit _) (hdigit _) (hafter t _)
    (hafter t' _) hline
  obtain ⟨hpayload, hbelow⟩ := Text.append_cons_inj (lineFeed_notMem_payload h)
    (lineFeed_notMem_payload h') hline
  obtain ⟨hroles, hkind⟩ := role_kind_inj hrole hrole' hfront
  exact ⟨hroles, hkind, Text.toString_inj (String.toList_inj.mp hoffset), hpayload, hbelow⟩

/-! ## What is below a line -/

/-- The dumps of several nodes, one after the other. -/
def dumpParts (depth : Nat) (parts : List (String × Tree)) : List Char :=
  parts.flatMap fun part => (part.2.dumpAt .plain depth part.1).toList

theorem toList_dumpAll (depth : Nat) (ts : List Tree) :
    (dumpAll .plain depth ts).toList = dumpParts depth (ts.map ("", ·)) := by
  induction ts with
  | nil => rfl
  | cons t ts ih => rw [dumpAll, String.toList_append, ih]; rfl

theorem toList_dumpSide (depth : Nat) (role : String) (t : Option Tree) :
    (dumpSide .plain depth role t).toList = dumpParts depth (t.toList.map (role, ·)) := by
  cases t with
  | none => rfl
  | some t => simp [dumpSide, dumpParts]

/-- A dump is the line of the node, and then what is below it, one deeper. -/
theorem toList_dumpAt_append (depth : Nat) (role : String) (t : Tree) (rest : List Char) :
    (t.dumpAt .plain depth role).toList ++ rest =
      t.lineBefore depth role (dumpParts (depth + 1) t.parts ++ rest) := by
  have hhead : (dumpHead .plain depth role t).toList = List.replicate (2 * depth) ' ' ++
      (role.toList ++ t.kind.toList ++ '@' :: (toString t.offset).toList) := by
    simp [dumpHead, Palette.mark, Palette.paint, Text.toList_indentation]
  cases t <;>
    simp [dumpAt, hhead, toList_dumpAll, toList_dumpSide, lineBefore, payload, parts, dumpParts,
      Palette.name, Palette.text, Palette.paint]

/-- The text begins with a line that is not deeper, if it begins with one. -/
def Shallow (depth : Nat) (text : List Char) : Prop :=
  ∃ n line, n ≤ 2 * depth ∧ line.head? ≠ some ' ' ∧ text = List.replicate n ' ' ++ line

theorem Shallow.nil (depth : Nat) : Shallow depth [] := ⟨0, [], Nat.zero_le _, nofun, rfl⟩

theorem Shallow.succ {depth : Nat} {text : List Char} (h : Shallow depth text) :
    Shallow (depth + 1) text := by
  obtain ⟨n, line, hn, hline⟩ := h
  exact ⟨n, line, by omega, hline⟩

theorem shallow_dumpAt {depth : Nat} {role : String} (h : role ∈ roles) (t : Tree)
    (rest : List Char) : Shallow depth ((t.dumpAt .plain depth role).toList ++ rest) := by
  rw [toList_dumpAt_append]
  exact ⟨_, _, Nat.le_refl _, head?_line h t _, rfl⟩

theorem shallow_dumpParts {depth : Nat} {ps : List (String × Tree)} {rest : List Char}
    (hroles : ∀ part ∈ ps, part.1 ∈ roles) (hrest : Shallow depth rest) :
    Shallow (depth + 1) (dumpParts (depth + 1) ps ++ rest) := by
  cases ps with
  | nil => exact hrest.succ
  | cons p ps =>
      rw [dumpParts, List.flatMap_cons, List.append_assoc]
      exact shallow_dumpAt (hroles p List.mem_cons_self) ..

/-- A dump is not less deep than it is. -/
theorem not_shallow_dumpAt {depth : Nat} {role : String} (h : role ∈ roles) (t : Tree)
    (rest : List Char) : ¬ Shallow depth ((t.dumpAt .plain (depth + 1) role).toList ++ rest) := by
  rintro ⟨n, line, hn, hline, heq⟩
  rw [toList_dumpAt_append] at heq
  have hblank : ∀ n, ∀ c ∈ List.replicate n ' ', (c == ' ') = true := by
    intro n c hc
    rw [List.eq_of_mem_replicate hc]
    rfl
  have hother : ∀ {line : List Char}, line.head? ≠ some ' ' →
      ∀ c ∈ line.head?, (c == ' ') = false := by
    rintro line hline c hc
    rw [beq_eq_false_iff_ne]
    rintro rfl
    exact hline hc
  obtain ⟨hreplicate, -⟩ := Text.append_inj_of_kind (hblank _) (hblank _)
    (hother (head?_line h t _)) (hother hline) heq
  have hlength := congrArg List.length hreplicate
  simp only [List.length_replicate] at hlength
  omega

/-! ## Reading a dump -/

/-- Where a dump of the tree stands and lines that are not deeper follow, no other tree's does. -/
def ReadOnce (t : Tree) : Prop :=
  ∀ {t' : Tree} {depth : Nat} {role role' : String} {rest rest' : List Char},
    t'.Everywhere OnOneLine → role ∈ roles → role' ∈ roles → Shallow depth rest →
    Shallow depth rest' →
    (t.dumpAt .plain depth role).toList ++ rest =
      (t'.dumpAt .plain depth role').toList ++ rest' →
    role = role' ∧ t = t' ∧ rest = rest'

/-- The dumps of nodes are read one after the other, up to a line that is less deep. -/
theorem dumpParts_inj {depth : Nat} {ps qs : List (String × Tree)} {rest rest' : List Char}
    (hps : ∀ part ∈ ps, part.1 ∈ roles ∧ part.2.ReadOnce)
    (hqs : ∀ part ∈ qs, part.1 ∈ roles ∧ part.2.Everywhere OnOneLine)
    (hrest : Shallow depth rest) (hrest' : Shallow depth rest')
    (h : dumpParts (depth + 1) ps ++ rest = dumpParts (depth + 1) qs ++ rest') :
    ps = qs ∧ rest = rest' := by
  induction ps generalizing qs with
  | nil =>
      cases qs with
      | nil => exact ⟨rfl, h⟩
      | cons q qs =>
          obtain rfl : rest = _ := by simpa [dumpParts] using h
          exact (not_shallow_dumpAt (hqs q List.mem_cons_self).1 _ _ hrest).elim
  | cons p ps ih =>
      obtain ⟨⟨hrole, honce⟩, hps⟩ := List.forall_mem_cons.mp hps
      cases qs with
      | nil =>
          obtain rfl : _ = rest' := by simpa [dumpParts] using h
          exact (not_shallow_dumpAt hrole _ _ hrest').elim
      | cons q qs =>
          obtain ⟨⟨hrole', hlines⟩, hqs⟩ := List.forall_mem_cons.mp hqs
          simp only [dumpParts, List.flatMap_cons, List.append_assoc] at h
          obtain ⟨hroles, htrees, htail⟩ := honce hlines hrole hrole'
            (shallow_dumpParts (fun part hpart => (hps part hpart).1) hrest)
            (shallow_dumpParts (fun part hpart => (hqs part hpart).1) hrest') h
          obtain ⟨rfl, hrests⟩ := ih hps hqs htail
          exact ⟨by rw [Prod.ext hroles htrees], hrests⟩

/-- **A dump is read in one way only.** -/
theorem Everywhere.readOnce {t : Tree} (h : t.Everywhere OnOneLine) : t.ReadOnce := by
  induction h with
  | @intro t hline _ ih =>
      intro t' depth role role' rest rest' h' hrole hrole' hrest hrest' heq
      obtain ⟨hline', hbelow'⟩ := everywhere_iff.mp h'
      rw [toList_dumpAt_append, toList_dumpAt_append] at heq
      obtain ⟨hroles, hkind, hoffset, hpayload, hbelow⟩ :=
        lineBefore_inj hline hline' hrole hrole' heq
      -- Dumps of the nodes below come first, and the rest is as deep as the line at most.
      obtain ⟨hparts, hrests⟩ := dumpParts_inj
        (fun part hpart => ⟨role_mem_roles hpart, ih _ (mem_children_of_mem_parts hpart)⟩)
        (fun part hpart => ⟨role_mem_roles hpart, hbelow' _ (mem_children_of_mem_parts hpart)⟩)
        hrest hrest' hbelow
      exact ⟨hroles, eq_of_line hkind hoffset hpayload hparts, hrests⟩

/-- **A dump determines its tree**, if no name of a label, a rule or an operator in it ends a
line. -/
theorem dump_determines_tree {t t' : Tree} (h : t.Everywhere OnOneLine)
    (h' : t'.Everywhere OnOneLine) : t.dump = t'.dump ↔ t = t' := by
  refine ⟨fun heq => ?_, congrArg dump⟩
  have hrole : "" ∈ roles := List.mem_cons_self
  have hlists := congrArg String.toList heq
  rw [dump, dump, dumpWith, dumpWith, ← List.append_nil (String.toList _),
    ← List.append_nil (String.toList (dumpAt _ _ _ t'))] at hlists
  exact (h.readOnce h' hrole hrole (.nil 0) (.nil 0) hlists).2.1

/-- Only the indentation says what is below the inner sequence. -/
theorem dump_determines_tree_sample :
    let filled := label 0 "a b" (.sequence 0 [.sequence 0 [.value 0 "\n"]])
    let emptied := label 0 "a b" (.sequence 0 [.sequence 0 [], .value 0 "\n"])
    filled.Everywhere OnOneLine ∧ emptied.Everywhere OnOneLine ∧ filled.dump ≠ emptied.dump := by
  intro filled emptied
  have hvalue : (value 0 "\n").Everywhere OnOneLine := .intro nofun nofun
  have hsequence : ∀ {cs : List Tree}, (∀ child ∈ cs, child.Everywhere OnOneLine) →
      (sequence 0 cs).Everywhere OnOneLine := fun h => .intro nofun h
  have hlabel : ∀ {c : Tree}, c.Everywhere OnOneLine →
      (label 0 "a b" c).Everywhere OnOneLine := fun h =>
    .intro (by simp [OnOneLine, name?]) (List.forall_mem_singleton.mpr h)
  have hfilled : filled.Everywhere OnOneLine :=
    hlabel (hsequence (by simpa using hsequence (by simpa using hvalue)))
  have hemptied : emptied.Everywhere OnOneLine :=
    hlabel (hsequence (by simpa using ⟨hsequence nofun, hvalue⟩))
  refine ⟨hfilled, hemptied, mt (dump_determines_tree hfilled hemptied).mp ?_⟩
  simp [filled, emptied]

end OperatorPeg.Tree
