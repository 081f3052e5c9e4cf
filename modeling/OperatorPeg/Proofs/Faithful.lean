import OperatorPeg.Proofs.Nodes
import OperatorPeg.Proofs.Places

/-!
# Trees are faithful to their source

The texts in a tree stand in the source where the tree says, nothing in it lies outside
the parsed range, and what comes later in the tree comes later in the source.

Consumed texts are in order because the cursor only moves on. Offsets are not as simple:
a node may start behind trivia from which the cursor goes back. `Tree.Fits` says what
becomes of the offset then: the next node starts behind the same trivia.
-/

namespace OperatorPeg

/-- The node stands in the source between `begin` and `stop` as it says, and the nodes right
below it are in order. -/
structure Tree.Faithful (source : List Char) (begin stop : Nat) (node : Tree) : Prop extends
    node.InOrder where
  text : ∀ offset text, node = .value offset text →
    Text.StandsAt source offset text.toList ∧ begin ≤ offset ∧ offset + text.utf8ByteSize ≤ stop
  starts : begin ≤ node.extent.start
  stops : node.extent.stop ≤ stop

/-- Trivia ends at one place, which is not before where it began. -/
structure IsSkip (skips : Cursor → Cursor → Prop) : Prop where
  unique : ∀ {c d d'}, skips c d → skips c d' → d = d'
  reaches : ∀ {c d}, skips c d → c.Reaches d

theorem isSkip_pastTrivia (rules : Rules) (beyond : List Char) (inTrivia : Bool) :
    IsSkip (PastTrivia rules beyond inTrivia) :=
  ⟨fun h h' => h.unique h', fun h => h.reaches⟩

/-- How a tree lies between the cursors before and after its match. Its offset is between the
places where trivia ends that begins at these two cursors. -/
structure Tree.Fits (source : List Char) (begin stop : Nat) (skips : Cursor → Cursor → Prop)
    (c : Cursor) (t : Tree) (c' : Cursor) : Prop where
  faithful : t.Everywhere (Tree.Faithful source begin stop)
  starts : ∃ d, skips c d ∧ d.offset ≤ t.offset
  behind : ∀ d, skips c' d → t.offset ≤ d.offset
  consumed : t.lastEnd ≤ c'.offset

/-- How trees lie that are matched one after the other. -/
structure AllFit (source : List Char) (begin stop : Nat) (skips : Cursor → Cursor → Prop)
    (c : Cursor) (ts : List Tree) (c' : Cursor) : Prop where
  faithful : ∀ t ∈ ts, t.Everywhere (Tree.Faithful source begin stop)
  order : ts.Pairwise fun a b => a.extent.stop ≤ b.offset
  starts : ∀ t ∈ ts, ∃ d, skips c d ∧ d.offset ≤ t.offset
  behind : ∀ t ∈ ts, ∀ d, skips c' d → t.offset ≤ d.offset
  consumed : ∀ t ∈ ts, t.lastEnd ≤ c'.offset
  stays : ts = [] → c' = c

section

variable {source : List Char} {begin stop : Nat} {skips : Cursor → Cursor → Prop}

/-! ## One after the other -/

theorem AllFit.nil (c : Cursor) : AllFit source begin stop skips c [] c where
  faithful := nofun
  order := .nil
  starts := nofun
  behind := nofun
  consumed := nofun
  stays := fun _ => rfl

/-- What is matched next starts where the trivia ends that is behind the first match, or
later. -/
theorem AllFit.cons (hskips : IsSkip skips) {c next c' : Cursor} {t : Tree} {ts : List Tree}
    (h : t.Fits source begin stop skips c next) (hs : AllFit source begin stop skips next ts c')
    (hreaches : next.Reaches c') : AllFit source begin stop skips c (t :: ts) c' := by
  have hbefore : ∀ u ∈ ts, t.extent.stop ≤ u.offset := by
    intro u hu
    obtain ⟨d, hd, hle⟩ := hs.starts u hu
    have hoffset := h.behind d hd
    have hlast := Nat.le_trans h.consumed (hskips.reaches hd).offset_le
    exact Tree.extent_stop_le (Nat.le_trans hoffset hle) (Nat.le_trans hlast hle)
  have hoffset : ∀ u ∈ ts, t.offset ≤ u.offset := fun u hu =>
    Nat.le_trans t.offset_le_extent_stop (hbefore u hu)
  refine ⟨?_, ?_, ?_, ?_, ?_, nofun⟩
  · exact List.forall_mem_cons.mpr ⟨h.faithful, hs.faithful⟩
  · exact List.pairwise_cons.mpr ⟨hbefore, hs.order⟩
  · refine List.forall_mem_cons.mpr ⟨h.starts, fun u hu => ?_⟩
    obtain ⟨d, hd, hle⟩ := h.starts
    exact ⟨d, hd, Nat.le_trans hle (hoffset u hu)⟩
  · refine List.forall_mem_cons.mpr ⟨fun d hd => ?_, hs.behind⟩
    cases ts with
    | nil =>
        rw [hs.stays rfl] at hd
        exact h.behind d hd
    | cons u us =>
        have hu : u ∈ u :: us := List.mem_cons_self
        exact Nat.le_trans (hoffset u hu) (hs.behind u hu d hd)
  · exact List.forall_mem_cons.mpr ⟨Nat.le_trans h.consumed hreaches.offset_le, hs.consumed⟩

theorem AllFit.single (hskips : IsSkip skips) {c c' : Cursor} {t : Tree}
    (h : t.Fits source begin stop skips c c') : AllFit source begin stop skips c [t] c' :=
  .cons hskips h (.nil c') (.refl c')

/-! ## Nodes -/

/-- An inner node starts where trivia ends and has nodes below it that are matched from there
on, all of them or some. -/
theorem Tree.Fits.inner (hskips : IsSkip skips) {c ready c' : Cursor} {nodes : List Tree} {t : Tree}
    (hskip : skips c ready) (hplaced : ready.PlacedIn source begin stop)
    (hreaches : ready.Reaches c') (hnodes : AllFit source begin stop skips ready nodes c')
    (hinner : t.isInner = true) (hoffset : t.offset = ready.offset)
    (hchildren : t.children.Sublist nodes) : t.Fits source begin stop skips c c' := by
  have hlast : t.lastEnd ≤ c'.offset :=
    Tree.lastEnd_le_of_isInner hinner fun child hchild =>
      hnodes.consumed child (hchildren.subset hchild)
  have hstop : c'.offset ≤ stop := (hplaced.reaches hreaches).offset_le
  refine ⟨.intro ⟨⟨?_, hnodes.order.sublist hchildren⟩, ?_, ?_, ?_⟩ ?_, ?_, ?_, hlast⟩
  · intro child hchild
    obtain ⟨d, hd, hle⟩ := hnodes.starts child (hchildren.subset hchild)
    rw [hoffset]
    exact Nat.le_trans (hskips.reaches hd).offset_le hle
  · rintro offset text rfl
    cases hinner
  · show begin ≤ t.offset
    rw [hoffset]
    exact hplaced.start
  · refine Tree.extent_stop_le ?_ (Nat.le_trans hlast hstop)
    rw [hoffset]
    exact hplaced.offset_le
  · exact fun child hchild => hnodes.faithful child (hchildren.subset hchild)
  · exact ⟨ready, hskip, Nat.le_of_eq hoffset.symm⟩
  · intro d hd
    rw [hoffset]
    exact Nat.le_trans hreaches.offset_le (hskips.reaches hd).offset_le

theorem Tree.Fits.terminal (hskips : IsSkip skips) {c ready c' : Cursor} {text : List Char}
    (hskip : skips c ready) (hplaced : ready.PlacedIn source begin stop)
    (hpasses : ready.Passes text c') :
    (Tree.value ready.offset (String.ofList text)).Fits source begin stop skips c c' := by
  have hend : ready.offset + (String.ofList text).utf8ByteSize = c'.offset := by
    rw [Text.byteLength_ofList, hpasses.offset]
  have hstop : c'.offset ≤ stop := (hplaced.passes hpasses).offset_le
  have hlast : (Tree.value ready.offset (String.ofList text)).lastEnd ≤ c'.offset :=
    Nat.le_of_eq hend
  refine ⟨.intro ⟨⟨nofun, .nil⟩, ?_, hplaced.start, ?_⟩ nofun, ?_, ?_, hlast⟩
  · rintro offset t heq
    cases heq
    rw [String.toList_ofList]
    exact ⟨hplaced.standsAt hpasses, hplaced.start, by omega⟩
  · exact Tree.extent_stop_le hplaced.offset_le (Nat.le_trans hlast hstop)
  · exact ⟨ready, hskip, Nat.le_refl _⟩
  · intro d hd
    have hle := (hskips.reaches hd).offset_le
    show ready.offset ≤ d.offset
    omega

/-- A lookahead ends where it began. It starts behind the trivia there, and so does whatever is
matched next. -/
theorem Tree.Fits.lookahead (hskips : IsSkip skips) {c ready : Cursor} {seen : Option Tree}
    (hskip : skips c ready) (hplaced : ready.PlacedIn source begin stop)
    (hseen : ∀ t, seen = some t → ∃ c', t.Fits source begin stop skips ready c') :
    (Tree.lookahead ready.offset seen).Fits source begin stop skips c c := by
  have hmem : ∀ child ∈ (Tree.lookahead ready.offset seen).children, seen = some child :=
    fun child hchild => Option.mem_toList.mp hchild
  refine ⟨.intro ⟨⟨?_, ?_⟩, nofun, hplaced.start, ?_⟩ ?_, ?_, ?_, Nat.zero_le _⟩
  · intro child hchild
    obtain ⟨c', hfits⟩ := hseen child (hmem child hchild)
    obtain ⟨d, hd, hle⟩ := hfits.starts
    exact Nat.le_trans (hskips.reaches hd).offset_le hle
  · cases seen with
    | none => exact .nil
    | some child => exact List.pairwise_singleton _ _
  · exact Tree.extent_stop_le hplaced.offset_le (Nat.zero_le _)
  · intro child hchild
    obtain ⟨c', hfits⟩ := hseen child (hmem child hchild)
    exact hfits.faithful
  · exact ⟨ready, hskip, Nat.le_refl _⟩
  · intro d hd
    rw [hskips.unique hd hskip]
    exact Nat.le_refl _

/-! ## Expressions -/

namespace Pending

variable {p : Pending} {right : Option Tree}

/-- Operands on the right sides of an operator make an expression in order. -/
theorem inOrder_complete (hleft : ∀ l, p.left = some l → l.extent.stop ≤ p.mid.offset)
    (hright : ∀ r, right = some r → p.mid.extent.stop ≤ r.offset) :
    (p.complete right).InOrder := by
  have hmid := p.mid.offset_le_extent_stop
  have hoperand : ∀ (operand : Option Tree) (R : Tree → Tree → Prop),
      operand.toList.Pairwise R := by
    intro operand R
    cases operand with
    | none => exact .nil
    | some t => exact List.pairwise_singleton R t
  constructor
  · rw [forall_children_complete]
    rcases p with ⟨op, mid, _ | l⟩
    · refine ⟨nofun, Nat.le_refl _, fun r hr => ?_⟩
      exact Nat.le_trans hmid (hright r hr)
    · have hle : l.offset ≤ mid.offset :=
        Nat.le_trans l.offset_le_extent_stop (hleft l rfl)
      refine ⟨fun l' hl' => ?_, hle, fun r hr => ?_⟩
      · cases hl'
        exact Nat.le_refl _
      · exact Nat.le_trans hle (Nat.le_trans hmid (hright r hr))
  · rw [show (p.complete right).children = p.left.toList ++ p.mid :: right.toList from rfl,
      List.pairwise_append, List.pairwise_cons]
    refine ⟨hoperand _ _, ⟨fun r hr => hright r (Option.mem_toList.mp hr), hoperand _ _⟩, ?_⟩
    intro l hl t ht
    have hbefore := hleft l (Option.mem_toList.mp hl)
    rcases List.mem_cons.mp ht with rfl | hr
    · exact hbefore
    · have := hright t (Option.mem_toList.mp hr)
      omega

end Pending

/-- How an expression lies: it starts with one of its operators, and nothing in it ends later
than they do. -/
structure Skeleton.Fits (source : List Char) (begin stop : Nat) (mids : List Tree) (t : Tree) :
    Prop where
  faithful : t.Everywhere (Tree.Faithful source begin stop)
  offset : ∃ mid ∈ mids, t.offset = mid.offset
  last : ∀ n, (∀ mid ∈ mids, mid.lastEnd ≤ n) → t.lastEnd ≤ n

theorem Skeleton.Fits.stop_le {mids : List Tree} {t : Tree}
    (h : Skeleton.Fits source begin stop mids t) {n : Nat}
    (hn : ∀ mid ∈ mids, mid.extent.stop ≤ n) : t.extent.stop ≤ n := by
  obtain ⟨mid, hmid, hoffset⟩ := h.offset
  refine Tree.extent_stop_le ?_ (h.last n fun mid hmid => ?_)
  · rw [hoffset]
    exact Nat.le_trans mid.offset_le_extent_stop (hn mid hmid)
  · exact Nat.le_trans mid.lastEnd_le_extent_stop (hn mid hmid)

theorem Skeleton.Fits.le_offset {mids : List Tree} {t : Tree}
    (h : Skeleton.Fits source begin stop mids t) {n : Nat}
    (hn : ∀ mid ∈ mids, n ≤ mid.offset) : n ≤ t.offset := by
  obtain ⟨mid, hmid, hoffset⟩ := h.offset
  rw [hoffset]
  exact hn mid hmid

/-- An operator with its operands, which lie before and behind its own match. -/
theorem Skeleton.Fits.node {lefts rights : List Tree} {mid : Tree} {left right : Option Tree}
    (op : Operator) (hmid : mid.Everywhere (Tree.Faithful source begin stop))
    (hleft : ∀ l, left = some l → Skeleton.Fits source begin stop lefts l)
    (hright : ∀ r, right = some r → Skeleton.Fits source begin stop rights r)
    (hbefore : ∀ a ∈ lefts, a.extent.stop ≤ mid.offset)
    (hbehind : ∀ b ∈ rights, mid.extent.stop ≤ b.offset) :
    Skeleton.Fits source begin stop (lefts ++ mid :: rights)
      (Pending.complete ⟨op, mid, left⟩ right) := by
  have hordered := Pending.inOrder_complete (p := ⟨op, mid, left⟩)
    (fun l hl => (hleft l hl).stop_le hbefore) (fun r hr => (hright r hr).le_offset hbehind)
  have hchildren : ∀ child ∈ (Pending.complete ⟨op, mid, left⟩ right).children,
      child.Everywhere (Tree.Faithful source begin stop) :=
    Pending.forall_children_complete.mpr ⟨fun l hl => (hleft l hl).faithful, hmid,
      fun r hr => (hright r hr).faithful⟩
  have hoffset : ∃ m ∈ lefts ++ mid :: rights,
      (Pending.complete ⟨op, mid, left⟩ right).offset = m.offset := by
    cases left with
    | none => exact ⟨mid, by simp, rfl⟩
    | some l =>
        obtain ⟨m, hm, hsame⟩ := (hleft l rfl).offset
        exact ⟨m, List.mem_append_left _ hm, hsame⟩
  have hlast : ∀ n, (∀ m ∈ lefts ++ mid :: rights, m.lastEnd ≤ n) →
      (Pending.complete ⟨op, mid, left⟩ right).lastEnd ≤ n := by
    intro n hn
    simp only [List.forall_mem_append, List.forall_mem_cons] at hn
    exact Tree.lastEnd_le_of_isInner rfl (Pending.forall_children_complete.mpr
      ⟨fun l hl => (hleft l hl).last n hn.1, hn.2.1, fun r hr => (hright r hr).last n hn.2.2⟩)
  refine ⟨.intro ⟨hordered, fun _ _ h => (by cases h), ?_, ?_⟩ hchildren, hoffset, hlast⟩
  · show begin ≤ (Pending.complete ⟨op, mid, left⟩ right).offset
    cases left with
    | none => exact hmid.here.starts
    | some l => exact (hleft l rfl).faithful.here.starts
  · refine Tree.extent_stop_le ?_ (Tree.lastEnd_le_of_isInner rfl fun child hchild => ?_)
    · have hle : _ ≤ mid.offset := (Pending.forall_children_complete.mp hordered.offset).2.1
      exact Nat.le_trans hle (Nat.le_trans mid.offset_le_extent_stop hmid.here.stops)
    · exact Nat.le_trans child.lastEnd_le_extent_stop (hchildren child hchild).here.stops

/-- **Assembling keeps the order**: operators that stand in order stand so in their tree, with
their operands on the right sides. -/
theorem Skeleton.fits {sk : Skeleton}
    (hfaithful : ∀ mid ∈ sk.inorder.map (·.2), mid.Everywhere (Tree.Faithful source begin stop))
    (horder : (sk.inorder.map (·.2)).Pairwise fun a b => a.extent.stop ≤ b.offset) {tree : Tree}
    (htree : sk.tree? = some tree) :
    Skeleton.Fits source begin stop (sk.inorder.map (·.2)) tree := by
  induction sk generalizing tree with
  | absent => cases htree
  | node left op mid right ihLeft ihRight =>
      simp only [Skeleton.inorder, List.map_append, List.map_cons, List.forall_mem_append,
        List.forall_mem_cons] at hfaithful
      simp only [Skeleton.inorder, List.map_append, List.map_cons, List.pairwise_append,
        List.pairwise_cons, List.forall_mem_cons] at horder
      obtain ⟨hfaithfulLeft, hfaithfulMid, hfaithfulRight⟩ := hfaithful
      obtain ⟨horderLeft, ⟨hbehind, horderRight⟩, hbefore⟩ := horder
      cases htree
      rw [Skeleton.inorder, List.map_append, List.map_cons]
      exact .node op hfaithfulMid (fun _ => ihLeft hfaithfulLeft horderLeft)
        (fun _ => ihRight hfaithfulRight horderRight) (fun a ha => (hbefore a ha).1) hbehind

/-- An expression lies where its operators lie. -/
theorem AllFit.expression (hskips : IsSkip skips) {c ready c' : Cursor} {sk : Skeleton}
    {tree : Tree} (hskip : skips c ready)
    (hnodes : AllFit source begin stop skips ready (sk.inorder.map (·.2)) c')
    (htree : sk.tree? = some tree) : tree.Fits source begin stop skips c c' := by
  have hfits := Skeleton.fits hnodes.faithful hnodes.order htree
  obtain ⟨mid, hmid, hoffset⟩ := hfits.offset
  refine ⟨hfits.faithful, ⟨ready, hskip, hfits.le_offset fun mid hmid => ?_⟩, fun d hd => ?_,
    hfits.last _ hnodes.consumed⟩
  · obtain ⟨d, hd, hle⟩ := hnodes.starts mid hmid
    exact Nat.le_trans (hskips.reaches hd).offset_le hle
  · rw [hoffset]
    exact hnodes.behind mid hmid d hd

/-! ## All patterns -/

mutual
/-- **What is built lies in the source as it should.** -/
theorem Builds.fits (hskips : IsSkip skips) {rules : Rules} {beyond : List Char} {p : Pattern}
    {c c' : Cursor} {tree : Tree} : c.PlacedIn source begin stop →
      Builds rules beyond skips p c tree c' → tree.Fits source begin stop skips c c'
  | hplaced, .terminal hskip hend => by
      have hready := hplaced.reaches (hskips.reaches hskip)
      obtain ⟨text, hpasses⟩ := Terminal.reaches_of_matchEnd? hend
      rw [hpasses.textUpTo]
      exact .terminal hskips hskip hready hpasses
  | hplaced, .sequence hskip hnodes =>
      have hready := hplaced.reaches (hskips.reaches hskip)
      .inner hskips hskip hready (hnodes.reaches hskips.reaches)
        (BuildsAll.fit hskips hready hnodes) rfl rfl (keptNodes_sublist _ _)
  | hplaced, .choice hskip _ hchild =>
      have hready := hplaced.reaches (hskips.reaches hskip)
      .inner hskips hskip hready (hchild.reaches hskips.reaches)
        (.single hskips (Builds.fits hskips hready hchild)) rfl rfl (.refl _)
  | hplaced, .quantifier hskip _ _ hnodes =>
      have hready := hplaced.reaches (hskips.reaches hskip)
      .inner hskips hskip hready (hnodes.reaches hskips.reaches)
        (BuildsAll.fit hskips hready hnodes) rfl rfl (.refl _)
  | hplaced, .lookup hskip _ hchild =>
      have hready := hplaced.reaches (hskips.reaches hskip)
      .inner hskips hskip hready (hchild.reaches hskips.reaches)
        (.single hskips (Builds.fits hskips hready hchild)) rfl rfl (.refl _)
  | hplaced, .label hskip hchild =>
      have hready := hplaced.reaches (hskips.reaches hskip)
      .inner hskips hskip hready (hchild.reaches hskips.reaches)
        (.single hskips (Builds.fits hskips hready hchild)) rfl rfl (.refl _)
  | hplaced, .seen hskip hchild => by
      have hready := hplaced.reaches (hskips.reaches hskip)
      refine .lookahead hskips hskip hready fun t ht => ?_
      cases ht
      exact ⟨_, Builds.fits hskips hready hchild⟩
  | hplaced, .unseen hskip =>
      .lookahead hskips hskip (hplaced.reaches (hskips.reaches hskip)) nofun
  | hplaced, .table hskip _ hnodes _ htree => by
      have hready := hplaced.reaches (hskips.reaches hskip)
      exact (BuildsAll.fit hskips hready hnodes).expression hskips hskip htree

theorem BuildsAll.fit (hskips : IsSkip skips) {rules : Rules} {beyond : List Char}
    {ps : List Pattern} {c c' : Cursor} {nodes : List Tree} : c.PlacedIn source begin stop →
      BuildsAll rules beyond skips ps c nodes c' → AllFit source begin stop skips c nodes c'
  | _, .nil c => .nil c
  | hplaced, .cons hnode hnodes =>
      have hnext := hplaced.reaches (hnode.reaches hskips.reaches)
      .cons hskips (Builds.fits hskips hplaced hnode) (BuildsAll.fit hskips hnext hnodes)
        (hnodes.reaches hskips.reaches)
end

end

/-- **Trees are faithful to their source and in its order.** In the tree of a parse every text,
also one that was only seen ahead, stands in the source at its offset; no node starts behind
a node below it, of two nodes side by side the first ends before the second starts, and
none leaves the parsed range. So each value ends before the next one starts. -/
theorem trees_are_faithful {layers : Nat} {rules : Rules} {limits : Limits} {start : Start}
    {source : String} {first last : Nat} {report : Report} {tree : Tree}
    (h : parseWithin layers rules limits start source first last = some report)
    (htree : report.result = .ok tree) :
    let stop := Text.floorOffset source.toList last
    let begin := Text.floorOffset source.toList (min first stop)
    tree.Everywhere (Tree.Faithful source.toList begin stop) ∧
      tree.values = tree.leaves.map (·.2) ∧
      tree.leaves.Pairwise fun a b => a.1 + a.2.utf8ByteSize ≤ b.1 := by
  obtain ⟨p, _, _, -, hbuilds, -, -⟩ := parseWindow_builds h htree
  have hfits := hbuilds.fits (isSkip_pastTrivia _ _ _)
    (Window.placedIn_ofRange source.toList first last)
  exact ⟨hfits.faithful, tree.values_eq_map_leaves,
    (hfits.faithful.imp fun _ h => h.toInOrder).leaves_pairwise⟩

/-- A sum is looked at before it is read, blanks may stand anywhere, and the semicolon behind the
sum is not kept. -/
private def spacedSum : Rules :=
  .ofList [
    ("_", .quantifier (.terminal (.literal " ")) 0 none),
    ("sum", .table [
      ⟨"letter", none, none, .terminal (.literal "é")⟩,
      ⟨"negate", none, some 1, .terminal (.literal "-")⟩,
      ⟨"add", some 2, some 2, .terminal (.literal "+")⟩]),
    ("line", .sequence [
      ⟨true, .lookahead (.lookup "sum") true⟩,
      ⟨true, .lookup "sum"⟩,
      ⟨false, .terminal (.literal ";")⟩])]

/-- What is between the parentheses is read, where a letter takes two bytes. -/
theorem trees_are_faithful_sample :
    ∃ report tree,
      parseWithin 9 spacedSum .unlimited (.rule "line") "( é+ -é ;)" 1 11 = some report ∧
      report.result = .ok tree ∧
      tree.leaves = [(2, "é"), (4, "+"), (6, "-"), (7, "é")] ∧
      tree.Everywhere (Tree.Faithful "( é+ -é ;)".toList 1 11) ∧
      tree.values = ["é", "+", "-", "é"] ∧
      tree.leaves.Pairwise fun a b => a.1 + a.2.utf8ByteSize ≤ b.1 := by
  have hrun : (parseWithin 9 spacedSum .unlimited (.rule "line") "( é+ -é ;)" 1 11).any
      (fun r => r.result.toOption.any fun tree =>
        tree.leaves == [(2, "é"), (4, "+"), (6, "-"), (7, "é")]) = true := by
    decide +kernel
  obtain ⟨report, h, hreport⟩ := (Option.any_eq_true _ _).mp hrun
  obtain ⟨tree, htree, htest⟩ := report.exists_tree hreport
  have htexts : tree.leaves = [(2, "é"), (4, "+"), (6, "-"), (7, "é")] := beq_iff_eq.mp htest
  have hstop : Text.floorOffset "( é+ -é ;)".toList 11 = 11 := by decide +kernel
  have hbegin : Text.floorOffset "( é+ -é ;)".toList 1 = 1 := by decide +kernel
  obtain ⟨hfaithful, hvalues, hleaves⟩ := trees_are_faithful h htree
  rw [hstop, show min 1 11 = 1 from rfl, hbegin] at hfaithful
  refine ⟨report, tree, h, htree, htexts, hfaithful, ?_, hleaves⟩
  rw [hvalues, htexts]
  rfl

end OperatorPeg
