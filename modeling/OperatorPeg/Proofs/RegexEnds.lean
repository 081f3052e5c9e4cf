import OperatorPeg.Proofs.Cursors
import OperatorPeg.Regex.Ends

/-!
# Where regexes end

Two views of `Regex.ends`. From outside, every end is reached over a text that the
regex accepts, in the plain sense of languages. From inside, the first end of a
greedy repetition is found by always going on to the first end of its body.
-/

namespace OperatorPeg.Regex

/-- The texts of a regex, whatever stands around them. -/
def Accepts : Regex → List Char → Prop
  | .empty, w => w = []
  | .oneOf set, w => ∃ c, w = [c] ∧ set.contains c = true
  | .look _, w => w = []
  | .seq a b, w => ∃ u v, w = u ++ v ∧ a.Accepts u ∧ b.Accepts v
  | .alt a b, w => a.Accepts w ∨ b.Accepts w
  | .rounds body least _ _, w =>
      ∃ us : List (List Char), w = us.flatten ∧ least ≤ us.length ∧ ∀ u ∈ us, body.Accepts u

/-! ## Lists of ends -/

theorem mem_of_mem_distinctFrom {c : Cursor} {found cs : List Cursor}
    (h : c ∈ distinctFrom found cs) : c ∈ cs := by
  induction cs generalizing found with
  | nil => cases h
  | cons d cs ih =>
      simp only [distinctFrom] at h
      split at h
      · exact List.mem_cons_of_mem _ (ih h)
      · rcases List.mem_cons.mp h with rfl | h
        · exact List.mem_cons_self
        · exact List.mem_cons_of_mem _ (ih h)

theorem head?_distinctFrom_nil (cs : List Cursor) : (distinctFrom [] cs).head? = cs.head? := by
  cases cs with
  | nil => rfl
  | cons c cs => simp [distinctFrom, reaches]

theorem mem_of_mem_orElse {c : Cursor} {xs ys : List Cursor} (h : c ∈ orElse xs ys) :
    c ∈ xs ∨ c ∈ ys := by
  unfold orElse at h
  split at h
  · exact .inr h
  · exact .inl h
  · exact List.mem_append.mp (mem_of_mem_distinctFrom h)

theorem head?_orElse (xs ys : List Cursor) : (orElse xs ys).head? = (xs ++ ys).head? := by
  unfold orElse
  split
  · rfl
  · rw [List.append_nil]
  · exact head?_distinctFrom_nil _

theorem mem_of_mem_thenEnds {e : Cursor} {next : Cursor → List Cursor} {cs : List Cursor}
    (h : e ∈ thenEnds next cs) : ∃ c ∈ cs, e ∈ next c := by
  unfold thenEnds at h
  split at h
  · cases h
  · exact ⟨_, List.mem_singleton_self _, h⟩
  · exact List.mem_flatMap.mp (mem_of_mem_distinctFrom h)

/-- The first way to go on from the first end is taken. -/
theorem head?_thenEnds {next : Cursor → List Cursor} {cs : List Cursor} {c e : Cursor}
    (hc : cs.head? = some c) (he : (next c).head? = some e) :
    (thenEnds next cs).head? = some e := by
  match cs, hc with
  | [_], rfl => exact he
  | _ :: _ :: _, rfl =>
      simp only [thenEnds]
      rw [head?_distinctFrom_nil, List.flatMap_cons, List.head?_append, he]
      rfl

/-! ## Rounds of a repetition -/

/-- `n` rounds of `body` lead from one cursor to another. -/
inductive Chain (body : Cursor → List Cursor) : Nat → Cursor → Cursor → Prop
  | stay (c : Cursor) : Chain body 0 c c
  | round {n : Nat} {c d e : Cursor} : d ∈ body c → Chain body n d e → Chain body (n + 1) c e

variable {body : Cursor → List Cursor}

theorem Chain.append {m n : Nat} {c d e : Cursor} (h : Chain body m c d)
    (h' : Chain body n d e) : Chain body (m + n) c e := by
  induction h with
  | stay c => rwa [Nat.zero_add]
  | round hd _ ih =>
      rw [Nat.add_right_comm]
      exact .round hd (ih h')

theorem chain_of_mem_exactly {n : Nat} {cs : List Cursor} {e : Cursor}
    (h : e ∈ exactly body n cs) : ∃ c ∈ cs, Chain body n c e := by
  induction n generalizing cs with
  | zero => exact ⟨e, h, .stay e⟩
  | succ n ih =>
      cases cs with
      | nil => cases h
      | cons c cs =>
          obtain ⟨d, hd, hchain⟩ := ih h
          obtain ⟨c', hc', hd'⟩ := mem_of_mem_thenEnds hd
          exact ⟨c', hc', .round hd' hchain⟩

/-- What holds of the ends found so far and of all ends of up to `n` rounds holds of all
ends that are found. -/
theorem forall_mem_atMost {greedy : Bool} {n : Nat} {c : Cursor} {v : Visits}
    {motive : Cursor → Prop} (hv : ∀ e ∈ v.found, motive e)
    (hc : ∀ k e, Chain body k c e → motive e) :
    ∀ e ∈ (atMost body greedy n c v).found, motive e := by
  induction n generalizing c v with
  | zero =>
      simp only [atMost]
      split
      · exact hv
      · simpa using ⟨hc 0 c (.stay c), hv⟩
  | succ n ih =>
      have hstop : ∀ v : Visits, (∀ e ∈ v.found, motive e) →
          ∀ e ∈ (if reaches c v.found then v else { v with found := c :: v.found }).found,
            motive e := by
        intro v hv
        split
        · exact hv
        · simpa using ⟨hc 0 c (.stay c), hv⟩
      have hfold : ∀ v : Visits, (∀ e ∈ v.found, motive e) →
          ∀ e ∈ ((body c).foldl (fun v next =>
            if v.seen.contains (n, next.offset) then v
            else atMost body greedy n next { v with seen := (n, next.offset) :: v.seen })
            v).found, motive e := by
        intro v hv
        refine List.foldlRecOn (motive := fun v : Visits => ∀ e ∈ v.found, motive e)
          (body c) _ hv ?_
        intro v hv next hnext
        split
        · exact hv
        · exact ih (v := { v with seen := _ }) hv
            fun k e hk => hc (k + 1) e (.round hnext hk)
      simp only [atMost]
      split
      · exact hstop _ (hfold _ hv)
      · exact hfold _ (hstop _ hv)

theorem forall_mem_further {greedy : Bool} {budget : List Char} {c : Cursor}
    {found : List Cursor} {motive : Cursor → Prop} (hfound : ∀ e ∈ found, motive e)
    (hc : ∀ k e, Chain body k c e → motive e) :
    ∀ e ∈ further body greedy budget c found, motive e := by
  induction budget generalizing c found with
  | nil => simpa [further] using ⟨hc 0 c (.stay c), hfound⟩
  | cons b budget ih =>
      have hfold : ∀ found : List Cursor, (∀ e ∈ found, motive e) →
          ∀ e ∈ (body c).foldl (fun found next =>
            if next.offset == c.offset || reaches next found then found
            else further body greedy budget next found) found, motive e := by
        intro found hfound
        refine List.foldlRecOn (motive := fun found : List Cursor => ∀ e ∈ found, motive e)
          (body c) _ hfound ?_
        intro found hfound next hnext
        split
        · exact hfound
        · exact ih hfound fun k e hk => hc (k + 1) e (.round hnext hk)
      simp only [further]
      split
      · exact List.forall_mem_cons.mpr ⟨hc 0 c (.stay c), hfold found hfound⟩
      · exact hfold _ (by simpa using ⟨hc 0 c (.stay c), hfound⟩)

/-- A body whose ends are never behind where it starts. -/
def Forward (body : Cursor → List Cursor) : Prop := ∀ c, ∀ e ∈ body c, c.Reaches e

theorem forall_mem_firstRound (hbody : Forward body) {greedy : Bool} {c : Cursor}
    {found : List Cursor} {motive : Cursor → Prop} (hfound : ∀ e ∈ found, motive e)
    (hc : ∀ k e, Chain body (k + 1) c e → motive e) :
    ∀ e ∈ firstRound body greedy c found, motive e := by
  unfold firstRound
  refine List.foldlRecOn (motive := fun found : List Cursor => ∀ e ∈ found, motive e)
    (body c) _ hfound ?_
  intro found hfound next hnext
  split
  · next hempty =>
      -- an empty first round leads back to where it started
      have heq : next = c := (hbody c next hnext).eq_of_offset (by simpa using hempty)
      subst heq
      split
      · exact hfound
      · simpa using ⟨hc 0 next (.round hnext (.stay next)), hfound⟩
  · split
    · exact hfound
    · exact forall_mem_further hfound fun k e hk => hc k e (.round hnext hk)

theorem chain_of_mem_oneOrMore (hbody : Forward body) {greedy : Bool} {c e : Cursor}
    (h : e ∈ oneOrMore body greedy c) : ∃ k, Chain body (k + 1) c e :=
  forall_mem_firstRound hbody (motive := fun e => ∃ k, Chain body (k + 1) c e) (by simp)
    (fun k _ hk => ⟨k, hk⟩) e (List.mem_reverse.mp h)

theorem chain_of_mem_zeroOrMore (hbody : Forward body) {greedy : Bool} {c e : Cursor}
    (h : e ∈ zeroOrMore body greedy c) : ∃ k, Chain body k c e := by
  have hstay : ∃ k, Chain body k c c := ⟨0, .stay c⟩
  unfold zeroOrMore at h
  split at h
  · have hfirst : ∀ e ∈ firstRound body greedy c [], ∃ k, Chain body k c e :=
      forall_mem_firstRound hbody (by simp) fun k _ hk => ⟨k + 1, hk⟩
    simp only [List.mem_reverse] at h
    split at h
    · next hg => exact hfirst e (by simpa [hg] using h)
    · next hg =>
        rcases List.mem_cons.mp h with rfl | h
        · exact hstay
        · exact hfirst e (by simpa [hg] using h)
  · exact forall_mem_firstRound hbody (motive := fun e => ∃ k, Chain body k c e)
      (by simpa using hstay) (fun k _ hk => ⟨k + 1, hk⟩) e (List.mem_reverse.mp h)

theorem chain_of_mem_repeatEnds (hbody : Forward body) {greedy : Bool} {least : Nat}
    {most : Option Nat} {c e : Cursor} (h : e ∈ repeatEnds body greedy least most c) :
    ∃ k, least ≤ k ∧ Chain body k c e := by
  unfold repeatEnds at h
  split at h
  · obtain ⟨k, hk⟩ := chain_of_mem_zeroOrMore hbody h
    exact ⟨k, Nat.zero_le k, hk⟩
  · next n =>
      obtain ⟨d, hd, he⟩ := mem_of_mem_thenEnds h
      obtain ⟨c', hc', hchain⟩ := chain_of_mem_exactly hd
      obtain rfl := List.mem_singleton.mp hc'
      obtain ⟨k, hk⟩ := chain_of_mem_oneOrMore hbody he
      exact ⟨n + (k + 1), by omega, hchain.append hk⟩
  · next m =>
      obtain ⟨d, hd, he⟩ := mem_of_mem_thenEnds h
      obtain ⟨c', hc', hchain⟩ := chain_of_mem_exactly hd
      obtain rfl := List.mem_singleton.mp hc'
      obtain ⟨k, hk⟩ := forall_mem_atMost (motive := fun e => ∃ k, Chain body k d e)
        (by simp) (fun k _ hk => ⟨k, hk⟩) e (List.mem_reverse.mp he)
      exact ⟨least + k, by omega, hchain.append hk⟩

/-! ## Every end is reached over an accepted text -/

/-- What a chain passes is one accepted text for each round. -/
theorem Chain.passes {accepted : List Char → Prop}
    (hbody : ∀ c, ∀ e ∈ body c, ∃ w, c.Passes w e ∧ accepted w) {n : Nat} {c e : Cursor}
    (h : Chain body n c e) :
    ∃ us : List (List Char), us.length = n ∧ (∀ u ∈ us, accepted u) ∧ c.Passes us.flatten e := by
  induction h with
  | stay c => exact ⟨[], rfl, by simp, .nil c⟩
  | round hd _ ih =>
      obtain ⟨w, hw, haccepted⟩ := hbody _ _ hd
      obtain ⟨us, hlen, hus, hpasses⟩ := ih
      refine ⟨w :: us, by rw [List.length_cons, hlen], ?_, hw.append hpasses⟩
      intro u hu
      rcases List.mem_cons.mp hu with rfl | hu
      · exact haccepted
      · exact hus u hu

/-- **Every end of a match is reached over a text of the regex.** -/
theorem accepts_of_mem_ends {beyond : List Char} {r : Regex} {c e : Cursor}
    (h : e ∈ r.ends beyond c) : ∃ w, c.Passes w e ∧ r.Accepts w := by
  induction r generalizing c e with
  | empty =>
      obtain rfl := List.mem_singleton.mp h
      exact ⟨[], .nil _, rfl⟩
  | oneOf set =>
      simp only [ends] at h
      split at h
      · next ch next hstep =>
          split at h
          · next hset =>
              obtain rfl := List.mem_singleton.mp h
              exact ⟨[ch], .step hstep, ch, rfl, hset⟩
          · cases h
      · cases h
  | look condition =>
      simp only [ends] at h
      split at h
      · obtain rfl := List.mem_singleton.mp h
        exact ⟨[], .nil _, rfl⟩
      · cases h
  | seq a b iha ihb =>
      obtain ⟨d, hd, he⟩ := mem_of_mem_thenEnds h
      obtain ⟨u, hu, hua⟩ := iha hd
      obtain ⟨v, hv, hvb⟩ := ihb he
      exact ⟨u ++ v, hu.append hv, u, v, rfl, hua, hvb⟩
  | alt a b iha ihb =>
      rcases mem_of_mem_orElse h with h | h
      · obtain ⟨w, hw, ha⟩ := iha h
        exact ⟨w, hw, .inl ha⟩
      · obtain ⟨w, hw, hb⟩ := ihb h
        exact ⟨w, hw, .inr hb⟩
  | rounds body least most greedy ih =>
      have hforward : Forward (body.ends beyond) := fun c e he =>
        let ⟨w, hw, _⟩ := ih he
        ⟨w, hw⟩
      obtain ⟨k, hk, hchain⟩ := chain_of_mem_repeatEnds hforward h
      obtain ⟨us, hlen, hus, hpasses⟩ := hchain.passes fun _ _ he => ih he
      exact ⟨us.flatten, hpasses, us, rfl, hlen ▸ hk, hus⟩

theorem ends_forward (beyond : List Char) (r : Regex) : Forward (r.ends beyond) :=
  fun _ _ he =>
    let ⟨w, hw, _⟩ := accepts_of_mem_ends he
    ⟨w, hw⟩

/-! ## The first end of a greedy repetition -/

/-- Going on to the first end of the body for as long as there is one. -/
inductive Follows (body : Cursor → List Cursor) : Cursor → Cursor → Prop
  | stop {c : Cursor} : body c = [] → Follows body c c
  | step {c d e : Cursor} :
      (body c).head? = some d → d.offset ≠ c.offset → Follows body d e → Follows body c e

/-- Ends once found stay, and keep their rank. -/
theorem suffix_foldl {f : List Cursor → Cursor → List Cursor}
    (h : ∀ found c, found <:+ f found c) (cs found : List Cursor) :
    found <:+ cs.foldl f found := by
  induction cs generalizing found with
  | nil => exact List.suffix_refl found
  | cons c cs ih => exact (h found c).trans (ih (f found c))

theorem suffix_further (greedy : Bool) (budget : List Char) (c : Cursor)
    (found : List Cursor) : found <:+ further body greedy budget c found := by
  induction budget generalizing c found with
  | nil => exact List.suffix_cons c found
  | cons b budget ih =>
      have hround : ∀ found next, found <:+
          (if next.offset == c.offset || reaches next found then found
            else further body greedy budget next found) := by
        intro found next
        split
        · exact List.suffix_refl found
        · exact ih next found
      simp only [further]
      split
      · exact (suffix_foldl hround _ _).trans (List.suffix_cons _ _)
      · exact (List.suffix_cons _ _).trans (suffix_foldl hround _ _)

theorem Follows.further (hbody : Forward body) {c e : Cursor} (h : Follows body c e)
    {budget : List Char} (hbudget : c.ahead.length ≤ budget.length) :
    [e] <:+ further body true budget c [] := by
  induction h generalizing budget with
  | @stop c hstop =>
      cases budget with
      | nil => exact List.suffix_refl _
      | cons b budget =>
          simp only [Regex.further, hstop]
          exact List.suffix_refl _
  | @step c d e hd hmoved _ ih =>
      have hshorter : d.ahead.length < c.ahead.length :=
        (hbody c d (List.mem_of_mem_head? hd)).length_lt hmoved
      cases budget with
      | nil => simp only [List.length_nil] at hbudget; omega
      | cons b budget =>
          obtain ⟨ds, hds⟩ := List.head?_eq_some_iff.mp hd
          have hmoved' : (d.offset == c.offset) = false := by simpa using hmoved
          simp only [Regex.further, hds, List.foldl_cons, if_true]
          refine List.IsSuffix.trans ?_ (List.suffix_cons _ _)
          refine List.IsSuffix.trans ?_ (suffix_foldl ?_ _ _)
          · have hnew : reaches d [] = false := rfl
            simp only [hmoved', hnew, Bool.or_self, Bool.false_eq_true, if_false]
            simp only [List.length_cons] at hbudget
            exact ih (by omega)
          · intro found next
            split
            · exact List.suffix_refl found
            · exact suffix_further true budget next found

/-- After a first round that moves on, the first end of the repetition is where
following leads. -/
theorem Follows.firstRound (hbody : Forward body) {c d e : Cursor}
    (hd : (body c).head? = some d) (hmoved : d.offset ≠ c.offset) (h : Follows body d e) :
    [e] <:+ firstRound body true c [] := by
  obtain ⟨ds, hds⟩ := List.head?_eq_some_iff.mp hd
  have hmoved' : (d.offset == c.offset) = false := by simpa using hmoved
  have hnew : reaches d [] = false := rfl
  simp only [Regex.firstRound, hds, List.foldl_cons, hmoved', hnew, Bool.false_eq_true, if_false]
  refine (h.further hbody (Nat.le_refl _)).trans (suffix_foldl ?_ _ _)
  intro found next
  split
  · split
    · exact List.suffix_refl found
    · exact List.suffix_cons _ _
  · split
    · exact List.suffix_refl found
    · exact suffix_further _ _ _ _

theorem head?_reverse_of_suffix {e : Cursor} {found : List Cursor} (h : [e] <:+ found) :
    found.reverse.head? = some e := by
  obtain ⟨later, rfl⟩ := h
  simp

theorem Follows.head?_oneOrMore (hbody : Forward body) {c d e : Cursor}
    (hd : (body c).head? = some d) (hmoved : d.offset ≠ c.offset) (h : Follows body d e) :
    (oneOrMore body true c).head? = some e :=
  head?_reverse_of_suffix (h.firstRound hbody hd hmoved)

theorem Follows.head?_zeroOrMore (hbody : Forward body) {c e : Cursor} (h : Follows body c e) :
    (zeroOrMore body true c).head? = some e := by
  simp only [zeroOrMore, if_true]
  apply head?_reverse_of_suffix
  cases h with
  | stop hstop =>
      simp only [Regex.firstRound, hstop]
      exact List.suffix_refl _
  | step hd hmoved h =>
      have hfound := h.firstRound hbody hd hmoved
      split
      · exact hfound
      · exact hfound.trans (List.suffix_cons _ _)

/-! ## The match taken -/

section Taken

variable {a b : Regex} {beyond : List Char} {c d e : Cursor}

theorem matchEnd?_eq_none_iff : a.matchEnd? beyond c = none ↔ a.ends beyond c = [] :=
  List.head?_eq_none_iff

theorem matchEnd?_seq (ha : a.matchEnd? beyond c = some d) (hb : b.matchEnd? beyond d = some e) :
    (Regex.seq a b).matchEnd? beyond c = some e :=
  head?_thenEnds ha hb

theorem matchEnd?_seq_of_none (ha : a.matchEnd? beyond c = none) :
    (Regex.seq a b).matchEnd? beyond c = none := by
  rw [matchEnd?_eq_none_iff] at ha ⊢
  simp only [ends, ha, thenEnds]

/-- After a part that ends in one place only, the rest decides. -/
theorem matchEnd?_seq_of_ends_eq (ha : a.ends beyond c = [d]) :
    (Regex.seq a b).matchEnd? beyond c = b.matchEnd? beyond d := by
  simp only [matchEnd?, ends, ha, thenEnds]

theorem matchEnd?_alt (ha : a.matchEnd? beyond c = some d) :
    (Regex.alt a b).matchEnd? beyond c = some d := by
  simp only [matchEnd?] at ha
  simp only [matchEnd?, ends, head?_orElse, List.head?_append, ha, Option.some_or]

theorem matchEnd?_alt_of_none (ha : a.matchEnd? beyond c = none) :
    (Regex.alt a b).matchEnd? beyond c = b.matchEnd? beyond c := by
  rw [matchEnd?_eq_none_iff] at ha
  simp only [matchEnd?, ends, head?_orElse, ha, List.nil_append]

theorem matchEnd?_zeroOrMore (h : Follows (a.ends beyond) c e) :
    (Regex.rounds a 0 none true).matchEnd? beyond c = some e :=
  h.head?_zeroOrMore (ends_forward beyond a)

theorem matchEnd?_oneOrMore (hd : a.matchEnd? beyond c = some d) (hmoved : d.offset ≠ c.offset)
    (h : Follows (a.ends beyond) d e) :
    (Regex.rounds a 1 none true).matchEnd? beyond c = some e :=
  h.head?_oneOrMore (ends_forward beyond a) hd hmoved

theorem matchEnd?_oneOrMore_of_none (ha : a.matchEnd? beyond c = none) :
    (Regex.rounds a 1 none true).matchEnd? beyond c = none := by
  rw [matchEnd?_eq_none_iff] at ha ⊢
  show oneOrMore (a.ends beyond) true c = []
  simp only [oneOrMore, Regex.firstRound, ha, List.foldl_nil, List.reverse_nil]

end Taken

/-! ## Characters -/

variable {beyond : List Char} {set : CharSet}

theorem ends_oneOf_of_mem {c d : Cursor} {ch : Char} (h : c.Passes [ch] d)
    (hset : set.contains ch = true) : (Regex.oneOf set).ends beyond c = [d] := by
  simp only [ends, Cursor.step?_eq_some_iff.mpr h, hset, if_true]

/-- A set of characters does not match before a character outside it, nor at the end. -/
theorem ends_oneOf_of_not_mem {c : Cursor}
    (h : ∀ ch, c.ahead.head? = some ch → set.contains ch = false) :
    (Regex.oneOf set).ends beyond c = [] := by
  simp only [ends]
  cases hstep : c.step? with
  | none => rfl
  | some next =>
      obtain ⟨ch, d⟩ := next
      have hahead := (Cursor.Passes.step hstep).ahead
      rw [hahead] at h
      simp only [h ch rfl, Bool.false_eq_true, if_false]

/-- A repeated set of characters goes on to the first character outside it. -/
theorem follows_oneOf {c e : Cursor} {text : List Char} (h : c.Passes text e)
    (htext : ∀ ch ∈ text, set.contains ch = true)
    (hend : ∀ ch, e.ahead.head? = some ch → set.contains ch = false) :
    Follows ((Regex.oneOf set).ends beyond) c e := by
  induction text generalizing c with
  | nil =>
      rw [h.eq_of_nil] at hend ⊢
      exact .stop (ends_oneOf_of_not_mem hend)
  | cons ch text ih =>
      obtain ⟨d, hd, hrest⟩ := h.cons
      have hends : (Regex.oneOf set).ends beyond c = [d] :=
        ends_oneOf_of_mem hd (htext ch List.mem_cons_self)
      exact .step (by rw [hends]; rfl) hd.offset_ne
        (ih hrest fun ch' hch' => htext ch' (List.mem_cons_of_mem _ hch'))

end OperatorPeg.Regex
