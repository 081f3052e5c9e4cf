import OperatorPeg.Text.Bytes
import OperatorPeg.Text.Escaped

/-!
# Writing that can be read back

What is written of different numbers is different, to any base with digits, and so is what is
written of different texts between double quotes. A character that is written as more than
itself begins with a backslash and says where it ends, so the characters of a text are read
off one after the other, whatever comes behind them.
-/

namespace OperatorPeg.Text

/-! ## Parts of a text -/

theorem toList_indentation (depth : Nat) :
    (repeated depth "  ").toList = List.replicate (2 * depth) ' ' := by
  unfold repeated
  induction depth with
  | zero => rfl
  | succ depth ih =>
      rw [List.replicate_succ, String.join_cons, String.toList_append, ih]
      rfl

section

variable {kind : Char → Bool} {a b u v : List Char}

/-- The characters of a kind that a text begins with. -/
theorem takeWhile_append_of_kind (ha : ∀ c ∈ a, kind c = true)
    (hu : ∀ c ∈ u.head?, kind c = false) : (a ++ u).takeWhile kind = a := by
  rw [List.takeWhile_append_of_pos ha]
  cases u with
  | nil => exact List.append_nil a
  | cons c u => rw [List.takeWhile_cons_of_neg (by simp [hu c rfl]), List.append_nil]

/-- A text is cut in one way only into characters of a kind and something that does not begin
with one. -/
theorem append_inj_of_kind (ha : ∀ c ∈ a, kind c = true) (hb : ∀ c ∈ b, kind c = true)
    (hu : ∀ c ∈ u.head?, kind c = false) (hv : ∀ c ∈ v.head?, kind c = false)
    (h : a ++ u = b ++ v) : a = b ∧ u = v := by
  have hab : a = b := by
    rw [← takeWhile_append_of_kind ha hu, h, takeWhile_append_of_kind hb hv]
  subst hab
  exact ⟨rfl, List.append_cancel_left h⟩

end

theorem bne_of_notMem {mark : Char} {a : List Char} (h : mark ∉ a) :
    ∀ c ∈ a, (c != mark) = true := by
  intro c hc
  rw [bne_iff_ne]
  rintro rfl
  exact h hc

/-- A text is cut in one way only where a character comes first. -/
theorem append_cons_inj {mark : Char} {a b u v : List Char} (ha : mark ∉ a) (hb : mark ∉ b)
    (h : a ++ mark :: u = b ++ mark :: v) : a = b ∧ u = v := by
  obtain ⟨hab, huv⟩ := append_inj_of_kind (bne_of_notMem ha) (bne_of_notMem hb)
    (by rintro _ ⟨⟩; exact bne_self_eq_false mark)
    (by rintro _ ⟨⟩; exact bne_self_eq_false mark) h
  exact ⟨hab, (List.cons.inj huv).2⟩

/-! ## Numbers -/

section

variable {base : Nat} (hbase : 1 < base) (hdigits : base ≤ 16)

include hbase

theorem exists_digit_of_mem_toDigits {n : Nat} {c : Char} (h : c ∈ Nat.toDigits base n) :
    ∃ d < base, c = Nat.digitChar d := by
  induction n using Nat.strongRecOn with
  | ind n ih =>
      rw [Nat.toDigits_eq_if hbase] at h
      split at h
      · next hlt => exact ⟨n, hlt, List.mem_singleton.mp h⟩
      · next hge =>
          rcases List.mem_append.mp h with h | h
          · exact ih (n / base) (Nat.div_lt_self (by omega) hbase) h
          · exact ⟨n % base, Nat.mod_lt _ (by omega), List.mem_singleton.mp h⟩

include hdigits

theorem notMem_toDigits {mark : Char} (h : ∀ d < 16, Nat.digitChar d ≠ mark) (n : Nat) :
    mark ∉ Nat.toDigits base n := by
  intro hmem
  obtain ⟨d, hd, rfl⟩ := exists_digit_of_mem_toDigits hbase hmem
  exact h d (by omega) rfl

/-- Different numbers have different digits. -/
theorem toDigits_inj {m n : Nat} (h : Nat.toDigits base m = Nat.toDigits base n) : m = n := by
  have hdigit : ∀ d < base, ∀ e < base, Nat.digitChar d = Nat.digitChar e → d = e := by
    intro d hd e he
    have hall : ∀ d < 16, ∀ e < 16, Nat.digitChar d = Nat.digitChar e → d = e := by decide
    exact hall d (by omega) e (by omega)
  induction m using Nat.strongRecOn generalizing n with
  | ind m ih =>
      rw [Nat.toDigits_eq_if hbase, Nat.toDigits_eq_if (n := n) hbase] at h
      split at h <;> split at h
      · next hm hn => exact hdigit m hm n hn (List.singleton_inj.mp h)
      · exact absurd (List.append_eq_singleton_iff.mp h.symm) (by simp [Nat.toDigits_ne_nil])
      · exact absurd (List.append_eq_singleton_iff.mp h) (by simp [Nat.toDigits_ne_nil])
      · next hm hn =>
          obtain ⟨hfront, hlast⟩ := List.append_inj' h rfl
          have hdiv := ih (m / base) (Nat.div_lt_self (by omega) hbase) hfront
          have hmod := hdigit _ (Nat.mod_lt _ (by omega)) _ (Nat.mod_lt _ (by omega))
            (List.singleton_inj.mp hlast)
          rw [← Nat.div_add_mod m base, hdiv, hmod, Nat.div_add_mod]

end

theorem toString_inj {m n : Nat} (h : toString m = toString n) : m = n := by
  rw [Nat.toString_eq_ofList_toDigits, Nat.toString_eq_ofList_toDigits, String.ofList_inj] at h
  exact toDigits_inj (by decide) (by decide) h

/-! ## Escaped texts -/

/-- The characters that are written by a letter. -/
def namedEscapes : List (Char × Char) :=
  [('"', '"'), ('\\', '\\'), ('\t', 't'), ('\r', 'r'), ('\n', 'n'), ('\x00', '0')]

/-- A character is written by a letter, as itself or by number. -/
theorem escapeChar_cases (c : Char) :
    (∃ letter, (c, letter) ∈ namedEscapes ∧ escapeChar c = ['\\', letter]) ∨
    (c ≠ '\\' ∧ c ≠ '\n' ∧ escapeChar c = [c]) ∨
    escapeChar c = '\\' :: 'u' :: '{' :: (Nat.toDigits 16 c.toNat ++ ['}']) := by
  unfold escapeChar
  split
  iterate 6
    · exact .inl ⟨_, by decide, rfl⟩
  · next hbackslash _ _ hfeed _ =>
      split
      · exact .inr (.inl ⟨hbackslash, hfeed, rfl⟩)
      · exact .inr (.inr rfl)

/-- What a character is written as says where it ends. -/
theorem escapeChar_append_inj {c d : Char} {u v : List Char}
    (h : escapeChar c ++ u = escapeChar d ++ v) : c = d ∧ u = v := by
  have hnames : ∀ p ∈ namedEscapes, ∀ q ∈ namedEscapes, p.2 = q.2 → p.1 = q.1 := by decide
  have hnumber : ∀ p ∈ namedEscapes, p.2 ≠ 'u' := by decide
  have hbrace : ∀ n, '}' ∉ Nat.toDigits 16 n :=
    notMem_toDigits (by decide) (by decide) (by decide)
  rcases escapeChar_cases c with ⟨a, ha, hc⟩ | ⟨hc', -, hc⟩ | hc <;>
    rcases escapeChar_cases d with ⟨b, hb, hd⟩ | ⟨hd', -, hd⟩ | hd <;>
    simp only [hc, hd, List.cons_append, List.nil_append, List.cons.injEq, true_and,
      List.append_assoc] at h
  · exact ⟨hnames _ ha _ hb h.1, h.2⟩
  · exact absurd h.1.symm hd'
  · exact absurd h.1 (hnumber _ ha)
  · exact absurd h.1 hc'
  · exact h
  · exact absurd h.1 hc'
  · exact absurd h.1.symm (hnumber _ hb)
  · exact absurd h.1.symm hd'
  · obtain ⟨hdigits, huv⟩ := append_cons_inj (hbrace _) (hbrace _) h
    exact ⟨Char.toNat_inj.mp (toDigits_inj (by decide) (by decide) hdigits), huv⟩

theorem escapeChar_ne_nil (c : Char) : escapeChar c ≠ [] := by
  rcases escapeChar_cases c with ⟨_, -, hc⟩ | ⟨-, -, hc⟩ | hc <;> simp [hc]

/-- An escaped text stands on one line. -/
theorem lineFeed_notMem_escaped (text : String) : '\n' ∉ (escaped text).toList := by
  have hdigits : ∀ n, '\n' ∉ Nat.toDigits 16 n :=
    notMem_toDigits (by decide) (by decide) (by decide)
  have hchar : ∀ c, '\n' ∉ escapeChar c := by
    intro c
    have hnames : ∀ p ∈ namedEscapes, '\n' ≠ p.2 := by decide
    rcases escapeChar_cases c with ⟨letter, hletter, hc⟩ | ⟨-, hfeed, hc⟩ | hc
    · simp [hc, hnames _ hletter]
    · simp [hc, hfeed.symm]
    · simp [hc, hdigits]
  simp [escaped, hchar]

/-- **Different texts are written differently.** -/
theorem escaped_inj {a b : String} (h : escaped a = escaped b) : a = b := by
  have hchars : ∀ {a b : List Char}, a.flatMap escapeChar = b.flatMap escapeChar → a = b := by
    intro a
    induction a with
    | nil =>
        rintro (_ | ⟨d, b⟩) h
        · rfl
        · exact absurd (List.append_eq_nil_iff.mp h.symm).1 (escapeChar_ne_nil d)
    | cons c a ih =>
        rintro (_ | ⟨d, b⟩) h
        · exact absurd (List.append_eq_nil_iff.mp h).1 (escapeChar_ne_nil c)
        · obtain ⟨rfl, hrest⟩ := escapeChar_append_inj h
          rw [ih hrest]
  have hlists := congrArg String.toList h
  simp only [escaped, String.toList_ofList, List.cons.injEq, true_and] at hlists
  exact String.toList_inj.mp (hchars (List.append_cancel_right hlists))

end OperatorPeg.Text
