import OperatorPeg.Proofs.Places
import OperatorPeg.Regex.Escape

/-!
# Places in a regex

A scanner only moves on, over whole characters, whatever it skips. So the spans from where it
has been to where it is lie between characters of the regex, and faults and parts of the
notation are shown by such spans.
-/

namespace OperatorPeg.Regex

/-! ## Scanners on their way -/

namespace Scanner

/-- Moving on from `s`, a scanner comes to `s'`. -/
def Reaches (s s' : Scanner) : Prop :=
  ∃ text, s.rest = text ++ s'.rest ∧ s'.offset = s.offset + Text.byteLength text

variable {s s' s'' : Scanner}

namespace Reaches

theorem refl (s : Scanner) : s.Reaches s := ⟨[], rfl, rfl⟩

theorem trans (h : s.Reaches s') (h' : s'.Reaches s'') : s.Reaches s'' := by
  obtain ⟨text, hrest, hoffset⟩ := h
  obtain ⟨text', hrest', hoffset'⟩ := h'
  refine ⟨text ++ text', by rw [hrest, hrest', List.append_assoc], ?_⟩
  rw [hoffset', hoffset, Text.byteLength_append, Nat.add_assoc]

theorem offset_le (h : s.Reaches s') : s.offset ≤ s'.offset := by
  obtain ⟨_, _, hoffset⟩ := h
  omega

end Reaches

theorem reaches_bump (s : Scanner) : s.Reaches s.bump := by
  unfold bump
  split
  · exact .refl s
  · next c rest hrest => exact ⟨[c], hrest, rfl⟩

theorem reaches_bumpBy (n : Nat) (s : Scanner) : s.Reaches (s.bumpBy n) := by
  induction n generalizing s with
  | zero => exact .refl s
  | succ n ih => exact s.reaches_bump.trans (ih s.bump)

theorem reaches_skipFrom (inComment : Bool) (cs : List Char) (offset : Nat) :
    ∃ text, cs = text ++ (skipFrom inComment cs offset).1 ∧
      (skipFrom inComment cs offset).2 = offset + Text.byteLength text := by
  induction cs generalizing inComment offset with
  | nil => exact ⟨[], rfl, rfl⟩
  | cons c cs ih =>
      have hskipped : ∀ inComment, ∃ text,
          c :: cs = text ++ (skipFrom inComment cs (offset + c.utf8Size)).1 ∧
            (skipFrom inComment cs (offset + c.utf8Size)).2 = offset + Text.byteLength text := by
        intro inComment
        obtain ⟨text, hrest, hoffset⟩ := ih inComment (offset + c.utf8Size)
        refine ⟨c :: text, by rw [List.cons_append, ← hrest], ?_⟩
        rw [hoffset, Text.byteLength, Nat.add_assoc]
      unfold skipFrom
      split
      · exact hskipped _
      · split
        · exact hskipped _
        · split
          · exact hskipped _
          · exact ⟨[], rfl, rfl⟩

theorem reaches_skipSpace (s : Scanner) : s.Reaches s.skipSpace := by
  unfold skipSpace
  split
  · exact reaches_skipFrom false s.rest s.offset
  · exact .refl s

theorem reaches_bumpSpace (s : Scanner) : s.Reaches s.bumpSpace := by
  unfold bumpSpace
  split
  · exact .refl s
  · exact s.reaches_bump.trans s.bump.reaches_skipSpace

theorem reaches_bump_bumpSpace (s : Scanner) : s.bump.Reaches s.bumpSpace := by
  unfold bumpSpace
  split
  · next hend =>
      rw [atEnd, List.isEmpty_iff] at hend
      simp only [bump, hend]
      exact .refl s
  · exact s.bump.reaches_skipSpace

theorem reaches_skipBlanks (s : Scanner) : s.Reaches s.skipBlanks := reaches_bumpBy _ s

theorem reaches_of_bumpIf? {text : String} (h : s.bumpIf? text = some s') : s.Reaches s' := by
  simp only [bumpIf?] at h
  split at h
  · cases h
    exact reaches_bumpBy _ s
  · cases h

/-- One of two ways to move on. -/
theorem reaches_of_orElse {first second : Option Scanner} (hfirst : ∀ s' ∈ first, s.Reaches s')
    (hsecond : ∀ s' ∈ second, s.Reaches s') : ∀ s' ∈ first <|> second, s.Reaches s' := by
  cases first with
  | none => exact hsecond
  | some s' => exact hfirst

end Scanner

/-! ## Places -/

/-- The offset lies between two characters of the regex. -/
def IsPlace (source : List Char) (offset : Nat) : Prop := Text.StandsAt source offset []

/-- Both ends lie between two characters of the regex. -/
structure Spans (source : List Char) (span : Span) : Prop where
  starts : IsPlace source span.start
  ends : IsPlace source span.stop
  ordered : span.start ≤ span.stop

/-- The scanner has the rest of the regex ahead. -/
def Scanner.ScansIn (source : List Char) (s : Scanner) : Prop :=
  ∃ passed, source = passed ++ s.rest ∧ Text.byteLength passed = s.offset

namespace Scanner

variable {source : List Char} {s s' : Scanner}

theorem scansIn_atStart (source : List Char) : (atStart source).ScansIn source := ⟨[], rfl, rfl⟩

namespace ScansIn

theorem reaches (h : s.ScansIn source) (hr : s.Reaches s') : s'.ScansIn source := by
  obtain ⟨passed, hsource, hoffset⟩ := h
  obtain ⟨text, hrest, hoffset'⟩ := hr
  refine ⟨passed ++ text, by rw [hsource, hrest, List.append_assoc], ?_⟩
  rw [Text.byteLength_append, hoffset, hoffset']

theorem isPlace (h : s.ScansIn source) : IsPlace source s.offset := by
  obtain ⟨passed, hsource, hoffset⟩ := h
  exact ⟨passed, _, hsource, hoffset⟩

/-- What a scanner has passed makes a span. -/
theorem spans (h : s.ScansIn source) (hr : s.Reaches s') : Spans source ⟨s.offset, s'.offset⟩ :=
  ⟨h.isPlace, (h.reaches hr).isPlace, hr.offset_le⟩

theorem spans_here (h : s.ScansIn source) : Spans source s.here := h.spans (.refl s)

theorem spans_charSpan (h : s.ScansIn source) : Spans source s.charSpan :=
  h.spans s.reaches_bump

end ScansIn

end Scanner

/-! ## Results of reading -/

/-- The span of the fault lies between characters of the regex. The span of a look-around starts
with its parenthesis. -/
structure SyntaxError.IsPlaced (source : List Char) (e : SyntaxError) : Prop where
  spans : Spans source e.span
  opening : e.fault = .lookAround → Text.StandsAt source e.span.start ['(']

/-- A fault has its place in the regex, and what is read is as described. -/
structure Reads {α : Type} (source : List Char) (good : α → Prop) (x : Except SyntaxError α) :
    Prop where
  fault : ∀ e, x = .error e → e.IsPlaced source
  result : ∀ a, x = .ok a → good a

section Reads

variable {α β : Type} {source : List Char} {good : α → Prop} {fine : β → Prop}

theorem Reads.error {e : SyntaxError} (h : e.IsPlaced source) :
    Reads source good (.error e) where
  fault _ heq := Except.error.inj heq ▸ h
  result := nofun

theorem Reads.ok {a : α} (h : good a) : Reads source good (.ok a) where
  fault := nofun
  result _ heq := Except.ok.inj heq ▸ h

theorem Reads.bind {x : Except SyntaxError α} {f : α → Except SyntaxError β}
    (hx : Reads source good x) (hf : ∀ a, good a → Reads source fine (f a)) :
    Reads source fine (x >>= f) := by
  cases x with
  | error e => exact .error (hx.fault e rfl)
  | ok a => exact hf a (hx.result a rfl)

theorem Reads.imp {good' : α → Prop} {x : Except SyntaxError α} (hx : Reads source good x)
    (h : ∀ a, good a → good' a) : Reads source good' x :=
  ⟨hx.fault, fun a ha => h a (hx.result a ha)⟩

theorem reads_failAt {span : Span} {fault : Fault} (h : Spans source span)
    (hfault : fault ≠ .lookAround) : Reads source good (failAt span fault : Except _ α) :=
  .error ⟨h, fun heq => absurd heq hfault⟩

/-- Reading goes on unless it fails here. -/
theorem Reads.unless {p : Prop} [Decidable p] {span : Span} {fault : Fault}
    {f : α → Except SyntaxError β} {next : Except SyntaxError β} (hspan : p → Spans source span)
    (hfault : fault ≠ .lookAround) (hnext : ¬ p → Reads source fine next) :
    Reads source fine (if p then failAt span fault >>= f else next) := by
  split
  case isTrue hp => exact reads_failAt (hspan hp) hfault
  case isFalse hp => exact hnext hp

end Reads

/-! ## Escapes -/

section Escapes

variable {source : List Char} {s : Scanner}

/-- What is read from `s` on ends where the result says, and is as described. -/
def Onward {α : Type} (s : Scanner) (result : α × Scanner) : Prop := s.Reaches result.2

/-- What is read goes from `s` to where its span ends. -/
def Covers (s : Scanner) (result : Placed × Scanner) : Prop :=
  s.Reaches result.2 ∧ result.1.span = result.2.since s.offset

theorem reads_hexDigits (hs : s.ScansIn source) (first : Bool) (digits code : Nat) :
    Reads source (Onward s) (hexDigits first digits code s) := by
  induction digits generalizing first code s with
  | zero => exact .ok (.refl s)
  | succ digits ih =>
      have hnext : s.Reaches (if first then s else s.bumpSpace) := by
        split
        · exact .refl s
        · exact s.reaches_bumpSpace
      have hs' := hs.reaches hnext
      simp only [hexDigits]
      generalize (if first then s else s.bumpSpace) = s' at hnext hs'
      split
      · exact reads_failAt hs'.spans_here nofun
      · split
        · exact reads_failAt hs'.spans_charSpan nofun
        · exact (ih hs' false _).imp fun _ => hnext.trans

theorem reads_hexFixed (hs : s.ScansIn source) (digits : Nat) :
    Reads source (Onward s) (hexFixed digits s) := by
  refine (reads_hexDigits hs true digits 0).bind fun ⟨code, after⟩ hafter => ?_
  have hbehind : s.Reaches after.bumpSpace := hafter.trans after.reaches_bumpSpace
  simp only
  split
  · exact reads_failAt (hs.spans hbehind) nofun
  · exact .ok hbehind

/-- The digits stand behind a brace, which is passed first. -/
theorem reads_hexUntilBrace (hs : s.ScansIn source) (fuel : Nat) (digits : List Nat) :
    Reads source (Onward s.bump) (hexUntilBrace (fuel + 1) digits s) := by
  induction fuel generalizing digits s with
  | zero =>
      have hnext := s.reaches_bump_bumpSpace
      have hs' := hs.reaches s.reaches_bumpSpace
      rw [hexUntilBrace]
      split
      · exact .ok hnext
      · exact .ok hnext
      · split
        · exact reads_failAt hs'.spans_charSpan nofun
        · exact .ok hnext
  | succ fuel ih =>
      have hnext := s.reaches_bump_bumpSpace
      have hs' := hs.reaches s.reaches_bumpSpace
      rw [hexUntilBrace]
      split
      · exact .ok hnext
      · exact .ok hnext
      · split
        · exact reads_failAt hs'.spans_charSpan nofun
        · exact (ih hs' _).imp fun _ h => hnext.trans (s.bumpSpace.reaches_bump.trans h)

theorem reads_hexBraced (hs : s.ScansIn source) : Reads source (Onward s) (hexBraced s) := by
  refine (reads_hexUntilBrace hs _ []).bind fun ⟨digits, closing⟩ hclosing => ?_
  have hinside := s.reaches_bump
  have hbehind := hinside.trans (hclosing.trans closing.reaches_bumpSpace)
  refine .unless (fun _ => hs.spans (hinside.trans hclosing)) nofun fun _ => ?_
  refine .unless (fun _ => hs.spans hbehind) nofun fun _ => ?_
  dsimp only
  split
  · exact reads_failAt ((hs.reaches hinside).spans hclosing) nofun
  · exact .ok hbehind

theorem reads_hex (hs : s.ScansIn source) (letter : Char) :
    Reads source (Onward s) (hex letter s) := by
  have hnext := s.reaches_bumpSpace
  have hs' := hs.reaches hnext
  rw [hex]
  split
  · exact reads_failAt hs'.spans_here nofun
  · exact (reads_hexBraced hs').bind fun _ h => .ok (hnext.trans h)
  · exact (reads_hexFixed hs' _).bind fun _ h => .ok (hnext.trans h)

theorem reaches_textUntilBrace (fuel : Nat) (text : List Char) (s : Scanner) :
    s.Reaches (textUntilBrace fuel text s).2 := by
  induction fuel generalizing text s with
  | zero => exact .refl s
  | succ fuel ih =>
      have hnext := s.reaches_bumpSpace
      simp only [textUntilBrace]
      split
      · exact hnext
      · split
        · exact hnext
        · exact hnext.trans (ih _ s.bumpSpace)

theorem reads_property (hs : s.ScansIn source) : Reads source (Onward s) (property s) := by
  have hnext := s.reaches_bumpSpace
  have hs' := hs.reaches hnext
  simp only [property]
  split
  · exact reads_failAt hs'.spans_here nofun
  · have hclosing := reaches_textUntilBrace (s.bumpSpace.rest.length + 1) [] s.bumpSpace
    split
    · exact reads_failAt (hs'.reaches hclosing).spans_here nofun
    · exact .ok (hnext.trans (hclosing.trans (Scanner.reaches_bump _)))
  · exact reads_failAt hs'.spans_charSpan nofun
  · exact .ok (hnext.trans s.bumpSpace.reaches_bumpSpace)

theorem reaches_boundaryName (fuel : Nat) (name : List Char) (s : Scanner) :
    s.Reaches (boundaryName fuel name s).2 := by
  induction fuel generalizing name s with
  | zero => exact .refl s
  | succ fuel ih =>
      simp only [boundaryName]
      split
      · split
        · exact s.reaches_bumpSpace.trans (ih _ s.bumpSpace)
        · exact .refl s
      · exact .refl s

/-- A named boundary ends behind its brace. -/
theorem reads_namedBoundary? {start : Scanner} (hstart : start.ScansIn source)
    (hr : start.Reaches s) :
    Reads source (fun found => ∀ result ∈ found, Onward s result)
      (namedBoundary? start.offset s) := by
  have hs := hstart.reaches hr
  have hinside := s.reaches_bumpSpace
  have hname := reaches_boundaryName s.bumpSpace.rest.length [] s.bumpSpace
  have hbehind := hinside.trans hname
  have hfound : ∀ kind : Anchor, Reads source (fun found => ∀ result ∈ found, Onward s result)
      (.ok (some (kind, (boundaryName s.bumpSpace.rest.length [] s.bumpSpace).2.bump))) := by
    refine fun kind => .ok ?_
    rintro result heq
    cases heq
    exact hbehind.trans (Scanner.reaches_bump _)
  simp only [namedBoundary?]
  split
  · exact reads_failAt (hstart.spans (hr.trans hinside)) nofun
  · split
    · exact .ok nofun
    · split
      · exact reads_failAt (hs.spans hbehind) nofun
      · split
        · exact hfound _
        · exact hfound _
        · exact hfound _
        · exact hfound _
        · exact reads_failAt ((hs.reaches hinside).spans hname) nofun

/-- An escape covers the text from its backslash to where reading goes on. -/
theorem reads_escape (hs : s.ScansIn source) : Reads source (Covers s) (readEscape s) := by
  have hletter := s.reaches_bump
  have hafter := hletter.trans s.bump.reaches_bump
  have hs' := hs.reaches hletter
  have hone : ∀ p : Primitive,
      Reads source (Covers s) (.ok (⟨p, s.bump.bump.since s.offset⟩, s.bump.bump)) :=
    fun p => .ok ⟨hafter, rfl⟩
  simp only [readEscape]
  split
  · exact reads_failAt (hs.spans hletter) nofun
  · split
    · exact reads_failAt (hs.spans hafter) nofun
    · split
      · exact (reads_hex hs' _).bind fun _ h => .ok ⟨hletter.trans h, rfl⟩
      · split
        · exact (reads_property hs').bind fun _ h => .ok ⟨hletter.trans h, rfl⟩
        · split
          case h_18 =>
            split
            · refine (reads_namedBoundary? hs hafter).bind fun found hfound => ?_
              split
              · exact .ok ⟨hafter.trans (hfound _ rfl), rfl⟩
              · exact hone _
            · exact hone _
          case h_19 =>
            split
            · exact hone _
            · exact reads_failAt (hs.spans hafter) nofun
          all_goals exact hone _

end Escapes

end OperatorPeg.Regex
