import OperatorPeg.Proofs.Reporting

/-!
# Rules entered and left

A parse leaves every rule that it enters, also when something ends it within the rule, in
trivia or in a lookahead. So what happens in a parse falls into episodes: an event that is not
about rules is an episode by itself, and a rule that is entered is one up to where it is left,
with the episodes within the rule inside it.

That what happens in a match is a list of episodes is a law about the course of a parse, so no
loop is opened for it.
-/

namespace OperatorPeg

/-- Whether a rule is entered or left. -/
def Event.isCall : Event → Bool
  | .entered .. | .left .. => true
  | _ => false

/-- What happens in a parse at one time. -/
inductive Episode where
  | single (event : Event) (notCall : event.isCall = false)
  /-- The rule is entered at `offset` and left, at `stop` if it matched. -/
  | call (rule : String) (offset : Nat) (inside : List Episode) (stop : Option Nat)

namespace Episode

mutual
/-- The events of an episode. The rule that is left is the one that was entered. -/
def events : Episode → List Event
  | single event _ => [event]
  | call rule offset inside stop =>
      .entered rule offset :: (eventsOfAll inside ++ [.left rule stop])

def eventsOfAll : List Episode → List Event
  | [] => []
  | episode :: episodes => episode.events ++ eventsOfAll episodes
end

theorem eventsOfAll_append (before after : List Episode) :
    eventsOfAll (before ++ after) = eventsOfAll before ++ eventsOfAll after := by
  induction before with
  | nil => rfl
  | cons episode before ih => simp only [List.cons_append, eventsOfAll, ih, List.append_assoc]

end Episode

/-! ## The course of a parse -/

/-- What has happened between two states of a parse is a list of episodes. -/
def State.GoesThrough (s s' : State) : Prop :=
  ∃ episodes, s'.events.reverse = s.events.reverse ++ Episode.eventsOfAll episodes

namespace State.GoesThrough

variable {s s₁ s₂ : State}

/-- Nothing has happened if nothing was written down. -/
theorem of_events_eq (h : s₁.events = s.events) : s.GoesThrough s₁ :=
  ⟨[], by rw [h, Episode.eventsOfAll, List.append_nil]⟩

theorem trans (h₁ : s.GoesThrough s₁) (h₂ : s₁.GoesThrough s₂) : s.GoesThrough s₂ := by
  obtain ⟨before, hbefore⟩ := h₁
  obtain ⟨after, hafter⟩ := h₂
  exact ⟨before ++ after, by rw [hafter, hbefore, Episode.eventsOfAll_append, List.append_assoc]⟩

theorem add {e : Event} (he : e.isCall = false) : s.GoesThrough (s.add e) :=
  ⟨[.single e he], List.reverse_cons⟩

theorem fail (frame : Frame) (f : Failure) : s.GoesThrough (s.fail frame f) := by
  unfold State.fail
  split
  · exact .of_events_eq rfl
  · exact .add rfl

/-- What happens between entering a rule and leaving it is inside one episode. -/
theorem call (rule : String) (stop : Option Nat)
    (h : (s.add (.entered rule s.cursor.offset)).GoesThrough s₁) :
    s.GoesThrough (s₁.add (.left rule stop)) := by
  obtain ⟨inside, hinside⟩ := h
  refine ⟨[.call rule s.cursor.offset inside stop], ?_⟩
  simp only [State.add, List.reverse_cons] at hinside ⊢
  simp only [hinside, Episode.eventsOfAll, Episode.events, List.append_nil, List.append_assoc,
    List.cons_append, List.nil_append]

theorem isCourse : State.IsCourse State.GoesThrough where
  refl := fun _ => .of_events_eq rfl
  trans := .trans
  note := by
    intro s e he
    refine .add ?_
    cases e with
    | entered | left => cases he
    | _ => rfl
  call := .call
  missToken := fun frame _ => .fail frame _
  missTerm := by
    rintro s after frame ⟨episodes, h⟩
    exact .trans ⟨episodes, h⟩ (.fail frame _)
  abort := fun cause => .of_events_eq (State.events_abort ..)
  spend := fun _ => .of_events_eq rfl
  move := fun _ => .of_events_eq rfl
  back := id

end State.GoesThrough

/-! ## Parses -/

/-- What is so between states along a parse is so between its beginning, where nothing has
happened yet, and the state whose events it reports. -/
theorem parseWindow_along {R : State → State → Prop} (hR : State.IsCourse R) {layers : Nat}
    {rules : Rules} {limits : Limits} {start : Start} {window : Window} {report : Report}
    (h : parseWindow layers rules limits start window = some report) :
    ∃ s, R (State.start window.start limits.fuel) s ∧ report.events = s.events.reverse := by
  cases hp : start.pattern? rules with
  | none =>
      obtain ⟨name, hundefined⟩ := parseWindow_of_undefined hp
      rw [hundefined] at h
      cases h
      exact ⟨_, hR.refl _, rfl⟩
  | some p =>
      rw [parseWindow_of_defined hp] at h
      obtain ⟨o, ho, hconclude⟩ := Option.bind_eq_some_iff.mp h
      have hmatch := matchPattern_along hR ⟨rules, window.beyond, limits.depth⟩ layers
      have hleft : R (State.start window.start limits.fuel) (start.leave o).state :=
        start.along hR (hmatch _ _ _ _ ho)
      cases conclude_eq_some_iff.mp hconclude with
      | missed => exact ⟨_, hleft, rfl⟩
      | reached _ hskip => exact ⟨_, hR.trans hleft (hskip.along hR hmatch), rfl⟩
      | short _ hskip =>
          have hskipped := hR.trans hleft (hskip.along hR hmatch)
          exact ⟨_, hR.trans hskipped (hR.missToken .outermost endOfInput), rfl⟩

/-- **Every rule that a parse enters is left in turn.** -/
theorem exists_episodes {layers : Nat} {rules : Rules} {limits : Limits} {start : Start}
    {source : String} {first last : Nat} {report : Report}
    (h : parseWithin layers rules limits start source first last = some report) :
    ∃ episodes, report.events = Episode.eventsOfAll episodes := by
  obtain ⟨s, ⟨episodes, hepisodes⟩, hreport⟩ := parseWindow_along State.GoesThrough.isCourse h
  exact ⟨episodes, hreport.trans hepisodes⟩

end OperatorPeg
