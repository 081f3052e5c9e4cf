import OperatorPeg.Engine.Trace
import OperatorPeg.Proofs.Calls
import OperatorPeg.Proofs.ParseRuns
import OperatorPeg.Proofs.Writing

/-!
# Traces of a parse

A trace keeps a stack of the rules that were entered and not left, and indents each line by how
many there are. Every rule that a parse enters is left in turn, so after a parse the stack is
what it was before, however the parse ended, and the next parse that is written into the trace
is not indented by anything of this one.

Whether a line is written depends on its mark only. So what a trace shows is what one that shows
everything does, with the lines of some marks left out.
-/

namespace OperatorPeg

/-! ## The line of an event -/

/-- How an offset is written. -/
def Palette.place (p : Palette) (offset : Nat) : String := p.mark ("@" ++ toString offset)

/-- What is written of an event: the mark and what comes after it. -/
def Event.entry? (p : Palette) : Event → Option (String × String)
  | .entered rule offset => some (traceMarks.call, p.name rule ++ " " ++ p.place offset)
  | .left rule (some stop) => some (traceMarks.leave, p.name rule ++ " " ++ p.place stop)
  | .left rule none => some (traceMarks.leaveFailed, p.name rule)
  | .tried description offset (some text) =>
      some (traceMarks.matched,
        p.text description ++ " " ++ Text.escaped text ++ " " ++ p.place offset)
  | .tried description offset none =>
      some (traceMarks.missed, p.text description ++ " " ++ p.place offset)
  | .operator name offset => some (traceMarks.operator, p.name name ++ " " ++ p.place offset)
  | .reduced name => some (traceMarks.reduce, p.name name)
  | .backtracked alternative offset =>
      some (traceMarks.backtrack, "#" ++ toString alternative ++ " " ++ p.place offset)
  | .failed _ => none

/-- The line of an event, before it is indented. -/
def Event.line? (p : Palette) (e : Event) : Option String :=
  (e.entry? p).map fun (mark, content) => mark ++ " " ++ content

/-- Whether lines with this mark are shown. -/
def Verbosity.shows : Verbosity → String → Bool
  | normal, mark =>
      [traceMarks.call, traceMarks.leave, traceMarks.leaveFailed, traceMarks.matched].contains mark
  | verbose, mark => mark != traceMarks.backtrack
  | veryVerbose, _ => true

namespace Trace

/-- The trace when the line of an event is due: a rule that is left is not open any more. -/
def leaving (t : Trace) : Event → Trace
  | .left .. => { t with opened := t.opened.tail }
  | _ => t

/-- The trace after the line of an event: a rule that is entered is open now. -/
def entering (t : Trace) : Event → Trace
  | .entered rule _ => { t with opened := rule :: t.opened }
  | _ => t

/-- The trace with this entry, if there is one and its mark is shown. -/
def enter (t : Trace) : Option (String × String) → Trace
  | none => t
  | some (mark, content) => if t.verbosity.shows mark then t.write mark content else t

theorem add_eq (t : Trace) (e : Event) :
    t.add e = ((t.leaving e).enter (e.entry? t.palette)).entering e := by
  obtain ⟨verbosity, palette, written, opened⟩ := t
  cases e with
  | entered | operator | reduced | backtracked => cases verbosity <;> rfl
  | left _ stop => cases stop <;> cases verbosity <;> rfl
  | tried _ _ matched => cases matched <;> cases verbosity <;> rfl
  | failed => rfl

/-! ## Marks -/

/-- A line, indented by two blanks for each rule around it. -/
def indented (depth : Nat) (line : String) : String := Text.repeated depth "  " ++ line

/-- The mark of a line: what stands between the indentation and the next blank. -/
def markOf (line : String) : String :=
  String.ofList ((line.toList.dropWhile (· == ' ')).takeWhile (· != ' '))

theorem markOf_indented (depth : Nat) (line : String) :
    markOf (indented depth line) = markOf line := by
  have hdrop : (List.replicate (2 * depth) ' ' ++ line.toList).dropWhile (· == ' ')
      = line.toList.dropWhile (· == ' ') := by
    refine List.dropWhile_append_of_pos fun c hc => ?_
    rw [List.eq_of_mem_replicate hc]
    rfl
  rw [markOf, indented, String.toList_append, Text.toList_indentation, hdrop, markOf]

/-- A mark is a word. -/
def IsMark (mark : String) : Prop := mark ≠ "" ∧ ' ' ∉ mark.toList

instance (mark : String) : Decidable (IsMark mark) := inferInstanceAs (Decidable (_ ∧ _))

theorem markOf_line {mark : String} (h : IsMark mark) (content : String) :
    markOf (mark ++ " " ++ content) = mark := by
  have hword := Text.bne_of_notMem h.2
  have htext : (mark ++ " " ++ content).toList = mark.toList ++ ' ' :: content.toList := by simp
  have hdrop : (mark.toList ++ ' ' :: content.toList).dropWhile (· == ' ')
      = mark.toList ++ ' ' :: content.toList := by
    cases hmark : mark.toList with
    | nil => exact absurd (String.toList_eq_nil_iff.mp hmark) h.1
    | cons c cs =>
        have hc : (c == ' ') = false := by
          simpa using hword c (hmark ▸ List.mem_cons_self)
        rw [List.cons_append, List.dropWhile_cons_of_neg (by simp [hc])]
  rw [markOf, htext, hdrop, Text.takeWhile_append_of_kind hword (by simp), String.ofList_toList]

theorem isMark_of_entry {p : Palette} {e : Event} {mark content : String}
    (h : e.entry? p = some (mark, content)) : IsMark mark := by
  cases e with
  | entered | operator | reduced | backtracked => cases h; decide
  | left _ stop => cases stop <;> (cases h; decide)
  | tried _ _ matched => cases matched <;> (cases h; decide)
  | failed => cases h

/-! ## Lines of a whole parse -/

/-- The trace with more lines behind its own. -/
def extend (t : Trace) (lines : List String) : Trace :=
  { t with written := lines.reverse ++ t.written }

@[simp] theorem lines_extend (t : Trace) (lines : List String) :
    (t.extend lines).lines = t.lines ++ lines := by
  simp [extend, Trace.lines]

theorem extend_nil (t : Trace) : t.extend [] = t := rfl

theorem extend_extend (t : Trace) (before after : List String) :
    (t.extend before).extend after = t.extend (before ++ after) := by
  simp [extend]

theorem addAll_append (t : Trace) (before after : List Event) :
    t.addAll (before ++ after) = (t.addAll before).addAll after := List.foldl_append

end Trace

/-- The lines that are shown. -/
def Verbosity.select (v : Verbosity) (lines : List String) : List String :=
  lines.filter fun line => v.shows (Trace.markOf line)

theorem Verbosity.select_veryVerbose (lines : List String) : veryVerbose.select lines = lines :=
  List.filter_eq_self.mpr fun _ _ => rfl

theorem Verbosity.select_verbose (lines : List String) :
    verbose.select lines = lines.filter (Trace.markOf · ≠ traceMarks.backtrack) := by
  refine List.filter_congr fun line _ => ?_
  rw [shows, bne, decide_not, beq_eq_decide]

theorem Verbosity.select_normal (lines : List String) :
    normal.select lines = lines.filter (Trace.markOf · ∈
      [traceMarks.call, traceMarks.leave, traceMarks.leaveFailed, traceMarks.matched]) := by
  refine List.filter_congr fun line _ => ?_
  rw [shows, List.contains_eq_mem]

/-- The lines of events, each indented by the number of rules around it. -/
def Trace.linesOf (p : Palette) (placed : List (Nat × Event)) : List String :=
  placed.filterMap fun (depth, e) => (e.line? p).map (indented depth)

namespace Episode

mutual
/-- The events of an episode, each with the number of rules around it. -/
def placed (depth : Nat) : Episode → List (Nat × Event)
  | single event _ => [(depth, event)]
  | call rule offset inside stop =>
      (depth, .entered rule offset) ::
        (placedAll (depth + 1) inside ++ [(depth, .left rule stop)])

def placedAll (depth : Nat) : List Episode → List (Nat × Event)
  | [] => []
  | episode :: episodes => episode.placed depth ++ placedAll depth episodes
end

mutual
theorem map_placed (depth : Nat) :
    ∀ episode : Episode, (episode.placed depth).map (·.2) = episode.events
  | single _ _ => rfl
  | call _ _ inside _ => by
      rw [placed, events, List.map_cons, List.map_append, map_placedAll (depth + 1) inside]
      rfl

theorem map_placedAll (depth : Nat) :
    ∀ episodes : List Episode, (placedAll depth episodes).map (·.2) = eventsOfAll episodes
  | [] => rfl
  | episode :: episodes => by
      rw [placedAll, eventsOfAll, List.map_append, map_placed depth episode,
        map_placedAll depth episodes]
end

end Episode

namespace Trace

theorem linesOf_append (p : Palette) (before after : List (Nat × Event)) :
    linesOf p (before ++ after) = linesOf p before ++ linesOf p after := List.filterMap_append

theorem select_append (v : Verbosity) (before after : List String) :
    v.select (before ++ after) = v.select before ++ v.select after := List.filter_append ..

/-- The trace with what it shows of the lines of these events. -/
def extendBy (t : Trace) (placed : List (Nat × Event)) : Trace :=
  t.extend (t.verbosity.select (linesOf t.palette placed))

theorem extendBy_append (t : Trace) (before after : List (Nat × Event)) :
    t.extendBy (before ++ after) = (t.extendBy before).extendBy after := by
  rw [extendBy, linesOf_append, select_append, ← extend_extend]
  rfl

/-- A trace shows the line of an event if it shows lines with such a mark. -/
theorem enter_eq_extendBy (t : Trace) (e : Event) :
    t.enter (e.entry? t.palette) = t.extendBy [(t.opened.length, e)] := by
  unfold extendBy linesOf Event.line?
  cases h : e.entry? t.palette with
  | none => simp [h, enter, Verbosity.select, extend_nil]
  | some entry =>
      obtain ⟨mark, content⟩ := entry
      have hmark : markOf (indented t.opened.length (mark ++ " " ++ content)) = mark := by
        rw [markOf_indented, markOf_line (isMark_of_entry h)]
      have hwrite : t.write mark content =
          t.extend [indented t.opened.length (mark ++ " " ++ content)] := by
        simp [write, extend, indented, String.append_assoc]
      cases hshows : t.verbosity.shows mark <;>
        simp [h, enter, Verbosity.select, hmark, hshows, hwrite, extend_nil]

theorem add_eq_extendBy (t : Trace) (e : Event) :
    t.add e = ((t.leaving e).extendBy [((t.leaving e).opened.length, e)]).entering e := by
  have hpalette : (t.leaving e).palette = t.palette := by cases e <;> rfl
  rw [add_eq, ← hpalette, enter_eq_extendBy]

mutual
/-- An episode leaves the stack as it found it, and adds the lines of its events. -/
theorem addAll_events (t : Trace) :
    ∀ episode : Episode, t.addAll episode.events = t.extendBy (episode.placed t.opened.length)
  | .single e he => by
      show t.add e = _
      rw [add_eq_extendBy]
      cases e with
      | entered | left => cases he
      | _ => rfl
  | .call rule offset inside stop => by
      -- The rule is open for the events inside, and its own two lines are written outside of it.
      have hcall : t.addAll (Episode.call rule offset inside stop).events =
          ((t.add (.entered rule offset)).addAll (Episode.eventsOfAll inside)).add
            (.left rule stop) := by
        rw [Episode.events, ← List.singleton_append, addAll_append, addAll_append]
        rfl
      have hplaced : (Episode.call rule offset inside stop).placed t.opened.length =
          [(t.opened.length, .entered rule offset)] ++
            Episode.placedAll (t.opened.length + 1) inside ++
            [(t.opened.length, .left rule stop)] := rfl
      rw [hcall, addAll_eventsOfAll _ inside, add_eq_extendBy t, add_eq_extendBy, hplaced,
        extendBy_append, extendBy_append]
      rfl

theorem addAll_eventsOfAll (t : Trace) :
    ∀ episodes : List Episode, t.addAll (Episode.eventsOfAll episodes) =
      t.extendBy (Episode.placedAll t.opened.length episodes)
  | [] => rfl
  | episode :: episodes => by
      rw [Episode.eventsOfAll, addAll_append, addAll_events t episode,
        addAll_eventsOfAll _ episodes, Episode.placedAll, extendBy_append]
      rfl
end

end Trace

/-- **Traces are well nested, and the verbosity only filters.** However the parse ends, its
events are those of episodes, in which each rule that is left is the one that was entered. So a
trace has the same stack as before when it has taken them in, its new lines are indented by the
rules around their events, and those that it shows are the ones with its marks among all. -/
theorem traces_nest_and_filter {layers : Nat} {rules : Rules} {limits : Limits} {start : Start}
    {source : String} {first last : Nat} {report : Report}
    (h : parseWithin layers rules limits start source first last = some report) :
    ∃ episodes, report.events = Episode.eventsOfAll episodes ∧
      (∀ depth, (Episode.placedAll depth episodes).map (·.2) = report.events) ∧ ∀ trace : Trace,
      let after (verbosity : Verbosity) :=
        { trace with verbosity := verbosity }.addAll report.events
      let added := Trace.linesOf trace.palette (Episode.placedAll trace.opened.length episodes)
      (∀ verbosity, (after verbosity).opened = trace.opened) ∧
      (after .veryVerbose).lines = trace.lines ++ added ∧
      (after .verbose).lines = trace.lines ++
        added.filter (Trace.markOf · ≠ traceMarks.backtrack) ∧
      (after .normal).lines = trace.lines ++
        added.filter (Trace.markOf · ∈
          [traceMarks.call, traceMarks.leave, traceMarks.leaveFailed, traceMarks.matched]) := by
  obtain ⟨episodes, hepisodes⟩ := exists_episodes h
  refine ⟨episodes, hepisodes, fun depth => ?_, ?_⟩
  · rw [Episode.map_placedAll, hepisodes]
  intro trace after added
  have hafter : ∀ verbosity, after verbosity =
      { trace with verbosity := verbosity }.extend (verbosity.select added) := by
    intro verbosity
    show Trace.addAll _ _ = _
    rw [hepisodes, Trace.addAll_eventsOfAll]
    rfl
  have hlines : ∀ verbosity, (after verbosity).lines = trace.lines ++ verbosity.select added := by
    intro verbosity
    rw [hafter, Trace.lines_extend]
    rfl
  refine ⟨fun verbosity => by rw [hafter]; rfl, ?_, ?_, ?_⟩
  · rw [hlines, Verbosity.select_veryVerbose]
  · rw [hlines, Verbosity.select_verbose]
  · rw [hlines, Verbosity.select_normal]

/-- Blanks are trivia, and a rule of their own. -/
private def spaced : Rules :=
  .ofList [("_", .quantifier (.lookup "blank") 0 none), ("blank", .terminal (.literal " ")),
    ("pair", .sequence [⟨true, .terminal (.literal "a")⟩, ⟨true, .terminal (.literal "=")⟩])]

/-- The parse is cut within the trivia, and what was open in the trace before still is. -/
theorem traces_nest_and_filter_sample :
    ∃ report, parseWithin 9 spaced ⟨some 3, none⟩ (.rule "pair") "a =" 0 3 = some report ∧
      report.result = .error (.aborted 0 .fuelExhausted) ∧
      let after := (⟨.normal, .plain, [], ["file"]⟩ : Trace).addAll report.events
      after.opened = ["file"] ∧
      after.lines = ["  ▶ pair @0", "    ▶ blank @0", "    ◁ blank", "  ◁ pair"] := by
  have hrun : (parseWithin 9 spaced ⟨some 3, none⟩ (.rule "pair") "a =" 0 3).any
      (fun r => r.error? = some (.aborted 0 .fuelExhausted) ∧
        ((⟨.normal, .plain, [], ["file"]⟩ : Trace).addAll r.events).lines =
          ["  ▶ pair @0", "    ▶ blank @0", "    ◁ blank", "  ◁ pair"]) = true := by
    decide +kernel
  obtain ⟨report, h, htest⟩ := (Option.any_eq_true _ _).mp hrun
  obtain ⟨herror, hlines⟩ := of_decide_eq_true htest
  obtain ⟨_, -, -, htraces⟩ := traces_nest_and_filter h
  obtain ⟨hopened, -⟩ := htraces ⟨.normal, .plain, [], ["file"]⟩
  exact ⟨report, h, Report.error?_eq_some_iff.mp herror, hopened .normal, hlines⟩

end OperatorPeg
