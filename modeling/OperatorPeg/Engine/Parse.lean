import OperatorPeg.Engine.Match

/-!
# Parsing

A parse matches a rule or a pattern at the start of a range and must reach the
end of the range, with trivia after it if need be. `parseWithin` says how many
patterns may be inside one another; `parse` allows so many that only a grammar
that calls itself without end needs more.
-/

namespace OperatorPeg

/-- Where a parse begins. -/
inductive Start where
  | rule (name : String)
  | pattern (pattern : Pattern)

/-- What a parse comes to. -/
structure Report where
  result : Except ParseError Tree
  /-- What happened, in order. -/
  events : List Event

/-- The description of the end of the range, where a terminal is described. -/
def endOfInput : String := "end of input"

/-- The error that a parse without result reports. -/
def reportedError (s : State) : ParseError :=
  match s.aborted with
  | some (offset, cause) => .aborted offset cause
  | none =>
      match Failure.best (Event.failures s.events.reverse) with
      | some best => best.error
      | none => .unexpectedToken s.cursor.offset []

/-- The report when nothing more is matched. -/
def reject (s : State) : Report := ⟨.error (reportedError s), s.events.reverse⟩

/-- The report after the start pattern. A match must reach the end of the range. -/
def conclude (m : Matcher) (setting : Setting) (o : Outcome) : Option Report :=
  match o.tree? with
  | none => some (reject o.state)
  | some tree =>
      match skipTrivia m setting .outermost o.state with
      | none => none
      | some s =>
          if !s.isAborted && s.cursor.ahead.isEmpty then some ⟨.ok tree, s.events.reverse⟩
          else some (reject (s.missToken .outermost s.cursor.offset endOfInput))

/-- Parse a window of a source text. `none` if more than `layers` patterns would be
inside one another. -/
def parseWindow (layers : Nat) (rules : Rules) (limits : Limits) (start : Start)
    (window : Window) : Option Report :=
  let setting : Setting := ⟨rules, window.beyond, limits.depth⟩
  let m := matchPattern setting layers
  let s := State.start window.start limits.fuel
  match start with
  | .pattern p => (m .outermost p s).bind (conclude m setting)
  | .rule name =>
      match rules.get? name with
      | none => some ⟨.error (.aborted s.cursor.offset (.undefinedRule name)), []⟩
      | some p =>
          (m .outermost p (s.add (.entered name s.cursor.offset))).bind fun o =>
            let stop := o.tree?.map fun _ => o.state.cursor.offset
            conclude m setting { o with state := o.state.add (.left name stop) }

/-- Parse the bytes from `first` to `last` of a source text. -/
def parseWithin (layers : Nat) (rules : Rules) (limits : Limits) (start : Start)
    (source : String) (first last : Nat) : Option Report :=
  parseWindow layers rules limits start (.ofRange source.toList first last)

/-- The height of the highest pattern. -/
def Rules.height (rules : Rules) : Nat :=
  rules.entries.foldl (fun h entry => max h entry.2.height) 0

def Start.height : Start → Nat
  | .rule _ => 0
  | .pattern p => p.height

/-- How many patterns a parse may have inside one another. A rule that is entered
again at the same place, both times in trivia or both times not, is entered
without end; so rules nest at most once for each of these, unless a limit ends
the parse. -/
def layersFor (rules : Rules) (limits : Limits) (start : Start) (source : String) : Nat :=
  let height := max rules.height start.height + 1
  let calls := 2 * (rules.size + 1) * (source.length + 1) + 2 * limits.depth.getD 0
  height * (calls + 2) + limits.fuel.getD 0

/-- Parse the bytes from `first` to `last` of a source text. `none` if the grammar
calls itself without end. -/
def parseRange (rules : Rules) (limits : Limits) (start : Start) (source : String)
    (first last : Nat) : Option Report :=
  parseWithin (layersFor rules limits start source) rules limits start source first last

/-- Parse a whole source text. -/
def parse (rules : Rules) (limits : Limits) (start : Start) (source : String) : Option Report :=
  parseRange rules limits start source 0 source.utf8ByteSize

end OperatorPeg
