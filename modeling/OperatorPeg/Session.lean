import OperatorPeg.Engine.Parse
import OperatorPeg.Engine.Trace

/-!
# Sessions

A session keeps what several parses have in common: the rules, the limits and the
trace that they write. Rules may be changed between two parses; the trace goes on.
-/

namespace OperatorPeg

structure Session where
  rules : Rules
  limits : Limits
  trace : Trace

namespace Session

def fresh : Session := ⟨.empty, .unlimited, .start .normal .plain⟩

/-- Give a name a pattern. Also gives the pattern it had. -/
def insert (s : Session) (name : String) (p : Pattern) : Option Pattern × Session :=
  (s.rules.get? name, { s with rules := s.rules.insert name p })

/-- Go on with other rules. -/
def withRules (s : Session) (rules : Rules) : Session := { s with rules }

def withLimits (s : Session) (limits : Limits) : Session := { s with limits }

/-- Begin another trace. -/
def withTrace (s : Session) (verbosity : Verbosity) (palette : Palette) : Session :=
  { s with trace := .start verbosity palette }

/-- Write an event into the trace. -/
def note (s : Session) (event : Event) : Session := { s with trace := s.trace.add event }

/-- The lines of the trace, after which a plain one begins. -/
def takeLines (s : Session) : List String × Session :=
  (s.trace.lines, s.withTrace .normal .plain)

/-- Parse a part of a source text and trace it. `none` if the rules call themselves
without end. -/
def parseRange (s : Session) (start : Start) (source : String) (first last : Nat) :
    Option (Except ParseError Tree × Session) :=
  (OperatorPeg.parseRange s.rules s.limits start source first last).map fun report =>
    (report.result, { s with trace := s.trace.addAll report.events })

end Session

end OperatorPeg
