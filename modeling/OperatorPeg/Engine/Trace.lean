import OperatorPeg.Engine.Event
import OperatorPeg.Text.Escaped
import OperatorPeg.Text.Palette

/-!
# Traces

A trace has a line for each event that its verbosity lets through, indented by
two blanks for each rule then entered.
-/

namespace OperatorPeg

/-- How much a trace shows. -/
inductive Verbosity where
  /-- Rules entered and left, and terminals that matched. -/
  | normal
  /-- Also terminals that did not match, and operators. -/
  | verbose
  /-- Also failed alternatives. -/
  | veryVerbose
  deriving DecidableEq, Repr

/-- The marks that lines begin with. -/
structure TraceMarks where
  call : String
  leave : String
  leaveFailed : String
  matched : String
  missed : String
  operator : String
  reduce : String
  backtrack : String

def traceMarks : TraceMarks := ⟨"▶", "◀", "◁", "●", "○", "⬥", "⬦", "❮❮❮"⟩

/-- A trace being written. -/
structure Trace where
  verbosity : Verbosity
  palette : Palette
  /-- Lines, latest first. -/
  written : List String
  /-- Rules entered and not left yet, innermost first. -/
  opened : List String
  deriving Repr

namespace Trace

def start (verbosity : Verbosity) (palette : Palette) : Trace := ⟨verbosity, palette, [], []⟩

def lines (t : Trace) : List String := t.written.reverse

def write (t : Trace) (mark content : String) : Trace :=
  { t with written := (Text.repeated t.opened.length "  " ++ mark ++ " " ++ content) :: t.written }

def place (t : Trace) (offset : Nat) : String := t.palette.mark ("@" ++ toString offset)

/-- Take an event into the trace. -/
def add (t : Trace) : Event → Trace
  | .entered rule offset =>
      let t := t.write traceMarks.call (t.palette.name rule ++ " " ++ t.place offset)
      { t with opened := rule :: t.opened }
  | .left rule stop =>
      let t := { t with opened := t.opened.tail }
      match stop with
      | some stop => t.write traceMarks.leave (t.palette.name rule ++ " " ++ t.place stop)
      | none => t.write traceMarks.leaveFailed (t.palette.name rule)
  | .tried description offset (some text) =>
      t.write traceMarks.matched
        (t.palette.text description ++ " " ++ Text.escaped text ++ " " ++ t.place offset)
  | .tried description offset none =>
      if t.verbosity = .normal then t
      else t.write traceMarks.missed (t.palette.text description ++ " " ++ t.place offset)
  | .operator name offset =>
      if t.verbosity = .normal then t
      else t.write traceMarks.operator (t.palette.name name ++ " " ++ t.place offset)
  | .reduced name =>
      if t.verbosity = .normal then t else t.write traceMarks.reduce (t.palette.name name)
  | .backtracked alternative offset =>
      if t.verbosity = .veryVerbose then
        t.write traceMarks.backtrack ("#" ++ toString alternative ++ " " ++ t.place offset)
      else t
  | .failed _ => t

/-- Take events into the trace, in their order. -/
def addAll (t : Trace) (events : List Event) : Trace := events.foldl add t

end Trace

end OperatorPeg
