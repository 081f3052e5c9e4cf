import OperatorPeg.Diagnostics.Basic
import OperatorPeg.Engine.Failure
import OperatorPeg.Grammar.Compile
import OperatorPeg.Snippet.Notice
import OperatorPeg.Text.Range

/-!
# Findings and errors, shown in their source

Findings and errors become notices that point at the source. A finding has a label
at its place and at the place of each note; an error of a parse only has its title.
-/

namespace OperatorPeg

open Snippet

namespace Diagnostics

/-- The colour of a severity. -/
def Severity.accent : Severity → String
  | error => "\x1b[1m\x1b[91m"
  | warning => "\x1b[1m\x1b[33m"

namespace Finding

/-- What a finding points at. -/
def highlights (f : Finding) (source : List Char) : List Highlight :=
  ⟨Text.coveredRange f.span source, f.text, true⟩ ::
    f.notes.map fun n => ⟨Text.coveredRange n.span source, n.text, false⟩

/-- The notice of a finding. -/
def notice (f : Finding) (source : String) : Notice :=
  { severity := f.severity.name
    accent := f.severity.accent
    title := f.text
    source
    highlights := f.highlights source.toList }

/-- The notices of findings, one after the other. -/
def renderAll (palette : Palette) (source : String) (fs : List Finding) :
    Except Undrawable String := do
  let notices ← fs.mapM fun f => (f.notice source).print palette
  pure (Text.joinWith "\n" notices)

end Finding

end Diagnostics

/-- The notice of an error of a parse. -/
def ParseError.notice (e : ParseError) (source : String) : Notice :=
  { severity := Diagnostics.Severity.error.name
    accent := Diagnostics.Severity.error.accent
    title := e.message
    source
    highlights := [⟨Text.pointRange e.offset source.toList, "", true⟩] }

/-- The error, shown in the text that was parsed. -/
def ParseError.render (e : ParseError) (source : String) : Except Undrawable String :=
  (e.notice source).print .plain

/-- The error, shown in the grammar text. -/
def Grammar.CompileError.render (e : Grammar.CompileError) (source : String) :
    Except Undrawable String :=
  match e with
  | notParsed cause => cause.render source
  | invalid findings => Diagnostics.Finding.renderAll .plain source findings
  | e => .ok e.message

end OperatorPeg
