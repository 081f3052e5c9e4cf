import OperatorPeg.Pattern.Display

/-!
# Rules

A registry of named patterns in the order in which the names first came up. A
name that comes up again keeps its place and takes the new pattern.
-/

namespace OperatorPeg

/-- Named patterns, each name once. -/
structure Rules where
  entries : List (String × Pattern)

namespace Rules

/-- The name of the rule for what may stand between terminals. -/
def triviaName : String := "_"

def empty : Rules := ⟨[]⟩

def insertInto (name : String) (p : Pattern) :
    List (String × Pattern) → List (String × Pattern)
  | [] => [(name, p)]
  | entry :: entries =>
      if entry.1 = name then (name, p) :: entries else entry :: insertInto name p entries

/-- Give `name` the pattern `p`. -/
def insert (rules : Rules) (name : String) (p : Pattern) : Rules :=
  ⟨insertInto name p rules.entries⟩

def get? (rules : Rules) (name : String) : Option Pattern := rules.entries.lookup name

def contains (rules : Rules) (name : String) : Bool := (rules.get? name).isSome

/-- The pattern for what may stand between terminals. -/
def trivia? (rules : Rules) : Option Pattern := rules.get? triviaName

def size (rules : Rules) : Nat := rules.entries.length

def isEmpty (rules : Rules) : Bool := rules.entries.isEmpty

def names (rules : Rules) : List String := rules.entries.map (·.1)

def ofList (entries : List (String × Pattern)) : Rules :=
  entries.foldl (fun rules entry => rules.insert entry.1 entry.2) empty

/-- The registry as grammar text, one line for each rule. -/
def display (rules : Rules) : String :=
  String.join (rules.entries.map fun entry => entry.1 ++ " -> " ++ entry.2.display ++ "\n")

end Rules

end OperatorPeg
