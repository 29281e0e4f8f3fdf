import Reflection.Derive.Error
/-!
# Collecting docs

Doc attributes give the docs of a type or a field line by line. Doc entries of the reflect attribute
replace them by lines of their own, and the entry `false` drops all of them for good. Where docs are
not to be collected, they are dropped from the start.
-/

namespace Reflection.Derive

structure Docs where
  enabled : Bool
  custom : Bool
  lines : List String
deriving DecidableEq, Repr

namespace Docs

def start (collect : Bool) : Docs := ⟨collect, false, []⟩

/-- A doc attribute with a value. Its value is not looked at once it cannot count. -/
def addDefault (docs : Docs) (value : Literal) : Except DeriveError Docs :=
  if docs.enabled && !docs.custom then
    match value with
    | .text line => .ok { docs with lines := docs.lines ++ [line] }
    | _ => .error .docValue
  else .ok docs

/-- A doc attribute that is a list has no value. -/
def addList (docs : Docs) : Except DeriveError Docs :=
  if docs.enabled && !docs.custom then .error .noValue else .ok docs

/-- A doc entry. The first one with a text drops the lines collected before. -/
def addEntry (docs : Docs) (assigned : Assigned) : Except DeriveError Docs :=
  match assigned with
  | .nothing | .stray => .error .noValue
  | .value (.text line) =>
    .ok { docs with custom := true, lines := (if docs.custom then docs.lines else []) ++ [line] }
  | .value (.bool false) => .ok { docs with enabled := false, lines := [] }
  | .value (.bool true) => .error .docTrue
  | .value (.number _) => .error .docEntryValue

def isBlankLine (line : String) : Bool := line.toList.all Code.isBlank

/-- A line without the space that a doc comment puts in front. -/
def dropSpace (line : String) : String :=
  match line.toList with
  | ' ' :: cs => String.ofList cs
  | _ => line

/-- The docs as one text, unless every line is blank. -/
def text? (docs : Docs) : Option String :=
  if !docs.enabled || docs.lines.all isBlankLine then none
  else some ("\n".intercalate (docs.lines.map dropSpace))

end Docs

end Reflection.Derive
