import Reflection.Text.Quoted
/-!
# Data as text

Data is shown as a `Shown`: words, bracketed lists, records with named fields and words applied to
an argument. It is written on one line, or with one entry per line and four spaces per level.
-/

namespace Reflection

inductive Shown
  | word (text : String)
  | list (items : List Shown)
  | record (name : String) (fields : List (String × Shown))
  | applied (name : String) (arg : Shown)

namespace Shown

def openBrace : String := String.singleton (Char.ofNat 0x7b)
def closeBrace : String := String.singleton (Char.ofNat 0x7d)

mutual
/-- All on one line. -/
def compact : Shown → String
  | .word text => text
  | .list items => "[" ++ ", ".intercalate (compacts items) ++ "]"
  | .record name [] => name
  | .record name fields => name ++ " " ++ openBrace ++ " " ++ ", ".intercalate (compactFields fields) ++ " " ++ closeBrace
  | .applied name arg => name ++ "(" ++ arg.compact ++ ")"

def compacts : List Shown → List String
  | [] => []
  | s :: rest => s.compact :: compacts rest

def compactFields : List (String × Shown) → List String
  | [] => []
  | (name, s) :: rest => (name ++ ": " ++ s.compact) :: compactFields rest
end

/-- The indentation of a nesting level. -/
def margin (level : Nat) : String := String.ofList (List.replicate (4 * level) ' ')

mutual
/-- An entry per line, each followed by a comma; `level` is the depth of the lines around it. -/
def pretty (level : Nat) : Shown → String
  | .word text => text
  | .list [] => "[]"
  | .list items => "[\n" ++ prettyItems (level + 1) items ++ margin level ++ "]"
  | .record name [] => name
  | .record name fields =>
    name ++ " " ++ openBrace ++ "\n" ++ prettyFields (level + 1) fields ++ margin level ++ closeBrace
  | .applied name arg =>
    name ++ "(\n" ++ margin (level + 1) ++ pretty (level + 1) arg ++ ",\n" ++ margin level ++ ")"

def prettyItems (level : Nat) : List Shown → String
  | [] => ""
  | s :: rest => margin level ++ pretty level s ++ ",\n" ++ prettyItems level rest

def prettyFields (level : Nat) : List (String × Shown) → String
  | [] => ""
  | (name, s) :: rest => margin level ++ name ++ ": " ++ pretty level s ++ ",\n" ++ prettyFields level rest
end

end Shown

/-- Text that may be missing. -/
def Shown.optionalText : Option String → Shown
  | none => .word "None"
  | some s => .applied "Some" (.word (Text.quoteText s))

end Reflection
