import Reflection.Code.Lexer
/-!
# Items to derive for

An `Item` is a type definition as written: its shape, parameters, predicates, attributes and
fields. Attributes are split into their entries, and types are tokens.
-/

namespace Reflection.Derive

open Reflection.Code (Token)

inductive Shape
  | named | tuple | unit | enumeration | union
deriving DecidableEq, Repr

/-- The literals an attribute may have for a value. -/
inductive Literal
  | text (s : String)
  | bool (b : Bool)
  | number (text : String)
deriving DecidableEq, Repr

/-- What stands behind the key of an entry. -/
inductive Assigned
  | nothing
  | value (l : Literal)
  /-- Neither a value nor the end of the entry. -/
  | stray
deriving DecidableEq, Repr

/-- `key` or `key = value`. A key that is a path is none of the known keys. -/
structure Entry where
  key : String
  assigned : Assigned
deriving DecidableEq, Repr

inductive Attribute
  /-- `#[doc = value]`. -/
  | doc (value : Literal)
  /-- `#[doc(..)]`. -/
  | docList
  /-- `#[reflect]`. -/
  | bare
  /-- `#[reflect(entries)]`. -/
  | reflect (entries : List Entry)
  | other
deriving DecidableEq, Repr

/-- A parameter of the type. Bounds stand behind a colon; a default is not kept. -/
inductive Param
  | lifetime (name : String) (bounds : List Token)
  | type (name : String) (bounds : List Token)
  | const (name : String)
deriving DecidableEq, Repr

structure ItemField where
  ident : String
  type : List Token
  attrs : List Attribute
deriving DecidableEq, Repr

structure Item where
  ident : String
  shape : Shape
  params : List Param
  predicates : List (List Token)
  attrs : List Attribute
  fields : List ItemField
deriving DecidableEq, Repr

/-! ## Reading entries -/

/-- The path at the start of the tokens, and what follows it. -/
def pathAhead : List Token → String × List Token
  | .ident name :: .punct ':' true :: .punct ':' _ :: rest =>
    let (path, later) := pathAhead rest
    (name ++ "::" ++ path, later)
  | .ident name :: rest => (name, rest)
  | rest => ("", rest)

/-- An entry from the tokens of its key and the literal behind an equals sign. -/
def Entry.ofTokens (key : List Token) (value : Option Literal) : Entry :=
  match pathAhead key with
  | (path, []) => ⟨path, value.elim .nothing .value⟩
  | (path, _ :: _) => ⟨path, .stray⟩

/-! ## Reading parameters -/

/-- The tokens up to an equals sign that is in no angle brackets; `depth` of those are open. -/
def untilDefault (depth : Nat) : List Token → List Token
  | .punct '-' true :: .punct '>' joint :: rest =>
    .punct '-' true :: .punct '>' joint :: untilDefault depth rest
  | .punct '<' joint :: rest => .punct '<' joint :: untilDefault (depth + 1) rest
  | .punct '>' joint :: rest => .punct '>' joint :: untilDefault (depth - 1) rest
  | .punct '=' joint :: rest =>
    if depth = 0 then [] else .punct '=' joint :: untilDefault depth rest
  | t :: rest => t :: untilDefault depth rest
  | [] => []

/-- The bounds behind a colon. -/
def boundsOf : List Token → List Token
  | .punct ':' _ :: rest => untilDefault 0 rest
  | _ => []

def Param.ofTokens? : List Token → Option Param
  | .punct '\'' _ :: .ident name :: rest => some (.lifetime name (boundsOf rest))
  | .ident "const" :: .ident name :: _ => some (.const name)
  | .ident name :: rest => some (.type name (boundsOf rest))
  | _ => none

end Reflection.Derive
