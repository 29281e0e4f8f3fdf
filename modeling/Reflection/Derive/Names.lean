import Reflection.Derive.Plan
/-!
# Names of a derived type

The names of a derived type depend on what its item cannot tell: the module that the code stands in, and
the names of the types that the type parameters stand for. So they are derived as expressions; a
`NameCode` is such an expression, and `NameCode.value` is the text that comes of it.
-/

namespace Reflection.Derive

inductive NamePiece
  | text (s : String)
  /-- The path of the module that the code stands in. -/
  | here
  /-- An identifier behind that path. -/
  | inHere (ident : String)
  /-- What the type of a parameter gives for the same name. -/
  | param (name : String)
deriving DecidableEq, Repr

/-- A piece, or several that are joined when the name is asked for. -/
inductive NameCode
  | piece (p : NamePiece)
  | joined (pieces : List NamePiece)
deriving DecidableEq, Repr

/-- The text of a piece in a module, where `param` gives the names of the parameters' types. -/
def NamePiece.value (module : String) (param : String → String) : NamePiece → String
  | .text s => s
  | .here => module
  | .inHere ident => module ++ "::" ++ ident
  | .param name => param name

def NameCode.value (module : String) (param : String → String) : NameCode → String
  | .piece p => p.value module param
  | .joined pieces => String.join (pieces.map (·.value module param))

namespace Plan

/-- The identifier: the chosen one, or that of the item. -/
def identText (plan : Plan) : String := (plan.customPath.map CustomPath.ident).getD plan.ident

def moduleCode (plan : Plan) : Option NamePiece :=
  match plan.customPath with
  | none => some .here
  | some custom => custom.module?.map .text

/-- The path without parameters: the chosen one, or that of the module and the identifier. -/
def baseCode (plan : Plan) : NamePiece :=
  match plan.customPath with
  | none => .inHere plan.ident
  | some custom => .text custom.path

/-- A name that lists the names of the type parameters behind it. -/
def withArguments (plan : Plan) (base : NamePiece) : NameCode :=
  if plan.isGeneric then
    .joined ([base, .text "<"] ++ (plan.typeParams.map .param).intersperse (.text ", ") ++ [.text ">"])
  else .piece base

def pathCode (plan : Plan) : NameCode := plan.withArguments plan.baseCode
def nameCode (plan : Plan) : NameCode := plan.withArguments (.text plan.identText)

end Plan

end Reflection.Derive
