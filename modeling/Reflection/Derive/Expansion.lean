import Reflection.Derive.Bounds
import Reflection.Derive.Names
import Reflection.Manifest.Basic
/-!
# The derived implementations

`Plan.expansion` writes the four implementations that a plan stands for: of the type's names, of its
info, of access to its members, and of reflection itself. They name items of the library by the path under
which the code can reach it, `library`.
-/

namespace Reflection.Derive

open Reflection.Code

/-! ## Names of other items -/

section
variable (library : ItemPath)

/-- A path into the library. -/
def inLibrary (parts : List String) : List Token := library.tokens ++ absolutePath parts

def typePathTrait : List Token := inLibrary library ["info", "TypePath"]
def typedTrait : List Token := inLibrary library ["info", "Typed"]
def typeInfo : List Token := inLibrary library ["info", "TypeInfo"]
def structInfo : List Token := inLibrary library ["info", "StructInfo"]
def memberInfo : List Token := inLibrary library ["info", "MemberInfo"]
def memberAccess : List Token := inLibrary library ["info", "MemberAccess"]
def reflectKind : List Token := inLibrary library ["info", "ReflectKind"]
def structTrait : List Token := inLibrary library ["ops", "Struct"]
def structIterator : List Token := inLibrary library ["ops", "StructMemberIter"]
def reflectRef : List Token := inLibrary library ["ops", "ReflectRef"]
def reflectMut : List Token := inLibrary library ["ops", "ReflectMut"]
def reflectTrait : List Token := inLibrary library ["Reflect"]
def structEquality : List Token := inLibrary library ["impls", "struct_partial_eq"]
def concatPieces : List Token := inLibrary library ["impls", "concat"]
def pathCell : List Token := inLibrary library ["impls", "GenericTypePathCell"]
def genericInfoCell : List Token := inLibrary library ["impls", "GenericTypeInfoCell"]
def plainInfoCell : List Token := inLibrary library ["impls", "NonGenericTypeInfoCell"]
def boxType : List Token := inLibrary library ["__macro_exports", "macro_utils", "Box"]

end

def optionType : List Token := absolutePath ["core", "option", "Option"]
def resultType : List Token := absolutePath ["core", "result", "Result"]
def modulePathCall : List Token := template "::core::module_path!()"

/-- A variant or function of an item. -/
def member (item : List Token) (name : String) : List Token := item ++ doubleColon ++ [.ident name]

def call (f : List Token) (args : List Token) : List Token := f ++ parens args

def someOf (x : List Token) : List Token := call (member optionType "Some") x
def noneOf : List Token := member optionType "None"

def staticText : List Token := template "&'static str"
def inlineMark : List Token := template "#[inline]"

/-! ## Where clauses -/

namespace Predicate

def tokens (library : ItemPath) : Predicate → List Token
  | .selfOwned =>
    template "Self:" ++ absolutePath ["core", "any", "Any"] ++ template "+" ++
      absolutePath ["core", "marker", "Send"] ++ template "+" ++ absolutePath ["core", "marker", "Sync"]
  | .selfStatic => template "Self: 'static"
  | .given tokens => orderArguments tokens
  | .named subject => subject ++ template ":" ++ typePathTrait library
  | .reflected subject =>
    orderArguments subject ++ template ":" ++ reflectTrait library ++ template "+" ++ typedTrait library

end Predicate

/-- A comma follows every predicate. -/
def whereClause (library : ItemPath) (predicates : List Predicate) : List Token :=
  .ident "where" :: predicates.flatMap fun p => p.tokens library ++ comma

/-! ## Parameters -/

def Param.isLifetime : Param → Bool
  | .lifetime .. => true
  | _ => false

def boundsTokens (bounds : List Token) : List Token :=
  if bounds.isEmpty then [] else template ":" ++ orderArguments bounds

/-- A parameter with its bounds. -/
def Param.declaration : Param → List Token
  | .lifetime name bounds => [.punct '\'' true, .ident name] ++ boundsTokens bounds
  | .type name bounds => .ident name :: boundsTokens bounds
  | .const name => [.ident "const", .ident name]

/-- A parameter as an argument. -/
def Param.argument : Param → List Token
  | .lifetime name _ => [.punct '\'' true, .ident name]
  | .type name _ => [.ident name]
  | .const name => [.ident name]

/-- Parameters in angle brackets, lifetimes first. -/
def paramList (params : List Param) (write : Param → List Token) : List Token :=
  if params.isEmpty then []
  else
    angles (lifetimesFirst (params.zipIdx.map fun (p, i) => ⟨write p, p.isLifetime, i + 1 < params.length⟩))

def Borrow.code : Borrow → String
  | .shared => "&"
  | .mutable => "&mut"

/-- A field of the value, borrowed as a reflected value. -/
def FieldRef.tokens (library : ItemPath) (ref : FieldRef) : List Token :=
  template (ref.borrow.code ++ " self.") ++ [.ident ref.field, .ident "as"] ++
    template (ref.borrow.code ++ " dyn") ++ reflectTrait library

/-- The type of a member as it is written. -/
def PlannedMember.typeCode (m : PlannedMember) : List Token := orderArguments m.type

/-! ## Names of the type -/

/-- A piece of the name that `method` answers. -/
def NamePiece.tokens (library : ItemPath) (method : String) : NamePiece → List Token
  | .text s => [literalText s]
  | .here => modulePathCall
  | .inHere ident =>
    call (template "::core::concat!") (modulePathCall ++ comma ++ [literalText "::"] ++ comma ++ [literalText ident])
  | .param name => call (member (angles ([.ident name, .ident "as"] ++ typePathTrait library)) method) []

def NameCode.tokens (library : ItemPath) (method : String) : NameCode → List Token
  | .piece p => p.tokens library method
  | .joined pieces =>
    call (concatPieces library) (template "&" ++ brackets (commaSeparated (pieces.map (·.tokens library method))))

namespace Plan

section
variable (library : ItemPath)

def typePath (plan : Plan) : List Token := plan.pathCode.tokens library "type_path"
def typeName (plan : Plan) : List Token := plan.nameCode.tokens library "type_name"
def typeIdent (plan : Plan) : List Token := [literalText plan.identText]

def modulePath (plan : Plan) : List Token :=
  match plan.moduleCode with
  | none => noneOf
  | some p => someOf (p.tokens library "module_path")

/-! ## The info -/

/-- Docs are added to an info where there are any. -/
def withDocs (docs : Option String) : List Token :=
  match docs with
  | none => []
  | some text => call (template ".with_docs") (someOf [literalText text])

def withAccess : Access → List Token
  | .readWrite => []
  | .readOnly => call (template ".with_access") (member (memberAccess library) "ReadOnly")
  | .writeOnly => call (template ".with_access") (member (memberAccess library) "WriteOnly")

/-- The constructor of an item for a type. -/
def newFor (item type : List Token) : List Token := member item "new" ++ doubleColon ++ angles type

def memberInfoTokens (m : PlannedMember) : List Token :=
  call (newFor (memberInfo library) m.typeCode) [literalText m.name] ++ withAccess library m.access ++ withDocs m.docs

def infoTokens (plan : Plan) : List Token :=
  call (member (typeInfo library) "Struct")
    (call (newFor (structInfo library) [.ident "Self"])
      (template "&" ++ brackets (commaSeparated (plan.members.map (memberInfoTokens library)))) ++ withDocs plan.docs)

/-! ## Implementations -/

def implementation (plan : Plan) (item : List Token) (predicates : List Predicate) (body : List Token) :
    List Token :=
  .ident "impl" :: paramList plan.params Param.declaration ++ item ++ [.ident "for", .ident plan.ident] ++
    paramList plan.params Param.argument ++ whereClause library predicates ++ braces body

def function (head : String) (result body : List Token) : List Token :=
  template head ++ template "->" ++ result ++ braces body

/-- A static cell, and a call of one of its methods with a closure. -/
def throughCell (cell : List Token) (method : String) (body : List Token) : List Token :=
  template "static CELL:" ++ cell ++ template "=" ++ call (member cell "new") [] ++ template ";" ++
    call (template method) (template "||" ++ braces body)

def forSelf : String := "CELL.get_or_insert::<Self>"

def namesImplementation (plan : Plan) : List Token :=
  let cached (body : List Token) : List Token :=
    if plan.isGeneric then throughCell (pathCell library) forSelf body else body
  let mark := if plan.isGeneric then [] else inlineMark
  plan.implementation library (typePathTrait library) plan.namePredicates
    (mark ++ function "fn type_path()" staticText (cached (plan.typePath library)) ++
      mark ++ function "fn type_name()" staticText (cached (plan.typeName library)) ++
      inlineMark ++ function "fn type_ident()" staticText plan.typeIdent ++
      inlineMark ++ function "fn module_path()" (optionType ++ angles staticText) (plan.modulePath library))

def infoImplementation (plan : Plan) : List Token :=
  let body :=
    if plan.isGeneric then throughCell (genericInfoCell library) forSelf (plan.infoTokens library)
    else throughCell (plainInfoCell library) "CELL.get_or_init" (plan.infoTokens library)
  plan.implementation library (typedTrait library) plan.reflectPredicates
    (function "fn type_info()" (template "&'static" ++ typeInfo library) body)

/-! ## Access to members -/

/-- A match with an arm for each pattern, and nothing for all else. -/
def choose (subject : String) (arms : List (Token × List Token)) : List Token :=
  [.ident "match", .ident subject] ++ braces
    ((arms.flatMap fun (pattern, x) => pattern :: template "=>" ++ someOf x ++ comma) ++
      template "_ =>" ++ noneOf ++ comma)

def indexLiteral (i : Nat) : Token := .literal (toString i ++ "usize")

def optionOf (borrow : Borrow) : List Token :=
  optionType ++ angles (template (borrow.code ++ " dyn") ++ reflectTrait library)

def byName (arms : List (String × FieldRef)) : List Token :=
  choose "name" (arms.map fun (name, ref) => (literalText name, ref.tokens library))

def byIndex (arms : List (Nat × FieldRef)) : List Token :=
  choose "index" (arms.map fun (i, ref) => (indexLiteral i, ref.tokens library))

def nameChoices (plan : Plan) : List (Token × List Token) :=
  plan.namesByIndex.map fun (i, name) => (indexLiteral i, [literalText name])

def iteratorType : List Token := structIterator library ++ template "<'_>"

def structImplementation (plan : Plan) : List Token :=
  plan.implementation library (structTrait library) plan.reflectPredicates
    (function "fn member(&self, name: &str)" (optionOf library .shared) (byName library plan.nameArms) ++
      function "fn member_mut(&mut self, name: &str)" (optionOf library .mutable) (byName library plan.nameArmsMut) ++
      function "fn member_at(&self, index: usize)" (optionOf library .shared) (byIndex library plan.indexArms) ++
      function "fn member_at_mut(&mut self, index: usize)" (optionOf library .mutable)
        (byIndex library plan.indexArmsMut) ++
      function "fn name_at(&self, index: usize)" (optionType ++ template "<&str>")
        (choose "index" plan.nameChoices) ++
      inlineMark ++ function "fn member_len(&self)" [.ident "usize"] [indexLiteral plan.count] ++
      inlineMark ++ function "fn iter_members(&self)" (iteratorType library)
        (call (member (structIterator library) "new") [.ident "self"]))

/-! ## Reflection -/

def boxed : List Token := boxType library ++ angles (.ident "dyn" :: reflectTrait library)

def reflectImplementation (plan : Plan) : List Token :=
  plan.implementation library (reflectTrait library) plan.reflectPredicates
    ([.ident "fn", .ident "set"] ++ parens (template "&mut self, value:" ++ boxed library ++ comma) ++
        template "->" ++ resultType ++ angles (parens [] ++ comma ++ boxed library) ++
        braces (template "*self = value.take::<Self>()?;" ++ call (member resultType "Ok") (parens [])) ++
      inlineMark ++ function "fn reflect_kind(&self)" (reflectKind library) (member (reflectKind library) "Struct") ++
      inlineMark ++ function "fn reflect_ref(&self)" (reflectRef library ++ template "<'_>")
        (call (member (reflectRef library) "Struct") [.ident "self"]) ++
      inlineMark ++ function "fn reflect_mut(&mut self)" (reflectMut library ++ template "<'_>")
        (call (member (reflectMut library) "Struct") [.ident "self"]) ++
      inlineMark ++ [.ident "fn", .ident "reflect_partial_eq"] ++
        parens (template "&self, other: &dyn" ++ reflectTrait library) ++ template "->" ++ optionType ++
        template "<bool>" ++ braces (call (structEquality library) (template "self, other")))

/-- All implementations, in a scope of their own. -/
def expansion (plan : Plan) : List Token :=
  template "const _: () =" ++
    braces (plan.namesImplementation library ++ plan.infoImplementation library ++ plan.structImplementation library ++
      plan.reflectImplementation library) ++
    template ";"

end

end Plan

/-! ## Deriving -/

/-- What a derivation depends on besides the item. -/
structure Setup where
  /-- Docs are collected. -/
  collect : Bool
  /-- The path under which the code can reach the library. -/
  library : ItemPath
deriving DecidableEq, Repr

/-- The setup of a project with the manifest. There is none if the manifest gives text that is no path. -/
def Setup.ofManifest (collect : Bool) (m : Option Manifest) : Except String Setup :=
  (Manifest.codePath m "pw_reflect").map fun library => ⟨collect, library⟩

/-- Docs are not collected, and the library is reached by its own name. -/
def Setup.usual : Setup := ⟨false, ⟨true, [⟨"pw_reflect", none⟩]⟩⟩

example : (Setup.ofManifest false none).toOption = some .usual := by decide +kernel

/-- The code that is derived for an item, or why it is refused. -/
def derive (setup : Setup) (item : Item) : Except DeriveError (List Token) :=
  (Plan.ofItem setup.collect item).map (Plan.expansion setup.library)

end Reflection.Derive
