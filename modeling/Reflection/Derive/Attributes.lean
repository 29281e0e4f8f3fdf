import Reflection.Code.ItemPath
import Reflection.Derive.Docs
import Reflection.Path.Segment
import Reflection.Schema.Kind
/-!
# Attributes of types and fields

Attributes are taken in order, entry by entry, and the first one that is refused ends it. Whether docs
are collected on the way is a choice made for all items, `collect`.
-/

namespace Reflection.Derive

/-- Takes the entries of the attributes in order. -/
def foldAttributes {α : Type} (docs : α → Docs) (setDocs : α → Docs → α)
    (entry : α → Entry → Except DeriveError α) (start : α) (attrs : List Attribute) :
    Except DeriveError α :=
  attrs.foldlM (fun a attr => match attr with
    | .doc value => (Docs.addDefault (docs a) value).map (setDocs a)
    | .docList => (Docs.addList (docs a)).map (setDocs a)
    | .bare => .error .noArguments
    | .reflect entries => entries.foldlM entry a
    | .other => .ok a) start

/-- The text that an entry needs for its value. -/
def Entry.textValue (e : Entry) : Except DeriveError String :=
  match e.assigned with
  | .nothing | .stray => .error .noValue
  | .value (.text s) => .ok s
  | .value _ => .error .notText

/-- Accepts an entry that is a mere key. -/
def Entry.flag {α : Type} (e : Entry) (a : α) : Except DeriveError α :=
  if e.assigned = .nothing then .ok a else .error .unwantedValue

/-! ## Types -/

/-- A type path chosen for the type, without its parameters. -/
structure CustomPath where
  module : List String
  ident : String
deriving DecidableEq, Repr

namespace CustomPath

def ofText (s : String) : Except DeriveError CustomPath :=
  match Code.ItemPath.parse s with
  | .error e => .error (.typePathSyntax e)
  | .ok path =>
    if path.absolute then .error .absoluteTypePath
    else if path.hasArguments then .error .typePathArguments
    else .ok ⟨path.names.dropLast, path.names.getLast?.getD ""⟩

def path (p : CustomPath) : String := "::".intercalate (p.module ++ [p.ident])

def module? (p : CustomPath) : Option String :=
  if p.module.isEmpty then none else some ("::".intercalate p.module)

end CustomPath

structure TypeAttributes where
  typePath : Option CustomPath
  docs : Docs
deriving DecidableEq, Repr

namespace TypeAttributes

def start (collect : Bool) : TypeAttributes := ⟨none, .start collect⟩

def addEntry (attrs : TypeAttributes) (e : Entry) : Except DeriveError TypeAttributes := do
  if e.key = "type_path" then
    let text ← e.textValue
    if attrs.typePath.isSome then throw .duplicateTypePath
    return { attrs with typePath := some (← CustomPath.ofText text) }
  else if e.key = "doc" then
    return { attrs with docs := ← attrs.docs.addEntry e.assigned }
  else if ["skip", "readonly", "writeonly", "rename"].contains e.key then throw .fieldsOnly
  else throw .unknownTypeKey

def ofAttributes (collect : Bool) (attrs : List Attribute) : Except DeriveError TypeAttributes :=
  foldAttributes TypeAttributes.docs (fun a docs => { a with docs }) addEntry (start collect) attrs

end TypeAttributes

/-! ## Fields -/

structure FieldAttributes where
  skip : Bool
  access : Access
  rename : Option String
  docs : Docs
deriving DecidableEq, Repr

/-- A member name has to be one segment of a path, and no index. -/
def checkMemberName (name : String) : Except DeriveError Unit :=
  if name.isEmpty then .error .emptyName
  else if name.toList.any isSeparator then .error .nameWithSeparator
  else if isIndexPiece name.toList then .error .nameOfDigits
  else .ok ()

namespace FieldAttributes

def start (collect : Bool) : FieldAttributes := ⟨false, .readWrite, none, .start collect⟩

/-- An access may be repeated, but not changed. -/
def setAccess (attrs : FieldAttributes) (access : Access) : Except DeriveError FieldAttributes :=
  if attrs.access ≠ .readWrite ∧ attrs.access ≠ access then .error .accessConflict
  else .ok { attrs with access }

def addEntry (attrs : FieldAttributes) (e : Entry) : Except DeriveError FieldAttributes := do
  if e.key = "skip" then e.flag { attrs with skip := true }
  else if e.key = "readonly" then e.flag (← attrs.setAccess .readOnly)
  else if e.key = "writeonly" then e.flag (← attrs.setAccess .writeOnly)
  else if e.key = "rename" then
    let name ← e.textValue
    checkMemberName name
    if attrs.rename.isSome then throw .duplicateRename
    return { attrs with rename := some name }
  else if e.key = "doc" then
    return { attrs with docs := ← attrs.docs.addEntry e.assigned }
  else if e.key = "type_path" then throw .typeOnly
  else throw .unknownFieldKey

def ofAttributes (collect : Bool) (attrs : List Attribute) : Except DeriveError FieldAttributes :=
  foldAttributes FieldAttributes.docs (fun a docs => { a with docs }) addEntry (start collect) attrs

end FieldAttributes

end Reflection.Derive
