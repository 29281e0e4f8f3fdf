import Reflection.Derive.Item
import Reflection.Code.SyntaxError
/-!
# Why an item is refused
-/

namespace Reflection.Derive

inductive DeriveError
  | constParameter
  | unsupported (shape : Shape)
  /-- A bare attribute. -/
  | noArguments
  /-- A key without the value it needs. -/
  | noValue
  /-- A key with a value it cannot have. -/
  | unwantedValue
  | notText
  | duplicateTypePath
  | typePathSyntax (e : Code.SyntaxError)
  | absoluteTypePath
  | typePathArguments
  | fieldsOnly
  | typeOnly
  | unknownTypeKey
  | unknownFieldKey
  | accessConflict
  | emptyName
  | nameWithSeparator
  | nameOfDigits
  | duplicateRename
  | duplicateMember (name : String)
  | docValue
  | docTrue
  | docEntryValue
deriving DecidableEq, Repr

def Shape.plural : Shape → String
  | .named => "structs with named fields"
  | .tuple => "tuple structs"
  | .unit => "unit structs"
  | .enumeration => "enums"
  | .union => "unions"

def DeriveError.message : DeriveError → String
  | .constParameter => "`Reflect` cannot be derived for types with const generic parameters"
  | .unsupported shape =>
    s!"`Reflect` cannot be derived for {shape.plural}, only for structs with named fields"
  | .noArguments => "expected attribute arguments in parentheses: #[reflect(...)]"
  | .noValue => "expected `=`"
  | .unwantedValue => "expected `,`"
  | .notText => "expected string literal"
  | .duplicateTypePath => "duplicate `type_path`"
  | .typePathSyntax e => e.message
  | .absoluteTypePath => "did not expect a leading double colon (`::`)"
  | .typePathArguments => "type path must not contain generics, they are appended automatically"
  | .fieldsOnly => "this attribute can only be used on fields"
  | .typeOnly => "`type_path` can only be used on the type"
  | .unknownTypeKey => "unknown reflect attribute, expected `type_path` or `doc`"
  | .unknownFieldKey =>
    "unknown reflect attribute, expected `skip`, `readonly`, `writeonly`, `rename` or `doc`"
  | .accessConflict => "`readonly` and `writeonly` cannot be combined"
  | .emptyName => "member name must not be empty"
  | .nameWithSeparator => "member name must not contain `.`, `[` or `]`"
  | .nameOfDigits => "member name must not consist of digits only, it would parse as an index"
  | .duplicateRename => "duplicate `rename`"
  | .duplicateMember name => s!"duplicate member name `{name}`"
  | .docValue => "`#[doc = ...]` expected a string literal value"
  | .docTrue => "explicit `true` is invalid, docs are collected by default"
  | .docEntryValue => "expected a string or `false` literal"

end Reflection.Derive
