import Reflection.Code.ItemPath
/-!
# Finding a library through a manifest

A project's manifest lists the libraries it depends on. Code that is generated for the project
names a library by the path under which the project can reach it: by its own name, or as a module of
a facade that the project depends on.
-/

namespace Reflection

/-- How a section of a manifest is written down. -/
inductive Spelling
  | table | subtables | dotted | inlineTable | tableArray | text
deriving DecidableEq, Repr

/-- Whether the section is a table of its own. Values, inline tables among them, are not. -/
def Spelling.isTable : Spelling → Bool
  | .table | .subtables | .dotted => true
  | _ => false

structure ManifestSection where
  spelling : Spelling
  keys : List String
deriving DecidableEq, Repr

/-- Whether the section means something: no table has a key twice. The entries of an array are
tables of their own. -/
def ManifestSection.isReadable (s : ManifestSection) : Bool :=
  match s.spelling with
  | .tableArray | .text => true
  | .table | .subtables | .dotted | .inlineTable => s.keys.Nodup

/-- What a manifest says, if all of its sections mean something. -/
structure Manifest where
  sections : List (String × ManifestSection)
  readable : ∀ s ∈ sections, s.2.isReadable = true
deriving DecidableEq, Repr

namespace Manifest

/-- A section that cannot be read makes all of the manifest unreadable. -/
def ofSections? (sections : List (String × ManifestSection)) : Option Manifest :=
  if h : ∀ s ∈ sections, s.2.isReadable = true then some ⟨sections, h⟩ else none

def facades : List String := ["pathway", "pw"]
def libraryMark : String := "pw_"

/-- The sections that are searched, in order. -/
def searched : List String := ["dependencies", "dev-dependencies"]

/-- A name without a mark in front. -/
def stripStart (mark name : List Char) : Option (List Char) :=
  match mark, name with
  | [], rest => some rest
  | m :: mark, c :: rest => if m = c then stripStart mark rest else none
  | _ :: _, [] => none

/-- The path that dependencies give for a name: the name itself if it is one of them, else its module
in the first facade among them. -/
def findIn (keys : List String) (name : String) : Option (List String) :=
  if keys.contains name then some [name]
  else
    (stripStart libraryMark.toList name.toList).bind fun module =>
      (facades.find? keys.contains).map fun facade => [facade, String.ofList module]

/-- The keys of a section that is a table. -/
def table? (m : Manifest) (name : String) : Option (List String) :=
  (m.sections.lookup name).bind fun s => if s.spelling.isTable then some s.keys else none

/-- The path of a library. Without a dependency that gives one, it is the name. -/
def resolve (m : Option Manifest) (name : String) : List String :=
  match m with
  | none => [name]
  | some m => ((searched.filterMap m.table?).findSome? (findIn · name)).getD [name]

/-- The text of an absolute path. -/
def pathText (segments : List String) : String := "::" ++ "::".intercalate segments

/-- The path of a library in code, or its text if that is no path. -/
def codePath (m : Option Manifest) (name : String) : Except String Code.ItemPath :=
  let text := pathText (resolve m name)
  match Code.ItemPath.parse text with
  | .ok path => .ok path
  | .error _ => .error text

end Manifest

/-- What is reported of text that is no path. -/
def invalidCodePath (text : String) : String := s!"`{text}` is not a valid crate path"

end Reflection
