import Reflection.Schema.TypeName
import Reflection.Text.Shown
/-!
# The names of a type together
-/

namespace Reflection

structure TypeTable where
  path : String
  name : String
  ident : String
  module : Option String
deriving DecidableEq, Repr

def Ty.table (t : Ty) : TypeTable := ⟨t.path, t.name, t.ident, t.module?⟩

namespace TypeTable

def shown (table : TypeTable) : Shown :=
  .record "TypePathTable"
    [ ("type_path", .word (Text.quoteText table.path)),
      ("type_name", .word (Text.quoteText table.name)),
      ("type_ident", .word (Text.quoteText table.ident)),
      ("module_path", .optionalText table.module) ]

def debugText (table : TypeTable) : String := table.shown.compact

end TypeTable

end Reflection
