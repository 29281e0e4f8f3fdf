import Reflection.Universe.Basic
/-!
# The sample universe

Thirteen structs that together use every kind, access and container, that refer to themselves
through pointers, and that hide fields. `Sample.types` declares them.
-/

namespace Reflection.Sample

/-! ## Their types -/

def moduleName : String := "pwdrv::fix"

def inSample (ident : String) : StructName := ⟨some moduleName, ident⟩

def plain (ident : String) : Ty := .struct (inSample ident) []

def tyA : Ty := plain "A"
def tyB : Ty := plain "B"

def u8 : Ty := .scalar (.int .u8)
def u32 : Ty := .scalar (.int .u32)
def u64 : Ty := .scalar (.int .u64)
def text : Ty := .scalar .string
def staticText : Ty := .scalar .str

/-! ## Their fields -/

def fieldsA : List Field :=
  [ { name := "number", type := .i32, docs := some "A number." },
    { name := "instanceB", type := .option (.box tyB) },
    { name := "b", type := tyB },
    { name := "id", type := u32, access := .readOnly },
    { name := "secret", type := text, access := .writeOnly },
    { name := "cache", type := u64, hidden := true } ]

def fieldsB : List Field :=
  [ { name := "text", type := text },
    { name := "instanceA", type := .option (.box tyA) } ]

def fieldsC : List Field :=
  [ { name := "arrayOfA", type := .vec tyA },
    { name := "numbers", type := .vec .i32 },
    { name := "grid", type := .array (.array u8 2) 2 } ]

def fieldsPlayer : List Field :=
  [ { name := "name", type := text },
    { name := "hitPoints", type := u32 },
    { name := "level", type := u8, access := .readOnly },
    { name := "session", type := u64, hidden := true } ]

def fieldsTwin : List Field :=
  [ { name := "level", type := u8, access := .readOnly },
    { name := "name", type := text },
    { name := "hitPoints", type := u32 } ]

def fieldsSlot (t : Ty) : List Field :=
  [ { name := "items", type := .vec t },
    { name := "first", type := .option t } ]

def fieldsPair (k v : Ty) : List Field :=
  [ { name := "key", type := k },
    { name := "value", type := v, access := .readOnly } ]

def fieldsLone : List Field :=
  [ { name := "value", type := u8, docs := some "First line.\nSecond line." },
    { name := "other", type := u8, docs := some "Custom." },
    { name := "hidden", type := u8 },
    { name := "blank", type := u8 } ]

def fieldsTag : List Field := [ { name := "label", type := staticText } ]

/-- A member for each scalar type. -/
def fieldsPrim : List Field :=
  [ { name := "bool_", type := .scalar .bool },
    { name := "char_", type := .scalar .char },
    { name := "i8_", type := .scalar (.int .i8) },
    { name := "i16_", type := .scalar (.int .i16) },
    { name := "i32_", type := .scalar (.int .i32) },
    { name := "i64_", type := .scalar (.int .i64) },
    { name := "i128_", type := .scalar (.int .i128) },
    { name := "isize_", type := .scalar (.int .isize) },
    { name := "u8_", type := .scalar (.int .u8) },
    { name := "u16_", type := .scalar (.int .u16) },
    { name := "u32_", type := .scalar (.int .u32) },
    { name := "u64_", type := .scalar (.int .u64) },
    { name := "u128_", type := .scalar (.int .u128) },
    { name := "usize_", type := .scalar (.int .usize) },
    { name := "f32_", type := .scalar .f32 },
    { name := "f64_", type := .scalar .f64 },
    { name := "string", type := text },
    { name := "text", type := staticText } ]

def fieldsMix : List Field :=
  [ { name := "queue", type := .deque tyA },
    { name := "opt", type := .option (.option u8) },
    { name := "bb", type := .box (.box .i32) },
    { name := "arr", type := .array (.option (.box tyB)) 2 },
    { name := "mat", type := .vec (.vec u8) },
    { name := "none", type := .array u8 0 },
    { name := "maybe", type := .option (.vec u8) },
    { name := "ro", type := tyB, access := .readOnly },
    { name := "wo", type := tyB, access := .writeOnly },
    { name := "roVec", type := .vec u8, access := .readOnly },
    { name := "woVec", type := .array u8 2, access := .writeOnly },
    { name := "with space", type := u8 },
    { name := "日本", type := u8 },
    { name := "1a", type := u8 },
    { name := "-1", type := u8 },
    { name := "٣", type := u8 },
    { name := "r#type", type := u8 },
    { name := "odd", type := plain "Odd" } ]

def fieldsOdd : List Field :=
  [ { name := "mystery", type := .bespoke .mystery },
    { name := "link", type := .bespoke .link },
    { name := "trio", type := .bespoke .trio },
    { name := "bag", type := .bespoke .bag },
    { name := "ghost", type := .bespoke .ghost },
    { name := "liar", type := .bespoke .liar } ]

/-! ## The universe -/

/-- Where a struct of the sample lives. -/
def nameOf (ident : String) : StructName :=
  if ident = "Slot" then ⟨some "game", ident⟩
  else if ident = "Lone" then ⟨none, ident⟩
  else inSample ident

/-- The docs and fields of a struct for its type arguments. -/
def contents? (ident : String) (args : List Ty) : Option (Option String × List Field) :=
  match ident, args with
  | "A", [] => some (some "Node A.", fieldsA)
  | "B", [] => some (none, fieldsB)
  | "C", [] => some (none, fieldsC)
  | "Player", [] => some (none, fieldsPlayer)
  | "Twin", [] => some (some "Same members as `Player`, other order.", fieldsTwin)
  | "Slot", [t] => some (none, fieldsSlot t)
  | "Pair", [k, v] => some (some "Two parameters.", fieldsPair k v)
  | "Empty", [] => some (none, [])
  | "Lone", [] => some (some "Custom one.\nCustom two.", fieldsLone)
  | "Tag", [] => some (none, fieldsTag)
  | "Prim", [] => some (none, fieldsPrim)
  | "Mix", [] => some (none, fieldsMix)
  | "Odd", [] => some (some "Handwritten implementations in one place.", fieldsOdd)
  | _, _ => none

def decl? (name : StructName) (args : List Ty) : Option StructDecl :=
  if name = nameOf name.ident then
    (contents? name.ident args).map fun (docs, fields) => .ofFields name args docs fields
  else none

def types : Universe := ⟨decl?, tyB⟩

end Reflection.Sample
