import Reflection.Schema.TypeName
/-!
# Reading names of types

`Ty.ofName?` reads what `Ty.name` writes: a word, a word with arguments in angle brackets, or an array
in square brackets. A word that names no scalar, container or bespoke type is a struct's.
-/

namespace Reflection

def ScalarType.all : List ScalarType :=
  [ .bool, .char, .int .i8, .int .i16, .int .i32, .int .i64, .int .i128, .int .isize, .int .u8, .int .u16,
    .int .u32, .int .u64, .int .u128, .int .usize, .f32, .f64, .str, .string ]

def Bespoke.all : List Bespoke := [.mystery, .link, .trio, .bag, .ghost, .liar]

namespace TypeReader

/-- The characters that end a word. -/
def isMark (c : Char) : Bool := c == '<' || c == '>' || c == ',' || c == ';' || c == ']'

/-- The type that a word stands for. `structName` tells where a struct lives. -/
def ofWord (structName : String → StructName) (word : String) : List Ty → Ty
  | [] =>
    match ScalarType.all.find? (·.base.ident == word), Bespoke.all.find? (·.ident == word) with
    | some s, _ => .scalar s
    | none, some b => .bespoke b
    | none, none => .struct (structName word) []
  | [t] =>
    if word = Ty.vecBase.ident then .vec t
    else if word = Ty.dequeBase.ident then .deque t
    else if word = Ty.optionBase.ident then .option t
    else if word = Ty.boxBase.ident then .box t
    else .struct (structName word) [t]
  | args => .struct (structName word) args

mutual
/-- The type at the start of the text, and what follows it. Types are nested less than `fuel` deep. -/
def type? (structName : String → StructName) : Nat → List Char → Option (Ty × List Char)
  | 0, _ => none
  | fuel + 1, '[' :: cs => do
    match ← type? structName fuel cs with
    | (item, ';' :: ' ' :: rest) =>
      let len ← (String.ofList (rest.takeWhile Char.isDigit)).toNat?
      match rest.dropWhile Char.isDigit with
      | ']' :: later => some (.array item len, later)
      | _ => none
    | _ => none
  | fuel + 1, cs => do
    let word := String.ofList (cs.takeWhile (!isMark ·))
    match cs.dropWhile (!isMark ·) with
    | '<' :: rest =>
      let (args, later) ← args? structName fuel rest
      some (ofWord structName word args, later)
    | rest => some (ofWord structName word [], rest)

/-- Arguments up to the closing bracket. -/
def args? (structName : String → StructName) : Nat → List Char → Option (List Ty × List Char)
  | 0, _ => none
  | fuel + 1, cs => do
    match ← type? structName fuel cs with
    | (t, ',' :: ' ' :: rest) =>
      let (ts, later) ← args? structName fuel rest
      some (t :: ts, later)
    | (t, '>' :: later) => some ([t], later)
    | _ => none
end

end TypeReader

def Ty.ofName? (structName : String → StructName) (name : String) : Option Ty :=
  match TypeReader.type? structName (name.toList.length + 1) name.toList with
  | some (t, []) => some t
  | _ => none

end Reflection
