import Reflection.Proofs.Identifiers
import Reflection.Schema.TypeReader
/-!
# Types as terms

A type is an array, or a `TypeHead` with arguments (`Ty.BuiltFrom.terms` is induction on that). Its text is
the head's base and the arguments in angle brackets. A base is a word, and the path of a base is its
identifier behind module names, each with `::` (`TypeBase.Qualified`).
-/

namespace Reflection

/-! ## Heads -/

/-- What a type starts with that is not an array. -/
inductive TypeHead
  | scalar (s : ScalarType)
  | vec
  | deque
  | option
  | box
  | struct (name : StructName)
deriving DecidableEq, Repr

namespace TypeHead

def base : TypeHead → TypeBase
  | .scalar s => s.base
  | .vec => Ty.vecBase
  | .deque => Ty.dequeBase
  | .option => Ty.optionBase
  | .box => Ty.boxBase
  | .struct name => name.base

def builtIn : List TypeHead := ScalarType.all.map .scalar ++ [.vec, .deque, .option, .box]

theorem mem_builtIn {head : TypeHead} (h : ∀ name, head ≠ .struct name) : head ∈ builtIn := by
  cases head with
  | scalar s =>
    have hall : s ∈ ScalarType.all := by
      cases s with
      | int t => cases t <;> decide
      | _ => decide
    exact List.mem_append_left _ (List.mem_map_of_mem hall)
  | struct name => exact absurd rfl (h name)
  | _ => decide

end TypeHead

/-- The bases of the types that need no declaration. -/
def builtInBases : List TypeBase := TypeHead.builtIn.map TypeHead.base

/-- Built-in heads differ in their paths, and in their identifiers. -/
theorem builtIn_injective : ∀ qualified : Bool, ∀ head ∈ TypeHead.builtIn, ∀ head' ∈ TypeHead.builtIn,
    head.base.text qualified = head'.base.text qualified → head = head' := by
  decide +kernel

namespace Ty

/-- The head of a type and its arguments. -/
def parts? : Ty → Option (TypeHead × List Ty)
  | .scalar s => some (.scalar s, [])
  | .vec t => some (.vec, [t])
  | .deque t => some (.deque, [t])
  | .option t => some (.option, [t])
  | .box t => some (.box, [t])
  | .struct name args => some (.struct name, args)
  | .array _ _ | .bespoke _ => none

theorem eq_of_parts {t t' : Ty} {parts : TypeHead × List Ty} (h : t.parts? = some parts) (h' : t'.parts? = some parts) :
    t = t' := by
  cases t with
  | array => cases h
  | bespoke => cases h
  | _ => cases h; cases t' <;> simp_all [parts?]

/-! ## Types of declared structs -/

/-- The types that are made from built-in ones and declared structs. -/
inductive BuiltFrom (declared : StructName → Prop) : Ty → Prop
  | scalar (s : ScalarType) : BuiltFrom declared (.scalar s)
  | vec {t : Ty} (h : BuiltFrom declared t) : BuiltFrom declared (.vec t)
  | deque {t : Ty} (h : BuiltFrom declared t) : BuiltFrom declared (.deque t)
  | array {t : Ty} {len : Nat} (h : BuiltFrom declared t) : BuiltFrom declared (.array t len)
  | option {t : Ty} (h : BuiltFrom declared t) : BuiltFrom declared (.option t)
  | box {t : Ty} (h : BuiltFrom declared t) : BuiltFrom declared (.box t)
  | struct {name : StructName} {args : List Ty} (hname : declared name) (hargs : ∀ t ∈ args, BuiltFrom declared t) :
    BuiltFrom declared (.struct name args)

variable {declared : StructName → Prop} {t : Ty}

/-- Every type of declared structs has a property that an array has with its items, and that any other type
has with its arguments. -/
@[elab_as_elim]
theorem BuiltFrom.terms {P : Ty → Prop} (ht : t.BuiltFrom declared)
    (array : ∀ item len, item.BuiltFrom declared → P item → P (.array item len))
    (head : ∀ t head args, t.parts? = some (head, args) → (∀ name, head = .struct name → declared name) →
      (∀ a ∈ args, a.BuiltFrom declared) → (∀ a ∈ args, P a) → P t) : P t := by
  induction ht with
  | scalar s => exact head _ (.scalar s) [] rfl (by simp) (by simp) (by simp)
  | vec h ih => exact head _ .vec [_] rfl (by simp) (by simpa using h) (by simpa using ih)
  | deque h ih => exact head _ .deque [_] rfl (by simp) (by simpa using h) (by simpa using ih)
  | array h ih => exact array _ _ h ih
  | option h ih => exact head _ .option [_] rfl (by simp) (by simpa using h) (by simpa using ih)
  | box h ih => exact head _ .box [_] rfl (by simp) (by simpa using h) (by simpa using ih)
  | struct hname hargs ih =>
    refine head _ (.struct _) _ rfl (fun name h => ?_) hargs ih
    cases h
    exact hname

theorem BuiltFrom.array_or_parts (ht : t.BuiltFrom declared) :
    (∃ item len, t = .array item len ∧ item.BuiltFrom declared) ∨
    ∃ head args, t.parts? = some (head, args) ∧ (∀ name, head = .struct name → declared name) ∧
      ∀ a ∈ args, a.BuiltFrom declared := by
  refine ht.terms ?_ ?_
  · exact fun item len hitem _ => .inl ⟨item, len, rfl, hitem⟩
  · exact fun _ head args hparts hhead hargs _ => .inr ⟨head, args, hparts, hhead, hargs⟩

/-! ## Texts as terms -/

/-- The characters of a type's path, or of its name. -/
def chars (qualified : Bool) (t : Ty) : List Char := (t.text qualified).toList

/-- The characters of arguments and of the commas between them. -/
def argumentChars (qualified : Bool) (args : List Ty) : List Char :=
  [',', ' '].intercalate (args.map (chars qualified))

/-- Arguments in angle brackets, if there are any. -/
def bracketChars (qualified : Bool) (args : List Ty) : List Char :=
  if args = [] then [] else '<' :: (argumentChars qualified args ++ ['>'])

@[simp] theorem argumentChars_singleton (qualified : Bool) (a : Ty) :
    argumentChars qualified [a] = chars qualified a := by
  simp [argumentChars]

theorem argumentChars_cons_cons (qualified : Bool) (a b : Ty) (args : List Ty) :
    argumentChars qualified (a :: b :: args) =
      chars qualified a ++ ',' :: ' ' :: argumentChars qualified (b :: args) := by
  simp [argumentChars, List.intercalate_cons_cons]

@[simp] theorem bracketChars_nil (qualified : Bool) : bracketChars qualified [] = [] := rfl

theorem bracketChars_append (qualified : Bool) {args : List Ty} (h : args ≠ []) (r : List Char) :
    bracketChars qualified args ++ r = '<' :: (argumentChars qualified args ++ '>' :: r) := by
  simp [bracketChars, h]

theorem texts_eq_map (qualified : Bool) (args : List Ty) : texts qualified args = args.map (text qualified) := by
  induction args with
  | nil => rfl
  | cons t args ih => rw [texts, ih, List.map_cons]

theorem chars_array (qualified : Bool) (item : Ty) (len : Nat) :
    chars qualified (.array item len) =
      '[' :: (chars qualified item ++ ';' :: ' ' :: (len.repr.toList ++ [']'])) := by
  simp [chars, text, bracketed]

theorem text_of_parts {head : TypeHead} {args : List Ty} (h : t.parts? = some (head, args)) (qualified : Bool) :
    t.text qualified = applied (head.base.text qualified) (texts qualified args) := by
  cases t with
  | array => cases h
  | bespoke => cases h
  | _ => cases h; rfl

theorem chars_of_parts {head : TypeHead} {args : List Ty} (h : t.parts? = some (head, args)) (qualified : Bool) :
    chars qualified t = (head.base.text qualified).toList ++ bracketChars qualified args := by
  rw [chars, text_of_parts h, texts_eq_map, applied]
  cases args with
  | nil => simp
  | cons a args =>
    have hchars : (args.map (text qualified)).map String.toList = args.map (chars qualified) := by simp [chars]
    simp [bracketChars, argumentChars, String.toList_intercalate, chars, hchars]

theorem base?_of_parts {head : TypeHead} {args : List Ty} (h : t.parts? = some (head, args)) :
    t.base? = some head.base ∧ t.ident = head.base.ident := by
  cases t with
  | array => cases h
  | bespoke => cases h
  | _ => cases h; exact ⟨rfl, rfl⟩

end Ty

/-! ## Words -/

/-- The characters between the words of a type's text. -/
def isBreak (c : Char) : Bool := ['<', '>', ',', ';', '[', ']', ' '].contains c

/-- Text that is made of one word, without `::`. -/
def IsWord (cs : List Char) : Prop := ∀ c ∈ cs, isBreak c = false ∧ c ≠ ':'

instance (cs : List Char) : Decidable (IsWord cs) :=
  decidable_of_iff (cs.all (fun c => !isBreak c && c != ':') = true) (by simp [IsWord])

/-- Characters of a class make a word if nothing that is not in words is in the class. -/
theorem isWord_of_class {p : Char → Bool} {cs : List Char}
    (hnone : [':', '<', '>', ',', ';', '[', ']', ' '].any p = false) (h : ∀ c ∈ cs, p c = true) : IsWord cs := by
  intro c hc
  have hnot : c ∉ [':', '<', '>', ',', ';', '[', ']', ' '] :=
    fun hmem => List.any_eq_false.1 hnone c hmem (h c hc)
  rw [List.mem_cons, not_or] at hnot
  exact ⟨by simpa [isBreak] using hnot.2, hnot.1⟩

theorem isWord_of_isIdentifier {text : String} (h : Code.IsIdentifier text) : IsWord text.toList :=
  isWord_of_class (by decide +kernel) (Code.chars_of_isIdentifier h)

theorem isDigit_of_mem_repr {n : Nat} : ∀ c ∈ n.repr.toList, c.isDigit = true := by
  rw [Nat.toList_repr]
  exact fun c hc => Nat.isDigit_of_mem_toDigits (by omega) (by omega) hc

theorem isWord_repr (n : Nat) : IsWord n.repr.toList :=
  isWord_of_class (by decide) isDigit_of_mem_repr

/-- A struct's names are made of identifiers. -/
structure StructName.WellFormed (n : StructName) : Prop where
  ident : Code.IsIdentifier n.ident
  module : ∀ m, n.module = some m → Code.IsItemPath m

namespace TypeBase

/-- The path of a base is its identifier behind the names of modules. -/
structure Qualified (b : TypeBase) : Prop where
  modules : ∃ modules : List String, (∀ m ∈ modules, IsWord m.toList) ∧ b.path = "::".intercalate (modules ++ [b.ident])
  ident : IsWord b.ident.toList ∧ b.ident ≠ ""
  module : b.path = match b.module with
    | none => b.ident
    | some m => m ++ "::" ++ b.ident

theorem qualified_bare {ident : String} (hident : IsWord ident.toList ∧ ident ≠ "") : (bare ident).Qualified where
  modules := ⟨[], by simp, by simp [bare]⟩
  ident := hident
  module := rfl

theorem qualified_inModule {module ident : String} (modules : List String) (hmodule : module = "::".intercalate modules)
    (hmodules : modules ≠ [] ∧ ∀ m ∈ modules, IsWord m.toList) (hident : IsWord ident.toList ∧ ident ≠ "") :
    (inModule module ident).Qualified where
  modules := by
    refine ⟨modules, hmodules.2, ?_⟩
    rw [String.intercalate_append_of_ne_nil hmodules.1 (by simp), String.intercalate_singleton, ← hmodule]
    rfl
  ident := hident
  module := rfl

end TypeBase

theorem Code.IsIdentifier.ne_empty {text : String} (h : Code.IsIdentifier text) : text ≠ "" := by
  rintro rfl
  cases h

theorem StructName.WellFormed.qualified {n : StructName} (h : n.WellFormed) : n.base.Qualified := by
  have hident := And.intro (isWord_of_isIdentifier h.ident) h.ident.ne_empty
  cases hmodule : n.module with
  | none =>
    have hbase : n.base = .bare n.ident := by rw [base, hmodule]
    rw [hbase]
    exact TypeBase.qualified_bare hident
  | some m =>
    obtain ⟨parts, hsome, hparts, hm⟩ := h.module m hmodule
    have hbase : n.base = .inModule m n.ident := by rw [base, hmodule]
    rw [hbase]
    exact TypeBase.qualified_inModule parts hm ⟨hsome, fun p hp => isWord_of_isIdentifier (hparts p hp)⟩ hident

theorem ScalarType.qualified (s : ScalarType) : s.base.Qualified := by
  cases s with
  | int t => cases t <;> exact TypeBase.qualified_bare (by decide)
  | string => exact TypeBase.qualified_inModule ["alloc", "string"] rfl (by decide) (by decide)
  | _ => exact TypeBase.qualified_bare (by decide)

/-- The heads of types that are made from well-formed structs. -/
theorem TypeHead.qualified {head : TypeHead} (h : ∀ name, head = .struct name → name.WellFormed) :
    head.base.Qualified := by
  cases head with
  | scalar s => exact s.qualified
  | vec => exact TypeBase.qualified_inModule ["alloc", "vec"] rfl (by decide) (by decide)
  | deque => exact TypeBase.qualified_inModule ["alloc", "collections"] rfl (by decide) (by decide)
  | option => exact TypeBase.qualified_inModule ["core", "option"] rfl (by decide) (by decide)
  | box => exact TypeBase.qualified_inModule ["alloc", "boxed"] rfl (by decide) (by decide)
  | struct name => exact (h name rfl).qualified

end Reflection
