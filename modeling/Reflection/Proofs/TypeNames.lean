import Reflection.Derive.Names
import Reflection.Proofs.TypeReading
/-!
# Names of types

A type's path tells the type, and so does its name. A name is the path without the modules (`Ty.name_eq`), and a
path starts with the module and the identifier (`Ty.takeWhile_path`). The names that the code of a derived type
computes are those of the struct that its plan stands for (`Plan.names_value`). `names_identify_types` is all of it.
-/

namespace Reflection

/-! ## Names without modules -/

/-- The text behind `word`, a word so far, without the names of modules: at `::` the word starts again. -/
def dropModules (word : List Char) : List Char → List Char
  | [] => word
  | ':' :: ':' :: cs => dropModules [] cs
  | c :: cs => if isBreak c then word ++ c :: dropModules [] cs else dropModules (word ++ [c]) cs

/-- A text with every `a::b::` removed that is in front of a word. -/
def withoutModules (text : String) : String := String.ofList (dropModules [] text.toList)

theorem dropModules_word {w : List Char} (hw : IsWord w) (word rest : List Char) :
    dropModules word (w ++ rest) = dropModules (word ++ w) rest := by
  induction w generalizing word with
  | nil => rw [List.nil_append, List.append_nil]
  | cons c w ih =>
    obtain ⟨hbreak, hcolon⟩ := hw c (by simp)
    have hstep : dropModules word (c :: (w ++ rest)) = dropModules (word ++ [c]) (w ++ rest) := by
      rw [dropModules, if_neg (by simp [hbreak])]
      rintro cs rfl
      exact absurd rfl hcolon
    rw [List.cons_append, hstep, ih fun c hc => hw c (List.mem_cons_of_mem _ hc), List.append_assoc]
    rfl

theorem dropModules_break {c : Char} (hc : isBreak c = true) (word cs : List Char) :
    dropModules word (c :: cs) = word ++ c :: dropModules [] cs := by
  rw [dropModules, if_pos hc]
  rintro cs rfl
  cases hc

theorem dropModules_closes {r : List Char} (hr : Closes r) (word : List Char) :
    dropModules word r = word ++ dropModules [] r := by
  cases r with
  | nil => simp [dropModules]
  | cons c cs =>
    have hc := (isBreak_of_closes hr c rfl).1
    rw [dropModules_break hc, dropModules_break hc, List.nil_append]

/-- Of the path of a base its identifier is left. -/
theorem dropModules_base {b : TypeBase} (h : b.Qualified) (rest : List Char) :
    dropModules [] (b.path.toList ++ rest) = dropModules b.ident.toList rest := by
  obtain ⟨modules, hmodules, hpath⟩ := h.modules
  rw [hpath]
  clear hpath
  induction modules with
  | nil => rw [List.nil_append, String.intercalate_singleton, dropModules_word h.ident.1, List.nil_append]
  | cons m modules ih =>
    have hcons : "::".intercalate (m :: (modules ++ [b.ident])) =
        m ++ "::" ++ "::".intercalate (modules ++ [b.ident]) := by
      rw [← List.singleton_append, String.intercalate_append_of_ne_nil (by simp) (by simp)]
      rw [String.intercalate_singleton]
    rw [List.cons_append, hcons, String.toList_append, String.toList_append, List.append_assoc, List.append_assoc,
      dropModules_word (hmodules m (by simp))]
    exact ih fun m hm => hmodules m (List.mem_cons_of_mem _ hm)

namespace Ty

variable {declared : StructName → Prop}

/-- Removing the modules of a type's path leaves its name. -/
def LosesModules (t : Ty) : Prop :=
  ∀ r, Closes r → dropModules [] (chars true t ++ r) = chars false t ++ dropModules [] r

theorem dropModules_arguments {args : List Ty} (h : ∀ a ∈ args, LosesModules a) (hne : args ≠ []) (r : List Char) :
    dropModules [] (argumentChars true args ++ '>' :: r) = argumentChars false args ++ '>' :: dropModules [] r := by
  induction args with
  | nil => exact absurd rfl hne
  | cons a args ih =>
    cases args with
    | nil =>
      rw [argumentChars_singleton, argumentChars_singleton, h a (by simp) _ (closes_cons (by decide) r),
        dropModules_break (by decide), List.nil_append]
    | cons b args =>
      rw [argumentChars_cons_cons, argumentChars_cons_cons, List.append_assoc, List.append_assoc, List.cons_append,
        List.cons_append, List.cons_append, List.cons_append, h a (by simp) _ (closes_cons (by decide) _),
        dropModules_break (by decide), dropModules_break (by decide),
        ih (fun x hx => h x (List.mem_cons_of_mem _ hx)) (by simp)]
      rfl

theorem losesModules (hformed : ∀ n, declared n → n.WellFormed) {t : Ty} (ht : t.BuiltFrom declared) :
    LosesModules t := by
  refine ht.terms ?_ ?_
  · intro item len _ ih r _
    rw [chars_array, chars_array]
    simp only [List.cons_append, List.append_assoc, List.nil_append]
    rw [dropModules_break (by decide), ih _ (closes_cons (by decide) _), dropModules_break (by decide),
      dropModules_break (by decide), dropModules_word (isWord_repr len), dropModules_break (by decide)]
    rfl
  · intro t head args hparts hhead _ ih r hr
    have hbase := TypeHead.qualified fun name hname => hformed name (hhead name hname)
    rw [chars_of_parts hparts, chars_of_parts hparts, List.append_assoc, List.append_assoc]
    have hpath : (head.base.text true).toList = head.base.path.toList := rfl
    have hident : (head.base.text false).toList = head.base.ident.toList := rfl
    rw [hpath, hident, dropModules_base hbase]
    by_cases hne : args = []
    · subst hne
      exact dropModules_closes hr _
    · rw [bracketChars_append _ hne, dropModules_break (by decide), dropModules_arguments ih hne]
      simp [bracketChars, hne]

theorem name_eq (hformed : ∀ n, declared n → n.WellFormed) {t : Ty} (ht : t.BuiltFrom declared) :
    t.name = withoutModules t.path := by
  have h := losesModules hformed ht [] (by simp [Closes])
  rw [List.append_nil, dropModules, List.append_nil] at h
  rw [withoutModules, ← String.toList_inj, String.toList_ofList]
  exact h.symm

/-- What stands in front of the arguments. -/
theorem takeWhile_path (hformed : ∀ n, declared n → n.WellFormed) {t : Ty} (ht : t.BuiltFrom declared)
    (harray : ∀ item len, t ≠ .array item len) :
    String.ofList (t.path.toList.takeWhile (· ≠ '<')) =
      match t.module? with
      | none => t.ident
      | some m => m ++ "::" ++ t.ident := by
  rcases ht.array_or_parts with ⟨item, len, rfl, -⟩ | ⟨head, args, hparts, hhead, -⟩
  · exact absurd rfl (harray item len)
  · have hbase := TypeHead.qualified fun name hname => hformed name (hhead name hname)
    obtain ⟨hbase?, hident⟩ := base?_of_parts hparts
    have hpath : t.path.toList = head.base.path.toList ++ bracketChars true args := chars_of_parts hparts true
    have hword : ∀ c ∈ head.base.path.toList, decide (c ≠ '<') = true := by
      intro c hc
      have hbreak := hbase.not_isBreak true c hc
      rw [decide_eq_true_eq]
      rintro rfl
      cases hbreak
    have hbehind : (bracketChars true args).takeWhile (· ≠ '<') = [] := by
      unfold bracketChars
      split <;> rfl
    rw [hpath, List.takeWhile_append_of_pos hword, hbehind, List.append_nil, String.ofList_toList]
    rw [hbase.module, module?, hbase?, hident]
    rfl

end Ty

/-! ## Names of derived types -/

namespace Derive

theorem NamePiece.join_params (module : String) (param : String → String) (params : List String) :
    String.join (((params.map NamePiece.param).intersperse (.text ", ")).map (·.value module param)) =
      ", ".intercalate (params.map param) := by
  induction params with
  | nil => rfl
  | cons p params ih =>
    cases params with
    | nil => simp [value]
    | cons q params =>
      rw [List.map_cons, List.map_cons] at ih ⊢
      rw [List.intersperse_cons_cons, List.map_cons, List.map_cons, String.join_cons, String.join_cons, ih,
        List.map_cons, List.map_cons, String.intercalate_cons_cons, String.append_assoc]
      rfl

theorem CustomPath.path_eq (custom : CustomPath) :
    custom.path = match custom.module? with
      | none => custom.ident
      | some m => m ++ "::" ++ custom.ident := by
  unfold path module?
  cases hmodule : custom.module with
  | nil => exact String.intercalate_singleton
  | cons m modules =>
    rw [String.intercalate_append_of_ne_nil (by simp) (by simp), String.intercalate_singleton]
    rfl

namespace Plan

/-- The struct whose names the code computes in a module. -/
def structName (plan : Plan) (module : String) : StructName :=
  match plan.customPath with
  | none => ⟨some module, plan.ident⟩
  | some custom => ⟨custom.module?, custom.ident⟩

/-- A derived name lists the names of the parameters' types. -/
theorem value_withArguments (plan : Plan) (base : NamePiece) (module : String) (param : String → String) :
    (plan.withArguments base).value module param = applied (base.value module param) (plan.typeParams.map param) := by
  unfold withArguments applied isGeneric
  cases hparams : plan.typeParams with
  | nil => rfl
  | cons p params =>
    have hopen : String.join ([base, .text "<"].map (·.value module param)) = base.value module param ++ "<" := by
      simp [NamePiece.value]
    have hclose : String.join ([NamePiece.text ">"].map (·.value module param)) = ">" := by
      simp [NamePiece.value]
    have hlist := NamePiece.join_params module param (p :: params)
    show String.join (List.map _ (_ ++ _ ++ _)) = base.value module param ++ "<" ++ _ ++ ">"
    rw [List.map_append, List.map_append, String.join_append, String.join_append, hopen, hlist, hclose]

theorem base_structName (plan : Plan) (module : String) (param : String → String) :
    (plan.structName module).base.path = plan.baseCode.value module param ∧
      (plan.structName module).base.ident = plan.identText ∧
      (plan.structName module).base.module = plan.moduleCode.map (·.value module param) := by
  unfold structName baseCode identText moduleCode
  cases plan.customPath with
  | none => exact ⟨rfl, rfl, rfl⟩
  | some custom =>
    have hcode : (custom.module?.map NamePiece.text).map (·.value module param) = custom.module? := by
      cases custom.module? <;> rfl
    show (StructName.base ⟨custom.module?, custom.ident⟩).path = custom.path ∧ _ = custom.ident ∧
      _ = (custom.module?.map NamePiece.text).map _
    rw [hcode, custom.path_eq, StructName.base]
    cases custom.module? <;> exact ⟨rfl, rfl, rfl⟩

/-- The code of a type's names computes the names of a struct with the parameters' types as arguments. -/
theorem names_value (plan : Plan) (module : String) (argument : String → Ty) :
    let t := Ty.struct (plan.structName module) (plan.typeParams.map argument)
    plan.pathCode.value module (Ty.path ∘ argument) = t.path ∧
      plan.nameCode.value module (Ty.name ∘ argument) = t.name ∧
      plan.identText = t.ident ∧
      plan.moduleCode.map (·.value module (Ty.path ∘ argument)) = t.module? := by
  intro t
  obtain ⟨hpath, hident, hmodule⟩ := plan.base_structName module (Ty.path ∘ argument)
  refine ⟨?_, ?_, hident.symm, hmodule.symm⟩
  · rw [pathCode, value_withArguments, ← hpath, ← List.map_map]
    exact congrArg (applied _) (Ty.texts_eq_map true _).symm
  · rw [nameCode, value_withArguments, NamePiece.value, ← hident, ← List.map_map]
    exact congrArg (applied _) (Ty.texts_eq_map false _).symm

end Plan

end Derive

/-! ## What names tell -/

/-- Let the names of declared structs be made of identifiers. If their paths differ from each other and from those of
the built-in types, equal paths are of one type, and likewise for names. A name is the path without its modules, and
what a path starts with is the module and the identifier. A derived type computes the names of its struct. -/
theorem names_identify_types {declared : StructName → Prop} (hformed : ∀ n, declared n → n.WellFormed) :
    (TellsApart TypeBase.path declared →
      ∀ t t' : Ty, t.BuiltFrom declared → t'.BuiltFrom declared → t.path = t'.path → t = t') ∧
    (TellsApart TypeBase.ident declared →
      ∀ t t' : Ty, t.BuiltFrom declared → t'.BuiltFrom declared → t.name = t'.name → t = t') ∧
    (∀ t : Ty, t.BuiltFrom declared →
      t.name = withoutModules t.path ∧
      ((∀ item len, t ≠ .array item len) →
        String.ofList (t.path.toList.takeWhile (· ≠ '<')) =
          match t.module? with
          | none => t.ident
          | some m => m ++ "::" ++ t.ident)) ∧
    ∀ (plan : Derive.Plan) (module : String) (argument : String → Ty),
      let t := Ty.struct (plan.structName module) (plan.typeParams.map argument)
      plan.pathCode.value module (Ty.path ∘ argument) = t.path ∧
        plan.nameCode.value module (Ty.name ∘ argument) = t.name ∧
        plan.identText = t.ident ∧
        plan.moduleCode.map (·.value module (Ty.path ∘ argument)) = t.module? := by
  refine ⟨fun htells t t' ht ht' h => ?_, fun htells t t' ht ht' h => ?_, fun t ht => ?_, Derive.Plan.names_value⟩
  · have hpaths : TellsApart (·.text true) declared := htells
    exact Ty.eq_of_text hpaths hformed ht ht' h
  · have hidents : TellsApart (·.text false) declared := htells
    exact Ty.eq_of_text hidents hformed ht ht' h
  · exact ⟨Ty.name_eq hformed ht, Ty.takeWhile_path hformed ht⟩

/-- Two types of a struct in a module and one without, which differ only inside of an array. -/
theorem names_identify_types_nested :
    let pair : StructName := ⟨some "shop::stock", "Pair"⟩
    let unit : StructName := ⟨none, "Unit"⟩
    let nested (t : Ty) : Ty := .deque (.array (.struct pair [.scalar .str, t]) 3)
    let t := nested (.option (.struct unit []))
    let t' := nested (.box (.struct unit []))
    (∀ n ∈ [pair, unit], n.WellFormed) ∧
      TellsApart TypeBase.path (· ∈ [pair, unit]) ∧ TellsApart TypeBase.ident (· ∈ [pair, unit]) ∧
      t.BuiltFrom (· ∈ [pair, unit]) ∧ t'.BuiltFrom (· ∈ [pair, unit]) ∧
      t.path = "alloc::collections::VecDeque<[shop::stock::Pair<&str, core::option::Option<Unit>>; 3]>" ∧
      t.name = "VecDeque<[Pair<&str, Option<Unit>>; 3]>" ∧ t.name = withoutModules t.path ∧
      t.path ≠ t'.path ∧ t.name ≠ t'.name := by
  intro pair unit nested t t'
  have hformed : ∀ n ∈ [pair, unit], n.WellFormed := by
    intro n hn
    rw [List.mem_cons, List.mem_singleton] at hn
    rcases hn with rfl | rfl
    · refine ⟨by decide +kernel, fun m hm => ?_⟩
      cases hm
      exact ⟨["shop", "stock"], by decide, by decide +kernel, rfl⟩
    · exact ⟨by decide +kernel, fun m hm => by cases hm⟩
  have hpaths : TellsApart TypeBase.path (· ∈ [pair, unit]) := by
    have hstructs : ∀ n ∈ [pair, unit], ∀ n' ∈ [pair, unit], n.base.path = n'.base.path → n = n' := by decide +kernel
    have hbuiltIn : ∀ n ∈ [pair, unit], ∀ b ∈ builtInBases, n.base.path ≠ b.path := by decide +kernel
    exact ⟨fun n n' hn => hstructs n hn n', hbuiltIn⟩
  have hidents : TellsApart TypeBase.ident (· ∈ [pair, unit]) := by
    have hstructs : ∀ n ∈ [pair, unit], ∀ n' ∈ [pair, unit], n.base.ident = n'.base.ident → n = n' := by decide +kernel
    have hbuiltIn : ∀ n ∈ [pair, unit], ∀ b ∈ builtInBases, n.base.ident ≠ b.ident := by decide +kernel
    exact ⟨fun n n' hn => hstructs n hn n', hbuiltIn⟩
  have hbuilt (u : Ty) (hu : u.BuiltFrom (· ∈ [pair, unit])) : (nested u).BuiltFrom (· ∈ [pair, unit]) := by
    refine .deque (.array (.struct (by simp) fun a ha => ?_))
    rw [List.mem_cons, List.mem_singleton] at ha
    rcases ha with rfl | rfl
    · exact .scalar _
    · exact hu
  have hunit : (Ty.struct unit []).BuiltFrom (· ∈ [pair, unit]) := .struct (by simp) (by simp)
  have ht := hbuilt _ (.option hunit)
  have ht' := hbuilt _ (.box hunit)
  have hne : t ≠ t' := by decide
  obtain ⟨hpath, hname, hread, -⟩ := names_identify_types hformed
  exact ⟨hformed, hpaths, hidents, ht, ht', by decide +kernel, by decide +kernel, (hread t ht).1,
    fun h => hne (hpath hpaths t t' ht ht' h), fun h => hne (hname hidents t t' ht ht' h)⟩

end Reflection
