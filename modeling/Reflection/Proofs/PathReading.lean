import Reflection.Proofs.PathTokens
/-!
# Reading absolute paths

Identifiers behind double colons are read as the path of these names, each without arguments. Keywords are
identifiers too; the first one that is no part of paths is refused (`parse_pathChars`).
-/

namespace Reflection.Code

/-- Whether a keyword is no part of a path. -/
def isForeignWord (name : String) : Bool := keywords.contains name && !("Self" :: bareKeywords).contains name

/-- A part of a path without arguments. -/
def plainPart (name : String) : Except SyntaxError PathPart :=
  if isForeignWord name then .error (.keyword name) else .ok ⟨name, none⟩

section Reading
variable (leftover : Option Delimiter)

theorem takeName_ident (name : String) (rest : List Token) :
    StateT.run (takeName ("Self" :: bareKeywords)) ⟨.ident name :: rest, leftover⟩ =
      if isForeignWord name then .error (.keyword name) else .ok (name, ⟨rest, leftover⟩) := by
  show StateT.run (do
      if isForeignWord name then throw (.keyword name)
      drop 1
      return name) (⟨.ident name :: rest, leftover⟩ : Cursor) = _
  cases isForeignWord name <;> rfl

theorem readPart_ident (fuel : Nat) (name : String) {rest : List Token} (hrest : Ahead.angleArguments rest = false) :
    StateT.run (readPart (fuel + 1)) ⟨.ident name :: rest, leftover⟩ =
      (plainPart name).map fun part => (part, ⟨rest, leftover⟩) := by
  rw [readPart, StateT.run_bind, takeName_ident, plainPart]
  cases isForeignWord name with
  | true => rfl
  | false =>
    show StateT.run (_ : Reader PathPart) (⟨rest, leftover⟩ : Cursor) = _
    cases bareKeywords.contains name with
    | true => rfl
    | false =>
      rw [hrest]
      rfl

theorem angleArguments_absolutePath (names : List String) : Ahead.angleArguments (absolutePath names) = false := by
  cases names <;> rfl

/-- A name and what is read of the names behind it. -/
theorem readParts_absolutePath {α : Type} (give : List PathPart → α) (fuel : Nat) (name : String) {names : List String}
    (hmore : StateT.run (readMoreParts (fuel + 1)) ⟨absolutePath names, leftover⟩ =
      (names.mapM plainPart).map fun parts => (parts, ⟨[], leftover⟩)) :
    StateT.run (do
        let part ← readPart (fuel + 1)
        return give (part :: (← readMoreParts (fuel + 1)))) ⟨.ident name :: absolutePath names, leftover⟩ =
      ((name :: names).mapM plainPart).map fun parts => (give parts, ⟨[], leftover⟩) := by
  rw [StateT.run_bind, readPart_ident leftover fuel name (angleArguments_absolutePath names), List.mapM_cons]
  cases plainPart name with
  | error e => rfl
  | ok part =>
    show StateT.run (do return give (part :: (← readMoreParts (fuel + 1))))
      (⟨absolutePath names, leftover⟩ : Cursor) = _
    rw [StateT.run_bind, hmore]
    cases names.mapM plainPart <;> rfl

theorem readMoreParts_absolutePath {names : List String} {fuel : Nat} (hfuel : names.length < fuel) :
    StateT.run (readMoreParts fuel) ⟨absolutePath names, leftover⟩ =
      (names.mapM plainPart).map fun parts => (parts, ⟨[], leftover⟩) := by
  induction names generalizing fuel with
  | nil =>
    obtain ⟨fuel, rfl⟩ : ∃ n, fuel = n + 1 := ⟨fuel - 1, by omega⟩
    rfl
  | cons name names ih =>
    obtain ⟨fuel, rfl⟩ : ∃ n, fuel = n + 2 := ⟨fuel - 2, by simp at hfuel; omega⟩
    rw [readMoreParts]
    exact readParts_absolutePath leftover id fuel name (ih (by simpa using hfuel))

theorem readPath_absolutePath {names : List String} (hne : names ≠ []) {fuel : Nat} (hfuel : names.length + 2 ≤ fuel) :
    StateT.run (readPath fuel) ⟨absolutePath names, leftover⟩ =
      (names.mapM plainPart).map fun parts => ((true, parts), ⟨[], leftover⟩) := by
  obtain ⟨fuel, rfl⟩ : ∃ n, fuel = n + 2 := ⟨fuel - 2, by omega⟩
  obtain ⟨name, names, rfl⟩ := List.exists_cons_of_ne_nil hne
  have hmore : StateT.run (readMoreParts (fuel + 1)) ⟨absolutePath names, leftover⟩ = _ :=
    readMoreParts_absolutePath leftover (by simp at hfuel; omega)
  rw [readPath]
  exact readParts_absolutePath leftover (true, ·) fuel name hmore

end Reading

theorem length_leavesOf_append (ts us : List Token) :
    (Token.leavesOf (ts ++ us)).length = (Token.leavesOf ts).length + (Token.leavesOf us).length := by
  induction ts with
  | nil => simp [Token.leavesOf]
  | cons t ts ih => simp [Token.leavesOf, ih, Nat.add_assoc]

theorem length_le_fuelFor (names : List String) : names.length + 2 ≤ fuelFor (absolutePath names) := by
  have hleaves : names.length ≤ (Token.leavesOf (absolutePath names)).length := by
    induction names with
    | nil => simp
    | cons name names ih =>
      have hname : (Token.leavesOf (doubleColon ++ [.ident name])).length = 3 := rfl
      rw [absolutePath, List.flatMap_cons, length_leavesOf_append, hname, List.length_cons]
      rw [absolutePath] at ih
      omega
  rw [fuelFor]
  omega

/-- Names behind double colons are a path, unless one of them is a keyword that is no part of paths. -/
theorem ofTokens_absolutePath {names : List String} (hne : names ≠ []) :
    ItemPath.ofTokens (absolutePath names) = (names.mapM plainPart).map fun parts => ⟨true, parts⟩ := by
  rw [ItemPath.ofTokens, Reader.run, readPath_absolutePath none hne (length_le_fuelFor names)]
  cases names.mapM plainPart <;> rfl

theorem mapM_plainPart (names : List String) :
    names.mapM plainPart =
      match names.find? isForeignWord with
      | some name => .error (.keyword name)
      | none => .ok (names.map fun name => ⟨name, none⟩) := by
  induction names with
  | nil => rfl
  | cons name names ih =>
    rw [List.mapM_cons, ih, plainPart, List.find?_cons]
    cases isForeignWord name with
    | true => rfl
    | false => cases names.find? isForeignWord <;> rfl

theorem parse_pathChars {names : List String} (hnames : ∀ name ∈ names, IsIdentifier name) (hne : names ≠ []) :
    ItemPath.parse (String.ofList (pathChars names)) =
      match names.find? isForeignWord with
      | some name => .error (.keyword name)
      | none => .ok ⟨true, names.map fun name => ⟨name, none⟩⟩ := by
  rw [ItemPath.parse, lex?_pathChars hnames]
  show ItemPath.ofTokens (absolutePath names) = _
  rw [ofTokens_absolutePath hne, mapM_plainPart]
  cases names.find? isForeignWord <;> rfl

end Reflection.Code
