import Reflection.Manifest.Basic
import Reflection.Proofs.PathReading
/-!
# Paths of libraries

The rules by which a project reaches a library, as relations: what one set of dependencies gives for a name
(`Gives`), and which path is chosen from those of a manifest (`Chosen`). They choose one path always, it is the one
that the search finds, and it is the answer wherever its text is a path of code (`codePath_chosen`).
-/

namespace Reflection.Manifest
open Code

/-! ## The rules -/

/-- A manifest has a dependency of a kind. What is no table lists none. -/
def Lists (m : Option Manifest) (kind key : String) : Prop :=
  ∃ manifest ∈ m, ∃ s, manifest.sections.lookup kind = some s ∧ s.spelling.isTable = true ∧ key ∈ s.keys

/-- The path that dependencies give for a name. The name itself is before a facade, and the facade before its
short form; a facade is for marked names only. -/
inductive Gives (depends : String → Prop) (name : String) : List String → Prop
  | itself (h : depends name) : Gives depends name [name]
  | facade {module : String} (hname : ¬depends name) (hmark : name = "pw_" ++ module) (h : depends "pathway") :
      Gives depends name ["pathway", module]
  | short {module : String} (hname : ¬depends name) (hmark : name = "pw_" ++ module) (hfacade : ¬depends "pathway")
      (h : depends "pw") : Gives depends name ["pw", module]

/-- The path of a library: the first one that dependencies give, else the name. -/
inductive Chosen (m : Option Manifest) (name : String) : List String → Prop
  | dependency {p : List String} (h : Gives (Lists m "dependencies") name p) : Chosen m name p
  | devDependency {p : List String} (hnone : ∀ p, ¬Gives (Lists m "dependencies") name p)
      (h : Gives (Lists m "dev-dependencies") name p) : Chosen m name p
  | fallback (hnone : ∀ p, ¬Gives (Lists m "dependencies") name p)
      (hdev : ∀ p, ¬Gives (Lists m "dev-dependencies") name p) : Chosen m name [name]

/-- The dependencies that the path of a library can depend on. -/
def decisive (name : String) : List String := [name, "pathway", "pw"]

/-! ## One set of dependencies -/

theorem stripStart_eq_some {mark name rest : List Char} : stripStart mark name = some rest ↔ name = mark ++ rest := by
  induction mark generalizing name with
  | nil => simp [stripStart]
  | cons c mark ih =>
    cases name with
    | nil => simp [stripStart]
    | cons d name =>
      rw [stripStart, List.cons_append, List.cons.injEq]
      split
      · rename_i heq
        rw [ih, and_iff_right heq.symm]
      · rename_i hne
        exact iff_of_false nofun fun h => hne h.1.symm

/-- The modules of marked names. -/
theorem module?_eq_some {name module : String} :
    (stripStart libraryMark.toList name.toList).map String.ofList = some module ↔ name = "pw_" ++ module := by
  simp only [Option.map_eq_some_iff, stripStart_eq_some]
  constructor
  · rintro ⟨rest, hname, rfl⟩
    rw [← String.toList_inj, hname]
    simp [libraryMark]
  · rintro rfl
    exact ⟨module.toList, String.toList_append, String.ofList_toList⟩

theorem findIn_eq (keys : List String) (name : String) :
    findIn keys name = if name ∈ keys then some [name] else
      ((stripStart libraryMark.toList name.toList).map String.ofList).bind fun module =>
        if "pathway" ∈ keys then some ["pathway", module]
        else if "pw" ∈ keys then some ["pw", module] else none := by
  rw [findIn, Option.bind_map]
  simp only [List.contains_iff_mem]
  congr 2
  funext module
  simp only [facades, List.find?_cons, List.find?_nil, Function.comp]
  by_cases hfacade : "pathway" ∈ keys <;> by_cases hshort : "pw" ∈ keys <;> simp [hfacade, hshort]

theorem findIn_eq_some {keys : List String} {name : String} {p : List String} :
    findIn keys name = some p ↔ Gives (· ∈ keys) name p := by
  rw [findIn_eq]
  constructor
  · intro h
    split at h
    · rename_i hname
      cases h
      exact .itself hname
    · rename_i hname
      obtain ⟨module, hmodule, h⟩ := Option.bind_eq_some_iff.1 h
      have hmark := module?_eq_some.1 hmodule
      split at h
      · rename_i hfacade
        cases h
        exact .facade hname hmark hfacade
      · rename_i hfacade
        split at h
        · rename_i hshort
          cases h
          exact .short hname hmark hfacade hshort
        · cases h
  · intro h
    cases h with
    | itself hname => rw [if_pos hname]
    | facade hname hmark hfacade =>
      rw [if_neg hname, module?_eq_some.2 hmark, Option.bind_some, if_pos hfacade]
    | short hname hmark hfacade hshort =>
      rw [if_neg hname, module?_eq_some.2 hmark, Option.bind_some, if_neg hfacade, if_pos hshort]

theorem Gives.congr {depends depends' : String → Prop} {name : String} {p : List String}
    (hsame : ∀ key ∈ decisive name, depends key ↔ depends' key) (h : Gives depends name p) : Gives depends' name p := by
  simp only [decisive, List.forall_mem_cons] at hsame
  obtain ⟨hname, hfacade, hshort, -⟩ := hsame
  cases h with
  | itself h => exact .itself (hname.1 h)
  | facade hno hmark h => exact .facade (hno ∘ hname.2) hmark (hfacade.1 h)
  | short hno hmark hnoFacade h => exact .short (hno ∘ hname.2) hmark (hnoFacade ∘ hfacade.2) (hshort.1 h)

/-! ## The search -/

/-- What the dependencies of a kind give for a name. -/
def answer? (m : Option Manifest) (kind name : String) : Option (List String) :=
  (m.bind (·.table? kind)).bind (findIn · name)

theorem table?_eq_some {m : Manifest} {kind : String} {keys : List String} :
    m.table? kind = some keys ↔ ∃ s, m.sections.lookup kind = some s ∧ s.spelling.isTable = true ∧ s.keys = keys := by
  rw [table?, Option.bind_eq_some_iff]
  refine exists_congr fun s => and_congr_right fun _ => ?_
  cases s.spelling.isTable <;> simp

theorem lists_iff {m : Option Manifest} {kind key : String} :
    Lists m kind key ↔ ∃ keys, m.bind (·.table? kind) = some keys ∧ key ∈ keys := by
  simp only [Option.bind_eq_some_iff, table?_eq_some]
  constructor
  · rintro ⟨manifest, hm, s, hs, htable, hkey⟩
    exact ⟨s.keys, ⟨manifest, hm, s, hs, htable, rfl⟩, hkey⟩
  · rintro ⟨_, ⟨manifest, hm, s, hs, htable, rfl⟩, hkey⟩
    exact ⟨manifest, hm, s, hs, htable, hkey⟩

theorem answer?_eq_some {m : Option Manifest} {kind name : String} {p : List String} :
    answer? m kind name = some p ↔ Gives (Lists m kind) name p := by
  have hlists : ∀ key, Lists m kind key ↔ ∃ keys, m.bind (·.table? kind) = some keys ∧ key ∈ keys :=
    fun _ => lists_iff
  unfold answer?
  cases htable : m.bind (·.table? kind) with
  | none =>
    have hnone : ∀ key, ¬Lists m kind key := by simp [hlists, htable]
    refine iff_of_false nofun fun h => ?_
    cases h with
    | itself h => exact hnone _ h
    | facade _ _ h => exact hnone _ h
    | short _ _ _ h => exact hnone _ h
  | some keys =>
    have hkeys : ∀ key, Lists m kind key ↔ key ∈ keys := by simp [hlists, htable]
    rw [Option.bind_some, findIn_eq_some]
    exact ⟨Gives.congr fun key _ => (hkeys key).symm, Gives.congr fun key _ => hkeys key⟩

theorem answer?_eq_none {m : Option Manifest} {kind name : String} :
    answer? m kind name = none ↔ ∀ p, ¬Gives (Lists m kind) name p := by
  simp only [Option.eq_none_iff_forall_ne_some, ne_eq, answer?_eq_some]

/-- The sections are searched one after the other. -/
theorem findSome?_table? (m : Manifest) (name : String) (kinds : List String) :
    (kinds.filterMap m.table?).findSome? (findIn · name) = kinds.findSome? (answer? (some m) · name) := by
  induction kinds with
  | nil => rfl
  | cons kind kinds ih =>
    rw [List.findSome?_cons, ← ih, List.filterMap_cons, answer?, Option.bind_some]
    cases m.table? kind <;> rfl

theorem resolve_eq (m : Option Manifest) (name : String) :
    resolve m name = ((answer? m "dependencies" name).or (answer? m "dev-dependencies" name)).getD [name] := by
  cases m with
  | none => rfl
  | some m =>
    rw [resolve, findSome?_table?, searched, List.findSome?_cons, List.findSome?_cons, List.findSome?_nil]
    cases answer? (some m) "dependencies" name <;> cases answer? (some m) "dev-dependencies" name <;> rfl

/-- The search finds the path that the rules choose. -/
theorem chosen_iff {m : Option Manifest} {name : String} {p : List String} : Chosen m name p ↔ resolve m name = p := by
  rw [resolve_eq]
  constructor
  · intro h
    cases h with
    | dependency h => rw [answer?_eq_some.2 h, Option.some_or, Option.getD_some]
    | devDependency hnone h =>
      rw [answer?_eq_none.2 hnone, Option.none_or, answer?_eq_some.2 h, Option.getD_some]
    | fallback hnone hdev => rw [answer?_eq_none.2 hnone, Option.none_or, answer?_eq_none.2 hdev, Option.getD_none]
  · rintro rfl
    cases hdependency : answer? m "dependencies" name with
    | some p => exact .dependency (answer?_eq_some.1 hdependency)
    | none =>
      cases hdev : answer? m "dev-dependencies" name with
      | some p => exact .devDependency (answer?_eq_none.1 hdependency) (answer?_eq_some.1 hdev)
      | none => exact .fallback (answer?_eq_none.1 hdependency) (answer?_eq_none.1 hdev)

theorem Chosen.congr {m m' : Option Manifest} {name : String} {p : List String}
    (hsame : ∀ kind ∈ searched, ∀ p, Gives (Lists m kind) name p ↔ Gives (Lists m' kind) name p) (h : Chosen m name p) :
    Chosen m' name p := by
  simp only [searched, List.forall_mem_cons] at hsame
  obtain ⟨hdependency, hdev, -⟩ := hsame
  cases h with
  | dependency h => exact .dependency ((hdependency p).1 h)
  | devDependency hnone h => exact .devDependency (fun p h' => hnone p ((hdependency p).2 h')) ((hdev p).1 h)
  | fallback hnone hnoDev =>
    exact .fallback (fun p h' => hnone p ((hdependency p).2 h')) fun p h' => hnoDev p ((hdev p).2 h')

/-! ## The answer -/

theorem pathText_eq {p : List String} (hne : p ≠ []) : pathText p = String.ofList (pathChars p) := by
  rw [← String.toList_inj, String.toList_ofList, pathText, String.toList_append, String.toList_intercalate]
  induction p with
  | nil => exact absurd rfl hne
  | cons part p ih =>
    cases p with
    | nil => simp [pathChars]
    | cons next p =>
      have ih := ih (List.cons_ne_nil next p)
      simp only [pathChars, List.flatMap_cons, List.map_cons, List.intercalate_cons_cons] at ih ⊢
      rw [← ih]
      simp

theorem Gives.cases_eq {depends : String → Prop} {name : String} {p : List String} (h : Gives depends name p) :
    p = [name] ∨ ∃ facade ∈ facades, ∃ module, p = [facade, module] := by
  cases h with
  | itself _ => exact .inl rfl
  | facade _ _ _ => exact .inr ⟨"pathway", by decide, _, rfl⟩
  | short _ _ _ _ => exact .inr ⟨"pw", by decide, _, rfl⟩

/-- A chosen path is the name, or a module of a facade. -/
theorem Chosen.cases_eq {m : Option Manifest} {name : String} {p : List String} (h : Chosen m name p) :
    p = [name] ∨ ∃ facade ∈ facades, ∃ module, p = [facade, module] := by
  cases h with
  | dependency h => exact h.cases_eq
  | devDependency _ h => exact h.cases_eq
  | fallback _ _ => exact .inl rfl

theorem parse_pathText {p : List String} (hp : ∀ part ∈ p, IsIdentifier part) (hne : p ≠ []) :
    ItemPath.parse (pathText p) =
      match p.find? isForeignWord with
      | some name => .error (.keyword name)
      | none => .ok ⟨true, p.map fun part => ⟨part, none⟩⟩ := by
  rw [pathText_eq hne]
  exact parse_pathChars hp hne

theorem codePath_eq (m : Option Manifest) (name : String) :
    codePath m name = (ItemPath.parse (pathText (resolve m name))).mapError fun _ => pathText (resolve m name) := by
  rw [codePath]
  cases ItemPath.parse (pathText (resolve m name)) <;> rfl

section Chosen
variable {m : Option Manifest} {name : String} {p : List String} (h : Chosen m name p)
include h

theorem codePath_eq_ok (path : ItemPath) : codePath m name = .ok path ↔ ItemPath.parse (pathText p) = .ok path := by
  rw [codePath_eq, chosen_iff.1 h]
  cases ItemPath.parse (pathText p) <;> simp [Except.mapError]

theorem codePath_eq_error (text : String) :
    codePath m name = .error text ↔ text = pathText p ∧ ∀ path, ItemPath.parse (pathText p) ≠ .ok path := by
  rw [codePath_eq, chosen_iff.1 h]
  cases ItemPath.parse (pathText p) with
  | error e => simp [Except.mapError, eq_comm]
  | ok path => simp [Except.mapError]

/-- Of identifiers the chosen path is an answer as it is, unless one is a keyword that is no part of paths. -/
theorem codePath_identifiers (hp : ∀ part ∈ p, IsIdentifier part) :
    codePath m name = if p.any isForeignWord then .error (pathText p)
      else .ok ⟨true, p.map fun part => ⟨part, none⟩⟩ := by
  have hne : p ≠ [] := by
    obtain rfl | ⟨facade, -, module, rfl⟩ := h.cases_eq <;> nofun
  rw [codePath_eq, chosen_iff.1 h, parse_pathText hp hne, ← List.isSome_find?]
  cases p.find? isForeignWord <;> rfl

/-- Without a name, or with such a keyword for one, there is no answer. -/
theorem codePath_noName {part : String} (hpart : part ∈ p) (hno : part = "" ∨ isForeignWord part = true) :
    codePath m name = .error (pathText p) := by
  have hfacades : ∀ facade ∈ facades, facade ≠ "" ∧ isForeignWord facade = false ∧ IsIdentifier facade := by
    decide +kernel
  have hword : ∀ word ∈ keywords, IsIdentifier word := by decide +kernel
  have hplace : p = [part] ∨ ∃ facade ∈ facades, p = [facade, part] := by
    obtain rfl | ⟨facade, hfacade, module, rfl⟩ := h.cases_eq
    · exact .inl (by rw [List.mem_singleton.1 hpart])
    · rcases List.mem_pair.1 hpart with rfl | rfl
      · obtain ⟨hne, hforeign, -⟩ := hfacades part hfacade
        simp [hne, hforeign] at hno
      · exact .inr ⟨facade, hfacade, rfl⟩
  obtain rfl | hforeign := hno
  · have hempty : (ItemPath.parse (pathText [""])).isOk = false ∧
        ∀ facade ∈ facades, (ItemPath.parse (pathText [facade, ""])).isOk = false := by decide +kernel
    have hparse : (ItemPath.parse (pathText p)).isOk = false := by
      obtain rfl | ⟨facade, hfacade, rfl⟩ := hplace
      · exact hempty.1
      · exact hempty.2 facade hfacade
    refine (codePath_eq_error h _).2 ⟨rfl, fun path hpath => ?_⟩
    rw [hpath] at hparse
    cases hparse
  · have hpart' : IsIdentifier part := hword part (List.contains_iff_mem.1 (Bool.and_eq_true_iff.1 hforeign).1)
    have hp : ∀ part ∈ p, IsIdentifier part := by
      obtain rfl | ⟨facade, hfacade, rfl⟩ := hplace
      · simpa using hpart'
      · simpa using ⟨(hfacades facade hfacade).2.2, hpart'⟩
    rw [codePath_identifiers h hp, if_pos (List.any_eq_true.2 ⟨part, hpart, hforeign⟩)]

end Chosen

/-- The answer is a matter of the chosen path. -/
theorem codePath_congr {m m' : Option Manifest} {name : String} (h : ∀ p, Chosen m name p → Chosen m' name p) :
    codePath m' name = codePath m name := by
  rw [codePath_eq, codePath_eq, chosen_iff.1 (h _ (chosen_iff.2 rfl))]

/-- The rules choose one path. The answer is what its text is read as, and there is none if its text is no path; of
identifiers it is the path of these, and a part that is empty or a keyword that is no part of paths leaves none.
Dependencies other than the decisive ones have no influence, and those for development none once the others give a
path. -/
theorem codePath_chosen (m : Option Manifest) (name : String) :
    (∃! p, Chosen m name p) ∧
    (∀ p, Chosen m name p →
      (∀ path, codePath m name = .ok path ↔ ItemPath.parse (pathText p) = .ok path) ∧
      (∀ text, codePath m name = .error text ↔ text = pathText p ∧ ∀ path, ItemPath.parse (pathText p) ≠ .ok path) ∧
      ((∀ part ∈ p, IsIdentifier part) →
        codePath m name = if p.any isForeignWord then .error (pathText p)
          else .ok ⟨true, p.map fun part => ⟨part, none⟩⟩) ∧
      (∀ part ∈ p, part = "" ∨ isForeignWord part = true → codePath m name = .error (pathText p))) ∧
    (∀ m', (∀ kind ∈ searched, ∀ key ∈ decisive name, Lists m kind key ↔ Lists m' kind key) →
      codePath m' name = codePath m name) ∧
    (∀ p, Gives (Lists m "dependencies") name p →
      ∀ m', (∀ key ∈ decisive name, Lists m "dependencies" key ↔ Lists m' "dependencies" key) →
        codePath m' name = codePath m name) := by
  refine ⟨⟨resolve m name, chosen_iff.2 rfl, fun p hp => (chosen_iff.1 hp).symm⟩, fun p hp => ?_, fun m' hsame => ?_,
    fun p hp m' hsame => ?_⟩
  · exact ⟨codePath_eq_ok hp, codePath_eq_error hp, codePath_identifiers hp, fun part hpart => codePath_noName hp hpart⟩
  · refine codePath_congr fun p => Chosen.congr fun kind hkind p => ?_
    exact ⟨Gives.congr (hsame kind hkind), Gives.congr fun key hkey => (hsame kind hkind key hkey).symm⟩
  · have hgives := hp.congr hsame
    refine codePath_congr fun q hq => ?_
    obtain rfl : p = q := (chosen_iff.1 (.dependency hp)).symm.trans (chosen_iff.1 hq)
    exact .dependency hgives

/-- A facade among the dependencies is before the library itself among those for development. -/
theorem codePath_chosen_short :
    ∃ m m' : Manifest,
      m.sections = [("dependencies", ⟨.table, ["serde", "pw"]⟩), ("dev-dependencies", ⟨.dotted, ["pw_reflect"]⟩)] ∧
      m'.sections = [("dependencies", ⟨.subtables, ["pw"]⟩)] ∧
      codePath (some m) "pw_reflect" = .ok ⟨true, [⟨"pw", none⟩, ⟨"reflect", none⟩]⟩ ∧
      codePath (some m') "pw_reflect" = codePath (some m) "pw_reflect" ∧
      codePath (some m) "pw_fn" = .error "::pw::fn" := by
  refine ⟨⟨_, by decide⟩, ⟨_, by decide⟩, rfl, rfl, ?_⟩
  generalize hm : (⟨[("dependencies", ⟨.table, ["serde", "pw"]⟩), ("dev-dependencies", ⟨.dotted, ["pw_reflect"]⟩)], _⟩ :
    Manifest) = m
  generalize hm' : (⟨[("dependencies", ⟨.subtables, ["pw"]⟩)], _⟩ : Manifest) = m'
  have htable : m.table? "dependencies" = some ["serde", "pw"] := hm ▸ rfl
  have htable' : m'.table? "dependencies" = some ["pw"] := hm' ▸ rfl
  have hkeys : ∀ key, Lists (some m) "dependencies" key ↔ key ∈ ["serde", "pw"] := by simp [lists_iff, htable]
  have hkeys' : ∀ key, Lists (some m') "dependencies" key ↔ key ∈ ["pw"] := by simp [lists_iff, htable']
  have hreflect : Gives (Lists (some m) "dependencies") "pw_reflect" ["pw", "reflect"] :=
    .short (by simp [hkeys]) rfl (by simp [hkeys]) (by simp [hkeys])
  have hfn : Gives (Lists (some m) "dependencies") "pw_fn" ["pw", "fn"] :=
    .short (by simp [hkeys]) rfl (by simp [hkeys]) (by simp [hkeys])
  obtain ⟨-, hreading, -, hdev⟩ := codePath_chosen (some m) "pw_reflect"
  obtain ⟨-, -, hidentifiers, -⟩ := hreading _ (.dependency hreflect)
  obtain ⟨-, hreading', -⟩ := codePath_chosen (some m) "pw_fn"
  obtain ⟨-, -, -, hkeyword⟩ := hreading' _ (.dependency hfn)
  refine ⟨hidentifiers (by decide +kernel), hdev _ hreflect m' ?_, hkeyword "fn" (by simp) (.inr (by decide))⟩
  simp [decisive, hkeys, hkeys']

end Reflection.Manifest
