import Reflection.Proofs.LibraryPaths
/-!
# Ways to write a section

A manifest names its dependencies in sections of their own, in sections below the section, in dotted keys or in an
inline table. The search looks at tables only, and an inline table is a value and no table: the dependencies in it are
passed over, as if the section were empty. So a manifest lists what it names outside of inline tables
(`lists_iff_names`), and its answers are those of the manifest whose inline tables are empty. Other than that, and for
names to which the inline dependencies would make no difference, two manifests that name the same dependencies give the
same answer in whichever form each of their sections is written (`sections_respelled`).
-/

namespace Reflection

/-- Whether a section that is written this way has keys: it is a table, on its own or inline. -/
def Spelling.hasKeys : Spelling → Bool
  | .table | .subtables | .dotted | .inlineTable => true
  | .tableArray | .text => false

theorem Spelling.isTable_eq_true_iff (s : Spelling) :
    s.isTable = true ↔ s.hasKeys = true ∧ s ≠ .inlineTable := by
  cases s <;> simp [isTable, hasKeys]

/-- The section with nothing in an inline table. -/
def ManifestSection.withoutInline (s : ManifestSection) : ManifestSection :=
  if s.spelling = .inlineTable then ⟨.table, []⟩ else s

namespace Manifest
open Code

/-- A manifest names a dependency of a kind, whichever way it writes the section. -/
def Names (m : Option Manifest) (kind key : String) : Prop :=
  ∃ manifest ∈ m, ∃ s, manifest.sections.lookup kind = some s ∧ s.spelling.hasKeys = true ∧ key ∈ s.keys

/-- It writes them in an inline table. -/
def WritesInline (m : Option Manifest) (kind : String) : Prop :=
  ∃ manifest ∈ m, ∃ s, manifest.sections.lookup kind = some s ∧ s.spelling = .inlineTable

/-- Two manifests name the same dependencies in the sections that are searched. -/
def SameNames (m m' : Option Manifest) : Prop := ∀ kind ∈ searched, ∀ key, Names m kind key ↔ Names m' kind key

variable {m m' : Option Manifest} {name kind key : String}

/-! ## What is listed of what is named -/

theorem lists_iff_names : Lists m kind key ↔ Names m kind key ∧ ¬WritesInline m kind := by
  constructor
  · rintro ⟨manifest, hm, s, hs, htable, hkey⟩
    obtain ⟨hkeys, hinline⟩ := s.spelling.isTable_eq_true_iff.1 htable
    refine ⟨⟨manifest, hm, s, hs, hkeys, hkey⟩, ?_⟩
    rintro ⟨manifest', hm', s', hs', hinline'⟩
    obtain rfl : manifest = manifest' := Option.mem_unique hm hm'
    obtain rfl : s = s' := Option.some.inj (hs.symm.trans hs')
    exact hinline hinline'
  · rintro ⟨⟨manifest, hm, s, hs, hkeys, hkey⟩, hno⟩
    have hinline : s.spelling ≠ .inlineTable := fun h => hno ⟨manifest, hm, s, hs, h⟩
    exact ⟨manifest, hm, s, hs, s.spelling.isTable_eq_true_iff.2 ⟨hkeys, hinline⟩, hkey⟩

/-- The decisive dependencies that are listed settle the answer. -/
theorem codePath_of_lists (h : ∀ kind ∈ searched, ∀ key ∈ decisive name, Lists m kind key ↔ Lists m' kind key) :
    codePath m' name = codePath m name := by
  apply codePath_congr
  intro p hp
  refine Chosen.congr (fun kind hkind p => ?_) hp
  exact ⟨Gives.congr (h kind hkind), Gives.congr fun key hkey => (h kind hkind key hkey).symm⟩

/-! ## Manifests without inline tables -/

theorem lookup_map_snd (f : ManifestSection → ManifestSection) (sections : List (String × ManifestSection)) :
    (sections.map fun s => (s.1, f s.2)).lookup kind = (sections.lookup kind).map f := by
  induction sections with
  | nil => rfl
  | cons s sections ih =>
    rw [List.map_cons, List.lookup_cons, List.lookup_cons, ih]
    split <;> rfl

/-- The manifest with nothing in inline tables. -/
def withoutInline (m : Manifest) : Manifest where
  sections := m.sections.map fun s => (s.1, s.2.withoutInline)
  readable := by
    intro s hs
    obtain ⟨s, hmem, rfl⟩ := List.mem_map.1 hs
    have hreadable := m.readable s hmem
    dsimp only [ManifestSection.withoutInline]
    split
    · rfl
    · exact hreadable

theorem lists_withoutInline : Lists (m.map withoutInline) kind key ↔ Lists m kind key := by
  cases m with
  | none => simp [Lists]
  | some m =>
    simp only [Lists, Option.map_some, Option.mem_some_iff, exists_eq_left', withoutInline, lookup_map_snd]
    cases m.sections.lookup kind with
    | none => simp
    | some s =>
      simp only [Option.map_some, Option.some.injEq, exists_eq_left']
      unfold ManifestSection.withoutInline
      split
      · rename_i hinline
        simp [hinline, Spelling.isTable]
      · rfl

/-- The answer for a name is that of the manifest with nothing in inline tables. Manifests that name the same
dependencies give the same answer for it, whichever way their sections are written, if a section that names one of the
decisive ones is inline in both or in neither. -/
theorem sections_respelled (m m' : Option Manifest) (name : String) :
    codePath (m.map withoutInline) name = codePath m name ∧
    (SameNames m m' →
      (∀ kind ∈ searched, ∀ key ∈ decisive name, Names m kind key → (WritesInline m kind ↔ WritesInline m' kind)) →
      codePath m' name = codePath m name) := by
  constructor
  · apply codePath_of_lists
    intro kind _ key _
    exact lists_withoutInline.symm
  · intro hsame hinline
    apply codePath_of_lists
    intro kind hkind key hkey
    rw [lists_iff_names, lists_iff_names, ← hsame kind hkind key]
    exact and_congr_right fun hnames => not_congr (hinline kind hkind key hkey hnames)

/-- Sub-tables and dotted keys come to the same, next to an inline table of what is not asked for. -/
theorem sections_respelled_facade :
    ∃ m m' : Manifest,
      m.sections =
        [("dependencies", ⟨.subtables, ["pathway", "serde"]⟩), ("dev-dependencies", ⟨.inlineTable, ["rand"]⟩)] ∧
      m'.sections = [("dev-dependencies", ⟨.table, ["rand"]⟩), ("dependencies", ⟨.dotted, ["serde", "pathway"]⟩)] ∧
      codePath (some m) "pw_reflect" = .ok ⟨true, [⟨"pathway", none⟩, ⟨"reflect", none⟩]⟩ ∧
      codePath (some m') "pw_reflect" = codePath (some m) "pw_reflect" := by
  refine ⟨⟨_, by decide⟩, ⟨_, by decide⟩, rfl, rfl, by decide +kernel, ?_⟩
  apply (sections_respelled _ _ _).2
  · simp [SameNames, searched, Names, List.lookup_cons, Spelling.hasKeys, or_comm]
  · simp [searched, decisive, Names, WritesInline, List.lookup_cons]

/-- Dependencies in an inline table are not found, though the same ones in a table are. -/
theorem inlineTable_unseen :
    ∃ m m' : Manifest,
      m.sections = [("dependencies", ⟨.table, ["pathway"]⟩)] ∧
      m'.sections = [("dependencies", ⟨.inlineTable, ["pathway"]⟩)] ∧
      SameNames (some m) (some m') ∧
      codePath (some m) "pw_reflect" = .ok ⟨true, [⟨"pathway", none⟩, ⟨"reflect", none⟩]⟩ ∧
      codePath (some m') "pw_reflect" = .ok ⟨true, [⟨"pw_reflect", none⟩]⟩ := by
  refine ⟨⟨_, by decide⟩, ⟨_, by decide⟩, rfl, rfl, ?_, by decide +kernel, by decide +kernel⟩
  simp [SameNames, searched, Names, List.lookup_cons, Spelling.hasKeys]

end Manifest

end Reflection
