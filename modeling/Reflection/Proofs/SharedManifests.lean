import Mathlib.Logic.Function.Basic
import Reflection.Manifest.Cache
/-!
# Shared manifests are current

Manifest files are written and deleted and the directory changes while manifests are asked for. If no two contents of
a file have had the same known time of modification, each question is answered with what reading the file gives then.
The invariant is that what is kept with a known time is the content of a file that was there with this time
(`ManifestCache.Dated`): a question that is answered from the cache has met the same time again, hence the same content.
What is kept for one directory has no part in the answers for another, whatever it is (`shared_manifests`).
-/

namespace Reflection

/-! ## What happens to manifests -/

/-- The file of a directory is written or deleted, the directory is set or unset, or its manifest is asked for. -/
inductive ManifestEvent
  | write (directory : String) (file : ManifestFile)
  | delete (directory : String)
  | enter (directory : Option String)
  | ask

/-- A directory, if one was set, and the manifest that was given for it. -/
abbrev ManifestAnswer := Option String × Option Manifest

/-- The files that there are, and the directory, if one is set. -/
structure ManifestScene where
  files : FileStore
  directory : Option String

namespace ManifestScene

/-- What reading gives. There is no manifest without a directory, without its file, or if the file has no meaning. -/
def current (s : ManifestScene) : Option Manifest := s.directory.bind s.files.read

def after (s : ManifestScene) : ManifestEvent → ManifestScene
  | .write d file => { s with files := Function.update s.files d (some file) }
  | .delete d => { s with files := Function.update s.files d none }
  | .enter d => { s with directory := d }
  | .ask => s

/-- The answer to an event that is a question, by reading the file. -/
def answer (s : ManifestScene) : ManifestEvent → List ManifestAnswer
  | .ask => [(s.directory, s.current)]
  | _ => []

def answers : ManifestScene → List ManifestEvent → List ManifestAnswer
  | _, [] => []
  | s, event :: events => s.answer event ++ (s.after event).answers events

/-- A file of a directory is there at the start, or written in the course of events. -/
def WasThere (s : ManifestScene) (events : List ManifestEvent) (d : String) (file : ManifestFile) : Prop :=
  s.files d = some file ∨ .write d file ∈ events

end ManifestScene

/-- Files of one directory with the same known time of modification have the same content. -/
def TimesTell (was : String → ManifestFile → Prop) : Prop :=
  ∀ d file file', was d file → was d file' → file.modified ≠ none → file.modified = file'.modified →
    file.content = file'.content

namespace ManifestCache

/-- The answer to an event that is a question, through the cache. -/
def answer (cache : ManifestCache) (s : ManifestScene) : ManifestEvent → List ManifestAnswer × ManifestCache
  | .ask =>
    let (manifest, cache) := cache.manifestOf s.files s.directory
    ([(s.directory, manifest)], cache)
  | _ => ([], cache)

/-- The answers through the cache, and the cache after them. -/
def answers : ManifestCache → ManifestScene → List ManifestEvent → List ManifestAnswer × ManifestCache
  | cache, _, [] => ([], cache)
  | cache, s, event :: events =>
    let (now, cache) := cache.answer s event
    let (later, cache) := answers cache (s.after event) events
    (now ++ later, cache)

variable {cache cache' : ManifestCache} {files : FileStore} {d d' : String}

/-! ## One question -/

/-- The manifest is read again, and kept with the time that the file has. -/
def Rereads (cache : ManifestCache) (files : FileStore) (d : String) : Prop :=
  cache.manifestOf files (some d) = (files.read d, cache.set d ⟨files.read d, files.modified d⟩)

theorem rereads_of_not_current (h : ¬∃ kept, cache.get? d = some kept ∧ isCurrent kept (files.modified d) = true) :
    cache.Rereads files d := by
  unfold Rereads
  cases hkept : cache.get? d with
  | none => simp [manifestOf, hkept, KeyMap.insert]
  | some kept =>
    have hstale : ¬isCurrent kept (files.modified d) = true := fun hcurrent => h ⟨kept, hkept, hcurrent⟩
    simp [manifestOf, hkept, hstale, KeyMap.insert]

theorem manifestOf_of_current {kept : KeptManifest} (hkept : cache.get? d = some kept)
    (h : isCurrent kept (files.modified d) = true) : cache.manifestOf files (some d) = (kept.manifest, cache) := by
  simp [manifestOf, hkept, h]

theorem isCurrent_iff {kept : KeptManifest} {modified : Option Nat} :
    isCurrent kept modified = true ↔ kept.modified ≠ none ∧ kept.modified = modified := by
  simp [isCurrent, Option.isSome_iff_ne_none]

/-- Each question is answered in one of two ways. -/
theorem manifestOf_cases (cache : ManifestCache) (files : FileStore) (d : String) :
    (∃ kept t, cache.get? d = some kept ∧ kept.modified = some t ∧ files.modified d = some t ∧
      cache.manifestOf files (some d) = (kept.manifest, cache)) ∨
    cache.Rereads files d := by
  by_cases h : ∃ kept, cache.get? d = some kept ∧ isCurrent kept (files.modified d) = true
  · obtain ⟨kept, hkept, hcurrent⟩ := h
    obtain ⟨hknown, hsame⟩ := isCurrent_iff.1 hcurrent
    obtain ⟨t, ht⟩ := Option.ne_none_iff_exists'.1 hknown
    exact .inl ⟨kept, t, hkept, ht, hsame.symm.trans ht, manifestOf_of_current hkept hcurrent⟩
  · exact .inr (rereads_of_not_current h)

/-- A question leaves alone what is kept for other directories. -/
theorem get?_manifestOf_of_ne (h : d' ≠ d) : (cache.manifestOf files (some d)).2.get? d' = cache.get? d' := by
  rcases manifestOf_cases cache files d with ⟨kept, t, -, -, -, heq⟩ | heq
  · rw [heq]
  · rw [heq, KeyMap.get?_set, if_neg h]

/-- It is answered by what is kept for its own. -/
theorem manifestOf_congr (files : FileStore) (h : cache.get? d = cache'.get? d) :
    (cache.manifestOf files (some d)).1 = (cache'.manifestOf files (some d)).1 ∧
      (cache.manifestOf files (some d)).2.get? d = (cache'.manifestOf files (some d)).2.get? d := by
  by_cases hcurrent : ∃ kept, cache.get? d = some kept ∧ isCurrent kept (files.modified d) = true
  · obtain ⟨kept, hkept, hcurrent⟩ := hcurrent
    rw [manifestOf_of_current hkept hcurrent, manifestOf_of_current (h.symm.trans hkept) hcurrent]
    exact ⟨rfl, h⟩
  · have hreads : cache.Rereads files d := rereads_of_not_current hcurrent
    have hreads' : cache'.Rereads files d := rereads_of_not_current (h ▸ hcurrent)
    rw [hreads, hreads']
    refine ⟨rfl, ?_⟩
    rw [KeyMap.get?_set, KeyMap.get?_set, if_pos rfl, if_pos rfl]

/-! ## What is kept is dated -/

/-- What is kept with a known time is the content of a file that was there with this time. -/
def Dated (was : String → ManifestFile → Prop) (cache : ManifestCache) : Prop :=
  ∀ d kept t, cache.get? d = some kept → kept.modified = some t →
    ∃ file, was d file ∧ file.modified = some t ∧ file.content = kept.manifest

section Dated
variable {was : String → ManifestFile → Prop} {s : ManifestScene} (htell : TimesTell was)

theorem dated_empty (was : String → ManifestFile → Prop) : Dated was .empty := by
  intro d kept t h
  simp at h

include htell in
theorem manifestOf_dated (h : cache.Dated was) (hfiles : ∀ d file, files d = some file → was d file) (d : String) :
    (cache.manifestOf files (some d)).1 = files.read d ∧ (cache.manifestOf files (some d)).2.Dated was := by
  rcases manifestOf_cases cache files d with ⟨kept, t, hkept, ht, hmodified, heq⟩ | heq
  · -- The file that is there now has the time of the one that was read, so it has its content too.
    obtain ⟨old, hold, htime, hcontent⟩ := h d kept t hkept ht
    obtain ⟨file, hfile, hnow⟩ := Option.bind_eq_some_iff.1 hmodified
    have hsame : old.content = file.content := by
      apply htell d old file hold (hfiles d file hfile)
      · simp [htime]
      · rw [htime, hnow]
    rw [heq]
    refine ⟨?_, h⟩
    rw [FileStore.read, hfile, Option.bind_some, ← hsame, hcontent]
  · rw [heq]
    refine ⟨rfl, ?_⟩
    -- What is kept now has the time and the content of the file that is there.
    intro d' kept t hkept ht
    rw [KeyMap.get?_set] at hkept
    split at hkept
    · rename_i hd
      subst hd
      cases hkept
      obtain ⟨file, hfile, hnow⟩ := Option.bind_eq_some_iff.1 ht
      exact ⟨file, hfiles d' file hfile, hnow, by rw [FileStore.read, hfile, Option.bind_some]⟩
    · exact h d' kept t hkept ht

include htell in
theorem answer_dated (h : cache.Dated was) (hfiles : ∀ d file, s.files d = some file → was d file)
    (event : ManifestEvent) :
    (cache.answer s event).1 = s.answer event ∧ (cache.answer s event).2.Dated was := by
  cases event with
  | ask =>
    unfold answer ManifestScene.answer ManifestScene.current
    cases hdirectory : s.directory with
    | none => exact ⟨rfl, h⟩
    | some d =>
      obtain ⟨hread, hdated⟩ := manifestOf_dated htell h hfiles d
      simp only [hread, Option.bind_some]
      exact ⟨trivial, hdated⟩
  | _ => exact ⟨rfl, h⟩

/-- No event brings a file that was not there. -/
theorem was_after {event : ManifestEvent} {events : List ManifestEvent}
    (hfiles : ∀ d file, s.WasThere (event :: events) d file → was d file) :
    ∀ d file, (s.after event).WasThere events d file → was d file := by
  intro d file h
  apply hfiles
  rcases h with h | h
  · cases event with
    | write d' file' =>
      simp only [ManifestScene.after, Function.update_apply] at h
      split at h
      · rename_i hd
        cases h
        exact .inr (hd ▸ List.mem_cons_self)
      · exact .inl h
    | delete d' =>
      simp only [ManifestScene.after, Function.update_apply] at h
      split at h
      · cases h
      · exact .inl h
    | enter _ => exact .inl h
    | ask => exact .inl h
  · exact .inr (List.mem_cons_of_mem event h)

include htell in
theorem answers_dated (h : cache.Dated was) (events : List ManifestEvent)
    (hfiles : ∀ d file, s.WasThere events d file → was d file) :
    (cache.answers s events).1 = s.answers events ∧ (cache.answers s events).2.Dated was := by
  induction events generalizing cache s with
  | nil => exact ⟨rfl, h⟩
  | cons event events ih =>
    obtain ⟨hnow, hdated⟩ := answer_dated htell h (fun d file hfile => hfiles d file (.inl hfile)) event
    obtain ⟨hlater, hdated⟩ := ih hdated (was_after hfiles)
    simp only [answers, ManifestScene.answers, hnow, hlater]
    exact ⟨trivial, hdated⟩

end Dated

/-! ## One directory at a time -/

/-- The answers for a directory among others. -/
def answersFor (d : String) (answers : List ManifestAnswer) : List ManifestAnswer :=
  answers.filter fun answer => answer.1 = some d

theorem answer_congr (s : ManifestScene) (event : ManifestEvent) (h : cache.get? d = cache'.get? d) :
    answersFor d (cache.answer s event).1 = answersFor d (cache'.answer s event).1 ∧
      (cache.answer s event).2.get? d = (cache'.answer s event).2.get? d := by
  cases event with
  | ask =>
    unfold answer
    cases hdirectory : s.directory with
    | none => exact ⟨rfl, h⟩
    | some d' =>
      by_cases hd : d' = d
      · subst hd
        obtain ⟨hanswer, hkept⟩ := manifestOf_congr s.files h
        simp only [hanswer]
        exact ⟨trivial, hkept⟩
      · simp only [get?_manifestOf_of_ne (Ne.symm hd)]
        exact ⟨by simp [answersFor, hd], h⟩
  | _ => exact ⟨rfl, h⟩

theorem answers_congr (s : ManifestScene) (events : List ManifestEvent) (h : cache.get? d = cache'.get? d) :
    answersFor d (cache.answers s events).1 = answersFor d (cache'.answers s events).1 := by
  induction events generalizing cache cache' s with
  | nil => rfl
  | cons event events ih =>
    obtain ⟨hnow, hkept⟩ := answer_congr s event h
    have hlater := ih (s.after event) hkept
    unfold answersFor at hnow hlater ⊢
    simp only [answers, List.filter_append, hnow, hlater]

end ManifestCache

open ManifestCache

/-- Every question is answered with what reading gives at that time, if known times tell contents apart. Whatever is
kept, the answers for a directory depend on what is kept for it alone. What has no known time, or another one than the
file, be it an earlier or a later one, is read again at every question, and only what has the file's own time is not. -/
theorem shared_manifests :
    (∀ (s : ManifestScene) (events : List ManifestEvent), TimesTell (s.WasThere events) →
      (ManifestCache.answers .empty s events).1 = s.answers events) ∧
    (∀ (cache cache' : ManifestCache) (s : ManifestScene) (events : List ManifestEvent) (d : String),
      cache.get? d = cache'.get? d →
      answersFor d (cache.answers s events).1 = answersFor d (cache'.answers s events).1) ∧
    (∀ (cache : ManifestCache) (files : FileStore) (d : String), files.modified d = none → cache.Rereads files d) ∧
    (∀ (cache : ManifestCache) (files : FileStore) (d : String) (kept : KeptManifest), cache.get? d = some kept →
      kept.modified ≠ files.modified d → cache.Rereads files d) ∧
    (∀ (cache : ManifestCache) (files : FileStore) (d : String) (kept : KeptManifest), cache.get? d = some kept →
      kept.modified ≠ none → kept.modified = files.modified d →
      cache.manifestOf files (some d) = (kept.manifest, cache)) := by
  refine ⟨?_, ?_, ?_, ?_, ?_⟩
  · intro s events htell
    exact (answers_dated htell (dated_empty _) events fun _ _ h => h).1
  · intro cache cache' s events d h
    exact answers_congr s events h
  · intro cache files d hunknown
    apply rereads_of_not_current
    rintro ⟨kept, hkept, hcurrent⟩
    obtain ⟨hknown, hsame⟩ := isCurrent_iff.1 hcurrent
    exact hknown (hsame.trans hunknown)
  · intro cache files d kept hkept hother
    apply rereads_of_not_current
    rintro ⟨kept', hkept', hcurrent⟩
    obtain rfl : kept = kept' := Option.some.inj (hkept.symm.trans hkept')
    exact hother (isCurrent_iff.1 hcurrent).2
  · intro cache files d kept hkept hknown hsame
    exact manifestOf_of_current hkept (isCurrent_iff.2 ⟨hknown, hsame⟩)

/-- A file is replaced by one with an earlier time and by one that is not understood and has none, and is deleted. -/
theorem shared_manifests_replaced :
    ∃ (m m' : Manifest) (s : ManifestScene) (events : List ManifestEvent) (cache other : ManifestCache)
      (files : Option Nat → FileStore),
      m ≠ m' ∧ s.directory = some "a" ∧
      events = [.write "a" ⟨some m, some 5⟩, .ask, .ask, .write "a" ⟨some m', some 3⟩, .ask,
        .write "a" ⟨none, none⟩, .ask, .delete "a", .ask, .enter none, .ask] ∧
      TimesTell (s.WasThere events) ∧
      (ManifestCache.answers .empty s events).1 =
        [(some "a", some m), (some "a", some m), (some "a", some m'), (some "a", none), (some "a", none),
          (none, none)] ∧
      cache.get? "b" ≠ other.get? "b" ∧
      answersFor "a" (cache.answers s events).1 = answersFor "a" (other.answers s events).1 ∧
      cache.Rereads (files none) "a" ∧ cache.Rereads (files (some 3)) "a" ∧
      cache.manifestOf (files (some 5)) (some "a") = (some m, cache) := by
  obtain ⟨hcurrent, hother, hunknown, hmoved, hkept⟩ := shared_manifests
  let m : Manifest := ⟨[], by decide⟩
  let m' : Manifest := ⟨[("dependencies", ⟨.table, ["pathway"]⟩)], by decide⟩
  let s : ManifestScene := ⟨fun _ => none, some "a"⟩
  let events : List ManifestEvent := [.write "a" ⟨some m, some 5⟩, .ask, .ask, .write "a" ⟨some m', some 3⟩, .ask,
    .write "a" ⟨none, none⟩, .ask, .delete "a", .ask, .enter none, .ask]
  let cache : ManifestCache := KeyMap.empty.set "a" ⟨some m, some 5⟩
  let other : ManifestCache := cache.set "b" ⟨some m', some 5⟩
  let files : Option Nat → FileStore := fun modified _ => some ⟨some m', modified⟩
  have htell : TimesTell (s.WasThere events) := by
    intro d file file' h h'
    simp only [ManifestScene.WasThere, s, events, reduceCtorEq, false_or, List.mem_cons, List.not_mem_nil, or_false,
      ManifestEvent.write.injEq] at h h'
    rcases h with ⟨-, rfl⟩ | ⟨-, rfl⟩ | ⟨-, rfl⟩ <;> rcases h' with ⟨-, rfl⟩ | ⟨-, rfl⟩ | ⟨-, rfl⟩ <;> simp
  refine ⟨m, m', s, events, cache, other, files, by decide, rfl, rfl, htell, ?_, by decide, ?_, ?_, ?_, ?_⟩
  · rw [hcurrent s events htell]
    rfl
  · exact hother cache other s events "a" (by decide)
  · exact hunknown cache (files none) "a" rfl
  · exact hmoved cache (files (some 3)) "a" ⟨some m, some 5⟩ rfl (by decide)
  · exact hkept cache (files (some 5)) "a" ⟨some m, some 5⟩ rfl (by decide) rfl

end Reflection
