import Reflection.Manifest.Basic
import Reflection.Keyed.KeyMap
/-!
# Manifests are read once

Reading a manifest takes time, so what was read is kept under the directory of the file, with the
time the file was changed at. It counts as long as the file still has that time; a file without a known
time is read again whenever it is asked for. A manifest that is missing or cannot be understood is
kept as such.
-/

namespace Reflection

/-- A file: what its text means, if it means anything, and when it was changed, if that is known. -/
structure ManifestFile where
  content : Option Manifest
  modified : Option Nat
deriving DecidableEq, Repr

/-- The manifest files there are, by their directory. -/
abbrev FileStore := String → Option ManifestFile

structure KeptManifest where
  manifest : Option Manifest
  modified : Option Nat
deriving DecidableEq, Repr

abbrev ManifestCache := KeyMap String KeptManifest

namespace FileStore

/-- What reading a file gives now. -/
def read (files : FileStore) (directory : String) : Option Manifest := (files directory).bind ManifestFile.content

def modified (files : FileStore) (directory : String) : Option Nat := (files directory).bind ManifestFile.modified

end FileStore

namespace ManifestCache

/-- Whether a kept manifest still counts for a file changed at `modified`. -/
def isCurrent (kept : KeptManifest) (modified : Option Nat) : Bool :=
  kept.modified.isSome && kept.modified == modified

/-- The manifest of a directory, and the cache after it. Without a directory there is none. -/
def manifestOf (cache : ManifestCache) (files : FileStore) (directory : Option String) :
    Option Manifest × ManifestCache :=
  match directory with
  | none => (none, cache)
  | some d =>
    let modified := files.modified d
    let read : Option Manifest × ManifestCache :=
      (files.read d, (cache.insert d ⟨files.read d, modified⟩).2)
    match cache.get? d with
    | some kept => if isCurrent kept modified then (kept.manifest, cache) else read
    | none => read

end ManifestCache

end Reflection
