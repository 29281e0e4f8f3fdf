import Reflection.Path.Basic
import Reflection.Schema.Info
/-!
# What can go wrong on a path

A `Cause` says why one segment cannot be applied, an `AccessError` which segment that is, and a
`PathError` at which stage of an access it happened. Types are reported by their paths.
-/

namespace Reflection

/-- Why a segment cannot be applied to a value. -/
inductive Cause
  | nullIntermediate
  | notIndexable (kind : Kind) (type : String)
  | indexOutOfRange (index : UInt64) (len : Nat) (type : String)
  | memberNotFound (name type : String) (mode : Mode)
  | rejected (source target : String)
deriving DecidableEq, Repr

def Cause.message : Cause → String
  | .nullIntermediate => "reached a null value"
  | .notIndexable kind type => s!"`{type}` is a {kind.text} and cannot be indexed"
  | .indexOutOfRange index len type =>
    s!"index {index.toNat} is out of range for `{type}` of length {len}"
  | .memberNotFound name type mode => s!"`{type}` has no {mode.text} member `{name}`"
  | .rejected source target => s!"value rejected: attempted to set `{source}` into `{target}`"

/-- A segment that could not be applied, with its place in the path. -/
structure AccessError where
  cause : Cause
  segment : Segment
  position : Nat
deriving DecidableEq, Repr

def AccessError.message (e : AccessError) : String :=
  s!"cannot apply `{e.segment.text}` at position {e.position}: {e.cause.message}"

/-- A failed access. It fails in `lookup` while it walks to the place, and in `assign` once it has
arrived there to write. -/
inductive PathError
  | invalidPath (e : InvalidPath)
  | lookup (e : AccessError)
  | assign (e : AccessError)
  | invalidDowncast (expected actual : String)
deriving DecidableEq, Repr

namespace PathError

def message : PathError → String
  | .invalidPath e => e.message
  | .lookup e => s!"lookup failed: {e.message}"
  | .assign e => s!"assignment failed: {e.message}"
  | .invalidDowncast expected actual => s!"cannot downcast `{actual}` to `{expected}`"

def isLookup : PathError → Bool
  | .lookup _ => true
  | _ => false

def isAssign : PathError → Bool
  | .assign _ => true
  | _ => false

end PathError

end Reflection
