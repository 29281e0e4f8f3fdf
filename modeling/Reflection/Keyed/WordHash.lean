/-!
# Hashing of keys that are hashes

A type's identity is as good as a hash already, so the hash of a word is the word. Other input is
folded into the state byte by byte from its end: the state turns by one byte, then the byte is added.
-/

namespace Reflection

/-- The state of a hasher, which is its answer too. -/
structure WordHash where
  state : UInt64
deriving DecidableEq, Repr

namespace WordHash

def init : WordHash := ⟨0⟩

/-- The word turned left by eight bits. -/
def turn (h : UInt64) : UInt64 := (h <<< 8) ||| (h >>> 56)

def addByte (h : UInt64) (b : UInt8) : UInt64 := turn h + b.toUInt64

def write (h : WordHash) (bytes : List UInt8) : WordHash := ⟨bytes.foldr (fun b s => addByte s b) h.state⟩

/-- A whole word replaces the state. -/
def writeWord (_ : WordHash) (w : UInt64) : WordHash := ⟨w⟩

/-- The `n` bytes of a number, lowest first. -/
def bytesOf : Nat → Nat → List UInt8
  | 0, _ => []
  | n + 1, x => UInt8.ofNat (x % 256) :: bytesOf n (x / 256)

end WordHash

end Reflection
