/-!
# Path segments

A path into a value is written as member names and indices, `users[3].name`. A `Segment` is one
step of it. Text between two separators is a *piece*: a piece of decimal digits is an index, any
other piece is a member name, taken as it stands.

`Segment.ofPiece` reads a piece and `Segment.text` writes a segment.
-/

namespace Reflection

/-- One step of a path. Indices are 64-bit words. -/
inductive Segment
  | member (name : String)
  | index (i : UInt64)
deriving DecidableEq, Repr

/-- The characters that end a piece: `.`, `[` and `]`. -/
def isSeparator (c : Char) : Bool := c == '.' || c == '[' || c == ']'

/-! ## Indices in decimal -/

/-- Writes one more digit behind an index. What would exceed the greatest index is the greatest
index, after the shift and again after the digit. -/
def pushDigit (i : UInt64) (c : Char) : UInt64 :=
  .ofNatClamp ((UInt64.ofNatClamp (i.toNat * 10)).toNat + (c.toNat - '0'.toNat))

/-- The index that decimal digits denote, at most the greatest one. -/
def indexOfDigits (digits : List Char) : UInt64 := digits.foldl pushDigit 0

/-- An index in decimal digits, without leading zeros. -/
def indexDigits (i : UInt64) : List Char := Nat.toDigits 10 i.toNat

/-! ## Reading and writing a segment -/

/-- Whether a piece is read as an index. Only `0` to `9` count as digits. -/
def isIndexPiece (piece : List Char) : Bool := piece.all Char.isDigit

/-- The segment that a non-empty piece denotes. -/
def Segment.ofPiece (piece : List Char) : Segment :=
  if isIndexPiece piece then .index (indexOfDigits piece) else .member (String.ofList piece)

/-- A member prints as its name, an index in brackets. -/
def Segment.chars : Segment → List Char
  | .member name => name.toList
  | .index i => '[' :: indexDigits i ++ [']']

def Segment.text (s : Segment) : String := String.ofList s.chars

def Segment.isMember : Segment → Bool
  | .member _ => true
  | .index _ => false

end Reflection
