/-!
# Padded text

A text is cut to a precision, if there is one, and then filled up to a width on one side or on
both. Lengths count characters. What does not fit on both sides alike goes behind the text.
-/

namespace Reflection

inductive Alignment
  | left | center | right
deriving DecidableEq, Repr

structure Padding where
  width : Nat
  precision : Option Nat := none
  alignment : Alignment := .left
  fill : Char := ' '

namespace Padding

/-- The fill before and behind a text that is `missing` characters short. -/
def sides (p : Padding) (missing : Nat) : Nat × Nat :=
  match p.alignment with
  | .left => (0, missing)
  | .center => (missing / 2, missing - missing / 2)
  | .right => (missing, 0)

def cut (p : Padding) (cs : List Char) : List Char :=
  match p.precision with
  | none => cs
  | some n => cs.take n

def applyChars (p : Padding) (cs : List Char) : List Char :=
  let kept := p.cut cs
  let (before, behind) := p.sides (p.width - kept.length)
  List.replicate before p.fill ++ kept ++ List.replicate behind p.fill

def apply (p : Padding) (text : String) : String := String.ofList (p.applyChars text.toList)

end Padding

end Reflection
