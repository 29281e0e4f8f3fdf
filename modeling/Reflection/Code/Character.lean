import Reflection.Text.IdentifierChars
import Reflection.Text.Quoted
/-!
# Characters of code

The classes of characters that reading code tells apart.
-/

namespace Reflection.Code

open Reflection.Text (inRanges)

/-- Unicode white space. -/
def isBlank (c : Char) : Bool :=
  inRanges [(0x9, 0xD), (0x20, 0x20), (0x85, 0x85), (0xA0, 0xA0), (0x1680, 0x1680), (0x2000, 0x200A),
    (0x2028, 0x2029), (0x202F, 0x202F), (0x205F, 0x205F), (0x3000, 0x3000)] c

/-- White space between tokens, with the two marks for the direction of text. -/
def isLayout (c : Char) : Bool := isBlank c || c == Char.ofNat 0x200E || c == Char.ofNat 0x200F

def isNameStart (c : Char) : Bool := c == '_' || inRanges Text.identifierStart c

def isNameRest (c : Char) : Bool := isNameStart c || inRanges Text.identifierRest c

def isPunctuation (c : Char) : Bool := "~!@#$%^&*-=+|;:,<.>/?'".toList.contains c

/-- The value of a digit to base sixteen. -/
def hexValue? (c : Char) : Option Nat :=
  if '0' ≤ c && c ≤ '9' then some (c.toNat - '0'.toNat)
  else if 'a' ≤ c && c ≤ 'f' then some (c.toNat - 'a'.toNat + 10)
  else if 'A' ≤ c && c ≤ 'F' then some (c.toNat - 'A'.toNat + 10)
  else none

def isHexDigit (c : Char) : Bool := (hexValue? c).isSome

/-- The name at the start of text, which is empty if there is none, and what follows it. -/
def splitName (cs : List Char) : List Char × List Char :=
  if cs.head?.any isNameStart then (cs.takeWhile isNameRest, cs.dropWhile isNameRest) else ([], cs)

end Reflection.Code
