import Reflection.Text.Invisible
import Reflection.Text.Combining
/-!
# Quoted text

Text is shown between quotes. The quote and the backslash are written behind a backslash, four
control characters have letters of their own, and a character that does not show by itself, or
would join the one before it, is written as its code point in hexadecimal.
-/

namespace Reflection.Text

def inRanges (table : List (Nat × Nat)) (c : Char) : Bool :=
  table.any fun (first, last) => first ≤ c.toNat && c.toNat ≤ last

def isInvisible (c : Char) : Bool := c != ' ' && inRanges invisible c

def isCombining (c : Char) : Bool := inRanges combining c

/-- The code point in hexadecimal, `\u\x7b301\x7d`. -/
def codePointEscape (c : Char) : List Char :=
  ['\\', 'u', Char.ofNat 0x7b] ++ Nat.toDigits 16 c.toNat ++ [Char.ofNat 0x7d]

/-- One character of a quoted text; `quotes` are the quote characters that need an escape. -/
def escapeChar (quotes : List Char) (c : Char) : List Char :=
  if c == Char.ofNat 0 then ['\\', '0']
  else if c == '\t' then ['\\', 't']
  else if c == '\r' then ['\\', 'r']
  else if c == '\n' then ['\\', 'n']
  else if c == '\\' || quotes.contains c then ['\\', c]
  else if isInvisible c || isCombining c then codePointEscape c
  else [c]

/-- Text between double quotes. -/
def quoteText (s : String) : String :=
  String.ofList ('"' :: s.toList.flatMap (escapeChar ['"']) ++ ['"'])

/-- A character between single quotes. -/
def quoteChar (c : Char) : String :=
  String.ofList ('\'' :: escapeChar ['\''] c ++ ['\''])

end Reflection.Text
