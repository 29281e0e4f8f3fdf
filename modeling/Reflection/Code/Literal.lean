import Reflection.Code.Character
import Reflection.Code.Token
/-!
# Literals

`literalEnd?` finds the end of the literal that text begins with: a number, a character, a byte, or
a text of characters, of bytes or for a foreign language. A suffix belongs to the literal.

A quoted literal has escapes behind a backslash, and a backslash at the end of a line joins the next
line without its indentation. A raw one has no escapes; it ends at a quote and as many number signs as
stand before it. A carriage return is only allowed before a line feed.
-/

namespace Reflection.Code

/-- Text behind a suffix. -/
def afterSuffix (cs : List Char) : List Char := (splitName cs).2

/-! ## What is quoted -/

/-- The kinds of quoted literals. -/
inductive QuotedForm
  | text
  | bytes
  /-- Text that ends with a NUL where it is used, so that it holds none. -/
  | terminated
deriving DecidableEq, Repr

namespace QuotedForm

def all : List QuotedForm := [.text, .bytes, .terminated]

/-- The letters in front of the quote, or of the mark of a raw literal. -/
def mark : QuotedForm → List Char
  | .text => []
  | .bytes => ['b']
  | .terminated => ['c']

/-- Whether a character stands for itself. -/
def allows : QuotedForm → Char → Bool
  | .text, _ => true
  | .bytes, c => c.toNat < 128
  | .terminated, c => c != Char.ofNat 0

/-- Whether two hexadecimal digits are an escape. -/
def allowsHex : QuotedForm → Nat → Bool
  | .text, n => n < 128
  | .bytes, _ => true
  | .terminated, n => n != 0

/-- Whether a code point is an escape. -/
def allowsCodePoint : QuotedForm → Nat → Bool
  | .text, n => n.isValidChar
  | .bytes, _ => false
  | .terminated, n => n.isValidChar && n != 0

/-- The letters that are escapes by themselves. -/
def letters : QuotedForm → List Char
  | .terminated => ['n', 'r', 't', '\\', '\'', '"']
  | _ => ['n', 'r', 't', '\\', '\'', '"', '0']

end QuotedForm

/-- The number that hexadecimal digits stand for; what is no digit is left out. -/
def hexNumber (cs : List Char) : Nat := (cs.filterMap hexValue?).foldl (fun n d => 16 * n + d) 0

/-- How many characters behind the backslash belong to an escape. -/
def escapeLength? (form : QuotedForm) (cs : List Char) : Option Nat :=
  match cs with
  | 'x' :: high :: low :: _ =>
    if isHexDigit high && isHexDigit low && form.allowsHex (hexNumber [high, low]) then some 3 else none
  | 'u' :: opening :: rest =>
    let body := rest.takeWhile fun c => isHexDigit c || c == '_'
    let digits := body.filter isHexDigit
    if opening == Char.ofNat 0x7b && body.head? != some '_' && 0 < digits.length && digits.length ≤ 6 &&
        (rest.drop body.length).head? == some (Char.ofNat 0x7d) && form.allowsCodePoint (hexNumber body) then
      some (body.length + 3)
    else none
  | c :: _ => if form.letters.contains c then some 1 else none
  | [] => none

/-- The text behind the quote that ends a quoted literal. `joining` lines, blanks are skipped. -/
def quotedEnd? (form : QuotedForm) (joining : Bool) (cs : List Char) : Option (List Char) :=
  match cs with
  | [] => none
  | '\r' :: '\n' :: rest => quotedEnd? form joining rest
  | '\\' :: '\n' :: rest => quotedEnd? form true ('\n' :: rest)
  | '\\' :: '\r' :: rest => quotedEnd? form true ('\r' :: rest)
  | c :: rest =>
    if joining && [' ', '\t', '\n'].contains c then quotedEnd? form true rest
    else if c == '"' then some rest
    else if c == '\\' then
      match escapeLength? form rest with
      | some n => quotedEnd? form false (rest.drop n)
      | none => none
    else if c != '\r' && form.allows c then quotedEnd? form false rest
    else none
termination_by cs.length
decreasing_by all_goals simp only [List.length_cons, List.length_drop]; omega

/-- The text behind the quote and the number signs that end a raw literal. -/
def rawEnd? (form : QuotedForm) (signs : Nat) : List Char → Option (List Char)
  | [] => none
  | '\r' :: '\n' :: cs => rawEnd? form signs cs
  | c :: cs =>
    if c == '"' && (List.replicate signs '#').isPrefixOf cs then some (cs.drop signs)
    else if c != '\r' && form.allows c then rawEnd? form signs cs
    else none

/-- At most this many number signs mark a raw literal. -/
def maxSigns : Nat := 255

/-- What follows a text literal of a kind. -/
def textEnd? (form : QuotedForm) (cs : List Char) : Option (List Char) :=
  (form.mark.isPrefixOf? cs).bind fun rest =>
    match rest with
    | '"' :: rest => quotedEnd? form false rest
    | 'r' :: rest =>
      let signs := (rest.takeWhile (· == '#')).length
      match rest.drop signs with
      | '"' :: rest => if signs ≤ maxSigns then rawEnd? form signs rest else none
      | _ => none
    | _ => none

/-- What follows the literal of one character or byte, behind its opening quote. -/
def singleEnd? (form : QuotedForm) (cs : List Char) : Option (List Char) :=
  let behind : Option (List Char) :=
    match cs with
    | '\\' :: rest => (escapeLength? form rest).map rest.drop
    | c :: rest => if form.allows c then some rest else none
    | [] => none
  behind.bind (['\''].isPrefixOf? ·)

/-! ## Numbers -/

def isDigitOrGap (c : Char) : Bool := c.isDigit || c == '_'

/-- What follows an exponent behind its letter. A sign comes before the digits. -/
def exponentEnd? (signed : Bool) (valued : Bool) : List Char → Option (List Char)
  | [] => if valued then some [] else none
  | c :: cs =>
    if c == '+' || c == '-' then
      if valued then some (c :: cs) else if signed then none else exponentEnd? true valued cs
    else if c.isDigit then exponentEnd? signed true cs
    else if c == '_' then exponentEnd? signed valued cs
    else if valued then some (c :: cs)
    else none

/-- What follows the digits of a number with a point or an exponent. A letter that begins no
exponent is part of a suffix. -/
def fractionalEnd? (cs : List Char) : Option (List Char) :=
  let isExponent (c : Char) : Bool := c == 'e' || c == 'E'
  if !cs.head?.any Char.isDigit then none else
  match cs.dropWhile isDigitOrGap with
  | '.' :: rest =>
    if rest.head?.any fun c => c == '.' || isNameStart c then none
    else
      match rest.dropWhile isDigitOrGap with
      | c :: later =>
        some (if isExponent c then (exponentEnd? false false later).getD (c :: later) else c :: later)
      | [] => some []
  | c :: rest => if isExponent c then exponentEnd? false false rest else none
  | [] => none

/-- The base of a number and the text behind its mark. -/
def splitBase : List Char → Nat × List Char
  | '0' :: 'x' :: cs => (16, cs)
  | '0' :: 'o' :: cs => (8, cs)
  | '0' :: 'b' :: cs => (2, cs)
  | cs => (10, cs)

/-- What follows the digits of a whole number. A decimal digit that is none of the base is no part
of a number; a letter that is none begins a suffix. -/
def wholeEnd? (cs : List Char) : Option (List Char) :=
  let (base, cs) := splitBase cs
  let isPart (c : Char) : Bool := c.isDigit || c == '_' || (hexValue? c).any (· < base)
  let digits := (cs.takeWhile isPart).filter (· != '_')
  let isForeign (d : Char) : Bool := (hexValue? d).any (base ≤ ·)
  if digits.isEmpty || digits.any isForeign || (base == 10 && cs.head? == some '_') then none
  else some (cs.dropWhile isPart)

/-- Text that does not go on with a character of a name, behind a suffix. -/
def suffixed? (cs : List Char) : Option (List Char) :=
  let rest := afterSuffix cs
  if rest.head?.any isNameRest then none else some rest

/-! ## All literals -/

def literalEnd? (cs : List Char) : Option (List Char) :=
  let quoted : Option (List Char) :=
    QuotedForm.all.findSome? (textEnd? · cs)
      <|> ((['b', '\''].isPrefixOf? cs).bind (singleEnd? .bytes))
      <|> ((['\''].isPrefixOf? cs).bind (singleEnd? .text))
  (quoted.map afterSuffix)
    <|> ((fractionalEnd? cs).bind suffixed?)
    <|> ((wholeEnd? cs).bind suffixed?)

/-! ## Writing text literals -/

/-- One character of a text literal in code. A NUL before an octal digit is written so that the two
do not read as one escape. -/
def escapeLiteral : List Char → List Char
  | [] => []
  | c :: cs =>
    let escaped :=
      if c == Char.ofNat 0 then
        if cs.head?.any (fun d => '0' ≤ d && d ≤ '7') then ['\\', 'x', '0', '0'] else ['\\', '0']
      else Text.escapeChar ['"'] c
    escaped ++ escapeLiteral cs

/-- A text literal. -/
def literalText (s : String) : Token := .literal (String.ofList ('"' :: escapeLiteral s.toList ++ ['"']))

end Reflection.Code
