import Reflection.Code.Literal
/-!
# White space and comments

`skipLayout` leaves out the white space and the comments in front of a token. A comment that
documents something is part of the code: it stands for an attribute with its text.
-/

namespace Reflection.Code

/-- The text behind the end of a block comment, `depth` further ones being open around it. -/
def blockEnd? (depth : Nat) : List Char → Option (List Char)
  | '*' :: '/' :: cs =>
    match depth with
    | 0 => some cs
    | depth + 1 => blockEnd? depth cs
  | '/' :: '*' :: cs => blockEnd? (depth + 1) cs
  | _ :: cs => blockEnd? depth cs
  | [] => none

theorem length_lt_of_blockEnd? {depth : Nat} {cs later : List Char} (h : blockEnd? depth cs = some later) :
    later.length < cs.length := by
  fun_induction blockEnd? depth cs with
  | case1 cs =>
    cases h
    simp only [List.length_cons]
    omega
  | case2 _ _ ih | case3 _ _ ih =>
    have := ih h
    simp only [List.length_cons]
    omega
  | case4 _ _ _ _ _ ih =>
    have := ih h
    simp only [List.length_cons]
    omega
  | case5 => simp at h

/-- Whether a line comment documents something, by the text behind its two slashes. -/
def isDocLine : List Char → Bool
  | '!' :: _ => true
  | '/' :: cs => cs.head? != some '/'
  | _ => false

/-- Whether a block comment documents something, by the text behind its opening. -/
def isDocBlock : List Char → Bool
  | '!' :: _ => true
  | '*' :: cs => cs.head? != some '*' && cs.head? != some '/'
  | _ => false

/-- Text without the white space and the comments in front. Comments that document something are
part of the code. -/
def skipLayout (cs : List Char) : List Char :=
  match cs with
  | [] => []
  | '/' :: '/' :: rest => if isDocLine rest then cs else skipLayout (rest.dropWhile (· != '\n'))
  | '/' :: '*' :: rest =>
    if isDocBlock rest then cs
    else match _h : blockEnd? 0 rest with
      | some later => skipLayout later
      | none => cs
  | c :: rest => if isLayout c then skipLayout rest else cs
termination_by cs.length
decreasing_by
  · have := (List.dropWhile_sublist (· != '\n') (l := rest)).length_le
    simp only [List.length_cons]
    omega
  · have := length_lt_of_blockEnd? _h
    simp only [List.length_cons]
    omega
  · simp

/-- The rest of a line, and the text from its end on. -/
def splitLine : List Char → List Char × List Char
  | [] => ([], [])
  | '\r' :: '\n' :: cs => ([], '\n' :: cs)
  | c :: cs => if c == '\n' then ([], c :: cs) else ((c :: (splitLine cs).1), (splitLine cs).2)

/-- Whether every carriage return is part of a line end. -/
def pairedReturns : List Char → Bool
  | [] => true
  | '\r' :: '\n' :: cs => pairedReturns cs
  | c :: cs => c != '\r' && pairedReturns cs

/-- A comment that documents something: its text, and whether it is about what encloses it. -/
structure DocComment where
  text : List Char
  inner : Bool
deriving DecidableEq, Repr

/-- The attribute that a comment stands for, `#[doc = ".."]`. -/
def DocComment.tokens (c : DocComment) : List Token :=
  .punct '#' false :: (if c.inner then [.punct '!' false] else []) ++
    brackets [.ident "doc", .punct '=' false, literalText (String.ofList c.text)]

/-- The text of a block comment behind the mark that opens it, and what follows the comment. -/
def blockText? (cs : List Char) : Option (List Char × List Char) :=
  (blockEnd? 0 cs).map fun later => ((cs.take (cs.length - later.length - 2)).drop 1, later)

/-- A comment that documents something, at the start of text. -/
def docComment? (cs : List Char) : Option (DocComment × List Char) :=
  let found : Option (DocComment × List Char) :=
    match cs with
    | '/' :: '/' :: mark :: rest =>
      let (line, later) := splitLine rest
      if isDocLine (mark :: rest) then some (⟨line, mark == '!'⟩, later) else none
    | '/' :: '*' :: mark :: rest =>
      if isDocBlock (mark :: rest) then
        (blockText? (mark :: rest)).map fun (text, later) => (⟨text, mark == '!'⟩, later)
      else none
    | _ => none
  found.filter fun (c, _) => pairedReturns c.text

end Reflection.Code
