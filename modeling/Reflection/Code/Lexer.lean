import Reflection.Code.Comment
/-!
# Reading tokens

`lex?` reads code text into token trees. It knows names, raw names, lifetimes, literals, punctuation,
groups and comments that document something; text that is none of these, or whose delimiters do not
match, is no code.
-/

namespace Reflection.Code

/-- A token without the nesting of groups. -/
inductive Lexeme
  | leaf (t : Token)
  | opening (d : Delimiter)
  | closing (d : Delimiter)
deriving DecidableEq, Repr

/-! ## One token -/

def opensComment : List Char → Bool
  | '/' :: c :: _ => c == '/' || c == '*'
  | _ => false

/-- Whether text begins with punctuation. -/
def beginsPunctuation (cs : List Char) : Bool := !opensComment cs && cs.head?.any isPunctuation

/-- Names that cannot be raw. -/
def neverRaw : List String := ["_", "super", "self", "Self", "crate"]

def rawMark : List Char := ['r', '#']

/-- The name that text begins with, raw or not, and what follows it. -/
def splitAnyName? (cs : List Char) : Option (String × List Char) :=
  match rawMark.isPrefixOf? cs with
  | some rest =>
    let (name, later) := splitName rest
    let name := String.ofList name
    if name.isEmpty || neverRaw.contains name then none else some ("r#" ++ name, later)
  | none =>
    let (name, later) := splitName cs
    if name.isEmpty then none else some (String.ofList name, later)

/-- What text that is no literal may not begin with, so that it is not taken for a name. -/
def literalMarks : List String :=
  ["r\"", "r#\"", "r##", "b\"", "b'", "br\"", "br#", "c\"", "cr\"", "cr#"]

def nameToken? (cs : List Char) : Option (Token × List Char) :=
  if literalMarks.any fun mark => mark.toList.isPrefixOf cs then none
  else (splitAnyName? cs).map fun (name, later) => (.ident name, later)

/-- Punctuation. A single quote is the mark of a lifetime: a name follows that is not quoted itself. -/
def punctuationToken? (cs : List Char) : Option (Token × List Char) :=
  match cs with
  | '\'' :: rest =>
    match splitAnyName? rest with
    | some (_, later) =>
      if later.head? == some '\'' || (later.head? == some '#' && !rawMark.isPrefixOf rest) then none
      else some (.punct '\'' true, rest)
    | none => none
  | c :: rest => if beginsPunctuation cs then some (.punct c (beginsPunctuation rest), rest) else none
  | [] => none

def literalToken? (cs : List Char) : Option (Token × List Char) :=
  (literalEnd? cs).map fun later => (.literal (String.ofList (cs.take (cs.length - later.length))), later)

/-- The mark that stands for an expression that could not be made. It is read as a literal. -/
def failureMark : String := "(/*ERROR*/)"

def failureToken? (cs : List Char) : Option (Token × List Char) :=
  (failureMark.toList.isPrefixOf? cs).map fun later => (.literal failureMark, later)

/-- The token at the start of text. -/
def leaf? (cs : List Char) : Option (Token × List Char) :=
  failureToken? cs <|> literalToken? cs <|> punctuationToken? cs <|> nameToken? cs

/-- A delimiter at the start of text. -/
def delimiter? (c : Char) : Option Lexeme :=
  (Delimiter.all.find? (·.opening == c)).map .opening <|> (Delimiter.all.find? (·.closing == c)).map .closing

/-- What the start of text is: a comment that documents something is several lexemes. -/
def next? (cs : List Char) : Option (List Lexeme × List Char) :=
  match docComment? cs, leaf? cs, cs with
  | some (comment, later), _, _ => some (comment.tokens.map .leaf, later)
  | none, some (t, later), _ => some ([.leaf t], later)
  | none, none, c :: rest => (delimiter? c).map fun d => ([d], rest)
  | none, none, [] => none

/-! ## All tokens -/

def lexemes? (cs : List Char) : Option (List Lexeme) :=
  match skipLayout cs with
  | [] => some []
  | rest =>
    match next? rest with
    | none => none
    | some (ls, later) =>
      if later.length < cs.length then (lexemes? later).map (ls ++ ·) else none
termination_by cs.length

/-- Builds groups. Those still open are stacked in `outer`, each with what stands before it. -/
def nest? (outer : List (Delimiter × List Token)) (done : List Token) : List Lexeme → Option (List Token)
  | [] => if outer.isEmpty then some done else none
  | .leaf t :: rest => nest? outer (done ++ [t]) rest
  | .opening d :: rest => nest? ((d, done) :: outer) [] rest
  | .closing d :: rest =>
    match outer with
    | (e, before) :: outer => if d = e then nest? outer (before ++ [.group d done]) rest else none
    | [] => none

/-- Text without the mark of its encoding. -/
def dropEncodingMark : List Char → List Char
  | c :: cs => if c == Char.ofNat 0xFEFF then cs else c :: cs
  | [] => []

def lex? (code : String) : Option (List Token) :=
  (lexemes? (dropEncodingMark code.toList)).bind (nest? [] [])

/-- Code that is part of a template. -/
def template (code : String) : List Token := (lex? code).getD []

end Reflection.Code
