import Reflection.Code.Token
/-!
# Types as they are read and written

A type is read with some freedom in how it is spelled. That a punctuation character follows at once
matters only where two characters are one mark, and `::` may stand before arguments in parentheses. So
two types are the same if `asRead` gives the same code for both.

A type is written with the lifetimes of each list in angle brackets before its other entries,
whatever their order was. An entry keeps the comma behind it, if it has one. `orderArguments` writes a
type like that.

In a type every `<` opens a list. In an expression, such as the length of an array, `<` also compares;
it opens a list only where an operand or `::` calls for one. Tokens that a macro is called with are not
looked into, and neither are attributes.
-/

namespace Reflection.Code

/-! ## Lists in angle brackets -/

/-- An entry of a list in angle brackets. -/
structure Listed where
  tokens : List Token
  isLifetime : Bool
  /-- A comma follows. -/
  comma : Bool
deriving DecidableEq, Repr

namespace Listed

/-- An argument; it is a lifetime if it is a mark and a name. -/
def argument (tokens : List Token) (comma : Bool) : Listed :=
  let isLifetime := match tokens with
    | [.punct '\'' _, .ident _] => true
    | _ => false
  ⟨tokens, isLifetime, comma⟩

def written (e : Listed) : List Token := e.tokens ++ if e.comma then Code.comma else []

end Listed

/-- The entries of a list as they stand. -/
def inPlace (entries : List Listed) : List Token := entries.flatMap Listed.written

/-- The entries of a list, lifetimes first. Where the last lifetime has no comma behind it, one is
put before what follows. -/
def lifetimesFirst (entries : List Listed) : List Token :=
  let lifetimes := entries.filter (·.isLifetime)
  let others := entries.filter (!·.isLifetime)
  let between := if lifetimes.getLast?.any (!·.comma) && !others.isEmpty then comma else []
  inPlace lifetimes ++ between ++ inPlace others

/-- A list that is not closed yet: what stands before it, with its bracket, and its entries up to the
last comma. -/
structure OpenList where
  before : List Token
  entries : List Listed

/-! ## Marks -/

/-- What tokens are part of. -/
inductive Setting
  | type | expression
deriving DecidableEq, Repr

/-- Words of expressions that an operand or a type follows. -/
def operandWords : List String :=
  ["as", "async", "break", "else", "if", "in", "match", "move", "mut", "return", "static", "while"]

/-- Whether these tokens of an expression call for an operand. -/
def callsForOperand (before : List Token) : Bool :=
  match before.getLast? with
  | none => true
  | some (.punct c _) => c != '?'
  | some (.ident name) => operandWords.contains name
  | some _ => false

/-- Whether two characters that stand together are one mark. Behind an operand `&&`, `||` and `<<` are
operators; anywhere else each of their characters is a mark of its own. -/
def Setting.isOneMark (s : Setting) (before : List Token) (c d : Char) : Bool :=
  (c == ':' && d == ':') || (c == '-' && d == '>') ||
    (s = .expression && !callsForOperand before && c == d && ['&', '|', '<'].contains c)

/-- Whether the last token, as it is read, is the first character of a mark of two. -/
def endsInHalfMark (before : List Token) : Bool :=
  match before.getLast? with
  | some (.punct _ joint) => joint
  | _ => false

/-- A token between what stands before it and what follows: a character is joint if it is the first one of a
mark of two, or the mark of a lifetime. -/
def Token.asRead (s : Setting) (before : List Token) (t : Token) (after : List Token) : Token :=
  match t, after with
  | .punct '\'' joint, _ => .punct '\'' joint
  | .punct c true, .punct d _ :: _ => .punct c (!endsInHalfMark before && s.isOneMark before c d)
  | .punct c _, _ => .punct c false
  | t, _ => t

/-- Whether a group behind these tokens is what a macro is called with, or an attribute. -/
def keepsGroup (before : List Token) : Bool :=
  match before.reverse with
  | .punct '!' _ :: .ident _ :: _ => true
  | .punct '#' _ :: _ => true
  | _ => false

/-- Tokens without `::` at their end. -/
def dropDoubleColon (before : List Token) : List Token :=
  match before.reverse with
  | .punct ':' _ :: .punct ':' true :: rest => rest.reverse
  | _ => before

/-- The setting of a group. A block holds expressions. -/
def groupSetting (s : Setting) (d : Delimiter) : Setting :=
  if d = .brace then .expression else s

/-! ## Reading and writing -/

section
variable (arrange : List Listed → List Token)

mutual
/-- The body of a group with its lists arranged. -/
def arrangedBody (s : Setting) : Token → List Token
  | .group _ body => (arrangedIn s [] [] body).getD body
  | t => [t]

/-- Tokens as they are read, with their lists arranged, or nothing if a bracket stays open. `outer` are the
lists that are open, `current` what stands behind the last comma or bracket. -/
def arrangedIn (s : Setting) (outer : List OpenList) (current : List Token) :
    List Token → Option (List Token)
  | [] => if outer.isEmpty then some current else none
  | t :: ts =>
    let here := if outer.isEmpty then s else .type
    let next := current ++ [t.asRead here current ts]
    match t, outer with
    | .punct '<' _, _ =>
      if !endsInHalfMark current && (here = .type || callsForOperand current) then
        arrangedIn s (⟨next, []⟩ :: outer) [] ts
      else arrangedIn s outer next ts
    | .punct '>' _, l :: outer =>
      if endsInHalfMark current then arrangedIn s (l :: outer) next ts
      else
        let last := if current.isEmpty then [] else [Listed.argument current false]
        arrangedIn s outer (l.before ++ arrange (l.entries ++ last) ++ [.punct '>' false]) ts
    | .punct ',' _, l :: outer =>
      arrangedIn s (⟨l.before, l.entries ++ [.argument current true]⟩ :: outer) [] ts
    | .punct ';' _, [] => arrangedIn .expression [] next ts
    | .group d body, _ =>
      if keepsGroup current then arrangedIn s outer next ts
      else
        let before := if d = .paren && here = .type then dropDoubleColon current else current
        arrangedIn s outer (before ++ [.group d (arrangedBody (groupSetting here d) (.group d body))]) ts
    | _, _ => arrangedIn s outer next ts
end

end

/-- A type as it is read. -/
def asRead (tokens : List Token) : List Token := (arrangedIn inPlace .type [] [] tokens).getD tokens

/-- A type, or a clause about types, as it is written, with the lifetimes of each list first. -/
def orderArguments (tokens : List Token) : List Token := (arrangedIn lifetimesFirst .type [] [] tokens).getD tokens

end Reflection.Code
