import Reflection.Code.SyntaxError
/-!
# Reading tokens against a grammar

A `Reader` takes tokens from the front of a list. What it does next depends on what it sees there;
what it needs and does not find is a `SyntaxError`. A group is read by itself; if tokens of it are
left over, the first such group is remembered, and reading goes on behind it.
-/

namespace Reflection.Code

/-- What is ahead, and the first group that was not read to its end. -/
structure Cursor where
  tokens : List Token
  leftover : Option Delimiter
deriving DecidableEq, Repr

abbrev Reader := StateT Cursor (Except SyntaxError)

/-! ## What is ahead -/

def keywords : List String :=
  [ "_", "abstract", "as", "async", "await", "become", "box", "break", "const", "continue", "crate", "do",
    "dyn", "else", "enum", "extern", "false", "final", "fn", "for", "if", "impl", "in", "let", "loop",
    "macro", "match", "mod", "move", "mut", "override", "priv", "pub", "ref", "return", "Self", "self",
    "static", "struct", "super", "trait", "true", "try", "type", "typeof", "unsafe", "unsized", "use",
    "virtual", "where", "while", "yield" ]

namespace Ahead

/-- Punctuation; its characters but the last must be joint. -/
def punctuation : List Char → List Token → Bool
  | [c], .punct d _ :: _ => c = d
  | c :: cs, .punct d joint :: rest => c = d && joint && punctuation cs rest
  | _, _ => false

def mark (text : String) (tokens : List Token) : Bool := punctuation text.toList tokens

def word (name : String) : List Token → Bool
  | .ident n :: _ => n = name
  | _ => false

def wordOf (names : List String) (tokens : List Token) : Bool := names.any (word · tokens)

/-- Any name, keywords included. -/
def anyWord : List Token → Bool
  | .ident _ :: _ => true
  | _ => false

def name : List Token → Bool
  | .ident n :: _ => !keywords.contains n
  | _ => false

def lifetime : List Token → Bool
  | .punct '\'' _ :: .ident _ :: _ => true
  | _ => false

def group (d : Delimiter) : List Token → Bool
  | .group e _ :: _ => d = e
  | _ => false

def literal : List Token → Bool
  | .literal _ :: _ => true
  | .punct '-' _ :: .literal text :: _ => text.toList.head?.any Char.isDigit
  | tokens => wordOf ["true", "false"] tokens

/-- A path goes on. Arguments in parentheses are no part of the path of an item. -/
def nextPart (tokens : List Token) : Bool := mark "::" tokens && !group .paren (tokens.drop 2)

/-- Arguments in parentheses. -/
def parenArguments (tokens : List Token) : Bool :=
  group .paren tokens || (mark "::" tokens && group .paren (tokens.drop 2))

/-- Arguments in angle brackets. -/
def angleArguments (tokens : List Token) : Bool :=
  (mark "<" tokens && !mark "<=" tokens && !mark "<<=" tokens) || (mark "::" tokens && mark "<" (tokens.drop 2))

end Ahead

/-! ## Taking what is ahead -/

def ahead : Reader (List Token) := return (← get).tokens

def sees (what : List Token → Bool) : Reader Bool := return what (← get).tokens

def drop (n : Nat) : Reader Unit := modify fun c => ⟨c.tokens.drop n, c.leftover⟩

/-- Refuses what is ahead. -/
def refuse {α : Type} (what : List String) : Reader α := do throw (.expected what (← ahead).isEmpty)

def takeMark (text : String) : Reader Unit := do
  if ← sees (Ahead.mark text) then drop text.length else throw (.expected [quotedCode text] false)

def takeMarkIf (text : String) : Reader Bool := do
  if ← sees (Ahead.mark text) then
    drop text.length
    return true
  else return false

def takeWord (name : String) : Reader Unit := do
  if ← sees (Ahead.word name) then drop 1 else refuse [quotedCode name]

def takeWordIf (name : String) : Reader Bool := do
  if ← sees (Ahead.word name) then
    drop 1
    return true
  else return false

/-- A name that is no keyword, or is one of the given. -/
def takeName (allowed : List String) : Reader String := do
  match ← ahead with
  | .ident n :: _ =>
    if keywords.contains n && !allowed.contains n then throw (.keyword n)
    drop 1
    return n
  | _ => refuse ["identifier"]

def takeLifetime : Reader Unit := do
  if ← sees Ahead.lifetime then drop 2 else refuse ["lifetime"]

def takeLiteral : Reader Unit := do
  if ← sees (Ahead.mark "-") then drop 2 else drop 1

def Delimiter.plural : Delimiter → String
  | .paren => "parentheses"
  | .bracket => "square brackets"
  | .brace => "curly braces"

/-- Reads the body of a group. -/
def inGroup {α : Type} (d : Delimiter) (read : Reader α) : Reader α := do
  match ← ahead with
  | .group e body :: rest =>
    if d ≠ e then refuse [d.plural]
    else
      modify fun c => ⟨body, c.leftover⟩
      let a ← read
      modify fun c => ⟨rest, c.leftover <|> if c.tokens.isEmpty then none else some d⟩
      return a
  | _ => refuse [d.plural]

/-- What a reader takes from the front. -/
def taken {α : Type} (read : Reader α) : Reader (List Token × α) := do
  let before ← ahead
  let a ← read
  return (before.take (before.length - (← ahead).length), a)

/-- Reads all there is. -/
def Reader.run {α : Type} (read : Reader α) (tokens : List Token) : Except SyntaxError α := do
  let (a, c) ← StateT.run read ⟨tokens, none⟩
  match c.leftover with
  | some d => throw (.leftover (some d))
  | none => if c.tokens.isEmpty then return a else throw (.leftover none)

end Reflection.Code
