import Reflection.Code.Grammar
import Reflection.Code.Lexer
/-!
# Paths of items in code

`ItemPath.parse` reads a path such as `a::b::Foo` from text. Its parts are names, but no keywords
other than `crate`, `self`, `super`, `Self` and `try`; a part may carry arguments in angle brackets.
-/

namespace Reflection.Code

structure ItemPath where
  /-- The path starts with `::`. -/
  absolute : Bool
  parts : List PathPart
deriving DecidableEq, Repr

namespace ItemPath

def names (p : ItemPath) : List String := p.parts.map PathPart.name

def hasArguments (p : ItemPath) : Bool := p.parts.any (·.arguments.isSome)

/-- The path as code. -/
def tokens (p : ItemPath) : List Token :=
  let part (q : PathPart) : List Token := .ident q.name :: (q.arguments.map orderArguments).getD []
  (if p.absolute then doubleColon else []) ++ List.intercalate doubleColon (p.parts.map part)

/-- The path as text, with no space in it. -/
def text (p : ItemPath) : String := String.join (Token.leavesOf p.tokens)

def ofTokens (tokens : List Token) : Except SyntaxError ItemPath := do
  let (absolute, parts) ← (readPath (fuelFor tokens)).run tokens
  return ⟨absolute, parts⟩

def parse (text : String) : Except SyntaxError ItemPath :=
  match lex? text with
  | none => .error .noCode
  | some tokens => ofTokens tokens

end ItemPath

end Reflection.Code
