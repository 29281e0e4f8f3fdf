import Reflection.Code.Token
/-!
# Why text is no code of a kind
-/

namespace Reflection.Code

inductive SyntaxError
  | noCode
  /-- None of the things that may come here; `atEnd` if nothing comes at all. -/
  | expected (what : List String) (atEnd : Bool)
  | keyword (name : String)
  /-- Tokens are left, in a group or behind all that was read. -/
  | leftover (inside : Option Delimiter)
  /-- Bounds that name no trait, of an object or of a type that is not named. -/
  | onlyLifetimes (ofObject : Bool)
deriving DecidableEq, Repr

/-- One of several things. -/
def oneOf : List String → String
  | [a] => a
  | [a, b] => a ++ " or " ++ b
  | what => "one of: " ++ ", ".intercalate what

def quotedCode (text : String) : String := "`" ++ text ++ "`"

def SyntaxError.message : SyntaxError → String
  | .noCode => "cannot parse string into token stream"
  | .expected what atEnd => (if atEnd then "unexpected end of input, " else "") ++ "expected " ++ oneOf what
  | .keyword name => "expected identifier, found keyword " ++ quotedCode name
  | .leftover none => "unexpected token"
  | .leftover (some d) => "unexpected token, expected " ++ quotedCode (String.singleton d.closing)
  | .onlyLifetimes true => "at least one trait is required for an object type"
  | .onlyLifetimes false => "at least one trait must be specified"

end Reflection.Code
