/-!
# Code as tokens

Source code is a list of token trees: names, punctuation characters, literals, and groups between
delimiters. A token list is written with one space between its leaves; delimiters are leaves too,
and every punctuation character is a leaf of its own.
-/

namespace Reflection.Code

inductive Delimiter
  | paren | bracket | brace
deriving DecidableEq, Repr

namespace Delimiter

def opening : Delimiter → Char
  | .paren => '('
  | .bracket => '['
  | .brace => Char.ofNat 0x7b

def closing : Delimiter → Char
  | .paren => ')'
  | .bracket => ']'
  | .brace => Char.ofNat 0x7d

def all : List Delimiter := [.paren, .bracket, .brace]

end Delimiter

/-- A raw name keeps its mark, `r#type`. A punctuation character is `joint` if another one follows
at once. -/
inductive Token
  | ident (name : String)
  | punct (c : Char) (joint : Bool)
  | literal (text : String)
  | group (d : Delimiter) (body : List Token)
deriving Repr, Inhabited

namespace Token

/-! ## Equality is decidable -/

mutual
def same : Token → Token → Bool
  | .ident a, .ident b => a = b
  | .punct a j, .punct b k => a = b && j = k
  | .literal a, .literal b => a = b
  | .group d as, .group e bs => d = e && sameAll as bs
  | _, _ => false

def sameAll : List Token → List Token → Bool
  | [], [] => true
  | a :: as, b :: bs => same a b && sameAll as bs
  | _, _ => false
end

mutual
theorem same_iff : ∀ a b : Token, same a b = true ↔ a = b
  | .ident _, b => by cases b <;> simp [same]
  | .punct _ _, b => by cases b <;> simp [same]
  | .literal _, b => by cases b <;> simp [same]
  | .group _ as, b => by cases b <;> simp [same, sameAll_iff as]

theorem sameAll_iff : ∀ as bs : List Token, sameAll as bs = true ↔ as = bs
  | [], bs => by cases bs <;> simp [sameAll]
  | a :: as, bs => by cases bs <;> simp [sameAll, same_iff a, sameAll_iff as]
end

instance : DecidableEq Token := fun a b => decidable_of_iff _ (same_iff a b)

/-! ## Text -/

mutual
/-- The leaves of a tree, as text. -/
def leaves : Token → List String
  | .ident name => [name]
  | .punct c _ => [String.singleton c]
  | .literal text => [text]
  | .group d body => String.singleton d.opening :: (leavesOf body ++ [String.singleton d.closing])

def leavesOf : List Token → List String
  | [] => []
  | t :: ts => t.leaves ++ leavesOf ts
end

/-! ## Names in code -/

mutual
/-- Whether a name occurs in a tree, in groups at any depth. -/
def mentions (names : List String) : Token → Bool
  | .ident name => names.contains name
  | .group _ body => mentionsIn names body
  | _ => false

def mentionsIn (names : List String) : List Token → Bool
  | [] => false
  | t :: ts => t.mentions names || mentionsIn names ts
end

end Token

/-- Code with one space between its leaves. -/
def text (tokens : List Token) : String := " ".intercalate (Token.leavesOf tokens)

/-! ## Writing code -/

/-- A run of punctuation. -/
def punctuation (cs : List Char) : List Token :=
  match cs with
  | [] => []
  | [c] => [.punct c false]
  | c :: rest => .punct c true :: punctuation rest

def doubleColon : List Token := punctuation [':', ':']

/-- An absolute path, `::a::b`. -/
def absolutePath (parts : List String) : List Token := parts.flatMap fun p => doubleColon ++ [.ident p]

def comma : List Token := [.punct ',' false]

/-- Lists of tokens with a comma between them. -/
def commaSeparated : List (List Token) → List Token
  | [] => []
  | [ts] => ts
  | ts :: rest => ts ++ comma ++ commaSeparated rest

def parens (body : List Token) : List Token := [.group .paren body]
def brackets (body : List Token) : List Token := [.group .bracket body]
def braces (body : List Token) : List Token := [.group .brace body]
def angles (body : List Token) : List Token := .punct '<' false :: body ++ [.punct '>' false]

end Reflection.Code
