import Reflection.Code.Arguments
import Reflection.Code.Cursor
/-!
# The grammar of types

Readers for paths, types and bounds. They check what they read; of a path the parts are kept. They
call each other, so each takes fuel: a call uses one unit, and between two tokens there are fewer
calls than `fuelFor` allows for a token.

A type may go on with `+` and a further bound where `joins` says so: behind `&`, `*` and `->` it may
not.
-/

namespace Reflection.Code

/-- A part of a path. Arguments come with their brackets. -/
structure PathPart where
  name : String
  arguments : Option (List Token)
deriving DecidableEq, Repr

/-- Keywords that are parts of paths all the same, always without arguments. -/
def bareKeywords : List String := ["super", "self", "crate", "try"]

/-- What a type turned out to be. -/
inductive TypeShape
  /-- A name with or without arguments in angle brackets. -/
  | name
  /-- Any other path. -/
  | path
  /-- One bound by itself. -/
  | bound
  | other
deriving DecidableEq, Repr

/-- Without fuel nothing can be read. -/
def exhausted {α : Type} : Reader α := throw (.leftover none)

/-- An expression, which takes up all that is left of its group. -/
def arrayLength : Reader Unit := do
  let begins : List Token → Bool
    | .punct c _ :: _ => "-!*&<|.:#'".toList.contains c
    | ts => !ts.isEmpty
  if ← sees begins then modify fun c => ⟨[], c.leftover⟩ else refuse ["an expression"]

/-- A literal or a block. -/
def constArgument : Reader Unit := do
  if ← sees (Ahead.group .brace) then drop 1 else takeLiteral

def constAhead (tokens : List Token) : Bool := Ahead.literal tokens || Ahead.group .brace tokens

def attributes : Nat → Reader Unit
  | 0 => return
  | fuel + 1 => do
    if ← sees (fun ts => Ahead.mark "#" ts && Ahead.group .bracket (ts.drop 1)) then
      drop 2
      attributes fuel

/-- The calling convention of a function. -/
def convention : Reader Unit := do
  if ← takeWordIf "extern" then
    if ← sees fun ts => match ts with
      | .literal _ :: _ => true
      | _ => false
    then drop 1

def moreBounds (tokens : List Token) : Bool :=
  Ahead.anyWord tokens || Ahead.mark "::" tokens || Ahead.mark "?" tokens || Ahead.lifetime tokens ||
    Ahead.group .paren tokens

/-- What a type may begin with. -/
def typeStarts : List String :=
  [ "`for`", "parentheses", "`fn`", "`unsafe`", "`extern`", "identifier", "`::`", "`<`", "`dyn`",
    "square brackets", "`*`", "`&`", "`!`", "`impl`", "`_`", "lifetime" ]

/-- What a type may go on with behind `for<..>`. -/
def boundTypeStarts : List String :=
  ["identifier", "`fn`", "`unsafe`", "`extern`", "`super`", "`self`", "`Self`", "`crate`"]

mutual
-- Paths.

def readPart : Nat → Reader PathPart
  | 0 => exhausted
  | fuel + 1 => do
    let name ← takeName ("Self" :: bareKeywords)
    if !bareKeywords.contains name && (← sees Ahead.angleArguments) then
      let (arguments, _) ← taken (readArguments fuel)
      return ⟨name, some arguments⟩
    return ⟨name, none⟩

def readMoreParts : Nat → Reader (List PathPart)
  | 0 => return []
  | fuel + 1 => do
    if ← sees Ahead.nextPart then
      takeMark "::"
      let part ← readPart fuel
      return part :: (← readMoreParts fuel)
    return []

/-- The parts of a path, and whether it begins with `::`. -/
def readPath : Nat → Reader (Bool × List PathPart)
  | 0 => exhausted
  | fuel + 1 => do
    let absolute ← takeMarkIf "::"
    let part ← readPart fuel
    return (absolute, part :: (← readMoreParts fuel))

/-- Arguments in angle brackets. -/
def readArguments : Nat → Reader Unit
  | 0 => exhausted
  | fuel + 1 => do
    let _ ← takeMarkIf "::"
    takeMark "<"
    readArgumentList fuel
    takeMark ">"

def readArgumentList : Nat → Reader Unit
  | 0 => exhausted
  | fuel + 1 => do
    if ← sees (Ahead.mark ">") then return
    readArgument fuel
    if ← sees (Ahead.mark ">") then return
    takeMark ","
    readArgumentList fuel

def readArgument : Nat → Reader Unit
  | 0 => exhausted
  | fuel + 1 => do
    if ← sees (fun ts => Ahead.lifetime ts && !Ahead.mark "+" (ts.drop 2)) then takeLifetime
    else if ← sees constAhead then constArgument
    else
      let shape ← readType fuel true
      if shape = .name then
        if ← takeMarkIf "=" then
          if ← sees constAhead then constArgument
          else
            let _ ← readType fuel true
        else if ← takeMarkIf ":" then
          if !(← sees fun ts => Ahead.mark "," ts || Ahead.mark ">" ts) then
            let _ ← readBounds fuel true

/-- Arguments in parentheses, with what they give. -/
def readSignature : Nat → Reader Unit
  | 0 => exhausted
  | fuel + 1 => do
    let _ ← takeMarkIf "::"
    inGroup .paren (readTypeList fuel)
    readResult fuel

def readTypeList : Nat → Reader Unit
  | 0 => return
  | fuel + 1 => do
    if (← ahead).isEmpty then return
    let _ ← readType fuel true
    if (← ahead).isEmpty then return
    takeMark ","
    readTypeList fuel

def readResult : Nat → Reader Unit
  | 0 => return
  | fuel + 1 => do
    if ← takeMarkIf "->" then
      let _ ← readType fuel false

-- Bounds.

/-- The lifetimes of `for<..>`. -/
def readBinder : Nat → Reader Unit
  | 0 => return
  | fuel + 1 => do
    if ← takeWordIf "for" then
      takeMark "<"
      readBinderList fuel
      takeMark ">"

def readBinderList : Nat → Reader Unit
  | 0 => return
  | fuel + 1 => do
    if ← sees (Ahead.mark ">") then return
    if ← sees Ahead.lifetime then takeLifetime
    else if ← sees Ahead.name then drop 1
    else refuse ["identifier", "lifetime", "`const`"]
    if ← takeMarkIf ":" then
      if !(← sees fun ts => Ahead.mark "," ts || Ahead.mark ">" ts) then
        let _ ← readBounds fuel true
    if ← sees (Ahead.mark ">") then return
    takeMark ","
    readBinderList fuel

/-- A bound; the answer is whether it is more than a lifetime. -/
def readBound : Nat → Reader Bool
  | 0 => exhausted
  | fuel + 1 => do
    if ← sees Ahead.lifetime then
      takeLifetime
      return false
    if ← sees (Ahead.group .paren) then inGroup .paren (readTrait fuel) else readTrait fuel
    return true

def readTrait : Nat → Reader Unit
  | 0 => exhausted
  | fuel + 1 => do
    readBinder fuel
    if ← takeMarkIf "?" then readBinder fuel
    let (_, parts) ← readPath fuel
    if parts.getLast?.any (·.arguments.isNone) && (← sees Ahead.parenArguments) then readSignature fuel

/-- Bounds, at least one. The answers are whether one is more than a lifetime, and whether it is just
one without a `+` behind it. -/
def readBounds : Nat → Bool → Reader (Bool × Bool)
  | 0, _ => exhausted
  | fuel + 1, joins => do
    let isTrait ← readBound fuel
    if joins && (← takeMarkIf "+") then
      if ← sees moreBounds then
        let (more, _) ← readBounds fuel joins
        return (isTrait || more, false)
      return (isTrait, false)
    return (isTrait, true)

/-- Bounds of an object, of which one is more than a lifetime. -/
def readObject : Nat → Bool → Reader TypeShape
  | 0, _ => exhausted
  | fuel + 1, joins => do
    let (isTrait, single) ← readBounds fuel joins
    if !isTrait then throw (.onlyLifetimes true)
    return if single then .bound else .other

/-- Further bounds behind the first, each behind a `+`. -/
def readMoreBounds : Nat → Reader Unit
  | 0 => return
  | fuel + 1 => do
    if ← takeMarkIf "+" then
      if ← sees moreBounds then
        let _ ← readBound fuel
        readMoreBounds fuel

-- Types.

def readType : Nat → Bool → Reader TypeShape
  | 0, _ => exhausted
  | fuel + 1, joins => do
    let isBound ← sees (Ahead.word "for")
    readBinder fuel
    let opensFunction (ts : List Token) : Bool := Ahead.wordOf ["fn", "unsafe", "extern"] ts
    let opensName (ts : List Token) : Bool :=
      Ahead.name ts || Ahead.wordOf ["super", "self", "Self", "crate"] ts
    if isBound && !(← sees fun ts => opensFunction ts || opensName ts) then refuse boundTypeStarts
    if ← sees (Ahead.group .paren) then
      let shape ← inGroup .paren (readParens fuel)
      if joins && (shape = .name || shape = .path || shape = .bound) && (← sees (Ahead.mark "+")) then
        readMoreBounds fuel
      return .other
    else if ← sees opensFunction then readFunction fuel
    else if ← sees (fun ts => opensName ts || Ahead.mark "::" ts || Ahead.mark "<" ts) then
      readNamed fuel isBound joins
    else if ← takeWordIf "dyn" then
      let _ ← takeMarkIf "*"
      let _ ← readObject fuel joins
      return .other
    else if ← sees (Ahead.group .bracket) then
      inGroup .bracket do
        let _ ← readType fuel true
        if ← takeMarkIf ";" then arrayLength
      return .other
    else if ← takeMarkIf "*" then
      if !(← takeWordIf "const") && !(← takeWordIf "mut") then refuse ["`const`", "`mut`"]
      let _ ← readType fuel false
      return .other
    else if ← takeMarkIf "&" then
      if ← sees Ahead.lifetime then takeLifetime
      let _ ← takeWordIf "mut"
      let _ ← readType fuel false
      return .other
    else if ← takeMarkIf "!" then return .other
    else if ← takeWordIf "impl" then
      let (isTrait, _) ← readBounds fuel joins
      if !isTrait then throw (.onlyLifetimes false)
      return .other
    else if ← takeWordIf "_" then return .other
    else if ← sees Ahead.lifetime then readObject fuel true
    else refuse typeStarts

/-- What stands in parentheses: the shape of the type, if it is just one. -/
def readParens : Nat → Reader TypeShape
  | 0 => exhausted
  | fuel + 1 => do
    if (← ahead).isEmpty then return .other
    if ← sees Ahead.lifetime then
      let _ ← readObject fuel true
      return .other
    if ← sees (Ahead.mark "?") then
      readTrait fuel
      return .bound
    let shape ← readType fuel true
    if ← takeMarkIf "," then
      readTypeList fuel
      return .other
    return shape

/-- A path, or one with a self type in angle brackets; or a macro or an object that begins with a path. -/
def readNamed : Nat → Bool → Bool → Reader TypeShape
  | 0, _, _ => exhausted
  | fuel + 1, isBound, joins => do
    if ← takeMarkIf "<" then
      let _ ← readType fuel true
      if ← takeWordIf "as" then
        let _ ← readPath fuel
      takeMark ">"
      takeMark "::"
      let first ← readPart fuel
      let more ← readMoreParts fuel
      let _ ← readSignatures fuel (first :: more)
      return .other
    let (absolute, parts) ← readPath fuel
    let plain ← readSignatures fuel parts
    let isModuleStyle := plain && parts.all (·.arguments.isNone)
    if isModuleStyle && (← sees fun ts => Ahead.mark "!" ts && !Ahead.mark "!=" ts) then
      takeMark "!"
      if ← sees (fun ts => [.paren, .bracket, .brace].any (Ahead.group · ts)) then drop 1
      else refuse ["delimiter"]
      return .other
    if joins && (← sees (Ahead.mark "+")) then
      readMoreBounds fuel
      return .other
    if isBound then return .bound
    return if plain && !absolute && parts.length = 1 then .name else .path

/-- Arguments in parentheses behind a path, and what follows of it. The answer is whether there are
none. -/
def readSignatures : Nat → List PathPart → Reader Bool
  | 0, _ => return true
  | fuel + 1, parts => do
    if parts.getLast?.any (·.arguments.isNone) && (← sees Ahead.parenArguments) then
      readSignature fuel
      let more ← readMoreParts fuel
      if !more.isEmpty then
        let _ ← readSignatures fuel more
      return false
    return true

def readFunction : Nat → Reader TypeShape
  | 0 => exhausted
  | fuel + 1 => do
    let _ ← takeWordIf "unsafe"
    convention
    takeWord "fn"
    inGroup .paren (readInputs fuel)
    readResult fuel
    return .other

/-- Types of a function's arguments, each with or without a name, and `...` for further ones. -/
def readInputs : Nat → Reader Unit
  | 0 => return
  | fuel + 1 => do
    if (← ahead).isEmpty then return
    attributes fuel
    if ← sees (fun ts => (Ahead.name ts || Ahead.wordOf ["_", "self"] ts) && Ahead.mark ":" (ts.drop 1) &&
        !Ahead.mark "::" (ts.drop 1)) then
      drop 2
    if ← takeMarkIf "..." then
      let _ ← takeMarkIf ","
      return
    let _ ← readType fuel true
    if (← ahead).isEmpty then return
    takeMark ","
    readInputs fuel
end

/-- Fuel for reading tokens. -/
def fuelFor (tokens : List Token) : Nat := 16 * ((Token.leavesOf tokens).length + 1)

end Reflection.Code
