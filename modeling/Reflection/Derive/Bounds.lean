import Reflection.Derive.Plan
/-!
# Bounds of the implementations

An implementation for a generic type has a where clause: a bound on the type itself, the item's own
predicates, a bound on each type parameter, and one on each type of a member that mentions a type
parameter. The implementation of the type's names needs no more of a parameter than its names.
-/

namespace Reflection.Derive

open Reflection.Code (Token)

inductive Predicate
  /-- The type itself is owned and can be sent and shared. -/
  | selfOwned
  /-- The type itself holds no borrows that end. -/
  | selfStatic
  | given (tokens : List Token)
  /-- The type has names. -/
  | named (subject : List Token)
  /-- The type is reflected. -/
  | reflected (subject : List Token)
deriving DecidableEq, Repr

/-- The types that come first, each once, however it is spelled. -/
def distinct : List (List Token) → List (List Token)
  | [] => []
  | t :: ts => t :: (distinct ts).filter fun u => Code.asRead u ≠ Code.asRead t

namespace Plan

/-- Whether a type mentions a type parameter. It is searched as it is written. -/
def mentionsParam (plan : Plan) (type : List Token) : Bool :=
  Token.mentionsIn plan.typeParams (Code.orderArguments type)

/-- The types of members that mention a type parameter, each once. -/
def boundTypes (plan : Plan) : List (List Token) :=
  if plan.isGeneric then distinct ((plan.members.map PlannedMember.type).filter plan.mentionsParam) else []

def selfPredicates (plan : Plan) : List Predicate :=
  if plan.isGeneric then [.selfOwned]
  else if plan.lifetimes.isEmpty then []
  else [.selfStatic]

/-- The predicates of the implementation of the names. -/
def namePredicates (plan : Plan) : List Predicate :=
  plan.selfPredicates ++ plan.predicates.map .given ++ plan.typeParams.map fun p => .named [.ident p]

/-- The predicates of all other implementations. -/
def reflectPredicates (plan : Plan) : List Predicate :=
  plan.selfPredicates ++ plan.predicates.map .given ++
    (plan.typeParams.map fun p => .reflected [.ident p]) ++ plan.boundTypes.map .reflected

end Plan

end Reflection.Derive
