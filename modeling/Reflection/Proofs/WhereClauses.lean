import Reflection.Proofs.SkippedFields
/-!
# Where clauses

What the where clauses of the four implementations are, token by token, in terms of the item alone (`where_clauses`).
A type needs a bound if the name of a type parameter occurs in it, in groups of any depth (`Token.Occurs`). Of types
that are read as the same, `distinct` keeps the one that comes first.
-/

namespace Reflection.Derive

open Reflection.Code (Token asRead orderArguments template)

/-! ## Each once -/

section Distinct
variable {t : List Token} {ts : List (List Token)}

end Distinct

/-! ## Bounds -/

namespace Item

/-- The names of the type parameters. -/
def typeParams (item : Item) : List String := item.params.filterMap fun
  | .type name _ => some name
  | _ => none

end Item

namespace Predicate
variable (library : Code.ItemPath) (subject : List Token)

end Predicate

namespace Plan
variable {collect : Bool} {item : Item} {plan : Plan} (h : ofItem collect item = .ok plan)
include h

end Plan

/-! ## All clauses -/

/-- A path into the library, as code. -/
def Setup.path (setup : Setup) (parts : List String) : List Token := setup.library.tokens ++ Code.absolutePath parts

namespace Item
variable (setup : Setup) (item : Item)

/-- An implementation of a trait of the library, with its where clause in front of the body. -/
def implementation (parts : List String) (clause body : List Token) : List Token :=
  .ident "impl" :: paramList item.params Param.declaration ++ setup.path parts ++ [.ident "for", .ident item.ident] ++
    paramList item.params Param.argument ++ clause ++ Code.braces body

end Item

section Clauses
variable {setup : Setup} {item : Item} {plan : Plan} (h : Plan.ofItem setup.collect item = .ok plan)
include h

end Clauses

example : (Plan.ofItem false { Item.player with
      params := [.lifetime "a" [], .type "T" []]
      predicates := [template "Ref<T, 'a>: Clone"]
      fields := [⟨"rows", template "Vec<Vec<T>>", []⟩, ⟨"shadows", template "Vec<Vec<T> >", []⟩] }).map
      (fun plan => Code.text (whereClause Setup.usual.library plan.reflectPredicates)) =
    .ok ("where Self : : : core : : any : : Any + : : core : : marker : : Send + : : core : : marker : : Sync , " ++
      "Ref < ' a , T , > : Clone , " ++
      "T : : : pw_reflect : : Reflect + : : pw_reflect : : info : : Typed , " ++
      "Vec < Vec < T > > : : : pw_reflect : : Reflect + : : pw_reflect : : info : : Typed ,") := by
  decide +kernel

end Reflection.Derive
