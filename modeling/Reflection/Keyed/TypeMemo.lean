import Reflection.Keyed.TypeCell
import Reflection.Universe.Basic
/-!
# Facts about types, remembered

The path, the name and the info of a type are computed when they are first asked for and kept in
cells. `TypeQuery.answer` computes a fact afresh, `TypeMemo.answer` through the cells: the name of a
type with arguments asks for the names of the arguments, level by level.

In a program there is a static cell in the implementation for each constructor, which is asked for the
types of this constructor alone. No type is made by two constructors, so the keys of different cells are
disjoint, and one cell with the entries of all of them answers as each does.
-/

namespace Reflection

namespace Ty

mutual
/-- `Ty.text`, asking the cell for every type with arguments. -/
def cachedText (qualified : Bool) : Ty → TypeCell String → String × TypeCell String
  | .scalar s => fun cell => (s.base.text qualified, cell)
  | .bespoke b => fun cell => (b.base.text qualified, cell)
  | .vec t =>
    TypeCell.made (.vec t) (fun item => applied (vecBase.text qualified) [item]) (t.cachedText qualified)
  | .deque t =>
    TypeCell.made (.deque t) (fun item => applied (dequeBase.text qualified) [item]) (t.cachedText qualified)
  | .array t n => TypeCell.made (.array t n) (bracketed · n) (t.cachedText qualified)
  | .option t =>
    TypeCell.made (.option t) (fun target => applied (optionBase.text qualified) [target]) (t.cachedText qualified)
  | .box t =>
    TypeCell.made (.box t) (fun target => applied (boxBase.text qualified) [target]) (t.cachedText qualified)
  | .struct n args =>
    if args.isEmpty then fun cell => (n.base.text qualified, cell)
    else TypeCell.made (.struct n args) (applied (n.base.text qualified)) (cachedTexts qualified args)

def cachedTexts (qualified : Bool) : List Ty → TypeCell String → List String × TypeCell String
  | [], cell => ([], cell)
  | t :: ts, cell =>
    let (text, cell) := t.cachedText qualified cell
    let (texts, cell) := cachedTexts qualified ts cell
    (text :: texts, cell)
end

end Ty

inductive TypeQuery
  | path (t : Ty)
  | name (t : Ty)
  | info (t : Ty)
deriving DecidableEq, Repr

/-- A text, or the info of a type that a universe declares. -/
inductive TypeFact
  | text (s : String)
  | info (i : Option TypeInfo)
deriving DecidableEq, Repr

def TypeQuery.answer (U : Universe) : TypeQuery → TypeFact
  | .path t => .text t.path
  | .name t => .text t.name
  | .info t => .info (U.info? t)

/-- What has been computed of each kind of fact. Each cell stands for those of all constructors. -/
structure TypeMemo where
  paths : TypeCell String
  names : TypeCell String
  infos : TypeCell (Option TypeInfo)

namespace TypeMemo

def empty : TypeMemo := ⟨.empty, .empty, .empty⟩

def answer (U : Universe) (memo : TypeMemo) : TypeQuery → TypeFact × TypeMemo
  | .path t =>
    let (text, paths) := t.cachedText true memo.paths
    (.text text, { memo with paths })
  | .name t =>
    let (text, names) := t.cachedText false memo.names
    (.text text, { memo with names })
  | .info t =>
    let ((info, _), infos) := memo.infos.getOrInsert t fun cell => (U.info? t, cell)
    (.info info, { memo with infos })

/-- The answers to queries in order, and the memo after them. -/
def answers (U : Universe) : TypeMemo → List TypeQuery → List TypeFact × TypeMemo
  | memo, [] => ([], memo)
  | memo, q :: qs =>
    let (fact, memo) := memo.answer U q
    let (facts, memo) := memo.answers U qs
    (fact :: facts, memo)

end TypeMemo

end Reflection
