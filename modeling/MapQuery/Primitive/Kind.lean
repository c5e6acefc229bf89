import MapQuery.Text.Ascii
import Std.Data.TreeMap

/-!
# Kinds of primitives

Map data consists of nodes, ways and relations. A primitive is named by its kind and a number that is
unique within the kind.

* `Kind.ofName?` — a kind from its name, in any case.
* `Id` — the name of a primitive; ids are ordered by kind, then by number.
-/

namespace MapQuery

/-- The three kinds of primitives. -/
inductive Kind where
  | node
  | way
  | relation
  deriving DecidableEq, Repr, Inhabited

namespace Kind

/-- The name of a kind. -/
def name : Kind → String
  | node => "node"
  | way => "way"
  | relation => "relation"

/-- The name of a kind in diagnostics. -/
def inspected : Kind → String
  | node => "Node"
  | way => "Way"
  | relation => "Relation"

/-- The kind of a name, in any case. -/
def ofName? (s : String) : Option Kind :=
  [node, way, relation].find? fun k => Ascii.same k.name s

/-- The place of a kind in the order: nodes, ways, relations. -/
def rank : Kind → Nat
  | node => 0
  | way => 1
  | relation => 2

theorem rank_injective {a b : Kind} (h : a.rank = b.rank) : a = b := by
  cases a <;> cases b <;> first | rfl | cases h

end Kind

/-- The name of a primitive. Numbers that are not positive belong to primitives that are new. -/
structure Id where
  kind : Kind
  number : Int
  deriving DecidableEq, Repr, Inhabited

namespace Id

/-- Kind and number, as in `way -3`. -/
def shown (i : Id) : String :=
  i.kind.name ++ " " ++ toString i.number

/-- Ids are ordered by kind, then by number. -/
instance : Ord Id :=
  ⟨compareLex (compareOn fun i => i.kind.rank) (compareOn fun i => i.number)⟩

instance : Std.TransOrd Id :=
  inferInstanceAs
    (Std.TransCmp (compareLex (compareOn fun i : Id => i.kind.rank) (compareOn fun i => i.number)))

/-- Ids of equal place in the order are equal. -/
instance : Std.LawfulEqOrd Id where
  eq_of_compare {a b} h := by
    have h : compareLex (compareOn fun i : Id => i.kind.rank) (compareOn fun i => i.number) a b = .eq :=
      h
    rw [compareLex_eq_eq] at h
    obtain ⟨ak, an⟩ := a
    obtain ⟨bk, bn⟩ := b
    have h1 := Kind.rank_injective (Std.LawfulEqOrd.eq_of_compare h.1)
    have h2 := Std.LawfulEqOrd.eq_of_compare h.2
    subst h1
    exact congrArg _ h2

/-- The long form of an id. -/
def inspected (i : Id) : String :=
  "PrimitiveId \x7b kind: " ++ i.kind.inspected ++ ", unique_id: " ++ toString i.number ++ " \x7d"

end Id

end MapQuery
