import MapQuery.Query.Basic
import MapQuery.Compiler.Reading
import Std.Data.TreeMap

/-!
# Keywords

A keyword stands for a condition of its own, wraps the query after it, or joins two queries. Keywords
are told apart by their exact spelling, and none is ever given a new meaning.

* `Factory` — what a keyword stands for.
* `Registry` — keywords with their factories.
* `Registry.register` — more keywords for one factory: all of them, or none and a `Registry.Refusal`.
* `Registry.join` — two queries joined by a keyword.
-/

namespace MapQuery

/-- What a keyword stands for; it is given its own spelling. `alone` counts for the bare keyword, and
`called` for the keyword with a colon, after which it may read an argument: any function of the tokens that
are left. -/
inductive Factory where
  /-- A condition. -/
  | simple (alone : String → Flags → Except Failure Query) (called : String → Flags → Reading Query)
  /-- Something around the query after the keyword. -/
  | unary (alone : String → Query → Except Failure Query) (called : String → Query → Reading Query)
  /-- A way to join two queries. -/
  | binary (join : String → Query → Query → Except Failure Query)

/-- The form of a factory, as diagnostics write it. -/
def Factory.inspected : Factory → String
  | simple _ _ => "MatchFactory::simple"
  | unary _ _ => "MatchFactory::unary"
  | binary _ => "MatchFactory::binary"

/-- Keywords with their factories. -/
structure Registry where
  factories : Std.TreeMap String Factory

namespace Registry

/-- Why keywords are not registered. -/
inductive Refusal where
  | duplicate (keyword : String)
  | empty
  deriving DecidableEq, Repr

/-- The wording of a refusal. -/
def Refusal.message : Refusal → String
  | duplicate keyword => "a match factory is already registered for keyword '" ++ keyword ++ "'"
  | empty => "keyword must not be empty"

/-- No keywords. -/
def empty : Registry :=
  ⟨∅⟩

instance : Inhabited Registry :=
  ⟨empty⟩

/-- The factory of a keyword. -/
def get? (r : Registry) (keyword : String) : Option Factory :=
  r.factories[keyword]?

/-- All keywords, in order. -/
def keywords (r : Registry) : List String :=
  r.factories.keys

/-- With a keyword bound to a factory. -/
def insert (r : Registry) (keyword : String) (f : Factory) : Registry :=
  ⟨r.factories.insert keyword f⟩

/-- With several keywords bound to one factory. -/
def insertAll (r : Registry) (keywords : List String) (f : Factory) : Registry :=
  keywords.foldl (fun r keyword => r.insert keyword f) r

/-- The first reason not to register keywords, of which `earlier` have been looked at. -/
def refusal? (r : Registry) (earlier : List String) : List String → Option Refusal
  | [] => none
  | keyword :: rest =>
    if keyword = "" then some .empty
    else if (r.get? keyword).isSome || earlier.contains keyword then some (.duplicate keyword)
    else r.refusal? (keyword :: earlier) rest

/-- Registers several keywords for one factory, or none of them. -/
def register (r : Registry) (keywords : List String) (f : Factory) : Except Refusal Registry :=
  match r.refusal? [] keywords with
  | some e => .error e
  | none => .ok (r.insertAll keywords f)

/-- Two queries joined by a keyword. -/
def join (r : Registry) (keyword : String) (left right : Query) : Except Failure Query :=
  match r.get? keyword with
  | some (.binary f) => f keyword left right
  | _ => .error (.noJoin keyword)

/-- The long form of a registry: its keywords. -/
def inspected (r : Registry) : String :=
  "MatchRegistry \x7b keywords: [" ++ ", ".intercalate (r.keywords.map Text.quoted) ++ "] \x7d"

@[simp] theorem get?_empty (keyword : String) : empty.get? keyword = none := by
  simp [get?, empty]

theorem get?_insert (r : Registry) (keyword other : String) (f : Factory) :
    (r.insert keyword f).get? other = if keyword = other then some f else r.get? other := by
  simp [get?, insert, Std.TreeMap.getElem?_insert]

end Registry

end MapQuery
