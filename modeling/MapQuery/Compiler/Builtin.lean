import MapQuery.Compiler.Registry
import MapQuery.Instant.Reader

/-!
# The built-in keywords

* `Builtin.ranges` — keywords that are followed by a range of numbers.
* `Builtin.timestamp` — the time of the last change: a text to be found in it, or a range of time.
* `Registry.builtin` — the registry of all built-in keywords.
-/

namespace MapQuery

namespace Builtin

/-- A keyword that needs no argument. -/
def plain (q : Query) : Factory :=
  .simple (fun _ _ => .ok q) (fun _ _ => .done q)

/-- A keyword that needs an argument. -/
def withArgument (read : Flags → Reading Query) : Factory :=
  .simple (fun keyword _ => .error (.colonNeeded keyword)) (fun _ flags => read flags)

/-! ### Keywords with a range -/

/-- Numbers with the message for a missing range. -/
def ranges : List (Property × String) := [
  (.id, "Range of primitive ids expected"),
  (.version, "Range of versions expected"),
  (.changeset, "Range of changeset ids expected"),
  (.nodes, "Range of numbers expected"),
  (.ways, "Range of numbers expected"),
  (.members, "Range of numbers expected"),
  (.tags, "Range of numbers expected"),
  (.areaSize, "Range of numbers expected"),
  (.wayLength, "Range of numbers expected")]

/-- A range of a number. -/
def range (property : Property) (message : String) : Reading Query := do
  return .range property (← Reading.takeRange message)

/-! ### Keywords with a name -/

/-- A kind of primitives. -/
def kind : Reading Query := do
  let name := (← Reading.takeText).getD ""
  match Kind.ofName? name with
  | some k => return .kind k
  | none => .fail (.unknownKind name)

/-- The name that stands for users without one. -/
def anonymous : String := "anonymous"

/-- The name of a user. -/
def user : Reading Query := do
  return .user ((← Reading.takeText).filter (· ≠ anonymous))

/-- The role in some relation. -/
def role : Reading Query := do
  return .role ((← Reading.takeText).getD "")

/-- The role of some member. -/
def hasRole : Reading Query := do
  match ← Reading.takeText with
  | some r => return .hasRole r
  | none => .fail .roleNeeded

/-! ### Positions -/

/-- The message for a missing position. -/
def positionMessage : String :=
  Failure.positiveNeeded.message

/-- A position, from the end if negative. -/
def nth : Reading Query := do
  let position ← Reading.takeNumber positionMessage
  if position = 0 then .fail .positiveNeeded else return .nth position false

/-- Every position that is a multiple. -/
def nthModulo : Reading Query := do
  let position ← Reading.takeNumber positionMessage
  if position ≤ 0 then .fail .positiveNeeded else return .nth position true

/-! ### Time -/

/-- The parts of a text between slashes. -/
def slashParts : List Char → List (List Char)
  | [] => [[]]
  | '/' :: cs => [] :: slashParts cs
  | c :: cs =>
    match slashParts cs with
    | part :: parts => (c :: part) :: parts
    | [] => [[c]]

/-- An instant of a query; a blank text stands for `dflt`. -/
def instant (dflt : Instant) (text : List Char) : Except Failure Instant :=
  match text with
  | [] => .ok dflt
  | _ =>
    let s := String.ofList text
    match Instant.read? s with
    | some i => .ok i
    | none => .error (.instant s)

/-- The time of the last change: a text to be found in it, or a range from the first of all instants, or
up to the present one, where an end is left out. -/
def timestampOf (now : Instant) (flags : Flags) (text : String) : Except Failure Query :=
  match (slashParts text.toList).map Text.trim with
  | [value] => .value <$> ValueSearch.compile "timestamp" (String.ofList value) flags
  | [first, last] => do
    let first ← instant .earliest first
    let last ← instant now last
    return .range .timestamp (.between first.millis last.millis)
  | _ => .error .tooManyInstants

/-- The time of the last change. -/
def timestamp (now : Instant) (flags : Flags) : Reading Query := do
  Reading.ofExcept (timestampOf now flags ((← Reading.takeText).getD ""))

/-! ### All keywords -/

/-- All states. -/
def states : List State :=
  [.modified, .deleted, .selected, .incomplete, .untagged, .closed, .new]

/-- Both rectangles. -/
def areaKinds : List Area :=
  [.downloaded, .view]

/-- The built-in keywords. Rectangles are those of `areas`, and the present instant is `now`. -/
def entries (areas : Areas) (now : Instant) : List (String × Factory) :=
  ranges.map (fun (property, message) =>
    (property.keyword, withArgument fun _ => range property message)) ++
  states.map (fun s => (s.keyword, plain (.state s))) ++
  areaKinds.map (fun a => (a.keyword, plain (.inArea a false areas))) ++
  areaKinds.map (fun a => ("all" ++ a.keyword, plain (.inArea a true areas))) ++
  [("type", withArgument fun _ => kind),
    ("user", withArgument fun _ => user),
    ("role", withArgument fun _ => role),
    ("hasRole", withArgument fun _ => hasRole),
    ("nth", withArgument fun _ => nth),
    ("nth%", withArgument fun _ => nthModulo),
    ("timestamp", withArgument (timestamp now)),
    ("parent", .unary (fun _ q => .ok (.parent q)) (fun _ q => .done (.parent q))),
    ("child", .unary (fun _ q => .ok (.child q)) (fun _ q => .done (.child q)))]

end Builtin

/-- The registry of the built-in keywords. -/
def Registry.builtin (areas : Areas) (now : Instant) : Registry :=
  (Builtin.entries areas now).foldl (fun r (keyword, f) => r.insert keyword f) .empty

end MapQuery
