import MapQuery.Json.Reader

/-!
# Values out of documents

A shape says which values a document can have and takes them out. A record is an object, whose members
may come in any order, or an array with the fields in their order.

* `Shape` — a way to take a value out of a document at some depth.
* `whole`, `float`, `text`, `bool`, `optional`, `list` — the common shapes.
* `members` — the members of an object, one after the other.
* `Fields` — the elements of an array, one after the other.
* `Shape.read` — the value of a text.
-/

namespace MapQuery.Json

/-- A way to take a value out of a document, with the number of levels that may still be opened. -/
abbrev Shape (A : Type) := (depth : Nat) → Doc → Result A

namespace Shape

/-- A value that cannot be taken out by what it is. -/
def refuse {A : Type} : Doc → Result A
  | .flawed f _ => .error f
  | .unfinished _ => .error .cutShort
  | _ => .error .unfit

/-- A whole number of 64 bits with a sign. -/
def whole : Shape Int
  | _, .whole n => if n < 9223372036854775808 then .ok n else .error .unfit
  | _, d => refuse d

/-- The nearest double of a whole number of 64 bits. -/
def nearest (n : Int) : Float :=
  if n < 0 then -(n.natAbs.toUInt64.toFloat) else n.natAbs.toUInt64.toFloat

/-- A number. -/
def float : Shape Float
  | _, .whole n => .ok (nearest n)
  | _, .float f => .ok f
  | _, d => refuse d

/-- A string. -/
def text : Shape String
  | _, .text s => .ok s
  | _, d => refuse d

/-- True or false. -/
def bool : Shape Bool
  | _, .bool b => .ok b
  | _, d => refuse d

/-- A value or `null`. -/
def optional {A : Type} (shape : Shape A) : Shape (Option A)
  | _, .null => .ok none
  | depth, d => (shape depth d).map some

/-- The depth inside a value that is opened. -/
def inside (depth : Nat) : Result Nat :=
  if depth ≤ 1 then .error .malformed else .ok (depth - 1)

/-- An array of values of one shape. -/
def list {A : Type} (shape : Shape A) : Shape (List A)
  | depth, .array items tail => do
    let depth ← inside depth
    let values ← items.mapM (shape depth)
    tail.close
    return values
  | _, d => refuse d

/-! ### Objects -/

/-- The members of an object in their order: each takes what has been read so far further. -/
def members {S : Type} (step : S → String → Doc → Result S) :
    S → List (Result String) → List Doc → Result S
  | s, key :: keys, value :: values => do
    let key ← key
    let s ← step s key value
    members step s keys values
  | s, _, _ => .ok s

/-- A field that may be given once. -/
def once {A S : Type} (old : Option A) (value : Result A) (set : A → S) : Result S :=
  match old with
  | some _ => .error .unfit
  | none => value.map set

/-- A field that has to be given. -/
def required {A : Type} : Option A → Result A
  | some a => .ok a
  | none => .error .unfit

/-! ### Arrays -/

/-- The elements of an array that have not been read, and what follows the last one. -/
abbrev Fields := StateT (List Doc × Tail) Result

namespace Fields

/-- The next element, if there is one. -/
def next? {A : Type} (shape : Shape A) (depth : Nat) : Fields (Option A) := do
  match ← get with
  | ([], tail) =>
    tail.close
    return none
  | (d :: ds, tail) =>
    set (ds, tail)
    return some (← shape depth d)

/-- The next element, which has to be there. -/
def next {A : Type} (shape : Shape A) (depth : Nat) : Fields A := do
  match ← next? shape depth with
  | some a => return a
  | none => throw .unfit

/-- No element is left. -/
def finish : Fields Unit := do
  match ← get with
  | ([], .fault f) => throw f
  | ([], .closed) => return ()
  | _ => throw .malformed

end Fields

/-- A record: from an array by `fields`, or from an object by its members. -/
def record {A S : Type} (fields : (depth : Nat) → Fields A)
    (start : S) (step : (depth : Nat) → S → String → Doc → Result S) (done : S → Result A) : Shape A
  | depth, .array items tail => do
    let depth ← inside depth
    let (value, rest) ← (fields depth).run (items, tail)
    let _ ← Fields.finish.run rest
    return value
  | depth, .object keys values tail => do
    let depth ← inside depth
    let s ← members (step depth) start keys values
    tail.close
    done s
  | _, d => refuse d

/-- A record that has to be an object. -/
def object {A S : Type} (start : S) (step : (depth : Nat) → S → String → Doc → Result S)
    (done : S → Result A) : Shape A
  | depth, .object keys values tail => do
    let depth ← inside depth
    let s ← members (step depth) start keys values
    tail.close
    done s
  | _, d => refuse d

/-- A name out of a list of names. A name may also stand as the key of an object with the single value
`null`. -/
def named {A : Type} (find? : String → Option A) : Shape A
  | _, .text s => required (find? s)
  | depth, .object keys values tail => do
    let _ ← inside depth
    match keys, values with
    | key :: keys, value :: _ =>
      let a ← required (find? (← key))
      match value with
      | .null => pure ()
      | d => refuse d
      match keys, tail with
      | [], .closed => return a
      | [], .fault f => throw f
      | _, _ => throw .malformed
    | [], value :: _ => refuse value
    | _, [] =>
      tail.close
      throw .malformed
  | _, .flawed f _ => .error f
  | _, _ => .error .malformed

/-- The value of a text. -/
def read {A : Type} (shape : Shape A) (s : String) : Result A := do
  let (doc, after) := Doc.ofText s
  let value ← shape Doc.depthLimit doc
  match after with
  | some f => throw f
  | none => return value

end Shape

end MapQuery.Json
