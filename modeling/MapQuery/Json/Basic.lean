/-!
# JSON documents

A document is read as a tree even if its text has a fault: the fault stands in the tree where it
stands in the text, and nothing comes after it. Whoever takes values out of the tree in the order of
the text meets a value of the wrong shape and a fault of the text in the order in which they stand.

* `Fault` — the three classes of faults.
* `Doc` — a document.
* `Doc.skip` — passing over a value that nobody asks for.
-/

namespace MapQuery.Json

/-- What can be wrong with a document. -/
inductive Fault where
  /-- The text is no JSON. -/
  | malformed
  /-- The value has the wrong shape. -/
  | unfit
  /-- The text ends too early. -/
  | cutShort
  deriving DecidableEq, Repr, Inhabited

/-- What follows the last element of an array or an object. -/
inductive Tail where
  /-- The closing bracket. -/
  | closed
  /-- A comma, and a fault after it. -/
  | afterComma (f : Fault)
  /-- A fault. -/
  | fault (f : Fault)
  deriving DecidableEq, Repr

/-- The fault behind the last element, if any. -/
def Tail.fault? : Tail → Option Fault
  | closed => none
  | afterComma f => some f
  | fault f => some f

/-- A document. The keys and the values of an object are listed apart, in order. A value without a key
stands where the first key should stand, and nothing comes after it. -/
inductive Doc where
  | null
  | bool (b : Bool)
  /-- A whole number of 64 bits, with or without sign. -/
  | whole (n : Int)
  | float (f : Float)
  | text (s : String)
  | array (items : List Doc) (tail : Tail)
  | object (keys : List (Except Fault String)) (values : List Doc) (tail : Tail)
  /-- No value can be read here. Who passes over it meets no fault, or one after which nothing
  follows. -/
  | flawed (fault : Fault) (skipped : Option Fault)
  /-- The text ends within a word or a number. Who passes over it meets a fault of its own. -/
  | unfinished (skipped : Fault)

/-- A result in reading a document. -/
abbrev Result := Except Fault

/-- The end of an array or object that is read to its end. -/
def Tail.close (t : Tail) : Result Unit :=
  match t.fault? with
  | some f => .error f
  | none => .ok ()

namespace Doc

/-- No value can be read here, and nothing follows. -/
def broken (f : Fault) : Doc :=
  flawed f (some f)

mutual

/-- Passes over a value. -/
def skip : Doc → Result Unit
  | array items tail => do
    skipAll items
    tail.close
  | object keys values tail => do
    skipMembers keys values
    tail.close
  | flawed _ (some f) => .error f
  | unfinished f => .error f
  | _ => .ok ()

/-- Passes over several values. -/
def skipAll : List Doc → Result Unit
  | [] => .ok ()
  | d :: ds => do
    skip d
    skipAll ds

/-- Passes over the members of an object. -/
def skipMembers : List (Except Fault String) → List Doc → Result Unit
  | _ :: keys, d :: ds => do
    skip d
    skipMembers keys ds
  | _, _ => .ok ()

end

/-- The deepest nesting of values that are read. -/
def depthLimit : Nat := 128

mutual

/-- Checks a value that is kept as it is; `depth` is the nesting that is left. -/
def keep (depth : Nat) : Doc → Result Unit
  | array items tail =>
    if depth ≤ 1 then .error .malformed
    else do
      keepAll (depth - 1) items
      tail.close
  | object keys values tail =>
    if depth ≤ 1 then .error .malformed
    else do
      keepMembers (depth - 1) keys values
      tail.close
  | flawed f _ => .error f
  | unfinished _ => .error .cutShort
  | _ => .ok ()

/-- Checks several values. -/
def keepAll (depth : Nat) : List Doc → Result Unit
  | [] => .ok ()
  | d :: ds => do
    keep depth d
    keepAll depth ds

/-- Checks the members of an object. -/
def keepMembers (depth : Nat) : List (Except Fault String) → List Doc → Result Unit
  | .error f :: _, _ => .error f
  | .ok _ :: keys, d :: ds => do
    keep depth d
    keepMembers depth keys ds
  | _, _ => .ok ()

end

end Doc

end MapQuery.Json
