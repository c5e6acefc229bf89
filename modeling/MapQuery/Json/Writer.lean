import MapQuery.Json.Quoted

/-!
# Writing documents

A document is written over several lines, each level indented by two blanks. Empty arrays and objects
stay in their line.

* `Value` — what is written.
* `Value.pretty` — its text.
-/

namespace MapQuery.Json

/-- A value to be written. -/
inductive Value where
  | bool (b : Bool)
  | text (s : String)
  | array (items : List Value)
  | object (keys : List String) (values : List Value)

namespace Value

/-- A text between quotes. -/
def quoted (s : String) : String :=
  String.ofList ('"' :: escape s.toList ++ ['"'])

/-- A new line, indented. -/
def newLine (level : Nat) : String :=
  String.ofList ('\n' :: List.replicate (2 * level) ' ')

/-- Several parts between brackets, each on a line of its own. -/
def enclosed (opening closing : String) (level : Nat) (parts : List String) : String :=
  if parts.isEmpty then opening ++ closing
  else
    opening ++ newLine (level + 1) ++ ("," ++ newLine (level + 1)).intercalate parts ++
      newLine level ++ closing

mutual

/-- The text of a value that stands at some level. -/
def shown (level : Nat) : Value → String
  | bool b => if b then "true" else "false"
  | text s => quoted s
  | array items => enclosed "[" "]" level (shownAll (level + 1) items)
  | object keys values => enclosed "\x7b" "\x7d" level (shownMembers (level + 1) keys values)

/-- The texts of several values. -/
def shownAll (level : Nat) : List Value → List String
  | [] => []
  | v :: vs => shown level v :: shownAll level vs

/-- The texts of the members of an object. -/
def shownMembers (level : Nat) : List String → List Value → List String
  | key :: keys, v :: vs => (quoted key ++ ": " ++ shown level v) :: shownMembers level keys vs
  | _, _ => []

end

/-- The text of a document. -/
def pretty (v : Value) : String :=
  shown 0 v

end Value

end MapQuery.Json
