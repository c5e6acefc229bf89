import MapQuery.Pattern.Syntax
import MapQuery.Text.Ascii
import MapQuery.Text.Blank

/-!
# The source of a pattern

A pattern is read from left to right. In one of its modes blanks and comments between the parts are
skipped; a comment runs from `#` to the end of the line.

* `Source` — what is left of a pattern, and where it begins.
* `Source.bump`, `Source.skip` — past one character, and past blanks and comments.
* `Read` — a step of reading, which can fail at a place.
-/

namespace MapQuery.Pattern

/-- What is left of a pattern, with what has to be remembered of the part before. -/
structure Source where
  rest : List Char
  place : Place
  /-- Blanks and comments are skipped. -/
  skipsBlanks : Bool
  /-- The names of the groups so far. -/
  names : List String
  /-- The end has been reached in a comment, which no line feed has ended. -/
  inComment : Bool

namespace Source

/-- The start of a pattern. -/
def ofText (s : String) : Source :=
  ⟨s.toList, .start, false, [], false⟩

/-- The source after its first character. -/
def bump (s : Source) : Source :=
  match s.rest with
  | [] => s
  | c :: cs => { s with rest := cs, place := s.place.after c }

/-- What is left after blanks and comments, where it begins, and whether a comment has gone on to the end. -/
def afterBlanks : (inComment : Bool) → List Char → Place → List Char × Place × Bool
  | inComment, [], p => ([], p, inComment)
  | true, c :: cs, p => afterBlanks (c != '\n') cs (p.after c)
  | false, c :: cs, p =>
    if Text.isBlank c then afterBlanks false cs (p.after c)
    else if c == '#' then afterBlanks true cs (p.after c)
    else (c :: cs, p, false)

/-- The source after blanks and comments, in the mode that skips them. -/
def skip (s : Source) : Source :=
  if s.skipsBlanks then
    let (rest, place, inComment) := afterBlanks false s.rest s.place
    { s with rest := rest, place := place, inComment := s.inComment || inComment }
  else s

/-- The first character that is neither a blank nor the sign of a comment; once a comment has begun,
any character that is not a blank. -/
def firstSolid? : (inComment : Bool) → List Char → Option Char
  | _, [] => none
  | inComment, c :: cs =>
    if Text.isBlank c then firstSolid? inComment cs
    else if !inComment && c == '#' then firstSolid? true cs
    else some c

/-- The character after the next one. -/
def second? (s : Source) : Option Char :=
  s.rest.tail.head?

/-- The character after the next one, blanks apart in the mode that skips them. -/
def secondSolid? (s : Source) : Option Char :=
  if s.skipsBlanks then (firstSolid? false s.rest.tail).orElse fun _ => s.second? else s.second?

end Source

/-- A step of reading. -/
abbrev Read := StateT Source (Except Located)

namespace Read

/-- Where the rest begins. -/
def here : Read Place :=
  return (← get).place

/-- The next character; `none` at the end. -/
def char? : Read (Option Char) :=
  return (← get).rest.head?

/-- The end has been reached. -/
def atEnd : Read Bool :=
  return (← get).rest.isEmpty

/-- Past one character. -/
def bump : Read Unit :=
  modify Source.bump

/-- Past blanks and comments. -/
def skip : Read Unit :=
  modify Source.skip

/-- Past one character, and past blanks and comments after it. -/
def step : Read Unit := do
  bump
  skip

/-- The extent of the next character; empty at the end. -/
def charExtent : Read Extent := do
  let s ← get
  return ⟨s.place, s.bump.place⟩

/-- The extent from a place up to here. -/
def since (start : Place) : Read Extent :=
  return ⟨start, ← here⟩

/-- Fails at an extent. -/
def failAt {A : Type} (fault : Fault) (extent : Extent) : Read A :=
  throw ⟨fault, extent⟩

/-- Fails at the extent from a place up to here. -/
def failSince {A : Type} (fault : Fault) (start : Place) : Read A := do
  failAt fault (← since start)

/-- Fails here. -/
def failHere {A : Type} (fault : Fault) : Read A := do
  failSince fault (← here)

/-- Fails at the next character. -/
def failAtChar {A : Type} (fault : Fault) : Read A := do
  failAt fault (← charExtent)

/-- Past a text, if the rest begins with it. -/
def accept (text : List Char) : Read Bool := do
  if text.isPrefixOf (← get).rest then
    modify fun s => text.foldl (fun s _ => s.bump) s
    return true
  else
    return false

end Read

end MapQuery.Pattern
