import MapQuery.Pattern.Syntax

/-!
# Reports on faults

A report shows the pattern, marks the place of a fault under it and names the fault. Patterns of
several lines are shown between rules, with numbered lines.

* `Report.lines` — the lines of a pattern.
* `Located.report` — the report on a fault in a pattern.
-/

namespace MapQuery.Pattern

namespace Report

/-- The pieces of a text between line feeds. -/
def pieces : List Char → List (List Char)
  | [] => [[]]
  | c :: cs =>
    if c == '\n' then [] :: pieces cs
    else
      match pieces cs with
      | [] => [[c]]
      | p :: ps => (c :: p) :: ps

/-- A piece without the carriage return at its end. -/
def withoutReturn (piece : List Char) : List Char :=
  if piece.getLast? == some '\r' then piece.dropLast else piece

/-- The lines of a text: a line feed ends a line, and may have a carriage return before it. -/
def lines (text : List Char) : List (List Char) :=
  let ps := pieces text
  let ended := ps.dropLast.map withoutReturn
  match ps.getLast? with
  | some [] => ended
  | some p => ended ++ [p]
  | none => ended

/-- The digits of the greatest line number, none for a pattern of a single line. The empty line after
a last line feed counts. -/
def numberWidth (text : List Char) : Nat :=
  let count := (lines text).length + (if text.getLast? == some '\n' then 1 else 0)
  if count ≤ 1 then 0 else (toString count).length

/-- What stands before a line. -/
def margin (width number : Nat) : String :=
  if width = 0 then "    "
  else
    let n := toString number
    String.ofList (List.replicate (width - n.length) ' ') ++ n ++ ": "

/-- The marks under a fault that lies in one line. -/
def marks (width : Nat) (e : Extent) : String :=
  let indent := (if width = 0 then 4 else 2 + width) + (e.start.column - 1)
  let length := max 1 (e.stop.column - e.start.column)
  String.ofList (List.replicate indent ' ' ++ List.replicate length '^')

/-- The lines of a pattern from a number on, with the marks under the line of the fault. -/
def shownLines (width : Nat) (e : Extent) : (number : Nat) → List (List Char) → List String
  | _, [] => []
  | number, line :: rest =>
    let shown := margin width number ++ String.ofList line
    let below := if e.start.line = e.stop.line ∧ e.start.line = number then [marks width e] else []
    shown :: below ++ shownLines width e (number + 1) rest

/-- The rule above and below a pattern of several lines. -/
def rule : String :=
  String.ofList (List.replicate 79 '~')

/-- The note on a fault that goes over several lines. -/
def stretch (e : Extent) : String :=
  "on line " ++ toString e.start.line ++ " (column " ++ toString e.start.column ++
    ") through line " ++ toString e.stop.line ++ " (column " ++ toString (e.stop.column - 1) ++ ")"

end Report

/-- The report on a fault in a pattern. -/
def Located.report (l : Located) (pattern : String) : String :=
  let text := pattern.toList
  let shown := Report.shownLines (Report.numberWidth text) l.extent 1 (Report.lines text)
  let body :=
    if text.contains '\n' then
      [Report.rule] ++ shown ++ [Report.rule] ++
        (if l.extent.start.line = l.extent.stop.line then [] else [Report.stretch l.extent])
    else shown
  "\n".intercalate (["regex parse error:"] ++ body ++ ["error: " ++ l.fault.message])

end MapQuery.Pattern
