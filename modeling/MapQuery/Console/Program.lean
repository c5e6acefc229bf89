import MapQuery.Console.Demo
import MapQuery.Console.Session

/-!
# The program

The program reads a data set, or takes the one for a first look, and answers the lines of its input until
it is told to quit or the input ends.

* `opening` — how the program begins.
* `converse` — the answers to several lines, with the folder in which the saved searches are kept.
* `run` — the whole program.
-/

namespace MapQuery.Console

/-- What is written before each line is read. -/
def prompt : String := "search> "

/-- The first line of the output. -/
def title : String := "--- OSM 搜索表达式编译器 ---"

/-- Several lines, each with its end. -/
def linesText (lines : List String) : String :=
  String.join (lines.map (· ++ "\n"))

/-- The lines about the data set, which was read from a file if one is named. -/
def dataSetLines (file : Option String) (d : DataSet) : List String :=
  [match file with
    | some name => "✅ 使用数据集文件: " ++ name
    | none => "⚠️ 未指定数据集文件，使用内置示例数据",
    "✅ 数据集包含 " ++ toString d.size ++ " 个对象，输入 :help 查看帮助", ""]

/-- The session at the start and what is written before the first prompt, after the title. -/
def opening (file : Option String) (data : DataSet) (saved : Except Folder.Refusal SavedSearches) :
    Session × String :=
  (.start data saved, linesText (dataSetLines file data ++ loadedLines saved))

/-- The lines of an input. A line feed ends a line, and the last line need not have one. -/
def inputLines : List Char → List (List Char)
  | [] => []
  | c :: cs =>
    if c = '\n' then [] :: inputLines cs
    else
      match inputLines cs with
      | line :: lines => (c :: line) :: lines
      | [] => [[c]]

/-- Writes the saved searches of a session. -/
def writeSaved (f : Folder) (s : Session) : Folder × String :=
  match f.write savedFile s.saved.document with
  | .ok f => (f, writtenLine (.ok ()))
  | .error e => (f, writtenLine (.error e))

/-- The answers to several lines, each after a prompt, and the folder after them. -/
def converse (now : Instant) (elapsed : String) : Session → Folder → List String → String × Folder
  | _, f, [] => (prompt, f)
  | s, f, line :: lines =>
    let a := s.answer now line
    let (f, more) :=
      if a.writes then
        let (f, outcome) := writeSaved f a.session
        (f, [outcome])
      else (f, [])
    let written := prompt ++ linesText (a.lines.map (Line.shown elapsed) ++ more)
    if a.goesOn then
      let (rest, f) := converse now elapsed a.session f lines
      (written ++ rest, f)
    else (written, f)

/-- What is left after a run of the program. -/
structure Outcome where
  code : Nat
  output : String
  folder : Folder

/-- A run of the program. -/
def run (now : Instant) (elapsed : String) (arguments : List String) (f : Folder) (input : String) :
    Outcome :=
  let file := arguments.head?
  let data :=
    match file with
    | some name => f.dataSet name
    | none => .ok demo
  match data with
  | .error _ => ⟨1, linesText [title], f⟩
  | .ok data =>
    let (s, greeting) := opening file data (f.searches savedFile)
    let (answers, f) :=
      converse now elapsed s f ((inputLines input.toList).map String.ofList)
    ⟨0, linesText [title] ++ greeting ++ answers, f⟩

end MapQuery.Console
