import MapQuery.Console.Elapsed
import MapQuery.Console.Program
import Std.Time.DateTime.Timestamp

/-!
# The command line

The program on the files, the clock and the streams of the system. What is written, and what follows from
a line, is decided in `MapQuery.Console`.
-/

namespace MapQuery.Console

/-- The present instant. -/
def presentInstant : IO Instant := do
  let nanos := (← Std.Time.Timestamp.now).toNanosecondsSinceUnixEpoch.toInt
  return ⟨nanos / 1000000000, (nanos % 1000000000).toNat⟩

/-- The content of a file of the system. -/
def readSystemFile (name : String) : IO (Except Folder.Refusal String) := do
  try
    return .ok (← IO.FS.readFile name)
  catch e =>
    match e with
    | .noFileOrDirectory .. => return .error (.missing name)
    | _ => return .error (.unusable name)

/-- Writes the saved searches into their file. -/
def writeSystemFile (name content : String) : IO (Except Folder.Refusal Unit) := do
  try
    IO.FS.writeFile name content
    return .ok ()
  catch _ =>
    return .error (.unusable name)

/-- The data set of a file of the system, or the one for a first look. -/
def readDataSet : Option String → IO (Except Folder.Refusal DataSet)
  | some name => return (← readSystemFile name).bind (Folder.dataSetOf name)
  | none => return .ok demo

/-- Writes text at once. -/
def putText (s : String) : IO Unit := do
  let out ← IO.getStdout
  out.putStr s
  out.flush

/-- Answers lines until the session ends. -/
def converseWithSystem (s : Session) : IO Unit := do
  let input ← IO.getStdin
  let mut session := s
  let mut goesOn := true
  while goesOn do
    putText prompt
    let line ← input.getLine
    if line.isEmpty then
      goesOn := false
    else
      let begun ← IO.monoNanosNow
      let a := session.answer (← presentInstant) line
      putText (linesText (a.lines.map (Line.shown (elapsedText ((← IO.monoNanosNow) - begun)))))
      if a.writes then
        putText (linesText [writtenLine (← writeSystemFile savedFile a.session.saved.document)])
      session := a.session
      goesOn := a.goesOn

/-- Runs the program; its code is 1 if the data set cannot be read. -/
def runOnSystem (arguments : List String) : IO UInt32 := do
  putText (linesText [title])
  let file := arguments.head?
  match ← readDataSet file with
  | .error e =>
    (← IO.getStderr).putStrLn e.message
    return 1
  | .ok data =>
    let saved := (← readSystemFile savedFile).bind (Folder.searchesOf savedFile)
    let (s, greeting) := opening file data saved
    putText greeting
    converseWithSystem s
    return 0

end MapQuery.Console

/-- Runs the program. -/
def main (arguments : List String) : IO UInt32 :=
  MapQuery.Console.runOnSystem arguments
