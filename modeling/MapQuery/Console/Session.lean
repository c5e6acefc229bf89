import MapQuery.Compiler.Builtin
import MapQuery.Console.Typed
import MapQuery.DataSet.Handle
import MapQuery.Query.Shown
import MapQuery.Saved.Folder

/-!
# Sessions

A session answers lines, which are commands or queries. Commands begin with a colon.

* `Command` — what a line asks for.
* `Line` — a line of an answer.
* `Session` — what is kept from line to line.
* `Session.answer` — the answer to a line, with what is kept after it.
-/

namespace MapQuery.Console

/-- The file of the saved searches. -/
def savedFile : String := "saved_searches.json"

/-- What a line asks for. -/
inductive Command where
  | quit
  | help
  | toggleCase
  | toggleRegex
  | keywords
  | save
  | saved
  | unknown (text : String)
  | query (text : String)
  deriving DecidableEq, Repr

/-- The command of a line without blanks around it. -/
def Command.ofLine (line : String) : Command :=
  match line with
  | ":quit" | ":q" => quit
  | ":help" | ":h" => help
  | ":case" => toggleCase
  | ":regex" => toggleRegex
  | ":keywords" => keywords
  | ":save" => save
  | ":saved" => saved
  | _ => if line.toList.head? = some ':' then unknown line else query line

/-- A line of an answer. -/
inductive Line where
  | text (s : String)
  /-- The number of primitives that match, and the time that it took to find them. -/
  | matched (count : Nat)
  deriving DecidableEq, Repr

/-- The wording of a line, the time being given. -/
def Line.shown (elapsed : String) : Line → String
  | text s => s
  | matched count => "✓ " ++ toString count ++ " 个匹配，用时 " ++ elapsed

/-- What is kept from line to line. -/
structure Session where
  data : DataSet
  flags : Flags
  saved : SavedSearches
  /-- The last query that could be compiled, with its flags. -/
  last : Option SavedSearch
  deriving Inhabited

/-- The answer to a line. -/
structure Answer where
  session : Session
  lines : List Line
  /-- The saved searches have to be written; the outcome gives one more line. -/
  writes : Bool
  goesOn : Bool

/-! ### Wordings -/

/-- On or off. -/
def onOff (b : Bool) : String :=
  if b then "开" else "关"

/-- The lines that explain queries and commands. -/
def helpLines : List String := [
  "输入搜索表达式，例如:",
  "  type:way highway=residential",
  "  name:main or -building=*",
  "  child (type:relation type=multipolygon)",
  "命令:",
  "  :case      切换区分大小写",
  "  :regex     切换正则搜索",
  "  :keywords  列出所有关键字",
  "  :save      保存上一条搜索",
  "  :saved     列出已保存的搜索",
  "  :quit      退出"]

/-- The number of characters in the first bytes of a text, unless these end inside a character or after
the text. -/
def charactersIn? : (bytes : Nat) → List Char → Option Nat
  | 0, _ => some 0
  | _, [] => none
  | n, c :: cs =>
    if c.utf8Size ≤ n then (charactersIn? (n - c.utf8Size) cs).map (· + 1) else none

/-- The column in which a place in a query begins, and the number of columns that it takes. -/
def columns (query : List Char) (s : Span) : Nat × Nat :=
  match charactersIn? s.start query, charactersIn? s.stop query with
  | some first, some last => (first, if s.start ≤ s.stop then max (last - first) 1 else 1)
  | some first, none => (first, 1)
  | none, _ => (0, 1)

/-- Several copies of a character. -/
def copies (n : Nat) (c : Char) : String :=
  String.ofList (List.replicate n c)

/-- The query with its wrong place marked, where the failure has a place. -/
def placeLines (query : String) (f : Failure) : List String :=
  match f.span? with
  | some span =>
    let (offset, width) := columns query.toList span
    ["  " ++ query, "  " ++ copies offset ' ' ++ copies width '^',
      "  位置 " ++ toString span.start ++ "-" ++ toString span.stop]
  | none => []

/-- What is said about a query that cannot be compiled. -/
def failureLines (query : String) (f : Failure) : List String :=
  ["✗ 解析失败: " ++ f.message] ++ placeLines query f ++
    match f.cause? with
    | some cause => ["  原因: " ++ cause.shown]
    | none => []

/-- A saved search with its number. -/
def savedLine (number : Nat) (s : SavedSearch) : String :=
  "  " ++ toString number ++ ". " ++ s.text ++ "  [大小写:" ++ onOff s.flags.caseSensitive ++
    " 正则:" ++ onOff s.flags.regex ++ "]"

/-- The saved searches. -/
def savedLines (l : SavedSearches) : List String :=
  if l.searches.isEmpty then ["(没有已保存的搜索)"]
  else l.searches.zipIdx.map fun (s, i) => savedLine (i + 1) s

/-- The outcome of writing the saved searches. -/
def writtenLine : Except Folder.Refusal Unit → String
  | .ok _ => "✅ 已保存到 " ++ savedFile
  | .error e => "❌ 保存失败: " ++ e.message

/-- The outcome of reading the saved searches. -/
def loadedLines : Except Folder.Refusal SavedSearches → List String
  | .ok l => ["✅ 加载了 " ++ toString l.size ++ " 条已保存的搜索"]
  | .error _ => []

namespace Session

/-! ### Answers -/

/-- A session with a data set and the outcome of reading the saved searches. -/
def start (data : DataSet) (saved : Except Folder.Refusal SavedSearches) : Session :=
  ⟨data, .plain, saved.toOption.getD .empty, none⟩

/-- The answer to a query. -/
def search (s : Session) (now : Instant) (query : String) : Session × List Line :=
  let setting : SavedSearch := ⟨query, s.flags⟩
  match setting.compile (.builtin s.data.areas now) with
  | .ok q =>
    let hits := s.data.search q
    ({ s with last := some setting },
      [.text ("表达式: " ++ q.shown)] ++ hits.map (fun h => .text ("  " ++ h.shown)) ++
        [.matched hits.length])
  | .error f => (s, (failureLines query f).map .text)

/-- An answer after which the session goes on. -/
def reply (s : Session) (lines : List String) : Answer :=
  ⟨s, lines.map .text, false, true⟩

/-- The answer to a command. -/
def perform (s : Session) (now : Instant) : Command → Answer
  | .quit => ⟨s, [], false, false⟩
  | .help => s.reply helpLines
  | .toggleCase =>
    let flags := { s.flags with caseSensitive := !s.flags.caseSensitive }
    reply { s with flags := flags } ["区分大小写: " ++ onOff flags.caseSensitive]
  | .toggleRegex =>
    let flags := { s.flags with regex := !s.flags.regex }
    reply { s with flags := flags } ["正则搜索: " ++ onOff flags.regex]
  | .keywords => s.reply [" ".intercalate (Registry.builtin s.data.areas now).keywords]
  | .save =>
    match s.last with
    | some setting => ⟨{ s with saved := s.saved.remember setting }, [], true, true⟩
    | none => s.reply ["⚠️ 还没有成功执行过搜索"]
  | .saved => s.reply (savedLines s.saved)
  | .unknown text => s.reply ["✗ 未知命令: " ++ text ++ "，输入 :help 查看帮助"]
  | .query text =>
    let (s, lines) := s.search now text
    ⟨s, lines, false, true⟩

/-- The answer to a line; a blank one is passed over. -/
def answer (s : Session) (now : Instant) (line : String) : Answer :=
  let line := String.ofList (Text.trim (typed line.toList))
  if line = "" then s.reply [] else s.perform now (.ofLine line)

end Session

end MapQuery.Console
