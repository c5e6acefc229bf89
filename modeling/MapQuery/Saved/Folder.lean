import MapQuery.DataSet.File
import MapQuery.Saved.Searches

/-!
# Folders

A folder holds files with their contents, and other folders, which cannot be read or written as files.

* `Folder` — names with what they stand for.
* `Folder.read`, `Folder.write` — the content of a file.
* `Folder.dataSet`, `Folder.searches` — what a file holds.
* `Folder.Refusal` — why a file cannot be used.
-/

namespace MapQuery

namespace Folder

/-- What a name stands for. -/
inductive Item where
  | file (content : String)
  | folder
  deriving DecidableEq, Repr

/-- Why a file cannot be used. -/
inductive Refusal where
  | missing (name : String)
  | unusable (name : String)
  | malformed (name : String) (fault : Json.Fault)
  deriving DecidableEq, Repr

/-- The wording of a refusal. -/
def Refusal.message : Refusal → String
  | missing name => "配置文件不存在: " ++ name
  | unusable name => "无法读写配置文件 " ++ name
  | malformed name _ => "无法解析JSON配置文件 " ++ name

end Folder

/-- Names with what they stand for. -/
structure Folder where
  items : Std.TreeMap String Folder.Item

namespace Folder

/-- Nothing. -/
def empty : Folder :=
  ⟨∅⟩

instance : Inhabited Folder :=
  ⟨empty⟩

/-- The content of a file. -/
def read (f : Folder) (name : String) : Except Refusal String :=
  match f.items[name]? with
  | some (.file content) => .ok content
  | some .folder => .error (.unusable name)
  | none => .error (.missing name)

/-- With a file in the place of a name, unless it is the name of a folder. -/
def write (f : Folder) (name content : String) : Except Refusal Folder :=
  match f.items[name]? with
  | some .folder => .error (.unusable name)
  | _ => .ok ⟨f.items.insert name (.file content)⟩

/-- With a new folder, unless the name is in use. -/
def makeFolder (f : Folder) (name : String) : Except Refusal Folder :=
  match f.items[name]? with
  | some _ => .error (.unusable name)
  | none => .ok ⟨f.items.insert name .folder⟩

/-- All files with their contents, in the order of their names. -/
def files (f : Folder) : List (String × String) :=
  f.items.toList.filterMap fun (name, item) =>
    match item with
    | .file content => some (name, content)
    | .folder => none

/-- The data set of the content of a file. -/
def dataSetOf (name content : String) : Except Refusal DataSet :=
  (DataSet.ofText content).mapError (.malformed name)

/-- The saved searches of the content of a file. -/
def searchesOf (name content : String) : Except Refusal SavedSearches :=
  (SavedSearches.ofText content).mapError (.malformed name)

/-- The data set that a file holds. -/
def dataSet (f : Folder) (name : String) : Except Refusal DataSet := do
  dataSetOf name (← f.read name)

/-- The saved searches that a file holds. -/
def searches (f : Folder) (name : String) : Except Refusal SavedSearches := do
  searchesOf name (← f.read name)

/-- A file that has been written can be read. -/
theorem read_of_write {f g : Folder} {name content : String} (h : f.write name content = .ok g) :
    g.read name = .ok content := by
  unfold write at h
  split at h
  · cases h
  · cases h; simp [read]

end Folder

end MapQuery
