import Goodput.Text.ByteText
/-!
# Files

A process sees files by their paths. A file tree is a value: directories and files by the names on the
way to them, and the directory in which relative paths begin.
-/

namespace Goodput

/-- Why a file cannot be read. -/
inductive FileError where
  | notFound
  | notADirectory
  | isADirectory
deriving Repr, DecidableEq, Inhabited

/-- The wording of a file error, with its number. -/
def FileError.message : FileError → String
  | .notFound => "No such file or directory (os error 2)"
  | .notADirectory => "Not a directory (os error 20)"
  | .isADirectory => "Is a directory (os error 21)"

/-- What a path leads to. -/
inductive FileNode where
  | directory
  | file (content : ByteText)
deriving Repr, DecidableEq, Inhabited

/-- The files a process sees. The root is always a directory. -/
structure FileTree where
  /-- Everything below the root, by the names on the way. -/
  nodes : List (List String × FileNode)
  /-- Where relative paths begin. -/
  workDir : List String
deriving Repr, DecidableEq, Inhabited

namespace FileTree

def node? (t : FileTree) (place : List String) : Option FileNode :=
  if place.isEmpty then some .directory else (t.nodes.find? (·.1 == place)).map (·.2)

/-- Go down from a place by names. Only directories can be gone through. -/
def walk (t : FileTree) (place : List String) : List String → Except FileError FileNode
  | [] =>
    match t.node? place with
    | some n => .ok n
    | none => .error .notFound
  | name :: names =>
    match t.node? place with
    | none => .error .notFound
    | some (.file _) => .error .notADirectory
    | some .directory =>
      if name = "" ∨ name = "." then t.walk place names
      else if name = ".." then t.walk place.dropLast names
      else t.walk (place ++ [name]) names

def read (t : FileTree) (path : String) : Except FileError ByteText :=
  if path.isEmpty then .error .notFound
  else
    let start := if path.toList.head? = some '/' then [] else t.workDir
    match t.walk start (path.splitOn "/") with
    | .error e => .error e
    | .ok .directory => .error .isADirectory
    | .ok (.file content) => .ok content

def insert (place : List String) (n : FileNode) (t : FileTree) : FileTree :=
  { t with nodes := (place, n) :: t.nodes }

/-- The place that a path names, found without looking at what is there. -/
def place (t : FileTree) (path : String) : List String :=
  let start := if path.toList.head? = some '/' then [] else t.workDir
  (path.splitOn "/").foldl (fun place name =>
    if name = "" ∨ name = "." then place
    else if name = ".." then place.dropLast
    else place ++ [name]) start

/-- The tree with a file at a path and the directories on the way to it. -/
def insertFile (path : String) (content : ByteText) (t : FileTree) : FileTree :=
  let place := t.place path
  let parents := (List.range place.length).map fun n => (place.take n, FileNode.directory)
  { t with nodes := (place, .file content) :: t.nodes ++ parents }

/-- The directories that every system has, and the empty device. -/
def bare : FileTree where
  nodes := (["dev", "etc", "home", "opt", "proc", "root", "run", "sys", "tmp", "usr", "var"].map fun name =>
      ([name], FileNode.directory)) ++ [(["dev", "null"], .file [])]
  workDir := []

end FileTree

end Goodput
