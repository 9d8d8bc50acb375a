import Goodput.Cli.Scan
import Goodput.Launch.Dotenv
/-!
# What a process finds

A process is started with arguments in some surroundings: the environment, the files, and the addresses
at which other processes listen. Before it reads its arguments it takes up the variables in the nearest
file `.env`, which is looked for in the working directory and the directories above.
-/

namespace Goodput.Launch

/-- The surroundings of a process. -/
structure Surroundings where
  env : List (String × String)
  files : FileTree
  /-- The addresses in use. -/
  taken : List SocketAddress
deriving Repr, DecidableEq, Inhabited

/-- The name of the file with variables. -/
def dotenvName : String := ".env"

/-- The content of the nearest file of a name, in a directory or one above it. The number bounds the
directories. -/
def nearestFile? (files : FileTree) (name : String) : Nat → List String → Option ByteText
  | 0, _ => none
  | k + 1, dir =>
    match files.node? (dir ++ [name]) with
    | some (.file content) => some content
    | _ => if dir.isEmpty then none else nearestFile? files name k dir.dropLast

/-- The environment with the variables of the nearest file. -/
def Surroundings.variables (s : Surroundings) : List (String × String) :=
  match nearestFile? s.files dotenvName (s.files.workDir.length + 1) s.files.workDir with
  | none => s.env
  | some content => Dotenv.load content s.env

/-- How a process ends. -/
structure Ending where
  code : Nat
  /-- The line about what went wrong, if it has one. -/
  complaint? : Option String
deriving Repr, DecidableEq, Inhabited

namespace Ending

/-- All went well. -/
def fine : Ending := ⟨0, none⟩

/-- The arguments gave nothing to run. -/
def ofArgError (e : Cli.ArgError) : Ending := ⟨if e.isAnswer then 0 else 2, e.message?⟩

/-- The process ran into an error. -/
def ofError (message : String) : Ending := ⟨1, some ("Error: " ++ message)⟩

end Ending

end Goodput.Launch
