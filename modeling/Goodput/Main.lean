import Goodput.Launch.Client
import Goodput.Launch.Server
import Goodput.Loopback
/-!
# The programs

`goodput server …` and `goodput split …` are the two command lines. There is no network behind them: a
server that came up waits for a line of input instead of a signal, and a client finds no server. What
each of them does apart from that is decided by `Launch.startServer` and `Launch.startClient`; this module
only looks up the environment and the files, prints, and ends with their exit codes.
-/

namespace Goodput

/-- The environment variables that the options know. -/
def knownVariables : List String :=
  (Cli.listenOptions ++ Cli.splitOptions ++ (Cli.commandOf .ndt7).options ++ Cli.clientCommand.options).filterMap
    (·.env)

/-- The known variables that are set. -/
def currentEnv : IO (List (String × String)) := do
  let mut vars := []
  for name in knownVariables.eraseDups do
    match ← IO.getEnv name with
    | some value => vars := vars ++ [(name, value)]
    | none => pure ()
  return vars

/-- The tree with the file at a path, if it can be read. -/
def withFile (t : FileTree) (path : String) : IO FileTree := do
  match ← (IO.FS.readBinFile path).toBaseIO with
  | .ok content => return t.insertFile path (.ofBytes content.toList)
  | .error _ => return t

/-- The paths of the files with variables that could be the nearest. -/
def dotenvPaths (workDir : List String) : List String :=
  (List.range (workDir.length + 1)).map fun n =>
    "/" ++ "/".intercalate (workDir.take n ++ [Launch.dotenvName])

/-- The surroundings of this process, with the files at some paths. -/
def currentSurroundings (paths : List String) : IO Launch.Surroundings := do
  let workDir := ((← IO.currentDir).toString.splitOn "/").filter (· != "")
  let mut files : FileTree := ⟨[], workDir⟩
  for path in dotenvPaths workDir ++ paths do
    files ← withFile files path
  return ⟨← currentEnv, files, []⟩

/-- Say how a process ends. -/
def conclude (e : Launch.Ending) : IO UInt32 := do
  for line in e.complaint?.toList do
    IO.eprintln line
  return UInt32.ofNat e.code

/-- Run a server until a line comes in. -/
def runServer (args : List String) : IO UInt32 := do
  let paths := match Launch.serverSettings (← currentSurroundings []) args with
    | .ok settings => [settings.cert, settings.key]
    | .error _ => []
  match Launch.startServer (← currentSurroundings paths) args with
  | .error fault => conclude fault.ending
  | .ok settings =>
    IO.println (Launch.listeningLine settings.mode)
    discard (← IO.getStdin).getLine
    IO.println Launch.stoppedLine
    conclude .fine

def runClient (args : List String) : IO UInt32 := do
  let paths := match Launch.clientArgs (← currentSurroundings []) args with
    | .ok a => [a.ca]
    | .error _ => []
  match Launch.startClient (← currentSurroundings paths) args with
  | .error fault => conclude fault.ending
  | .ok task =>
    let result := Loopback.single .origin none task.addr task.serverName task.options task.direction task.size
    for report in result.toOption.toList do
      IO.println (Launch.printed report)
    conclude (Launch.transferEnding result)

end Goodput

/-- Run the program that the first argument names. -/
def main : List String → IO UInt32
  | "server" :: args => Goodput.runServer args
  | "split" :: args => Goodput.runClient args
  | _ => do
    IO.eprintln "usage: goodput server|split [arguments]"
    return 2
