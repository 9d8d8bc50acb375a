import Goodput.Cli.Scan
import Goodput.Server.Settings
/-!
# The server's command line

The first argument names the mode, the rest are its options. Values that each fit their option may still
not fit together; `Command.toSettings` accepts the ones that do and otherwise names the first condition
that is violated.
-/

namespace Goodput.Cli

/-- What every mode can be told. -/
structure ListenArgs where
  address : IpAddress
  port : Option Nat
  cert : String
  key : String
  maxSize : Option Nat
  /-- In seconds. -/
  drainTimeout : Nat
deriving Repr, DecidableEq, Inhabited

/-- What the HTTP/2 mode can be told. -/
structure Http2Args where
  listen : ListenArgs
  streams : StreamCount
  splitThreshold : Nat
  targetPartition : Nat
  maxStreams : Nat
  windowSize : Nat
deriving Repr, DecidableEq, Inhabited

/-- What the session mode can be told. -/
structure Ndt7Args where
  listen : ListenArgs
  /-- In seconds. -/
  duration : Nat
deriving Repr, DecidableEq, Inhabited

inductive Command where
  | http1 (args : ListenArgs)
  | http2 (args : Http2Args)
  | ndt7 (args : Ndt7Args)
deriving Repr, DecidableEq, Inhabited

/-! ## From values to settings -/

/-- Why values do not fit together. -/
inductive ConfigError where
  | maxStreams (n : Nat)
  | targetPartition
  | streamsAboveMax (streams max : Nat)
  | windowSize (n : Nat)
  | duration
deriving Repr, DecidableEq, Inhabited

def ConfigError.message : ConfigError → String
  | .maxStreams n =>
    s!"max-streams must be a power of two between 1 and {Goodput.maxStreams}, got {n}"
  | .targetPartition => "target-partition must be greater than zero"
  | .streamsAboveMax streams max => s!"stream count {streams} exceeds max-streams {max}"
  | .windowSize n =>
    s!"window-size must be between 65535 and {Server.maxWindowSize}, got {n}"
  | .duration => "ndt7 duration must be at least one second"

/-- The settings of a mode with what was said about listening. -/
def ListenArgs.toSettings (mode : Server.Mode) (a : ListenArgs) : Server.Settings :=
  { Server.Settings.forMode mode with
    addr := a.address.withPort (a.port.getD mode.defaultPort)
    cert := a.cert
    key := a.key
    maxSize := a.maxSize
    drainTimeout := .ofSecs a.drainTimeout }

/-- A fixed stream count above the cap, if that is what was asked for. -/
def Http2Args.excessStreams? (a : Http2Args) : Option Nat :=
  match a.streams with
  | .auto => none
  | .fixed n => if a.maxStreams < n then some n else none

/-- The settings of the HTTP/2 mode. The conditions are checked in a fixed order. -/
def Http2Args.toSettings (a : Http2Args) : Except ConfigError Server.Settings :=
  if !(isPowerOfTwo a.maxStreams && decide (a.maxStreams ≤ Goodput.maxStreams)) then
    .error (.maxStreams a.maxStreams)
  else if a.targetPartition = 0 then .error .targetPartition
  else
    match a.excessStreams? with
    | some n => .error (.streamsAboveMax n a.maxStreams)
    | none =>
      if a.windowSize < 65535 ∨ Server.maxWindowSize < a.windowSize then .error (.windowSize a.windowSize)
      else
        .ok { a.listen.toSettings .http2 with
          split := ⟨a.splitThreshold, a.targetPartition, a.maxStreams⟩
          streams := a.streams
          h2Window := some a.windowSize }

def Ndt7Args.toSettings (a : Ndt7Args) : Except ConfigError Server.Settings :=
  if a.duration = 0 then .error .duration
  else .ok { a.listen.toSettings .ndt7 with ndt7Window := .ofSecs a.duration }

def Command.toSettings : Command → Except ConfigError Server.Settings
  | .http1 a => .ok (a.toSettings .http1)
  | .http2 a => a.toSettings
  | .ndt7 a => a.toSettings

/-! ## From arguments to values -/

/-- The options of every mode. -/
def listenOptions : List OptionSpec := [
  { long := "address", short := some 'A', env := some "JSPERF_ADDRESS", value := some .ip },
  { long := "port", short := some 'p', env := some "JSPERF_PORT", value := some (.word UInt16.size) },
  { long := "cert", env := some "JSPERF_CERT", value := some .path },
  { long := "key", env := some "JSPERF_KEY", value := some .path },
  { long := "max-size", env := some "JSPERF_MAX_SIZE", value := some .number },
  { long := "drain-timeout", env := some "JSPERF_DRAIN_TIMEOUT", value := some .number }]

/-- The options about splitting and flow control. -/
def splitOptions : List OptionSpec := [
  { long := "streams", env := some "JSPERF_STREAMS", value := some .streams },
  { long := "split-threshold", env := some "JSPERF_SPLIT_THRESHOLD", value := some .number },
  { long := "target-partition", env := some "JSPERF_TARGET_PARTITION", value := some .number },
  { long := "max-streams", env := some "JSPERF_MAX_STREAMS", value := some (.word UInt32.size) },
  { long := "window-size", env := some "JSPERF_WINDOW_SIZE", value := some (.word UInt32.size) }]

def commandOf : Server.Mode → CommandSpec
  | .http1 => { options := listenOptions }
  | .http2 => { options := listenOptions ++ splitOptions }
  | .ndt7 =>
    { options := listenOptions ++
        [{ long := "duration", env := some "JSPERF_NDT7_DURATION", value := some .number }] }

/-- What was said about listening. -/
def ListenArgs.ofValues (vs : List (String × Value)) : ListenArgs where
  address := (Values.ip? "address" vs).getD (.v4 ⟨127, 0, 0, 1⟩)
  port := Values.number? "port" vs
  cert := (Values.text? "cert" vs).getD "testdata/cert.pem"
  key := (Values.text? "key" vs).getD "testdata/key.pem"
  maxSize := Values.number? "max-size" vs
  drainTimeout := (Values.number? "drain-timeout" vs).getD 5

/-- What was said about splitting. -/
def policyOfValues (vs : List (String × Value)) : SplitPolicy :=
  let standard : SplitPolicy := {}
  ⟨(Values.number? "split-threshold" vs).getD standard.threshold,
    (Values.number? "target-partition" vs).getD standard.targetPartition,
    (Values.number? "max-streams" vs).getD standard.maxStreams⟩

/-- The command of a mode with its values. -/
def Command.ofValues (mode : Server.Mode) (vs : List (String × Value)) : Command :=
  let listen := ListenArgs.ofValues vs
  match mode with
  | .http1 => .http1 listen
  | .http2 =>
    let policy := policyOfValues vs
    .http2 ⟨listen, (Values.streams? "streams" vs).getD .auto, policy.threshold, policy.targetPartition,
      policy.maxStreams, (Values.number? "window-size" vs).getD Server.defaultWindowSize⟩
  | .ndt7 => .ndt7 ⟨listen, (Values.number? "duration" vs).getD 10⟩

def modeOf? (name : String) : Option Server.Mode :=
  [Server.Mode.http1, .http2, .ndt7].find? (·.text == name)

/-- A request for help on a command: it may name one more command, which must exist. -/
def helpOn : List String → ArgError
  | [] => .displayHelp
  | [name] => if name = "help" ∨ (modeOf? name).isSome then .displayHelp else .invalidSubcommand
  | _ => .invalidSubcommand

/-- A bare argument behind the double dash, where a mode should have been. -/
def misplaced (name : String) : ArgError :=
  if name = "help" ∨ (modeOf? name).isSome then .unknownArgument else .invalidSubcommand

/-- Read the arguments of the server: options that ask for help or the version, then the mode, then the
options of the mode. -/
def parseServer (env : List (String × String)) : List String → Except ArgError Command
  | [] => .error .displayHelpOnMissingArgumentOrSubcommand
  | "--" :: [] => .error .displayHelpOnMissingArgumentOrSubcommand
  | "--" :: name :: _ => .error (misplaced name)
  | "help" :: names => .error (helpOn names)
  | arg :: args =>
    match modeOf? arg with
    | some mode => (scan (commandOf mode) env args).map (Command.ofValues mode)
    | none =>
      match arg.toList with
      | '-' :: _ :: _ =>
        -- No option of the whole server lets the scan go on.
        match Scan.start.argument { options := [], hasVersion := true } arg.toList with
        | .error e => .error e
        | .ok _ => .error .unknownArgument
      | _ => .error .invalidSubcommand

end Goodput.Cli
