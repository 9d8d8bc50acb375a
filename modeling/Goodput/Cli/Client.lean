import Goodput.Cli.Server
/-!
# The client's command line

The client runs one split transfer against a server. Its options about splitting are those of the
server, so that both can be told the same through the environment.
-/

namespace Goodput.Cli

structure ClientArgs where
  /-- Host and port of the server. -/
  addr : String
  /-- The name that the server's certificate has to be for. -/
  serverName : String
  /-- The file of the certificate to trust. -/
  ca : String
  size : Nat
  upload : Bool
  streams : StreamCount
  policy : SplitPolicy
  windowSize : Nat
deriving Repr, DecidableEq, Inhabited

def clientCommand : CommandSpec where
  hasVersion := true
  options := [
    { long := "addr", short := some 'A', env := some "JSPERF_SERVER", value := some .text },
    { long := "server-name", env := some "JSPERF_SERVER_NAME", value := some .text },
    { long := "ca", env := some "JSPERF_CA", value := some .path },
    { long := "size", short := some 's', value := some .number, required := true },
    { long := "upload" }] ++ splitOptions

def ClientArgs.ofValues (vs : List (String × Value)) : ClientArgs where
  addr := (Values.text? "addr" vs).getD "127.0.0.1:4444"
  serverName := (Values.text? "server-name" vs).getD "localhost"
  ca := (Values.text? "ca" vs).getD "testdata/cert.pem"
  size := (Values.number? "size" vs).getD 0
  upload := (Values.get? "upload" vs).isSome
  streams := (Values.streams? "streams" vs).getD .auto
  policy := policyOfValues vs
  windowSize := (Values.number? "window-size" vs).getD Server.defaultWindowSize

def parseClient (env : List (String × String)) (args : List String) : Except ArgError ClientArgs :=
  (scan clientCommand env args).map .ofValues

end Goodput.Cli
