import Goodput.Net.Address
import Goodput.Span
import Goodput.Split.Policy
/-!
# Server settings

A server runs in one of three modes. The mode decides the port, the application protocols offered
during the handshake, and the defaults of everything else.
-/

namespace Goodput.Server

/-- What a server serves. -/
inductive Mode where
  /-- Transfers of a given size over HTTP/1.1. -/
  | http1
  /-- Transfers of a given size over HTTP/2, which may be split. -/
  | http2
  /-- Sessions over a window of time on WebSocket. -/
  | ndt7
deriving Repr, DecidableEq, Inhabited

namespace Mode

def text : Mode → String
  | .http1 => "http1"
  | .http2 => "http2"
  | .ndt7 => "ndt7"

/-- The port of a mode, if none is asked for. -/
def defaultPort : Mode → Nat
  | .http1 => 4443
  | .http2 => 4444
  | .ndt7 => 4567

/-- The application protocols that a mode offers during the handshake. -/
def alpn : Mode → List String
  | .http1 | .ndt7 => ["http/1.1"]
  | .http2 => ["h2"]

end Mode

/-- The largest flow-control window that HTTP/2 allows. -/
def maxWindowSize : Nat := 2147483647

/-- The flow-control window of HTTP/2 connections, if none is asked for. -/
def defaultWindowSize : Nat := 1073741824

structure Settings where
  mode : Mode
  addr : SocketAddress
  cert : String
  key : String
  /-- Larger transfers are refused. -/
  maxSize : Option Nat
  /-- How long open connections may go on after a shutdown. -/
  drainTimeout : Span
  split : SplitPolicy
  /-- The stream count of split plans that name none. -/
  streams : StreamCount
  /-- The flow-control window of HTTP/2, where it is set at all. -/
  h2Window : Option Nat
  ndt7Window : Span
deriving Repr, DecidableEq, Inhabited

namespace Settings

/-- The defaults of a mode, on the local host. -/
def forMode (mode : Mode) : Settings where
  mode := mode
  addr := .v4 ⟨127, 0, 0, 1⟩ mode.defaultPort
  cert := "testdata/cert.pem"
  key := "testdata/key.pem"
  maxSize := none
  drainTimeout := .ofSecs 5
  split := {}
  streams := .auto
  h2Window := if mode = .http2 then some defaultWindowSize else none
  ndt7Window := .ofSecs 10

end Settings

/-- What each connection needs to know of the settings. -/
structure ConnOptions where
  h2Window : Option Nat
  drainTimeout : Span
deriving Repr, DecidableEq, Inhabited

/-- The options of a connection that no settings apply to. -/
def ConnOptions.standard : ConnOptions := ⟨none, .ofSecs 5⟩

/-- The options that settings give to each connection. -/
def Settings.connOptions (s : Settings) : ConnOptions := ⟨s.h2Window, s.drainTimeout⟩

end Goodput.Server
