import Goodput.Event
/-!
# Log records

A log record has a level, a message and named fields. Events become records by `LogRecord.ofEvent`: the
message is the event's line, the fields repeat what the line shows. A transfer that moved less than it
had to is a warning that names what was expected.
-/

namespace Goodput

/-- How much attention a record asks for. -/
inductive LogLevel where
  | debug
  | info
  | warn
deriving Repr, DecidableEq, Inhabited

def LogLevel.text : LogLevel → String
  | .debug => "DEBUG"
  | .info => "INFO"
  | .warn => "WARN"

inductive LogValue where
  | number (n : Nat)
  | text (s : String)
deriving Repr, DecidableEq, Inhabited

/-- One record of a log. -/
structure LogRecord where
  level : LogLevel
  message : String
  fields : List (String × LogValue)
deriving Repr, DecidableEq, Inhabited

namespace LogRecord

/-- The expected byte count of an outcome as a field shows it. -/
def expectedText : Option Nat → String
  | none => "None"
  | some n => s!"Some({n})"

/-- The fields that name a connection. -/
def connFields (conn : Conn) : List (String × LogValue) :=
  [("conn", .number conn.id), ("remote", .text conn.remote.text)]

/-- The record of a finished transfer. -/
def ofOutcome (o : TransferOutcome) : LogRecord :=
  let line := (Event.requestDone o).line
  let moved := connFields o.conn ++ [("bytes", .number o.stats.bytes)]
  let elapsed := [("elapsed_ms", LogValue.number o.stats.elapsed.loggedMillis)]
  if o.isComplete then ⟨.info, line, moved ++ elapsed⟩
  else ⟨.warn, line ++ " (short transfer)", moved ++ [("expected", .text (expectedText o.expected))] ++ elapsed⟩

def ofEvent (e : Event) : LogRecord :=
  match e with
  | .connNew conn => ⟨.info, e.line, connFields conn ++ [("alpn", .text conn.alpn)]⟩
  | .connClosed conn lifetime =>
    ⟨.info, e.line, connFields conn ++ [("lifetime_ms", .number lifetime.loggedMillis)]⟩
  | .connError conn _ => ⟨.warn, e.line, connFields conn⟩
  | .handshakeFailed remote _ => ⟨.warn, e.line, [("remote", .text remote.text)]⟩
  | .requestReceived request _ conn =>
    ⟨.info, e.line,
      connFields conn ++ [("alpn", .text conn.alpn), ("proto", .text request.protocol.text)]⟩
  | .requestDone o => ofOutcome o
  | .ndt7Sample conn _ _ _ _ => ⟨.debug, e.line, [("conn", .number conn.id)]⟩

end LogRecord

end Goodput
