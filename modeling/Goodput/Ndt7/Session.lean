import Goodput.Endpoint
import Goodput.Ndt7.Measurement
import Goodput.Ndt7.Sizer
/-!
# Sessions over a window of time

A download session floods the client with binary messages whose size adapts, and now and then puts a
measurement between them. An upload session counts what the client sends. Both end when the window does,
when the server shuts down, or when the client goes away, and both close with a close frame.

What the network and the clock do is an argument: a download session is a row of turns, each saying how
the calls of one round came out, and an upload session is the row of messages received. The byte count
that is reported follows from them.

A binary message counts once it is flushed. If the window's end or a shutdown cuts its flush short, it is
still in the queue, and counts if the close frame behind it is flushed. No session moves as many bytes as a word
can count, so its meter tallies them.
-/

namespace Goodput.Ndt7

/-- The time between two measurements of the server. -/
def measurementInterval : Span := .ofMillis 250

/-- No message from a client may be larger than this. -/
def maxReadMessageSize : Nat := 16777216

/-- What the events of a session say. -/
def sessionTag (direction : Direction) (window : Span) (conn : Conn) : TransferTag :=
  ⟨⟨.window window, direction, .webSocket⟩, none, conn⟩

/-! ## Download -/

/-- How a flush came out. -/
inductive Flush where
  | done
  /-- The window ended or the server shuts down; what is queued stays queued. -/
  | cut
  /-- The connection is broken; what is queued never leaves. -/
  | broken
deriving Repr, DecidableEq, Inhabited

/-- One round of a download session: the clock readings in it and how its calls came out. A round takes
place only while the window is open, the client is there and the server is not shutting down. -/
structure Turn where
  /-- The reading that decides whether a measurement is due. -/
  now : Instant
  /-- The reading for the sample. -/
  sampledAt : Instant
  /-- The reading for the measurement. -/
  measuredAt : Instant
  /-- The measurement could be written out and queued. -/
  textQueued : Bool
  /-- The binary message could be queued. -/
  binaryQueued : Bool
  /-- How the flush of the binary message came out. -/
  flush : Flush
deriving Repr, DecidableEq, Inhabited

inductive Fate where
  | unqueued
  | flushed
  | cut
  | broken
deriving Repr, DecidableEq, Inhabited

structure SentMessage where
  size : Nat
  fate : Fate
deriving Repr, DecidableEq, Inhabited

/-- A download session under way. -/
structure Download where
  tag : TransferTag
  meter : Meter TransferTag
  sizer : MessageSizer
  /-- The length of the binary message in use. -/
  message : Nat
  /-- The bytes that are queued and not flushed. -/
  pending : Nat
  /-- When the next measurement is due. -/
  nextMeasurement : Instant
  /-- Goes out with the first measurement. -/
  connectionInfo : Option ConnectionInfo
  log : List Event
  /-- The measurements that were made, in order. -/
  measurements : List Measurement
  /-- The binary messages, in order. -/
  messages : List SentMessage
deriving Repr, DecidableEq, Inhabited

namespace Download

/-- A session that begins: the request is logged and the clock is started. -/
def start (window : Span) (conn : Conn) (uuid : String) (now : Instant) : Download :=
  let tag := sessionTag .download window conn
  { tag := tag
    meter := tag.meter.touch now
    sizer := .standard
    message := MessageSizer.standard.size
    pending := 0
    nextMeasurement := now.after measurementInterval
    connectionInfo := some ⟨conn.remote.text, conn.localAddr.text, uuid⟩
    log := [tag.received]
    measurements := []
    messages := [] }

def due (t : Turn) (s : Download) : Bool := t.now.reached s.nextMeasurement

/-- Log a sample and make a measurement of the same count. -/
def measure (t : Turn) (s : Download) : Download :=
  { s with
    nextMeasurement := s.nextMeasurement.after measurementInterval
    log := s.log ++
      [.ndt7Sample s.tag.conn .download s.meter.bytes (s.meter.elapsed t.sampledAt) s.sizer.size]
    measurements := s.measurements ++
      [.server "download" (s.meter.elapsed t.measuredAt) s.meter.bytes s.connectionInfo]
    connectionInfo := none }

/-- Note what became of the binary message in use. -/
def sent (fate : Fate) (s : Download) : Download :=
  { s with messages := s.messages ++ [⟨s.message, fate⟩] }

/-- Let the message size follow the bytes that were sent. -/
def adapt (s : Download) : Download :=
  let (changed, sizer) := s.sizer.observe s.meter.bytes
  if changed then { s with sizer := sizer, message := sizer.size } else { s with sizer := sizer }

/-- Send the binary message in use: whether the session goes on, and the session afterwards. -/
def send (t : Turn) (s : Download) : Bool × Download :=
  if !t.binaryQueued then (false, s.sent .unqueued)
  else
    match t.flush with
    | .done =>
      let counted := { s.sent .flushed with meter := s.meter.tally t.now s.message, pending := 0 }
      (true, counted.adapt)
    | .cut => (false, { s.sent .cut with pending := s.message })
    | .broken => (false, { s.sent .broken with pending := 0 })

/-- One round: a measurement if one is due, then a binary message. -/
def turn (t : Turn) (s : Download) : Bool × Download :=
  if s.due t then
    let s := s.measure t
    if t.textQueued then s.send t else (false, s)
  else s.send t

/-- Go round until a round ends the session or there is none left. -/
def loop : List Turn → Download → Download
  | [], s => s
  | t :: ts, s =>
    let (goesOn, s) := s.turn t
    if goesOn then loop ts s else s

/-- Send the close frame. If it is flushed, so is what was queued in front of it. -/
def close (now : Instant) (flushed : Bool) (s : Download) : Download :=
  if flushed && decide (0 < s.pending) then { s with meter := s.meter.tally now s.pending } else s

/-- Report the end of the session. -/
def finish (now : Instant) (s : Download) : Download :=
  let (_, report, rest) := s.meter.finish now
  { s with meter := rest, log := s.log ++ reportEvents report ++ reportEvents (rest.dispose now) }

end Download

/-- What is given of a download session: its rounds, whether its close frame was flushed, and when it
began and ended. -/
structure DownloadRun where
  window : Span
  conn : Conn
  uuid : String
  start : Instant
  turns : List Turn
  closeFlushed : Bool
  stop : Instant
deriving Repr, DecidableEq, Inhabited

def DownloadRun.session (r : DownloadRun) : Download :=
  (((Download.start r.window r.conn r.uuid r.start).loop r.turns).close r.stop r.closeFlushed).finish r.stop

/-! ## Upload -/

inductive ClientMessage where
  | binary (size : Nat)
  | text (s : String)
  | ping
  | pong
  | close
deriving Repr, DecidableEq, Inhabited

/-- What ends the receiving, if no close message does. -/
inductive EndCause where
  | windowOver
  | shutdown
  | readError
  | streamOver
deriving Repr, DecidableEq, Inhabited

def ClientMessage.counted : ClientMessage → Nat
  | .binary size => size
  | .text s => s.utf8ByteSize
  | _ => 0

/-- Receive messages up to the first close message. -/
def receive (now : Instant) : List ClientMessage → Meter TransferTag → Meter TransferTag
  | [], m => m
  | .close :: _, m => m
  | .binary size :: rest, m => receive now rest (m.tally now size)
  | .text s :: rest, m => receive now rest (m.tally now s.utf8ByteSize)
  | .ping :: rest, m => receive now rest m
  | .pong :: rest, m => receive now rest m

/-- What is given of an upload session: the messages that came before its end, what ended it if no close
message did, and the clock readings. -/
structure UploadRun where
  window : Span
  conn : Conn
  start : Instant
  messages : List ClientMessage
  cause : EndCause
  sampledAt : Instant
  stop : Instant
deriving Repr, DecidableEq, Inhabited

/-- What a whole upload session logs and sends. -/
structure Upload where
  log : List Event
  measurements : List Measurement
deriving Repr, DecidableEq, Inhabited

/-- A whole upload session. One sample is logged at its end, and no measurement is sent. -/
def UploadRun.session (r : UploadRun) : Upload :=
  let tag := sessionTag .upload r.window r.conn
  let meter := receive r.start r.messages (tag.meter.touch r.start)
  let sample := Event.ndt7Sample r.conn .upload meter.bytes (meter.elapsed r.sampledAt) 0
  let (_, report, rest) := meter.finish r.stop
  { log := [tag.received, sample] ++ reportEvents report ++ reportEvents (rest.dispose r.stop)
    measurements := [] }

/-- The messages that a session reads: one that is too large is a read error, and nothing behind it is
read. -/
def readable (cause : EndCause) : List ClientMessage → List ClientMessage × EndCause
  | [] => ([], cause)
  | m :: rest =>
    if maxReadMessageSize < m.counted then ([], .readError)
    else
      let (ms, cause) := readable cause rest
      (m :: ms, cause)

end Goodput.Ndt7
