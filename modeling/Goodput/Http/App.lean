import Goodput.Http.Download
import Goodput.Http.Percent
import Goodput.Http.SplitPlan
import Goodput.Http.Upload
import Goodput.LogRecord
import Goodput.Server.Settings
/-!
# The application

`App.answer` takes a request to its route and answers it. The mode of the server decides which routes
there are; a route decides which methods it serves. Every answer may be read from pages of any origin, so
it carries the fields of the cross-origin protocol, and an `OPTIONS` request is always a question about
that protocol.

A reply holds what was logged before its head was ready. The rest, if there is content to read, follows
from how far it is read (`Reply.deliver`).
-/

namespace Goodput.Http

/-- The routes of all modes. -/
inductive Route where
  /-- Downloads and uploads; the segment spells the size. -/
  | transfer (segment : ByteText)
  /-- Split plans; the segment spells the size. -/
  | splitPlan (segment : ByteText)
  /-- Sessions over a window of time. -/
  | session (direction : Direction)
deriving Repr, DecidableEq, Inhabited

namespace Route

/-- The route that a path leads to in a mode. -/
def ofPath? (mode : Server.Mode) (path : ByteText) : Option Route :=
  match mode with
  | .ndt7 =>
    if path = "/ndt/v7/download".toList then some (.session .download)
    else if path = "/ndt/v7/upload".toList then some (.session .upload)
    else none
  | _ =>
    match lastSegment? "/api/" path with
    | some segment => some (.transfer segment)
    | none => (lastSegment? "/api/split/" path).map .splitPlan

/-- The methods that a route serves. -/
def methods : Route → List String
  | .transfer _ => ["GET", "HEAD", "PUT"]
  | _ => ["GET", "HEAD"]

end Route

/-! ## Replies -/

/-- What there is to read behind the head of a reply. -/
inductive Content where
  | none
  | payload (body : DownloadBody)
  | json (text : String)
  /-- A short text about a request that could not be taken apart. -/
  | notice (text : String)
deriving Repr, DecidableEq, Inhabited

/-- The answer to a request. -/
structure Reply where
  head : Head
  content : Content
  /-- What was logged until the head was ready. -/
  events : List Event
  records : List LogRecord
deriving Repr, DecidableEq, Inhabited

/-- What a reader of a reply got. -/
structure Delivery where
  /-- The lengths of the frames that were read. -/
  frames : List Nat
  /-- The reader came to the end. -/
  ended : Bool
  /-- All events until the reply was read or dropped. -/
  events : List Event
deriving Repr, DecidableEq, Inhabited

namespace Reply

/-- A reply without content. -/
def bare (head : Head) : Reply := ⟨head, .none, [], []⟩

def refusal (e : ApiError) : Reply := bare (.ofError e)

/-- The refusal of a request that could not be taken apart. -/
def notice (status : Nat) (text : String) : Reply :=
  ⟨⟨status, [("content-type", "text/plain; charset=utf-8"), ("content-length", toString text.utf8ByteSize)]⟩,
    .notice text, [], []⟩

/-- The reply without its content, as to a request for the head alone. A payload that nobody reads is
closed at once. -/
def headOnly (now : Instant) (r : Reply) : Reply :=
  match r.content with
  | .payload body => { r with content := .none, events := r.events ++ body.close now }
  | _ => { r with content := .none }

/-- The frames of content that is there as a whole. -/
def textFrames (text : String) : List Nat := if text.utf8ByteSize = 0 then [] else [text.utf8ByteSize]

/-- Read a reply: at most so many frames, or all of them, and then drop it. -/
def deliver (now : Instant) (reads : Option Nat) (r : Reply) : Delivery :=
  let count (all : Nat) : Nat := reads.getD all
  let finish (frames : List Nat) (events : List Event) : Delivery :=
    ⟨frames, reads.all fun n => decide (frames.length < n), events⟩
  match r.content with
  | .none => finish [] r.events
  | .json text | .notice text => finish ((textFrames text).take (count 1)) r.events
  | .payload body =>
    let (frames, body) := body.read now (count body.readsToEnd)
    finish frames (r.events ++ body.close now)

end Reply

/-! ## Routes -/

/-- The text of a path segment: its percent encoding undone. -/
def segmentText? (segment : ByteText) : Option String := Utf8.decode? (percentDecode segment)

/-- A request that was refused for its size leaves a note in the log. -/
def rejected (direction : Direction) (conn : Conn) (e : SizeError) : LogRecord :=
  ⟨.debug, s!"rejected {direction.text}: {e.message}", [("conn", .number conn.id)]⟩

/-- The refusal of a transfer; one for its size is logged. -/
def refuseTransfer (direction : Direction) (conn : Conn) : ApiError → Reply
  | .size e => { Reply.refusal (.size e) with records := [rejected direction conn e] }
  | e => .refusal e

def download (limit : Option Nat) (conn : Conn) (sizeText : String) (req : Request) : Reply :=
  match Download.accept limit req.version.protocol conn sizeText (fieldValue? "range" req.fields) with
  | .error e => refuseTransfer .download conn e
  | .ok d => ⟨d.head, .payload (.ofDownload d), [d.tag.received], []⟩

/-- Answer an upload, after its body is received. A body that breaks is logged. -/
def upload (now : Instant) (limit : Option Nat) (conn : Conn) (sizeText : String) (req : Request) : Reply :=
  match Upload.accept limit req.version.protocol conn sizeText (fieldValue? "content-range" req.fields) with
  | .error e => refuseTransfer .upload conn e
  | .ok u =>
    let received := u.receive now req.body
    let records := received.failure.toList.map fun message =>
      (⟨.warn, "upload body failed: " ++ message, [("conn", .number conn.id), ("bytes", .number received.bytes)]⟩ :
        LogRecord)
    ⟨received.head, .none, received.events, records⟩

/-- The stream count in a query: at most one. -/
def streamsInQuery? (query : ByteText) : Option (Option String) :=
  match (formPairs query).filter (·.1 == "streams") with
  | [] => some none
  | [(_, value)] => some (some value)
  | _ => none

/-- The bytes of the body that the handler of a request asks for: none, unless it accepts an upload. -/
def bodyWanted (settings : Server.Settings) (conn : Conn) (req : Request) : Nat :=
  match Route.ofPath? settings.mode req.target.path with
  | some (.transfer segment) =>
    let accepted := (segmentText? segment).bind fun sizeText =>
      (Upload.accept settings.maxSize req.version.protocol conn sizeText
        (fieldValue? "content-range" req.fields)).toOption
    if req.method = "PUT" then (accepted.map (·.length)).getD 0 else 0
  | _ => 0

def splitPlan (settings : Server.Settings) (sizeText : String) (streamsText : Option String) : Reply :=
  match SplitPlan.accept settings.maxSize settings.split settings.streams sizeText streamsText with
  | .error e => .refusal e
  | .ok plan =>
    let text := plan.toJson.toText
    ⟨⟨200, [("content-type", "application/json"), ("content-length", toString text.utf8ByteSize)]⟩,
      .json text, [], []⟩

/-- The refusal of a segment that does not decode to a text. -/
def badSegment : Reply := .notice 400 "Invalid URL: Invalid UTF-8 in `size`"

/-- The refusal of a request whose handler needs what the connection did not provide. -/
def missingConnection : Reply := .notice 500 "Missing connection information"

def transfer (settings : Server.Settings) (now : Instant) (conn? : Option Conn) (segment : ByteText)
    (req : Request) : Reply :=
  match conn?, segmentText? segment with
  | none, _ => missingConnection
  | some _, none => badSegment
  | some conn, some sizeText =>
    if req.method = "PUT" then upload now settings.maxSize conn sizeText req
    else download settings.maxSize conn sizeText req

/-- Answer a request on a split plan route. -/
def planFor (settings : Server.Settings) (segment : ByteText) (req : Request) : Reply :=
  match segmentText? segment with
  | none => badSegment
  | some sizeText =>
    match streamsInQuery? req.target.query with
    | none => .notice 400 "Failed to deserialize query string: duplicate field `streams`"
    | some streamsText => splitPlan settings sizeText streamsText

/-! ## Cross-origin access -/

namespace CrossOrigin

/-- The fields that every answer carries: any origin may read it. -/
def common : List (String × String) :=
  [("access-control-allow-origin", "*"),
    ("vary", "origin, access-control-request-method, access-control-request-headers")]

/-- The fields that let pages see the length and the range of an answer. -/
def exposed : List (String × String) :=
  [("access-control-expose-headers", "content-length,content-range")]

/-- The fields that answer a preflight question. -/
def preflight : List (String × String) :=
  [("access-control-allow-methods", "GET,PUT,OPTIONS"),
    ("access-control-allow-headers", "content-type,range,content-range")]

/-- The answer with the fields of the protocol. -/
def apply (r : Reply) : Reply := { r with head := r.head.extend (common ++ exposed) }

end CrossOrigin

/-! ## The whole application -/

/-- What the application makes of a request. -/
inductive Answer where
  | reply (r : Reply)
  /-- The request may become a session, if the connection can be taken over. -/
  | session (direction : Direction)
deriving Repr, DecidableEq, Inhabited

namespace App

/-- The path of a target belongs to the tree of routes. -/
def isRooted (path : ByteText) : Bool := path.head? == some '/'

/-- The fields that name the methods of a route. -/
def allowed (route : Route) : List (String × String) := [("allow", ",".intercalate route.methods)]

/-- Answer a preflight question, on whatever path. -/
def preflight (route? : Option Route) (path : ByteText) : Reply :=
  let fields := CrossOrigin.common ++ CrossOrigin.preflight
  match route? with
  | some route => .bare ((Head.empty 200).extend (allowed route ++ fields))
  | none => if isRooted path then .bare ⟨200, fields⟩ else .bare ((Head.empty 200).extend fields)

/-- The reply where no route is. -/
def notFound (path : ByteText) : Reply :=
  if isRooted path then .bare ⟨404, []⟩ else .bare (.empty 404)

def onRoute (settings : Server.Settings) (now : Instant) (conn? : Option Conn) (req : Request) :
    Route → Answer
  | .transfer segment => .reply (transfer settings now conn? segment req)
  | .splitPlan segment => .reply (planFor settings segment req)
  | .session direction => .session direction

/-- Answer a request before the fields of cross-origin access are added. -/
def onPath (settings : Server.Settings) (now : Instant) (conn? : Option Conn) (req : Request) : Answer :=
  match Route.ofPath? settings.mode req.target.path with
  | none => .reply (notFound req.target.path)
  | some route =>
    if route.methods.contains req.method then onRoute settings now conn? req route
    else .reply (.bare ((Head.empty 405).extend (allowed route)))

/-- Answer a request. A request for the head alone gets what `GET` would get, without the content. -/
def answer (settings : Server.Settings) (now : Instant) (conn? : Option Conn) (req : Request) : Answer :=
  if req.method = "OPTIONS" then
    .reply (preflight (Route.ofPath? settings.mode req.target.path) req.target.path)
  else
    match onPath settings now conn? req with
    | .session direction => .session direction
    | .reply r =>
      let r := CrossOrigin.apply r
      .reply (if req.method = "HEAD" then r.headOnly now else r)

/-- Answer a request that did not come over a connection which a session could take over. -/
def answerDetached (settings : Server.Settings) (now : Instant) (conn? : Option Conn) (req : Request) :
    Reply :=
  match answer settings now conn? req with
  | .reply r => r
  | .session _ =>
    let r := CrossOrigin.apply missingConnection
    if req.method = "HEAD" then r.headOnly now else r

end App

end Goodput.Http
