import Goodput.Http.App
/-!
# Upgrades to sessions

A request for a session asks to turn the connection into a WebSocket and offers subprotocols, of which
one has to be that of the sessions. The checks have an order, and each has an answer of its own. Offers
may come in several fields and several to a field; a field that is no visible text is passed over.
`App.answerAttached` is the application together with these checks.
-/

namespace Goodput.Http

/-- The subprotocol that a client has to offer. -/
def subprotocol : String := "net.measurementlab.ndt.v7"

/-- The elements of a comma-separated field value, without the white space around them. -/
def listElements (text : String) : List String :=
  (Text.splitAll ',' text.toList).map fun piece => String.ofList (Text.trim piece)

/-- The subprotocol is among the offers. -/
def offersSubprotocol (offers : List ByteText) : Bool :=
  (offers.filterMap HeaderField.visibleText?).any fun text => (listElements text).contains subprotocol

/-- The first field of a name has this value, up to the case of ASCII letters. -/
def fieldIs (name value : String) (fields : List HeaderField) : Bool :=
  match fieldValue? name fields with
  | none => false
  | some v => Text.sameIgnoringCase v value.toList

def occursIn (part : List Char) : List Char → Bool
  | [] => part.isEmpty
  | c :: cs => part.isPrefixOf (c :: cs) || occursIn part cs

/-- The first field of a name contains this word, up to the case of ASCII letters. -/
def fieldContains (name word : String) (fields : List HeaderField) : Bool :=
  match fieldValue? name fields with
  | none => false
  | some v => occursIn word.toList (Text.lowerAscii v)

/-- The refusal of an upgrade, in the order of the checks, or nothing if it can go on. -/
def upgradeRefusal? (req : Request) : Option Reply :=
  if req.method ≠ "GET" then some (.notice 405 "Request method must be `GET`")
  else if !fieldContains "connection" "upgrade" req.fields then
    some (.notice 400 "Connection header did not include 'upgrade'")
  else if !fieldIs "upgrade" "websocket" req.fields then
    some (.notice 400 "`Upgrade` header did not include 'websocket'")
  else if (fieldValue? "sec-websocket-key" req.fields).isNone then
    some (.notice 400 "`Sec-WebSocket-Key` header missing")
  else if !fieldIs "sec-websocket-version" "13" req.fields then
    some (.notice 400 "`Sec-WebSocket-Version` header did not include '13'")
  else if req.version ≠ .http11 then
    some (.notice 426 "WebSocket request couldn't be upgraded since no upgrade state was present")
  else if !offersSubprotocol (fieldValues "sec-websocket-protocol" req.fields) then
    some (.bare (.empty 400))
  else none

/-- The head that accepts an upgrade. -/
def upgradeHead : Head := ⟨101, [("sec-websocket-protocol", subprotocol)]⟩

/-- Answer a request that came over a connection which a session may take over: with a reply, or with the
direction of the session that begins. -/
def App.answerAttached (settings : Server.Settings) (now : Instant) (conn : Conn) (req : Request) :
    Except Reply Direction :=
  match App.answer settings now (some conn) req with
  | .reply r => .error r
  | .session direction =>
    match upgradeRefusal? req with
    | none => .ok direction
    | some r =>
      let r := CrossOrigin.apply r
      .error (if req.method = "HEAD" then r.headOnly now else r)

/-- The request with which a client asks for a session, with its offers if it makes any. -/
def sessionRequest (path : ByteText) (offers : Option ByteText) : Request where
  method := "GET"
  target := .ofText path
  version := .http11
  fields := [⟨"connection", "Upgrade".toList⟩, ⟨"upgrade", "websocket".toList⟩,
    ⟨"sec-websocket-version", "13".toList⟩, ⟨"sec-websocket-key", "dGhlIHNhbXBsZSBub25jZQ==".toList⟩]
    ++ offers.toList.map fun value => ⟨"sec-websocket-protocol", value⟩
  body := []

end Goodput.Http
