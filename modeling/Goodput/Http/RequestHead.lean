import Goodput.Http.Request
import Goodput.Text.Decimal
/-!
# Request heads on the wire

A request head is a line with a method, a target and a version, then header fields of one line each, then
an empty line. Empty lines in front of it are passed over. Lines end in a line feed, with or without a
carriage return before it. `RequestHead.read` takes a head off the front of the bytes that have come; it
may find that more bytes are needed, or that no more bytes can make a head of these.
-/

namespace Goodput.Http

/-- Why a head is refused. -/
inductive HeadFault where
  | malformed
  | targetTooLong
  /-- Too many header fields, or one of them or the body is too long. -/
  | tooLarge
deriving Repr, DecidableEq, Inhabited

def HeadFault.status : HeadFault → Nat
  | .malformed => 400
  | .targetTooLong => 414
  | .tooLarge => 431

/-- What came of reading something off the front of some bytes. -/
inductive Reading (α : Type) where
  /-- More bytes are needed. -/
  | incomplete
  | refused (fault : HeadFault)
  | got (a : α) (rest : ByteText)
deriving Repr, DecidableEq, Inhabited

namespace Reading

variable {α β : Type}

/-- Go on behind what was read. -/
def andThen (r : Reading α) (next : α → ByteText → Reading β) : Reading β :=
  match r with
  | .incomplete => .incomplete
  | .refused fault => .refused fault
  | .got a rest => next a rest

def map (f : α → β) (r : Reading α) : Reading β := r.andThen fun a rest => .got (f a) rest

/-- Refuse what was read unless a condition holds. -/
def refuseUnless (fault : HeadFault) (isFine : α → Bool) (r : Reading α) : Reading α :=
  r.andThen fun a rest => if isFine a then .got a rest else .refused fault

end Reading

/-- What a client sent of a request before its body. -/
structure RequestHead where
  method : String
  target : ByteText
  version : Version
  fields : List HeaderField
deriving Repr, DecidableEq, Inhabited

namespace RequestHead

/-- No head has more header fields. -/
def maxFields : Nat := 100

/-- No target is longer. -/
def maxTargetLength : Nat := 65534

/-- Names of header fields are shorter. -/
def nameLengthBound : Nat := 65536

/-- A character of a method or of the name of a field. -/
def isTokenChar (c : Char) : Bool := c.isAlphanum || "!#$%&'*+-.^_\x60|~".contains c

/-- A character of a target: neither a blank nor a control. -/
def isTargetChar (c : Char) : Bool := decide ('!' ≤ c) && c != '\x7f'

/-- A character of the value of a field: no control but the tab. -/
def isValueChar (c : Char) : Bool := c == '\t' || (decide (' ' ≤ c) && c != '\x7f')

/-- A nonempty run of characters of a class, and the character behind it that has to be `stop`. -/
def runBefore (isFine : Char → Bool) (stop : Char) (t : ByteText) : Reading ByteText :=
  let run := t.takeWhile isFine
  match t.drop run.length with
  | [] => .incomplete
  | c :: rest => if c = stop && !run.isEmpty then .got run rest else .refused .malformed

/-- The end of a line. -/
def lineEnd : ByteText → Reading Unit
  | [] => .incomplete
  | ['\r'] => .incomplete
  | '\r' :: '\n' :: rest => .got () rest
  | '\n' :: rest => .got () rest
  | _ => .refused .malformed

/-- Pass over empty lines. -/
def skipEmptyLines : ByteText → Reading Unit
  | [] => .incomplete
  | ['\r'] => .incomplete
  | '\r' :: '\n' :: rest => skipEmptyLines rest
  | '\r' :: _ => .refused .malformed
  | '\n' :: rest => skipEmptyLines rest
  | t => .got () t

/-- The version at the end of a request line. The beginning of one waits for the rest. -/
def readVersion (t : ByteText) : Reading Version :=
  match Text.dropStart? "HTTP/1.1".toList t, Text.dropStart? "HTTP/1.0".toList t with
  | some rest, _ => .got .http11 rest
  | none, some rest => .got .http10 rest
  | none, none => if t.isPrefixOf "HTTP/1.".toList then .incomplete else .refused .malformed

/-- A target, which has to be UTF-8. -/
def readTarget (t : ByteText) : Reading ByteText :=
  (runBefore isTargetChar ' ' t).refuseUnless .malformed fun target =>
    (Utf8.decode? (ByteText.bytes target)).isSome

/-- The text without the blanks and tabs at its end. -/
def trimValueEnd (t : ByteText) : ByteText := (t.reverse.dropWhile fun c => c == ' ' || c == '\t').reverse

/-- The value of a header field, to the end of its line. -/
def fieldLineValue (t : ByteText) : Reading ByteText :=
  let t := t.dropWhile fun c => c == ' ' || c == '\t'
  let value := t.takeWhile isValueChar
  (lineEnd (t.drop value.length)).map fun _ => trimValueEnd value

def fieldLine (t : ByteText) : Reading HeaderField :=
  (runBefore isTokenChar ':' t).andThen fun name rest =>
    (fieldLineValue rest).map fun value => ⟨String.ofList name, value⟩

/-- The bytes go on with the end of a line, or may do so. -/
def atLineEnd : ByteText → Bool
  | [] => true
  | c :: _ => c == '\r' || c == '\n'

/-- The header fields up to the empty line, at most so many. -/
def fieldLines : Nat → ByteText → Reading (List HeaderField)
  | room, t =>
    if atLineEnd t then (lineEnd t).map fun _ => []
    else
      (fieldLine t).andThen fun field rest =>
        match room with
        | 0 => .refused .tooLarge
        | room + 1 => (fieldLines room rest).map (field :: ·)

/-- The lines of a head as they stand. -/
def lines (t : ByteText) : Reading RequestHead :=
  (skipEmptyLines t).andThen fun _ t =>
    (runBefore isTokenChar ' ' t).andThen fun method t =>
      (readTarget t).andThen fun target t =>
        (readVersion t).andThen fun version t =>
          (lineEnd t).andThen fun _ t =>
            (fieldLines maxFields t).map fun fields => ⟨String.ofList method, target, version, fields⟩

def read (t : ByteText) : Reading RequestHead :=
  (((lines t).refuseUnless .targetTooLong fun h => decide (h.target.length ≤ maxTargetLength)).refuseUnless .tooLarge
    fun h => h.fields.all fun f => decide (f.name.length < nameLengthBound)).refuseUnless .malformed
      fun h => Target.isWellFormed h.target

/-- Two line ends in a row, of the same kind. -/
def hasEmptyLine : ByteText → Bool
  | [] => false
  | c :: cs => "\r\n\r\n".toList.isPrefixOf (c :: cs) || "\n\n".toList.isPrefixOf (c :: cs) || hasEmptyLine cs

/-- Read the first head of a connection, of which the first `n` bytes come by themselves. If they do not
settle it, it is read again only once an empty line has come. -/
def readOpening (n : Nat) (t : ByteText) : Reading RequestHead :=
  match read (t.take n) with
  | .got head rest => .got head (rest ++ t.drop n)
  | .refused fault => .refused fault
  | .incomplete => if hasEmptyLine (t.drop (n - 3)) then read t else .incomplete

/-- The values of a field that are visible text, split at commas and without white space around them. -/
def listed (name : String) (h : RequestHead) : List (List ByteText) :=
  (fieldValues name h.fields).map fun value =>
    if value.all isVisible then (Text.splitAll ',' value).map Text.trim else []

/-- The client wants to send more requests over the connection, as the fields up to now say and the next
one may change. -/
def keptOpen (open? : Bool) (options : List ByteText) : Bool :=
  let has (word : String) : Bool := options.any fun o => Text.sameIgnoringCase o word.toList
  if open? then !has "close" else has "keep-alive"

/-- The client wants to send more requests over the connection. -/
def keepsOpen (h : RequestHead) : Bool :=
  (h.listed "connection").foldl keptOpen (h.version == .http11)

/-- The client waits for a go-ahead before it sends the body. -/
def expectsContinue (h : RequestHead) : Bool :=
  h.version == .http11 &&
    match (fieldValues "expect" h.fields).getLast? with
    | none => false
    | some value => Text.sameIgnoringCase value "100-continue".toList

/-- The request with a body. -/
def withBody (body : List BodyPart) (h : RequestHead) : Request :=
  ⟨h.method, .ofText h.target, h.version, h.fields, body⟩

end RequestHead

end Goodput.Http
