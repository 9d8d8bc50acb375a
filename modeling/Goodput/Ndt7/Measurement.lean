import Goodput.Json.Read
import Goodput.Json.Render
import Goodput.Span
/-!
# Measurement messages

During a session both sides may exchange measurements as JSON text. All four members are optional. The
server writes its measurements with `Measurement.text`; `Measurement.parse?` reads one from a peer.

A reader takes members in any order and ignores those it does not know, but a member it knows may come
only once. An array is taken for an object whose members come in the order of the declaration; the outer
one may end early.
-/

namespace Goodput.Ndt7

/-- The numbers of the application: microseconds since the start, and bytes. -/
structure AppInfo where
  elapsedTime : Int
  numBytes : Int
deriving Repr, DecidableEq, Inhabited

/-- The two ends of the connection and the name of the session. -/
structure ConnectionInfo where
  client : String
  server : String
  uuid : String
deriving Repr, DecidableEq, Inhabited

structure Measurement where
  appInfo : Option AppInfo
  connectionInfo : Option ConnectionInfo
  origin : Option String
  test : Option String
deriving Repr, DecidableEq, Inhabited

/-- The largest number that a measurement holds. -/
def maxNumber : Nat := Nat.pow 2 63 - 1

/-- The integers that a measurement holds. -/
def fitsNumber (i : Int) : Bool := decide (-(maxNumber : Int) - 1 ≤ i) && decide (i ≤ maxNumber)

/-! ## Writing -/

def AppInfo.toJson (a : AppInfo) : Json :=
  .ofMembers [("ElapsedTime", .int a.elapsedTime), ("NumBytes", .int a.numBytes)]

def ConnectionInfo.toJson (c : ConnectionInfo) : Json :=
  .ofMembers [("Client", .text c.client), ("Server", .text c.server), ("UUID", .text c.uuid)]

namespace Measurement

/-- A measurement as JSON; what is absent is left out. -/
def toJson (m : Measurement) : Json :=
  .ofMembers (Json.optional "AppInfo" (m.appInfo.map AppInfo.toJson)
    ++ Json.optional "ConnectionInfo" (m.connectionInfo.map ConnectionInfo.toJson)
    ++ Json.optional "Origin" (m.origin.map Json.text)
    ++ Json.optional "Test" (m.test.map Json.text))

def text (m : Measurement) : String := m.toJson.toText

/-- A measurement of the server: microseconds and bytes are capped at the largest number. -/
def server (test : String) (elapsed : Span) (bytes : Nat) (connectionInfo : Option ConnectionInfo) :
    Measurement where
  appInfo := some ⟨(min elapsed.micros maxNumber : Nat), (min bytes maxNumber : Nat)⟩
  connectionInfo := connectionInfo
  origin := some "server"
  test := some test

end Measurement

/-! ## Reading -/

/-- The members of an object under the names that are known, in the order of these names. No name may be
without a text, and no known name may come twice. -/
def knownMembers? (names : List String) (members : List (Option String × Json)) :
    Option (List (Option Json)) :=
  if members.all fun m => m.1.isSome then
    names.mapM fun name =>
      match members.filter fun m => m.1 == some name with
      | [] => some none
      | [(_, v)] => some (some v)
      | _ => none
  else none

/-- The values for the known names, from an object or from an array in the order of the names. -/
def fields? (names : List String) : Json → Option (List (Option Json))
  | .object members => knownMembers? names members
  | .array items =>
    if items.length ≤ names.length then
      some (items.map some ++ List.replicate (names.length - items.length) none)
    else none
  | _ => none

/-- A number that a measurement holds. -/
def number? : Json → Option Int
  | .number literal =>
    match Json.integer? literal with
    | some i => if fitsNumber i then some i else none
    | none => none
  | _ => none

/-- A string that has a text. -/
def text? : Json → Option String
  | .string s => s
  | _ => none

/-- An optional value: missing, null, or what `read` makes of it. -/
def optional? {α : Type} (read : Json → Option α) : Option Json → Option (Option α)
  | none => some none
  | some .null => some none
  | some v => (read v).map some

def AppInfo.ofJson? (v : Json) : Option AppInfo :=
  match fields? ["ElapsedTime", "NumBytes"] v with
  | some [some a, some b] => do
    let a ← number? a
    let b ← number? b
    pure ⟨a, b⟩
  | _ => none

def ConnectionInfo.ofJson? (v : Json) : Option ConnectionInfo :=
  match fields? ["Client", "Server", "UUID"] v with
  | some [some a, some b, some c] => do
    let a ← text? a
    let b ← text? b
    let c ← text? c
    pure ⟨a, b, c⟩
  | _ => none

namespace Measurement

def ofJson? (v : Json) : Option Measurement :=
  match fields? ["AppInfo", "ConnectionInfo", "Origin", "Test"] v with
  | some [a, c, o, t] => do
    let a ← optional? AppInfo.ofJson? a
    let c ← optional? ConnectionInfo.ofJson? c
    let o ← optional? text? o
    let t ← optional? text? t
    pure ⟨a, c, o, t⟩
  | _ => none

def parse? (s : String) : Option Measurement := (Json.parse? s).bind ofJson?

end Measurement

end Goodput.Ndt7
