import Goodput.Text.Blank
import Goodput.Text.Decimal
/-!
# Socket addresses

An endpoint of a connection is an IP address and a port; a version 6 endpoint may also name a scope.
This module holds the addresses, the reader for their texts and the canonical text of each.

The readers consume a text from the left and return what is left of it, so that the larger forms are
built from the smaller ones. A text is an address only if nothing is left.
-/

namespace Goodput

/-- The four octets of a version 4 address. -/
structure Ipv4 where
  a : Nat
  b : Nat
  c : Nat
  d : Nat
deriving Repr, DecidableEq, Inhabited

/-- The eight sixteen-bit groups of a version 6 address, most significant first. -/
structure Ipv6 where
  groups : List Nat
deriving Repr, DecidableEq, Inhabited

inductive IpAddress where
  | v4 (ip : Ipv4)
  | v6 (ip : Ipv6)
deriving Repr, DecidableEq, Inhabited

/-- An IP address with a port, and for version 6 a scope that is zero if none is named. -/
inductive SocketAddress where
  | v4 (ip : Ipv4) (port : Nat)
  | v6 (ip : Ipv6) (port : Nat) (scope : Nat)
deriving Repr, DecidableEq, Inhabited

/-! ## Writing -/

namespace Ipv4

/-- Four decimal octets with points between them. -/
def text (ip : Ipv4) : List Char :=
  let dot := ['.']
  Decimal.digits ip.a ++ dot ++ Decimal.digits ip.b ++ dot ++ Decimal.digits ip.c ++ dot ++ Decimal.digits ip.d

end Ipv4

namespace Ipv6

/-- The longest run of zero groups as start and length; of two equal ones the first. -/
def longestZeroRun (groups : List Nat) : Nat × Nat :=
  let starts := List.range groups.length
  starts.foldl (fun best i =>
    let n := ((groups.drop i).takeWhile (· == 0)).length
    if best.2 < n then (i, n) else best) (0, 0)

/-- Hexadecimal groups with colons between them. -/
def groupsText (groups : List Nat) : List Char :=
  [':'].intercalate (groups.map Decimal.hex)

/-- The canonical text: the longest run of two or more zero groups is written as two colons, and an
address that embeds a version 4 address ends in that address. -/
def text (ip : Ipv6) : List Char :=
  match ip.groups with
  | [0, 0, 0, 0, 0, 0xffff, hi, lo] =>
    "::ffff:".toList ++ (Ipv4.mk (hi / 256) (hi % 256) (lo / 256) (lo % 256)).text
  | groups =>
    let (start, n) := longestZeroRun groups
    if 1 < n then
      groupsText (groups.take start) ++ [':', ':'] ++ groupsText (groups.drop (start + n))
    else groupsText groups

end Ipv6

namespace IpAddress

/-- The canonical text of an address. -/
def text : IpAddress → String
  | .v4 ip => String.ofList ip.text
  | .v6 ip => String.ofList ip.text

def withPort (port : Nat) : IpAddress → SocketAddress
  | .v4 ip => .v4 ip port
  | .v6 ip => .v6 ip port 0

end IpAddress

namespace SocketAddress

/-- The canonical text: a version 6 address stands in brackets, with its scope if it has one. -/
def text : SocketAddress → String
  | .v4 ip port => String.ofList (ip.text ++ [':'] ++ Decimal.digits port)
  | .v6 ip port scope =>
    let inScope := if scope = 0 then [] else '%' :: Decimal.digits scope
    String.ofList (['['] ++ ip.text ++ inScope ++ [']', ':'] ++ Decimal.digits port)

def port : SocketAddress → Nat
  | .v4 _ port => port
  | .v6 _ port _ => port

end SocketAddress

/-! ## Reading -/

namespace Address

/-- Digits of a decimal number below `bound` at the start of a text, and the rest of it. -/
def decimal? (bound : Nat) (cs : List Char) : Option (Nat × List Char) :=
  (Decimal.parse? bound (cs.takeWhile Decimal.isDigit)).map fun n => (n, cs.dropWhile Decimal.isDigit)

/-- One octet: at most three digits, with no zero in front of another digit. -/
def octet? (cs : List Char) : Option (Nat × List Char) :=
  match cs.takeWhile Decimal.isDigit with
  | '0' :: _ :: _ => none
  | ds => if ds.length ≤ 3 then decimal? 256 cs else none

/-- The rest of a text after one given character. -/
def char? (c : Char) : List Char → Option (List Char)
  | [] => none
  | d :: cs => if d = c then some cs else none

def ipv4? (cs : List Char) : Option (Ipv4 × List Char) := do
  let (a, cs) ← octet? cs
  let cs ← char? '.' cs
  let (b, cs) ← octet? cs
  let cs ← char? '.' cs
  let (c, cs) ← octet? cs
  let cs ← char? '.' cs
  let (d, cs) ← octet? cs
  pure (⟨a, b, c, d⟩, cs)

/-- A hexadecimal digit of either case. -/
def isHexDigit (c : Char) : Bool := (Decimal.hexValue? c).isSome

/-- One sixteen-bit group: one to four hexadecimal digits. -/
def group? (cs : List Char) : Option (Nat × List Char) :=
  let ds := cs.takeWhile isHexDigit
  if ds.isEmpty || decide (4 < ds.length) then none
  else
    let n := ds.foldl (fun acc c => acc * 16 + (Decimal.hexValue? c).getD 0) 0
    some (n, cs.dropWhile isHexDigit)

/-- At most `limit` groups with colons between them, of which the last two may be written as a version
4 address, with the rest of the text and whether such an address ended them. -/
def groups (first : Bool) : Nat → List Char → List Nat × Bool × List Char
  | 0, cs => ([], false, cs)
  | limit + 1, cs =>
    match if first then some cs else char? ':' cs with
    | none => ([], false, cs)
    | some after =>
      match if 0 < limit then ipv4? after else none with
      | some (ip, rest) => ([ip.a * 256 + ip.b, ip.c * 256 + ip.d], true, rest)
      | none =>
        match group? after with
        | none => ([], false, cs)
        | some (n, rest) =>
          let (more, embedded, rest) := groups false limit rest
          (n :: more, embedded, rest)

/-- A version 6 address at the start of a text. Two colons stand for the zero groups that are missing;
at least one is, and an embedded version 4 address cannot come before them. -/
def ipv6? (cs : List Char) : Option (Ipv6 × List Char) :=
  let (before, embedded, rest) := groups true 8 cs
  if before.length = 8 then some (⟨before⟩, rest)
  else if embedded then none
  else
    match rest with
    | ':' :: ':' :: rest =>
      let (after, _, rest) := groups true (7 - before.length) rest
      let zeros := List.replicate (8 - before.length - after.length) 0
      some (⟨before ++ zeros ++ after⟩, rest)
    | _ => none

/-- The value, if nothing of the text is left. -/
def whole {α : Type} : Option (α × List Char) → Option α
  | some (a, []) => some a
  | _ => none

/-- A scope in front of the closing bracket. -/
def scope? : List Char → Option (Nat × List Char)
  | '%' :: cs => decimal? UInt32.size cs
  | cs => some (0, cs)

/-- A colon and a port. -/
def port? (cs : List Char) : Option (Nat × List Char) :=
  (char? ':' cs).bind (decimal? UInt16.size)

end Address

/-- Read the text of a version 4 address; the longest one has fifteen characters. -/
def Ipv4.parse? (cs : List Char) : Option Ipv4 :=
  if cs.length ≤ 15 then Address.whole (Address.ipv4? cs) else none

/-- Read the text of an address of either version. -/
def IpAddress.parse? (s : String) : Option IpAddress :=
  match Ipv4.parse? s.toList with
  | some ip => some (.v4 ip)
  | none => (Address.whole (Address.ipv6? s.toList)).map .v6

/-- Read an address with its port: the version 6 form has the address in brackets. -/
def SocketAddress.parse? (s : String) : Option SocketAddress :=
  match s.toList with
  | '[' :: cs => do
    let (ip, cs) ← Address.ipv6? cs
    let (scope, cs) ← Address.scope? cs
    let cs ← Address.char? ']' cs
    let port ← Address.whole (Address.port? cs)
    pure (.v6 ip port scope)
  | cs => do
    let (ip, cs) ← Address.ipv4? cs
    let port ← Address.whole (Address.port? cs)
    pure (.v4 ip port)

end Goodput
