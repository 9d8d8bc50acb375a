import Goodput.Net.Address
/-!
# Server names

A client asks for a server by a name, which is a DNS name or an IP address, and accepts a certificate
only if it is for that name.
-/

namespace Goodput.Tls

inductive ServerName where
  | dns (name : List Char)
  | ip (a : IpAddress)
deriving Repr, DecidableEq, Inhabited

def maxLabelLength : Nat := 63

def maxNameLength : Nat := 253

/-- A character of a label. -/
def isLabelChar (c : Char) : Bool := c.isAlphanum || c == '_' || c == '-'

/-- A label of a DNS name: not empty, not too long, with no hyphen at either end. -/
def isLabel (label : List Char) : Bool :=
  !label.isEmpty && decide (label.length ≤ maxLabelLength) && label.all isLabelChar
    && label.head? != some '-' && label.getLast? != some '-'

/-- The labels of a name. A single dot at the end is no label of its own. -/
def labels (name : List Char) : List (List Char) :=
  let pieces := Text.splitAll '.' name
  if pieces.getLast? = some [] then pieces.dropLast else pieces

/-- A DNS name: at least one label, and the last of them is no number. -/
def isDnsName (name : List Char) : Bool :=
  let ls := labels name
  decide (name.length ≤ maxNameLength) && !ls.isEmpty && ls.all isLabel
    && !(ls.getLast?.any fun label => label.all Decimal.isDigit)

namespace ServerName

def parse? (s : String) : Option ServerName :=
  if isDnsName s.toList then some (.dns s.toList) else (IpAddress.parse? s).map .ip

/-- A certificate for these DNS names is one for this name. Case does not matter, nor does a dot at the
end. -/
def isCoveredBy (certified : List String) : ServerName → Bool
  | .dns name => certified.any fun c => (labels name).map Text.lowerAscii == (labels c.toList).map Text.lowerAscii
  | .ip _ => false

end ServerName

end Goodput.Tls
