import Goodput.Http.Field
import Goodput.Text.Decimal
import Goodput.Text.Utf8
/-!
# Percent encoding and form queries

A percent sign with two hexadecimal digits stands for a byte; one without them stands for itself. A
query is a row of name and value pairs in the form encoding, where a plus sign stands for a blank.
-/

namespace Goodput.Http

/-- The bytes that percent-encoded text stands for. -/
def percentDecode : ByteText → List UInt8
  | [] => []
  | '%' :: a :: b :: rest =>
    match Decimal.hexValue? a, Decimal.hexValue? b with
    | some x, some y => UInt8.ofNat (x * 16 + y) :: percentDecode rest
    | _, _ => 0x25 :: percentDecode (a :: b :: rest)
  | c :: rest => UInt8.ofNat c.toNat :: percentDecode rest
  termination_by t => t.length

/-- The text of one half of a pair: bytes that are not UTF-8 are replaced. -/
def formText (t : ByteText) : String :=
  Utf8.decodeLossy (percentDecode (t.map fun c => if c = '+' then ' ' else c))

/-- The pairs of a query. Empty pieces do not count; a piece without an equals sign has an empty value. -/
def formPairs (query : ByteText) : List (String × String) :=
  ((Text.splitAll '&' query).filter fun piece => !piece.isEmpty).map fun piece =>
    match Text.splitFirst '=' piece with
    | some (name, value) => (formText name, formText value)
    | none => (formText piece, "")

end Goodput.Http
