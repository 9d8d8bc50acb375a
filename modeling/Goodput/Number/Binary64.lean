import Goodput.Number.Rounding
import Goodput.Text.Decimal
/-!
# Binary floating point with 53 bits

Seconds and bit rates are computed in the binary64 format: every operation rounds its exact result to
53 significant bits, nearest first, ties to even. A value is kept as `significand * 2 ^ exponent`, so
each operation is exact arithmetic on naturals followed by one rounding (`ofQuotient`).

The quantities here run from a nanosecond to a few 10^29 bits a second, far inside the exponent range
of the format, so there is no overflow, no subnormal value and no infinity to deal with.
-/

namespace Goodput

/-- The value `significand * 2 ^ exponent`, where the significand is zero or has exactly 53 bits. -/
structure Binary64 where
  significand : Nat
  exponent : Int
deriving Repr, DecidableEq

namespace Binary64

def zero : Binary64 := ⟨0, 0⟩

/-- `num * 2 ^ shift` as a quotient of two naturals, over `den`. -/
def scaled (num den : Nat) (shift : Int) : Nat × Nat :=
  match shift with
  | .ofNat k => (num * Nat.pow 2 k, den)
  | .negSucc k => (num, den * Nat.pow 2 (k + 1))

/-- The binary64 nearest to `num / den`, ties to even. -/
def ofQuotient (num den : Nat) : Binary64 :=
  if num = 0 ∨ den = 0 then zero
  else
    -- The first guess leaves 53 or 54 bits before the point; one more halving settles it.
    let guess : Int := (Nat.log2 num : Int) - (Nat.log2 den : Int) - 53
    let fits (e : Int) : Bool :=
      let (n, d) := scaled num den (-e)
      decide (n / d < Nat.pow 2 53)
    let e := if fits guess then guess else guess + 1
    let (n, d) := scaled num den (-e)
    let m := Number.divNearest n d
    if m = Nat.pow 2 53 then ⟨Nat.pow 2 52, e + 1⟩ else ⟨m, e⟩

/-- The exact value as a quotient of two naturals. -/
def toQuotient (x : Binary64) : Nat × Nat := scaled x.significand 1 x.exponent

/-- The binary64 nearest to a natural number. -/
def ofNat (n : Nat) : Binary64 := ofQuotient n 1

def add (x y : Binary64) : Binary64 :=
  let (a, b) := x.toQuotient
  let (c, d) := y.toQuotient
  ofQuotient (a * d + c * b) (b * d)

def mul (x y : Binary64) : Binary64 :=
  let (a, b) := x.toQuotient
  let (c, d) := y.toQuotient
  ofQuotient (a * c) (b * d)

/-- The rounded quotient; zero where the divisor is zero. -/
def div (x y : Binary64) : Binary64 :=
  let (a, b) := x.toQuotient
  let (c, d) := y.toQuotient
  ofQuotient (a * d) (b * c)

/-- The 64 bits of the format: eleven of the biased exponent, then 52 of the significand. -/
def toBits (x : Binary64) : Nat :=
  if x.significand = 0 then 0
  else (x.exponent + 1075).toNat * Nat.pow 2 52 + (x.significand - Nat.pow 2 52)

/-- The bits as sixteen lowercase hexadecimal digits. -/
def toHex (x : Binary64) : String :=
  let ds := Decimal.hex x.toBits
  String.ofList (List.replicate (16 - ds.length) '0' ++ ds)

/-- The number with exactly so many decimals, at least one, rounded from the exact value, ties to even. -/
def toPlaces (places : Nat) (x : Binary64) : String :=
  let (a, b) := x.toQuotient
  let unit := Nat.pow 10 places
  let units := Number.divNearest (a * unit) b
  String.ofList (Decimal.digits (units / unit) ++ ['.'] ++ Decimal.padded places (units % unit))

/-- The number with exactly three decimals. -/
def toThreeDecimals (x : Binary64) : String := x.toPlaces 3

end Binary64

end Goodput
