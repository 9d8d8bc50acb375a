/-!
# Decimal numerals

Numbers are read from texts of ASCII digits under a bound that the caller names. Nothing wraps: a
numeral whose value does not fit is no numeral for that bound. `digits` writes the canonical numeral,
which has no leading zero.
-/

namespace Goodput.Decimal

/-- One of the ten ASCII digits. -/
def isDigit (c : Char) : Bool := decide ('0' ≤ c) && decide (c ≤ '9')

/-- The number that a row of digits denotes, most significant first. -/
def value (cs : List Char) : Nat := cs.foldl (fun acc c => acc * 10 + (c.toNat - 48)) 0

/-- A non-empty row of ASCII digits; leading zeros are allowed. -/
def isNumeral (cs : List Char) : Bool := !cs.isEmpty && cs.all isDigit

/-- Read a numeral whose value is below `bound`. -/
def parse? (bound : Nat) (cs : List Char) : Option Nat :=
  if isNumeral cs && decide (value cs < bound) then some (value cs) else none

/-- Read a numeral that may carry one leading plus sign. -/
def parseSigned? (bound : Nat) : List Char → Option Nat
  | '+' :: cs => parse? bound cs
  | cs => parse? bound cs

/-- The canonical numeral of a number. -/
def digits (n : Nat) : List Char := Nat.toDigits 10 n

/-- The canonical numeral of a number, padded with zeros at the left to `width` digits. -/
def padded (width n : Nat) : List Char :=
  List.replicate (width - (digits n).length) '0' ++ digits n

/-- The lowercase hexadecimal numeral of a number, without leading zeros. -/
def hex (n : Nat) : List Char := Nat.toDigits 16 n

/-- The value of a hexadecimal digit of either case. -/
def hexValue? (c : Char) : Option Nat :=
  if '0' ≤ c ∧ c ≤ '9' then some (c.toNat - 48)
  else if 'a' ≤ c ∧ c ≤ 'f' then some (c.toNat - 87)
  else if 'A' ≤ c ∧ c ≤ 'F' then some (c.toNat - 55)
  else none

end Goodput.Decimal
