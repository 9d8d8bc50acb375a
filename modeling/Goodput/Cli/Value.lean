import Goodput.Net.Address
import Goodput.Split.StreamCount
/-!
# Values of command-line options

Every option has a kind of value. `ValueKind.read` turns the text of a value into that kind or says what
is wrong with it, in the words that the error message repeats.
-/

namespace Goodput.Cli

inductive ValueKind where
  | ip
  /-- A number below a bound that is smaller than 64 bits. -/
  | word (bound : Nat)
  /-- A 64-bit number. -/
  | number
  /-- A path; it cannot be empty. -/
  | path
  | text
  | streams
deriving Repr, DecidableEq, Inhabited

inductive Value where
  | ip (a : IpAddress)
  | number (n : Nat)
  | text (s : String)
  | streams (s : StreamCount)
  /-- The option stands there; it takes no value. -/
  | present
deriving Repr, DecidableEq, Inhabited

/-- What is wrong with the text of a value. -/
inductive ValueProblem where
  /-- The text is empty where it must not be. -/
  | empty
  | invalid (reason : String)
deriving Repr, DecidableEq, Inhabited

/-- What is wrong with a numeral. -/
inductive NumeralProblem where
  | empty
  | invalidDigit
  | tooLarge
  | tooSmall
deriving Repr, DecidableEq, Inhabited

def NumeralProblem.message : NumeralProblem → String
  | .empty => "cannot parse integer from empty string"
  | .invalidDigit => "invalid digit found in string"
  | .tooLarge => "number too large to fit in target type"
  | .tooSmall => "number too small to fit in target type"

/-- Append digits to a number from left to right; whichever comes first, a character that is no digit or
a value that reaches the bound, is the problem. -/
def appendDigits (bound : Nat) (excess : NumeralProblem) : Nat → List Char → Except NumeralProblem Nat
  | acc, [] => .ok acc
  | acc, c :: cs =>
    if !Decimal.isDigit c then .error .invalidDigit
    else
      let acc := Decimal.value [c] + acc * 10
      if acc < bound then appendDigits bound excess acc cs else .error excess

/-- Read digits whose value must be below a bound; `excess` is the problem if it is not. -/
def magnitude (bound : Nat) (excess : NumeralProblem) (cs : List Char) : Except NumeralProblem Nat :=
  if cs.isEmpty then .error .invalidDigit else appendDigits bound excess 0 cs

/-- Read a natural below a bound, with a plus sign or without. -/
def natural (bound : Nat) : List Char → Except NumeralProblem Nat
  | [] => .error .empty
  | '+' :: cs => magnitude bound .tooLarge cs
  | cs => magnitude bound .tooLarge cs

/-- Read a signed 64-bit integer. -/
def integer : List Char → Except NumeralProblem Int
  | [] => .error .empty
  | '+' :: cs => (magnitude (Nat.pow 2 63) .tooLarge cs).map Int.ofNat
  | '-' :: cs => (magnitude (Nat.pow 2 63 + 1) .tooSmall cs).map fun n => -(n : Int)
  | cs => (magnitude (Nat.pow 2 63) .tooLarge cs).map Int.ofNat

/-- Read a number that has to lie between zero and a bound. The text is read as a signed integer first. -/
def bounded (bound : Nat) (cs : List Char) : Except ValueProblem Nat :=
  match integer cs with
  | .error e => .error (.invalid e.message)
  | .ok i =>
    if 0 ≤ i ∧ i < bound then .ok i.toNat
    else .error (.invalid s!"{i} is not in 0..={bound - 1}")

def ValueKind.read (kind : ValueKind) (s : String) : Except ValueProblem Value :=
  match kind with
  | .ip =>
    match IpAddress.parse? s with
    | some a => .ok (.ip a)
    | none => .error (.invalid "invalid IP address syntax")
  | .word bound => (bounded bound s.toList).map .number
  | .number =>
    match natural UInt64.size s.toList with
    | .ok n => .ok (.number n)
    | .error e => .error (.invalid e.message)
  | .path => if s.isEmpty then .error .empty else .ok (.text s)
  | .text => .ok (.text s)
  | .streams =>
    match StreamCount.parse s with
    | .ok c => .ok (.streams c)
    | .error e => .error (.invalid e.message)

end Goodput.Cli
