import Goodput.Text.Decimal
import Goodput.Text.Quoted
/-!
# Transfer sizes

A transfer size is a decimal numeral of a 64-bit number, nothing else: no sign, no white space. An
endpoint may also limit how large a transfer may be.
-/

namespace Goodput

/-- Why a text is no acceptable transfer size. -/
inductive SizeError where
  | empty
  | invalid (text : String)
  | tooLarge (size limit : Nat)
deriving Repr, DecidableEq

def SizeError.message : SizeError → String
  | .empty => "missing transfer size"
  | .invalid text => "invalid transfer size " ++ Text.quote text
  | .tooLarge size limit => s!"transfer size {size} exceeds limit {limit}"

namespace Size

def parse (text : String) : Except SizeError Nat :=
  if text.isEmpty then .error .empty
  else
    match Decimal.parse? UInt64.size text.toList with
    | none => .error (.invalid text)
    | some n => .ok n

/-- Read a transfer size and hold it against a limit, if there is one. -/
def validate (limit : Option Nat) (text : String) : Except SizeError Nat :=
  match parse text with
  | .error e => .error e
  | .ok size =>
    match limit with
    | none => .ok size
    | some limit => if limit < size then .error (.tooLarge size limit) else .ok size

end Size

end Goodput
