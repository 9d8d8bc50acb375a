/-!
# UTF-8

Bytes from the wire become text in two ways. `decode?` refuses bytes that are not UTF-8. `decodeLossy`
never fails: every maximal part that cannot belong to a character becomes one U+FFFD, where such a part
is the longest beginning of a well-formed sequence, or a single byte if there is none.
-/

namespace Goodput.Utf8

/-- The character that stands for bytes which are not UTF-8. -/
def replacement : Char := '\ufffd'

/-- A continuation byte. -/
def isContinuation (b : UInt8) : Bool := decide (0x80 ≤ b) && decide (b ≤ 0xbf)

/-- The number of continuation bytes after a lead byte, and the range of the first of them. The ranges
keep out overlong forms, surrogates and values above U+10FFFF. -/
def lead? (b : UInt8) : Option (Nat × UInt8 × UInt8) :=
  if b < 0xc2 then none
  else if b ≤ 0xdf then some (1, 0x80, 0xbf)
  else if b = 0xe0 then some (2, 0xa0, 0xbf)
  else if b = 0xed then some (2, 0x80, 0x9f)
  else if b ≤ 0xef then some (2, 0x80, 0xbf)
  else if b = 0xf0 then some (3, 0x90, 0xbf)
  else if b ≤ 0xf3 then some (3, 0x80, 0xbf)
  else if b = 0xf4 then some (3, 0x80, 0x8f)
  else none

/-- The longest run of at most `n` continuation bytes of which the first lies in the given range. -/
def continuations : Nat → UInt8 → UInt8 → List UInt8 → List UInt8
  | 0, _, _, _ => []
  | _, _, _, [] => []
  | n + 1, lo, hi, b :: bs => if lo ≤ b ∧ b ≤ hi then b :: continuations n 0x80 0xbf bs else []

/-- The code point of a lead byte that announces `n` continuation bytes, followed by them. -/
def codePoint (n : Nat) (b : UInt8) (rest : List UInt8) : Nat :=
  rest.foldl (fun acc c => acc * 64 + (c.toNat - 0x80)) (b.toNat % Nat.pow 2 (6 - n))

/-- What a non-empty row of bytes starts with: a character or an invalid part, and the length of it. -/
def step (b : UInt8) (bs : List UInt8) : Option Char × Nat :=
  if b < 0x80 then (some (Char.ofNat b.toNat), 1)
  else
    match lead? b with
    | none => (none, 1)
    | some (n, lo, hi) =>
      let tail := continuations n lo hi bs
      if tail.length = n then (some (Char.ofNat (codePoint n b tail)), n + 1)
      else (none, tail.length + 1)

/-- Split bytes into characters and invalid parts, one entry each. The first argument counts the bytes
that may still be looked at, so the length of the input is enough. -/
def partsWithin : Nat → List UInt8 → List (Option Char)
  | 0, _ => []
  | _, [] => []
  | k + 1, b :: bs =>
    let (part, n) := step b bs
    part :: partsWithin k (bs.drop (n - 1))

/-- The characters and invalid parts of a row of bytes, in order. -/
def parts (bs : List UInt8) : List (Option Char) := partsWithin bs.length bs

/-- The text of bytes, with U+FFFD for each invalid part. -/
def decodeLossy (bs : List UInt8) : String :=
  String.ofList ((parts bs).map fun part => part.getD replacement)

/-- The text of bytes that are well-formed UTF-8. -/
def decode? (bs : List UInt8) : Option String :=
  (parts bs).mapM id |>.map String.ofList

/-- The UTF-8 bytes of a text. -/
def encode (s : String) : List UInt8 := s.toUTF8.toList

end Goodput.Utf8
