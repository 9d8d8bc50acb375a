import Goodput.Text.Utf8
/-!
# Bytes as characters

Bytes from a wire or a file are kept as a row of characters from U+0000 to U+00FF, one a byte. So ASCII
text is itself, and texts and bytes are taken apart by the same functions.
-/

namespace Goodput

/-- Bytes as the characters with the same numbers. -/
abbrev ByteText := List Char

namespace ByteText

/-- The bytes of a row of characters. -/
def bytes (t : ByteText) : List UInt8 := t.map fun c => UInt8.ofNat c.toNat

/-- The row of characters for some bytes. -/
def ofBytes (bs : List UInt8) : ByteText := bs.map fun b => Char.ofNat b.toNat

/-- The row of characters for the UTF-8 bytes of a text. -/
def ofString (s : String) : ByteText := ofBytes (Utf8.encode s)

end ByteText

end Goodput
