import Goodput.Text.Blank
import Goodput.Tls.Base64
/-!
# PEM files

A PEM file holds sections of base64 between a begin line and an end line that repeats the label. Text
outside of sections is ignored, and so are sections with a label that is not known. Sections are read
one after another; the first defect ends the reading.
-/

namespace Goodput.Pem

/-- What a section holds, by its label. -/
inductive Kind where
  | certificate
  | privateKey
  /-- A known kind that is of no use here. -/
  | other
deriving Repr, DecidableEq, Inhabited

/-- The kind of a label, if it is known. Private keys come in three encodings. -/
def Kind.ofLabel? (label : ByteText) : Option Kind :=
  let label := String.ofList label
  if label = "CERTIFICATE" then some .certificate
  else if ["PRIVATE KEY", "RSA PRIVATE KEY", "EC PRIVATE KEY"].contains label then some .privateKey
  else if ["PUBLIC KEY", "X509 CRL", "CERTIFICATE REQUEST"].contains label then some .other
  else none

/-- A section that was read. -/
structure Item where
  kind : Kind
  der : List UInt8
deriving Repr, DecidableEq, Inhabited

/-- Cut a text behind every carriage return and every line feed. -/
def lines : ByteText → List ByteText
  | [] => []
  | c :: cs =>
    if c = '\n' ∨ c = '\r' then [c] :: lines cs
    else
      match lines cs with
      | [] => [[c]]
      | line :: rest => (c :: line) :: rest

/-- The label of a begin line. The line has to end in five dashes; blanks and line ends do not count. -/
def label? (line : ByteText) : Option ByteText :=
  let body := line.drop "-----BEGIN ".length
  let isTrailer (c : Char) : Bool := c == '-' || c == '\n' || c == '\r' || c == ' '
  let trailer := (body.reverse.takeWhile isTrailer).reverse
  let start := body.take (body.length - trailer.length)
  if trailer.count '-' = 5 then some (start ++ trailer.takeWhile (· != '-')) else none

/-- A section that was begun, with its text so far. -/
structure Open where
  label : ByteText
  body : ByteText
deriving Repr, DecidableEq, Inhabited

/-- The line that ends a section begins like this. -/
def endMarker (label : ByteText) : ByteText := "-----END ".toList ++ label ++ "-----".toList

/-- Read sections from lines until the lines end or a defect is met. The flag tells whether there was a
defect. A begin line inside of a section replaces the label and keeps the text. -/
def items : List ByteText → Option Open → List Item × Bool
  | [], section? => ([], section?.isSome)
  | line :: rest, section? =>
    if "-----BEGIN ".toList.isPrefixOf line then
      match label? line with
      | none => ([], true)
      | some label => items rest (some ⟨label, (section?.map (·.body)).getD []⟩)
    else
      match section? with
      | none => items rest none
      | some s =>
        if (endMarker s.label).isPrefixOf line then
          match Kind.ofLabel? s.label with
          | none => items rest none
          | some kind =>
            match Base64.decode? s.body with
            | none => ([], true)
            | some der =>
              let (more, defect) := items rest none
              (⟨kind, der⟩ :: more, defect)
        else items rest (some { s with body := s.body ++ line })

/-- The sections of a file in front of the first defect, and whether there is one. -/
def read (t : ByteText) : List Item × Bool := items (lines t) none

/-- All certificates of a file; nothing if the file has a defect anywhere. -/
def certificates? (t : ByteText) : Option (List (List UInt8)) :=
  let (found, defect) := read t
  if defect then none else some ((found.filter (·.kind == .certificate)).map (·.der))

/-- The first private key of a file, if it has one. A defect counts only in front of it. -/
def privateKey? (t : ByteText) : Option (Option (List UInt8)) :=
  let (found, defect) := read t
  match found.find? (·.kind == .privateKey) with
  | some item => some (some item.der)
  | none => if defect then none else some none

end Goodput.Pem
