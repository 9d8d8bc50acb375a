import Goodput.Http.Field
/-!
# Request targets

A request names what it wants by a target: a path with an optional query, or a whole URI of which only
these two matter. The forms without a path, such as a star or a bare host, lead nowhere. `Target.ofText`
takes any text; `Target.isWellFormed` says which texts a request may carry.
-/

namespace Goodput.Http

/-- The parts of a request target that matter here. -/
structure Target where
  path : ByteText
  query : ByteText
deriving Repr, DecidableEq, Inhabited

namespace Target

/-- The text before the first occurrence of a character, or all of it. -/
def before (c : Char) (t : ByteText) : ByteText := t.takeWhile (· != c)

/-- The text after the first occurrence of a character, or nothing. -/
def after (c : Char) (t : ByteText) : ByteText := (t.dropWhile (· != c)).drop 1

def isSchemeChar (c : Char) : Bool := c.isAlphanum || c == '+' || c == '-' || c == '.'

/-- The scheme of a whole URI and what follows it, if the text has one. -/
def splitScheme? (t : ByteText) : Option (ByteText × ByteText) :=
  match Text.splitFirst ':' t with
  | some (scheme, '/' :: '/' :: rest) =>
    if scheme.all isSchemeChar && decide (3 < t.length) then some (scheme, rest) else none
  | _ => none

/-- The target of a path and a query together. -/
def ofPathAndQuery (t : ByteText) : Target := ⟨before '?' t, after '?' t⟩

/-- Read a target. A fragment is dropped; a whole URI without a path has the root path. -/
def ofText (t : ByteText) : Target :=
  let t := before '#' t
  match t with
  | '/' :: _ => ofPathAndQuery t
  | _ =>
    match splitScheme? t with
    | none => ofPathAndQuery (if t = ['*'] then t else [])
    | some (_, rest) =>
      let inPath := rest.dropWhile fun c => c != '/' && c != '?'
      match inPath with
      | '/' :: _ => ofPathAndQuery inPath
      | _ => ofPathAndQuery ('/' :: inPath)

/-! ## Well-formed targets -/

/-- A character that a path may hold as it is. -/
def isPathChar (c : Char) : Bool := decide ('!' ≤ c) && !"#<>?\x60".contains c

/-- A character that a query may hold as it is. -/
def isQueryChar (c : Char) : Bool := decide ('!' ≤ c) && !"\"#<>".contains c

/-- A path with an optional query, in front of an optional fragment. -/
def isPathAndQuery (t : ByteText) : Bool :=
  let t := before '#' t
  (before '?' t).all isPathChar && (after '?' t).all isQueryChar

/-- What was seen of an authority, from the left. -/
structure AuthorityScan where
  /-- The colons since the last at sign or closing bracket. -/
  colons : Nat
  opened : Bool
  closed : Bool
  /-- A percent sign was seen since the last at sign or closing bracket. -/
  percent : Bool
  endsInAt : Bool
deriving Repr, DecidableEq, Inhabited

/-- A character that an authority may hold besides those with a meaning of their own. -/
def isAuthorityChar (c : Char) : Bool := c.isAlphanum || "!$&'()*+,-.;=_~".contains c

/-- See the next character of an authority. -/
def AuthorityScan.see? (s : AuthorityScan) (c : Char) : Option AuthorityScan :=
  let s := { s with endsInAt := c == '@' }
  match c with
  | ':' => if 8 ≤ s.colons then none else some { s with colons := s.colons + 1 }
  | '[' => if s.percent || s.opened then none else some { s with opened := true }
  | ']' => if !s.opened || s.closed then none else some { s with closed := true, colons := 0, percent := false }
  | '@' => some { s with colons := 0, percent := false }
  | '%' => some { s with percent := true }
  | c => if isAuthorityChar c then some s else none

/-- A host with an optional port, and optional credentials in front of it. A percent sign may stand only
in the credentials or inside the brackets of an address. -/
def isAuthority (t : ByteText) : Bool :=
  match t.foldlM AuthorityScan.see? (⟨0, false, false, false, false⟩ : AuthorityScan) with
  | none => false
  | some s => s.opened == s.closed && decide (s.colons ≤ 1) && !s.endsInAt && !s.percent

/-- The characters that end an authority. -/
def endsAuthority (c : Char) : Bool := c == '/' || c == '?' || c == '#'

/-- The longest scheme that is taken for one. -/
def maxSchemeLength : Nat := 64

/-- The text is a target: a path, a star, a whole URI, or an authority alone. -/
def isWellFormed (t : ByteText) : Bool :=
  match t with
  | '/' :: _ => isPathAndQuery t
  | _ =>
    if t = ['*'] then true
    else
      match splitScheme? t with
      | none => !t.isEmpty && isAuthority t
      | some (scheme, rest) =>
        let authority := rest.takeWhile fun c => !endsAuthority c
        decide (scheme.length ≤ maxSchemeLength) && !authority.isEmpty && isAuthority authority
          && isPathAndQuery (rest.drop authority.length)

end Target

/-- The nonempty last segment of a path that consists of `start` and that segment. -/
def lastSegment? (start : String) (path : ByteText) : Option ByteText :=
  match Text.dropStart? start.toList path with
  | none => none
  | some segment => if segment.isEmpty || segment.contains '/' then none else some segment

end Goodput.Http
