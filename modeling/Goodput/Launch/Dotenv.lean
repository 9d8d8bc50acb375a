import Goodput.FileTree
import Goodput.Text.Blank
/-!
# Environment files

A file of the name `.env` adds variables to the environment of a process. It holds one variable a line;
a quoted value may go on over several lines. A variable that is set already stays as it is, so of two
lines about one variable the first counts. The first line that makes no sense ends the reading; what
stands before it counts.

A value may be bare, in single quotes or in double quotes, and may change between these. Outside of
single quotes a backslash escapes the next character and a dollar sign puts in the value of another
variable. Behind a blank only a comment may follow.
-/

namespace Goodput.Dotenv

/-- The variables of a process, each once. -/
abbrev Variables := List (String × String)

def value? (name : String) (vars : Variables) : Option String := (vars.find? (·.1 == name)).map (·.2)

/-! ## Lines -/

/-- What is open at some place of a line. -/
inductive Open where
  | nothing
  /-- A blank stands before. -/
  | blank
  | escape
  | single
  | singleEscape
  | double
  | doubleEscape
deriving Repr, DecidableEq, Inhabited

/-- What the next character opens or closes; nothing is left if it begins a comment. -/
def Open.next? (o : Open) (c : Char) : Option Open :=
  let opened : Open := match c with
    | '\\' => .escape
    | '"' => .double
    | '\x27' => .single
    | _ => .nothing
  match o with
  | .blank => if c = '#' then none else some opened
  | .nothing => some (if Text.isBlank c && c != '\n' && c != '\r' then .blank else opened)
  | .escape => some .nothing
  | .double => some (if c = '\\' then .doubleEscape else if c = '"' then .nothing else .double)
  | .doubleEscape => some .double
  | .single => some (if c = '\\' then .singleEscape else if c = '\x27' then .nothing else .single)
  | .singleEscape => some .single

/-- The text in front of a comment, and what is open at the end; nothing if a comment ends the line. -/
def scanLine : Open → List Char → List Char × Option Open
  | o, [] => ([], some o)
  | o, c :: cs =>
    match o.next? c with
    | none => ([], none)
    | some o =>
      let (text, last) := scanLine o cs
      (c :: text, last)

/-- The lines of a file, each with its line feed. -/
def physicalLines : ByteText → List ByteText
  | [] => []
  | c :: cs =>
    if c = '\n' then [c] :: physicalLines cs
    else
      match physicalLines cs with
      | [] => [[c]]
      | line :: lines => (c :: line) :: lines

/-- The line without its end. -/
def dropLineEnd (line : List Char) : List Char :=
  if line.getLast? = some '\n' then
    let line := line.dropLast
    if line.getLast? = some '\r' then line.dropLast else line
  else line

/-- The line is a comment from its first character that is no blank. -/
def isCommentLine (line : List Char) : Bool := (Text.trimStart line).head? == some '#'

/-- Join lines until nothing is open. A line that is no text, or something that stays open, is the last
entry, which then is none. -/
def logicalLines : List Char → Open → List (Option String) → List (Option (List Char))
  | _, o, [] => if o = .nothing then [] else [none]
  | _, _, none :: _ => [none]
  | before, o, some line :: rest =>
    let text := before ++ line.toList
    if isCommentLine text then some [] :: logicalLines [] .nothing rest
    else
      match scanLine o line.toList with
      | (kept, none) => some (before ++ kept) :: logicalLines [] .nothing rest
      | (_, some .nothing) => some (dropLineEnd text) :: logicalLines [] .nothing rest
      | (_, some o) => logicalLines text o rest

/-! ## Values -/

/-- Where the name of a variable that is put in stands. -/
inductive Reference where
  | absent
  /-- Behind a dollar sign. -/
  | bare
  /-- Between braces. -/
  | braced
deriving Repr, DecidableEq, Inhabited

/-- A value that is being read. -/
structure ValueScan where
  single : Bool := false
  double : Bool := false
  escaped : Bool := false
  /-- A blank ended the value. -/
  ended : Bool := false
  reference : Reference := .absent
  /-- The name of the variable that is put in, as far as it was read. -/
  name : List Char := []
  output : List Char := []
deriving Repr, DecidableEq, Inhabited

/-- What a character makes of a value. -/
inductive ValueStep where
  | goesOn (s : ValueScan)
  /-- The rest is a comment. -/
  | stops (s : ValueScan)
  | fails
deriving Repr, DecidableEq, Inhabited

namespace ValueScan

/-- The value with one more character. -/
def push (c : Char) (s : ValueScan) : ValueScan := { s with output := s.output ++ [c] }

/-- Put in the value of the variable whose name was read. A variable that is not set has no text. -/
def resolve (vars : Variables) (s : ValueScan) : ValueScan :=
  let text := (value? (String.ofList s.name) vars).getD ""
  { s with output := s.output ++ text.toList, name := [], reference := .absent }

/-- The character behind a backslash. -/
def escapedChar? (c : Char) : Option Char :=
  if "\\'\"$ ".contains c then some c else if c = 'n' then some '\n' else none

/-- A character behind a dollar sign that is no letter and no digit. A brace right behind the sign opens
the name; anything else ends it and stands for itself, except another dollar sign. -/
def afterName (vars : Variables) (s : ValueScan) (c : Char) : ValueScan :=
  match s.reference with
  | .bare =>
    if c = '\x7b' && s.name.isEmpty then { s with reference := .braced }
    else if c = '$' then { s.resolve vars with reference := .bare }
    else (s.resolve vars).push c
  | _ => if c = '\x7d' then s.resolve vars else { s with name := s.name ++ [c] }

/-- A character outside of single quotes, escapes and names. -/
def plain (s : ValueScan) (c : Char) : ValueScan :=
  if c = '$' then { s with reference := .bare }
  else if s.double then
    if c = '"' then { s with double := false } else if c = '\\' then { s with escaped := true } else s.push c
  else
    match c with
    | '\x27' => { s with single := true }
    | '"' => { s with double := true }
    | '\\' => { s with escaped := true }
    | ' ' | '\t' => { s with ended := true }
    | c => s.push c

def step (vars : Variables) (s : ValueScan) (c : Char) : ValueStep :=
  if s.ended then
    if c = ' ' || c = '\t' then .goesOn s else if c = '#' then .stops s else .fails
  else if s.escaped then
    match escapedChar? c with
    | some c => .goesOn { s.push c with escaped := false }
    | none => .fails
  else if s.single then .goesOn (if c = '\x27' then { s with single := false } else s.push c)
  else if s.reference = .absent then .goesOn (s.plain c)
  else if c.isAlphanum then .goesOn { s with name := s.name ++ [c] }
  else .goesOn (s.afterName vars c)

/-- Read all characters up to a comment. -/
def run (vars : Variables) : ValueScan → List Char → Option ValueScan
  | s, [] => some s
  | s, c :: cs =>
    match s.step vars c with
    | .goesOn s => run vars s cs
    | .stops s => some s
    | .fails => none

/-- The value, unless something is still open. -/
def text? (vars : Variables) (s : ValueScan) : Option String :=
  if s.reference = .braced || s.single || s.double then none
  else some (String.ofList (s.resolve vars).output)

end ValueScan

def readValue (vars : Variables) (cs : List Char) : Option String :=
  (ValueScan.run vars {} cs).bind (·.text? vars)

/-! ## Variables -/

def isNameChar (c : Char) : Bool := c.isAlphanum || c == '_' || c == '.'

/-- The name at the front of a line, and what follows it and the blanks behind it. -/
def readName (cs : List Char) : Option (List Char × List Char) :=
  if cs.head?.any fun c => c.isAlpha || c == '_' then
    let name := cs.takeWhile isNameChar
    some (name, Text.trimStart (cs.drop name.length))
  else none

/-- What follows an equals sign. -/
def afterEquals : List Char → Option (List Char)
  | '=' :: cs => some cs
  | _ => none

/-- The name and the text of the value in a line. The word `export` may stand in front of the name. -/
def readAssignment (cs : List Char) : Option (List Char × List Char) :=
  match readName cs with
  | none => none
  | some (name, rest) =>
    match afterEquals rest with
    | some value => some (name, value)
    | none =>
      if name = "export".toList then
        (readName rest).bind fun (name, rest) => (afterEquals rest).map fun value => (name, value)
      else none

/-- Read a line: the variable in it, or none if it is empty. The outer option is empty if the line makes
no sense. -/
def readLine (vars : Variables) (line : List Char) : Option (Option (String × String)) :=
  let line := Text.trimStart line
  if line.isEmpty || line.head? == some '#' then some none
  else
    match readAssignment line with
    | none => none
    | some (name, value) =>
      let value := Text.trimStart value
      if value.head? == some '#' then some (some (String.ofList name, ""))
      else (readValue vars value).map fun text => some (String.ofList name, text)

/-- Set a variable unless it is set already. -/
def define (name text : String) (vars : Variables) : Variables :=
  if (value? name vars).isSome then vars else vars ++ [(name, text)]

/-- Set the variables of some lines, up to one that makes no sense. -/
def defineAll : List (Option (List Char)) → Variables → Variables
  | [], vars => vars
  | none :: _, vars => vars
  | some line :: rest, vars =>
    match readLine vars line with
    | none => vars
    | some none => defineAll rest vars
    | some (some (name, text)) => defineAll rest (define name text vars)

/-- The mark of byte order that a file may begin with. -/
def byteOrderMark : ByteText := ['\xef', '\xbb', '\xbf']

/-- The environment with the variables of a file. -/
def load (content : ByteText) (vars : Variables) : Variables :=
  let content := (Text.dropStart? byteOrderMark content).getD content
  let lines := (physicalLines content).map fun line => Utf8.decode? (ByteText.bytes line)
  defineAll (logicalLines [] .nothing lines) vars

end Goodput.Dotenv
