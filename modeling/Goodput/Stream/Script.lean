import Goodput.Stream.Basic
/-!
# Scripted streams

A scripted stream plays a list of steps: data of some length, a wait, the end, or a failure. It is the
inner stream for trying out what a wrapper around a stream does in each situation.
-/

namespace Goodput

inductive ScriptStep where
  | data (n : Nat)
  | pending
  | eof
  | failed (message : String)
deriving Repr, DecidableEq, Inhabited

/-- The steps that are left, and how many bytes were taken by writes. -/
structure Script where
  steps : List ScriptStep
  written : Nat
deriving Repr, DecidableEq, Inhabited

namespace Script

/-- The most bytes that one read or one look hands out. -/
def burst : Nat := 65536

/-- Data of a given length. -/
def bytes (n : Nat) : List UInt8 := List.replicate n 0

/-- Put a rest of a data step back in front. -/
def putBack (n : Nat) (steps : List ScriptStep) : List ScriptStep :=
  if n = 0 then steps else .data n :: steps

/-- A read plays the first step; data that does not fit stays for later. -/
def read (buffer : ReadBuffer) (s : Script) : Poll Unit × ReadBuffer × Script :=
  match s.steps with
  | [] => (.ready (), buffer, s)
  | .eof :: rest => (.ready (), buffer, { s with steps := rest })
  | .pending :: rest => (.pending, buffer, { s with steps := rest })
  | .failed message :: rest => (.failed message, buffer, { s with steps := rest })
  | .data m :: rest =>
    let k := min m (min buffer.room burst)
    (.ready (), buffer.put (bytes k), { s with steps := putBack (m - k) rest })

/-- A look leaves data where it is and plays any other step. -/
def fill (s : Script) : Poll (List UInt8) × Script :=
  match s.steps with
  | [] => (.ready [], s)
  | .eof :: rest => (.ready [], { s with steps := rest })
  | .pending :: rest => (.pending, { s with steps := rest })
  | .failed message :: rest => (.failed message, { s with steps := rest })
  | .data m :: _ => (.ready (bytes (min m burst)), s)

/-- Data that is given up shortens the first step. -/
def consume (n : Nat) (s : Script) : Script :=
  match s.steps with
  | .data m :: rest => { s with steps := putBack (m - n) rest }
  | _ => s

/-- A write plays the first step; a data step limits how much is taken. -/
def write (data : List UInt8) (s : Script) : Poll Nat × Script :=
  let n := data.length
  match s.steps with
  | [] => (.ready n, { s with written := s.written + n })
  | .eof :: rest => (.ready 0, { s with steps := rest })
  | .pending :: rest => (.pending, { s with steps := rest })
  | .failed message :: rest => (.failed message, { s with steps := rest })
  | .data m :: rest => (.ready (min m n), ⟨rest, s.written + min m n⟩)

/-- A flush or a shutdown plays a wait or a failure and nothing else. -/
def settle (s : Script) : Poll Unit × Script :=
  match s.steps with
  | .pending :: rest => (.pending, { s with steps := rest })
  | .failed message :: rest => (.failed message, { s with steps := rest })
  | _ => (.ready (), s)

/-- The next chunk is the whole of a data step. -/
def next (s : Script) : Poll (Option (List UInt8)) × Script :=
  match s.steps with
  | [] => (.ready none, s)
  | .eof :: rest => (.ready none, { s with steps := rest })
  | .pending :: rest => (.pending, { s with steps := rest })
  | .failed message :: rest => (.failed message, { s with steps := rest })
  | .data m :: rest => (.ready (some (bytes m)), { s with steps := rest })

/-- The stream that plays scripts. -/
def stream : ByteStream Script where
  read := read
  fill := fill
  consume := consume
  write := write
  flush := settle
  shutdown := settle
  next := next
  sizeHint s := (0, some s.steps.length)

end Script

end Goodput
