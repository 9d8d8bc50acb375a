import Mathlib
import Goodput.Ndt7.Session
import Goodput.Proofs.Meter
/-!
# What an upload session counts

A session waits for one arrival after another: a message of the client, or a reason to stop. `UploadRun` holds what
is left of them, the messages in front of the first such reason. Here the arrivals themselves are given, in any order
and without end, and the first that stops the session is looked for in them (`Arrival.ends`). We prove that a session
counts the arrivals in front of it and nothing behind, and that its sample and its report say the same number
(`upload_counts_until_end`). The session tallies; `receive_heard_in_words` says when that is counting in words.
-/

namespace Goodput.Ndt7

/-! ## Arrivals -/

/-- What one wait for a message brings. -/
inductive Arrival where
  | message (m : ClientMessage)
  /-- The window is over, the server shuts down, the read failed or the stream is over. -/
  | stopped (cause : EndCause)
deriving Repr, DecidableEq, Inhabited

namespace Arrival

/-- The session ends here: with a close message, or with any of the reasons to stop. -/
def ends : Arrival → Bool
  | .message .close | .stopped _ => true
  | .message _ => false

/-- The bytes of an arrival: those of a binary message or of a text. -/
def size : Arrival → Nat
  | .message m => m.counted
  | .stopped _ => 0

/-- What a client sends is read as it is, unless it is too large: that is an error of the read. -/
def ofSent (m : ClientMessage) : Arrival :=
  if maxReadMessageSize < m.counted then .stopped .readError else .message m

/-- The messages in front of the first reason to stop, and this reason. Arrivals without one end with the stream. -/
def heard : List Arrival → List ClientMessage × EndCause
  | [] => ([], .streamOver)
  | .stopped cause :: _ => ([], cause)
  | .message m :: rest => (m :: (heard rest).1, (heard rest).2)

theorem heard_messages (ms : List ClientMessage) (cause : EndCause) :
    heard (ms.map .message ++ [.stopped cause]) = (ms, cause) := by
  induction ms with
  | nil => rfl
  | cons m ms ih => rw [List.map_cons, List.cons_append, heard, ih]

/-- What a client sends is heard up to the first message that is too large. -/
theorem heard_sent (ms : List ClientMessage) (cause : EndCause) :
    heard (ms.map ofSent ++ [.stopped cause]) = readable cause ms := by
  induction ms with
  | nil => rfl
  | cons m ms ih =>
    rw [List.map_cons, List.cons_append, readable, ofSent]
    split
    · rfl
    · rw [heard, ih]

end Arrival

namespace UploadRun

def ofArrivals (window : Span) (conn : Conn) (start sampledAt stop : Instant) (arrivals : List Arrival) : UploadRun :=
  ⟨window, conn, start, (Arrival.heard arrivals).1, (Arrival.heard arrivals).2, sampledAt, stop⟩

theorem exists_arrivals (r : UploadRun) :
    ∃ arrivals, ofArrivals r.window r.conn r.start r.sampledAt r.stop arrivals = r := by
  refine ⟨r.messages.map .message ++ [.stopped r.cause], ?_⟩
  rw [ofArrivals, Arrival.heard_messages]

end UploadRun

/-! ## Receiving -/

variable (now : Instant) (m : Meter TransferTag)

/-- One message that does not end the session adds its size, and the clock goes on. -/
theorem receive_message {a : ClientMessage} (ms : List ClientMessage) (ha : (Arrival.message a).ends = false) :
    receive now (a :: ms) (m.touch now) = receive now ms ((m.tally now (Arrival.message a).size).touch now) := by
  cases a with
  | binary | text | ping | pong => simp [receive, Arrival.size, ClientMessage.counted]
  | close => cases ha

/-- Receiving counts what arrives in front of the end, whatever comes behind it. -/
theorem receive_heard (arrivals : List Arrival) :
    receive now (Arrival.heard arrivals).1 (m.touch now) =
      m.tally now ((arrivals.takeWhile fun a => !a.ends).map Arrival.size).sum := by
  -- The meter carries what was counted so far, so the induction is over all meters.
  induction arrivals generalizing m with
  | nil => simp [Arrival.heard, receive]
  | cons a rest ih =>
    cases a with
    | stopped cause => simp [Arrival.heard, receive, Arrival.ends]
    | message a =>
      by_cases hends : (Arrival.message a).ends = true
      · have hclose : a = .close := by
          cases a <;> first | rfl | cases hends
        subst hclose
        simp [Arrival.heard, receive, Arrival.ends]
      · rw [Bool.not_eq_true] at hends
        rw [Arrival.heard, receive_message now m _ hends, ih, Meter.tally_tally]
        simp [hends]

/-- A meter that counts each arrival in words shows the same, unless more arrives than a word holds. -/
theorem receive_heard_in_words {arrivals : List Arrival}
    (hfits : m.bytes + ((arrivals.takeWhile fun a => !a.ends).map Arrival.size).sum < UInt64.size) :
    receive now (Arrival.heard arrivals).1 (m.touch now) =
      ((arrivals.takeWhile fun a => !a.ends).map Arrival.size).foldl (fun m n => m.add now n) (m.touch now) := by
  rw [receive_heard, Meter.foldl_add_eq_tally now m hfits]

/-- Whatever arrives and in whatever order: a session logs its beginning, one sample and its end. The sample has no
message size, and it and the end say the same number of bytes: those of the binary messages and of the texts in front
of the first close message or reason to stop. No measurement is sent. -/
theorem upload_counts_until_end (window : Span) (conn : Conn) (start sampledAt stop : Instant)
    (arrivals : List Arrival) :
    let session := (UploadRun.ofArrivals window conn start sampledAt stop arrivals).session
    let request : TransferRequest := ⟨.window window, .upload, .webSocket⟩
    let bytes := ((arrivals.takeWhile fun a => !a.ends).map Arrival.size).sum
    session.log =
      [.requestReceived request none conn, .ndt7Sample conn .upload bytes (sampledAt.since start) 0,
        .requestDone ⟨request, none, conn, ⟨bytes, stop.since start⟩⟩] ∧
    session.measurements = [] := by
  intro session request bytes
  let tag := sessionTag .upload window conn
  let counted := tag.meter.tally start bytes
  have hreceive : receive start (Arrival.heard arrivals).1 (tag.meter.touch start) = counted :=
    receive_heard start tag.meter arrivals
  have hbytes : counted.bytes = bytes := by simp [counted]
  have helapsed : ∀ now, counted.elapsed now = now.since start := fun _ => rfl
  have hlistener : counted.listener = some tag := by simp [counted]
  have hdone := finish_events hlistener stop
  refine ⟨?_, rfl⟩
  have hlog : session.log = [tag.received, .ndt7Sample conn .upload counted.bytes (counted.elapsed sampledAt) 0] ++
      (reportEvents (counted.finish stop).2.1 ++ reportEvents ((counted.finish stop).2.2.dispose stop)) := by
    rw [← hreceive, ← List.append_assoc]
    rfl
  rw [hlog, hdone, hbytes, helapsed]
  simp only [TransferTag.done, Meter.stats, hbytes, helapsed]
  rfl

/-- A text counts its bytes and not its characters, and nothing counts behind the close message. -/
example :
    let arrivals : List Arrival := [.message .ping, .message (.binary 5), .message (.text "é"), .message .close,
      .message (.binary 9), .stopped .windowOver]
    ((arrivals.takeWhile fun a => !a.ends).map Arrival.size).sum = 7 := by decide

end Goodput.Ndt7
