import Mathlib
import Goodput.Proofs.Meter
import Goodput.Proofs.RangeRoundTrip
import Goodput.Proofs.Refusal
/-!
# Uploads are counted up to their boundary

A body is chunks of any lengths, and it may break off at any place. `drain_eq` says what reading it under a
bound comes to, whatever the chunks are: the count is the bytes in front of the first failure or the bound,
whichever is less, and the failure is met only if the bound was not reached before. `upload_counts` is the
same for a whole upload, with what it answers and logs. An upload is never longer than a word can count, since
its size is read from a text that has to fit one.
-/

namespace Goodput.Http

/-! ## What a body holds -/

/-- The bytes of a body in front of its first failure. -/
def available : List BodyPart → Nat
  | [] => 0
  | .data n :: rest => n + available rest
  | .broken _ :: _ => 0

/-- The first failure of a body. -/
def failure? : List BodyPart → Option String
  | [] => none
  | .data _ :: rest => failure? rest
  | .broken message :: _ => some message

theorem available_data (chunks : List Nat) : available (chunks.map .data) = chunks.sum := by
  induction chunks with
  | nil => rfl
  | cons n chunks ih => simp [available, ih]

theorem failure_data (chunks : List Nat) : failure? (chunks.map .data) = none := by
  induction chunks with
  | nil => rfl
  | cons n chunks ih => simp [failure?, ih]

/-- The bytes that a reader can still give. -/
def BodyReader.remaining (r : BodyReader) : Nat := r.inHand + available r.parts

/-- What a look tells about the reader before and after it. Looking loses nothing, and what is ready is
the chunk in hand. -/
def Look.Tells (r r' : BodyReader) : Look → Prop
  | .ready n => n = r'.inHand ∧ r'.remaining = r.remaining ∧ failure? r'.parts = failure? r.parts
  | .ended => r.remaining = 0 ∧ failure? r.parts = none
  | .failed message => r.remaining = 0 ∧ failure? r.parts = some message

theorem pull_tells (parts : List BodyPart) :
    (BodyReader.pull parts).1.Tells ⟨0, parts⟩ (BodyReader.pull parts).2 := by
  induction parts with
  | nil => simp [BodyReader.pull, Look.Tells, BodyReader.remaining, available, failure?]
  | cons part rest ih =>
    cases part with
    | broken message => simp [BodyReader.pull, Look.Tells, BodyReader.remaining, available, failure?]
    | data n =>
      rw [BodyReader.pull]
      split
      · subst_vars
        simpa [Look.Tells, BodyReader.remaining, available, failure?] using ih
      · simp [Look.Tells, BodyReader.remaining, available, failure?]

theorem fill_tells (r : BodyReader) : r.fill.1.Tells r r.fill.2 := by
  rcases r with ⟨inHand, parts⟩
  unfold BodyReader.fill
  split
  · rename_i h
    simp only at h
    subst h
    exact pull_tells parts
  · exact ⟨rfl, rfl, rfl⟩

/-! ## Reading under a bound -/

/-- A look through a bound shows an end where the bound was reached, and else what the reader shows. -/
theorem bounded_fill (b : BoundedBody) {look : Look} {b' : BoundedBody} (h : b.fill = (look, b')) :
    (b.left = 0 ∧ look = .ended) ∨
      (0 < b.left ∧ ∃ seen : Look, seen.Tells b.reader b'.reader ∧ look = seen.upTo b.left ∧
        b'.left = b.left) := by
  unfold BoundedBody.fill at h
  split at h
  · rename_i h0
    simp only [Prod.mk.injEq] at h
    exact .inl ⟨h0, h.1.symm⟩
  · rename_i h0
    simp only [Prod.mk.injEq] at h
    obtain ⟨hlook, rfl⟩ := h
    exact .inr ⟨by omega, b.reader.fill.1, fill_tells b.reader, hlook.symm, rfl⟩

/-- Giving up what a look showed takes it from the reader and from the bound. -/
theorem consume_ready {b b' : BoundedBody} {n : Nat} (h : b.fill = (.ready n, b')) :
    n ≤ b.reader.remaining ∧ (b'.consume n).reader.remaining = b.reader.remaining - n ∧
      (b'.consume n).left = b.left - n ∧ failure? (b'.consume n).reader.parts = failure? b.reader.parts := by
  rcases bounded_fill b h with ⟨-, hlook⟩ | ⟨-, seen, htells, hlook, hleft⟩
  · cases hlook
  · cases seen with
    | ready m =>
      obtain ⟨hm, hrem, hfail⟩ := htells
      simp only [Look.upTo, Look.ready.injEq] at hlook
      simp only [BodyReader.remaining] at hrem ⊢
      simp only [BoundedBody.consume, BodyReader.consume]
      refine ⟨by omega, by omega, by omega, hfail⟩
    | ended | failed => simp [Look.upTo] at hlook

/-- What reading a body to its end or to the bound comes to. -/
theorem drain_eq {ρ : Type} (now : Instant) (b : BoundedBody) {m : Meter ρ} (hm : m.bytes < UInt64.size) :
    b.drain now m = (m.add now (min b.reader.remaining b.left),
      if b.reader.remaining < b.left then failure? b.reader.parts else none) := by
  -- Each pass gives up what it saw; the clock is touched by a look already, which counting does not undo.
  fun_induction BoundedBody.drain now b m with
  | case1 b m meter b' h =>
    rcases bounded_fill b h with ⟨h0, -⟩ | ⟨-, seen, htells, hlook, -⟩
    · simp [h0, meter, Meter.add_zero now m hm]
    · cases seen with
      | ended =>
        obtain ⟨hrem, hfail⟩ := htells
        simp [hrem, hfail, meter, Meter.add_zero now m hm]
      | ready | failed => simp [Look.upTo] at hlook
  | case2 b m meter message b' h =>
    rcases bounded_fill b h with ⟨-, hlook⟩ | ⟨hpos, seen, htells, hlook, -⟩
    · cases hlook
    · cases seen with
      | failed text =>
        obtain ⟨hrem, hfail⟩ := htells
        simp only [Look.upTo, Look.failed.injEq] at hlook
        simp [hrem, hfail, hpos, hlook, meter, Meter.add_zero now m hm]
      | ready | ended => simp [Look.upTo] at hlook
  | case3 b m meter n b' h ih =>
    obtain ⟨hle, hrem, hleft, hfail⟩ := consume_ready h
    have hn := (BoundedBody.fill_ready h).2.1
    rw [ih (Meter.add_bytes_lt now meter n), hrem, hleft, hfail]
    have hmin : n + min (b.reader.remaining - n) (b.left - n) = min b.reader.remaining b.left := by omega
    have hlt : b.reader.remaining - n < b.left - n ↔ b.reader.remaining < b.left := by omega
    simp only [meter, Meter.touch_add, Meter.add_add, hmin, hlt]

/-! ## Whole uploads -/

/-- An upload has the length of its range, or of the whole where it has none. -/
theorem Upload.length_eq (u : Upload) : u.length = (u.range.map (·.len)).getD u.size := by
  rcases u with ⟨size, _ | range, protocol, conn⟩ <;> rfl

variable {u : Upload} (now : Instant) (hlength : u.length < UInt64.size)
include hlength

theorem receive_eq (body : List BodyPart) :
    u.receive now body =
      ⟨if available body < u.length then failure? body else none, min (available body) u.length,
        [u.tag.received, u.tag.done ⟨min (available body) u.length, .zero⟩]⟩ := by
  have hnone : u.tag.meter.bytes < UInt64.size := by
    rw [TransferTag.meter_bytes]
    decide
  have h := drain_eq now ⟨.start body, u.length⟩ hnone
  simp only [BodyReader.start, BodyReader.remaining, Nat.zero_add] at h
  unfold Upload.receive
  simp only [BodyReader.start, h]
  have hlistener : ∀ n, (u.tag.meter.add now n).listener = some u.tag := by simp
  have hfits : min (available body) u.length < UInt64.size := by omega
  rw [dispose_events (hlistener _), TransferTag.meter_add_stats u.tag now hfits, Meter.add_bytes,
    TransferTag.meter_bytes, Nat.zero_add, Nat.mod_eq_of_lt hfits]

/-- What lies behind the boundary of an upload has no effect. -/
theorem receive_beyond {body : List BodyPart} (h : u.length ≤ available body) :
    u.receive now body = u.receive now [.data u.length] := by
  rw [receive_eq now hlength, receive_eq now hlength]
  simp [available, Nat.min_eq_right h, Nat.not_lt.2 h]

omit hlength

/-- A body was taken in as an upload of `expected` bytes, which was begun, counted and reported once. -/
structure Counted (request : TransferRequest) (range : Option ByteRange) (conn : Conn) (expected : Nat)
    (body : List BodyPart) (r : Reply) : Prop where
  logged : ∃ elapsed, r.events = [.requestReceived request range conn,
    .requestDone ⟨request, range, conn, ⟨min (available body) expected, elapsed⟩⟩]
  status : r.head.status = if (failure? body).isSome ∧ available body < expected then 400 else 204
  complete : ∀ o ∈ Event.completions r.events, o.isComplete = true ↔ expected ≤ available body

theorem received_status (r : Received) : r.head.status = if r.failure.isSome then 400 else 204 := by
  unfold Received.head
  split <;> simp_all [Head.ofError, Head.extend, Head.empty, ApiError.status]

include hlength in
theorem accepted_counts (body : List BodyPart) (records : List LogRecord) :
    Counted ⟨.bytes u.size, .upload, u.protocol⟩ u.range u.conn u.length body
      ⟨(u.receive now body).head, .none, (u.receive now body).events, records⟩ where
  logged := ⟨.zero, by rw [receive_eq now hlength]; rfl⟩
  status := by
    rw [received_status, receive_eq now hlength]
    by_cases h : available body < u.length <;> simp [h]
  complete := by
    intro o ho
    rw [receive_eq now hlength] at ho
    obtain rfl := TransferTag.mem_completions.1 ho
    rw [TransferOutcome.isComplete_iff (TransferOutcome.expected_of_size rfl)]
    change min (available body) u.length = (u.range.map (·.len)).getD u.size ↔ u.length ≤ available body
    rw [← Upload.length_eq u]
    omega

/-- An upload is refused without an event for its size or its range. Any other is counted up to the end
of its range, or of its size where it announces no range: whatever the chunks are, the count is exact, and
neither data nor a failure behind that end changes the answer or the log. -/
theorem upload_counts (now : Instant) (limit : Option Nat) (conn : Conn) (sizeText : String) (req : Request) :
    let r := upload now limit conn sizeText req
    let taken := fun (size : Nat) (range : Option ByteRange) (expected : Nat) =>
      Counted ⟨.bytes size, .upload, req.version.protocol⟩ range conn expected req.body r ∧
        (expected ≤ available req.body →
          r = upload now limit conn sizeText { req with body := [.data expected] })
    match Size.parse sizeText with
    | .error _ => Refused 400 r
    | .ok size =>
      if limit.any (· < size) then Refused 413 r
      else
        match fieldValue? "content-range" req.fields with
        | none => taken size none size
        | some value =>
          match HeaderField.visibleText? value with
          | none => Refused 400 r
          | some text =>
            match ByteRange.parseContentRange text size with
            | .error _ => Refused 400 r
            | .ok range => taken size (some range) range.len := by
  intro r taken
  have hrefused : ∀ e : ApiError, r = refuseTransfer .upload conn e → Refused e.status r := by
    rintro e he
    rw [he]
    exact refused_of_error .upload conn e
  cases hparse : Size.parse sizeText with
  | error e =>
    dsimp only
    rw [← parse_error_status hparse]
    refine hrefused (.size e) ?_
    simp only [r, upload, Upload.accept, Size.validate_error limit hparse]
  | ok size =>
    dsimp only
    have haccept := Size.validate_ok limit hparse
    have hsize := Size.lt_of_parse hparse
    split
    · rename_i hlimit
      refine hrefused (.size (.tooLarge size (limit.getD size))) ?_
      simp only [r, upload, Upload.accept, haccept, if_pos hlimit]
    · rename_i hlimit
      rw [if_neg hlimit] at haccept
      -- The range is decided before the body is looked at, so another body has the same one.
      have htaken : ∀ range, announcedRange size (fieldValue? "content-range" req.fields) = .ok range →
          (range.map (·.len)).getD size < UInt64.size → taken size range ((range.map (·.len)).getD size) := by
        intro range hrange hlength
        let u : Upload := ⟨size, range, req.version.protocol, conn⟩
        rw [← Upload.length_eq u] at hlength ⊢
        simp only [taken, r, upload, Upload.accept, haccept, hrange]
        exact ⟨accepted_counts now hlength req.body _, fun h => by rw [receive_beyond now hlength h]⟩
      cases hvalue : fieldValue? "content-range" req.fields with
      | none => exact htaken none (by rw [hvalue]; rfl) hsize
      | some value =>
        dsimp only
        cases htext : HeaderField.visibleText? value with
        | none =>
          refine hrefused (.contentRange (.malformed "<non-ascii>")) ?_
          simp only [r, upload, Upload.accept, haccept, announcedRange, hvalue, htext]
        | some text =>
          dsimp only
          cases hrange : ByteRange.parseContentRange text size with
          | error e =>
            refine hrefused (.contentRange e) ?_
            simp only [r, upload, Upload.accept, haccept, announcedRange, hvalue, htext, hrange]
          | ok range =>
            have hwithin := (ByteRange.inside_of_parseContentRange hrange).within
            refine htaken (some range) (by simp only [hvalue, announcedRange, htext, hrange]) ?_
            exact Nat.lt_of_le_of_lt (Nat.le_trans (Nat.le_add_left _ _) hwithin) hsize

end Goodput.Http
