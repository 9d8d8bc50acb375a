import Goodput.Proofs.Download
import Goodput.Proofs.PayloadReads
import Goodput.Proofs.RangeRoundTrip
import Goodput.Proofs.Refusal
/-!
# What a download answers, hands out and logs

The head of an answer, the body behind it and the events of the transfer all name one length: that of the range
that is served, or of the whole. `download_answers` says so for every size text, limit and range header, and for
every number of frames after which a reader gives the body up.

Frames are lengths in the handler. The bytes in them come from the payload source, which overwrites whatever the
buffer held, so they are all the constant byte (`frames_eq`).
-/

namespace Goodput

namespace Http

namespace DownloadBody

/-! ## The bytes of the frames -/

/-- The bytes of the next frame: what the source puts in front of a buffer, whatever the buffer held. -/
def frame (buffer : List UInt8) (b : DownloadBody) : List UInt8 :=
  let (n, filled, _) := b.source.read buffer
  filled.take n

/-- The frames that at most so many reads give, as bytes. -/
def frames (now : Instant) (buffer : List UInt8) : Nat → DownloadBody → List (List UInt8)
  | 0, _ => []
  | k + 1, b =>
    match b.next now with
    | (none, _) => []
    | (some _, rest) => b.frame buffer :: rest.frames now buffer k

variable {buffer : List UInt8} (hbuffer : buffer.length = Payload.chunkSize)
include hbuffer

theorem frame_eq (b : DownloadBody) :
    b.frame buffer = Payload.filler (min b.source.remaining Payload.chunkSize) := by
  have hlength : (Payload.filler (min b.source.remaining Payload.chunkSize)).length =
      min b.source.remaining Payload.chunkSize := List.length_replicate
  rw [frame, BoundedPayload.read_eq]
  simp only [hbuffer, BoundedPayload.given_chunk]
  rw [List.take_append_of_le_length (Nat.le_of_eq hlength.symm), List.take_of_length_le (Nat.le_of_eq hlength)]

/-- Every frame consists of as many constant bytes as its length says. -/
theorem frames_eq (now : Instant) (k : Nat) (b : DownloadBody) :
    b.frames now buffer k = (b.read now k).1.map Payload.filler := by
  induction k generalizing b with
  | zero => rfl
  | succ k ih =>
    by_cases h : b.source.remaining = 0
    · rw [read_empty now h, frames, next_eq, if_pos h]
      rfl
    · rw [read_more now h, frames, next_eq, if_neg h]
      simp only [frame_eq hbuffer, ih, List.map_cons]

omit hbuffer

/-! ## Where a reader stops -/

/-- A reader that gets fewer frames than it asked for is at the end. -/
theorem read_ended (now : Instant) {k : Nat} {b : DownloadBody} (h : (b.read now k).1.length < k) :
    (b.read now k).2.source.remaining = 0 := by
  induction k generalizing b with
  | zero => cases h
  | succ k ih =>
    by_cases h0 : b.source.remaining = 0
    · rw [read_empty now h0]
      simp [afterChunk, h0]
    · rw [read_more now h0] at h ⊢
      exact ih (Nat.lt_of_succ_lt_succ h)

/-- No more is handed out than there is, and all of it to a reader that comes to the end. -/
theorem read_sum_le (now : Instant) (k : Nat) (b : DownloadBody) :
    (b.read now k).1.sum ≤ b.source.remaining := by
  have hleft := (b.read_handsOut now k).left
  omega

theorem read_sum_of_ended (now : Instant) (reads : Option Nat) (b : DownloadBody)
    (h : (reads.all fun n => decide ((b.read now (reads.getD b.readsToEnd)).1.length < n)) = true) :
    (b.read now (reads.getD b.readsToEnd)).1.sum = b.source.remaining := by
  cases reads with
  | none => exact b.read_all now
  | some n =>
    have hend : (b.read now n).2.source.remaining = 0 := read_ended now (by simpa using h)
    have hleft := (b.read_handsOut now n).left
    simp only [Option.getD_some]
    omega

end DownloadBody

/-! ## The head -/

theorem Download.head_status (d : Download) : d.head.status = if d.range.isSome then 206 else 200 := by
  rcases d with ⟨size, _ | range, protocol, conn⟩ <;> rfl

theorem Download.head_contentLength (d : Download) :
    d.head.field? "content-length" = some (toString d.length) := by
  rcases d with ⟨size, _ | range, protocol, conn⟩ <;> rfl

theorem Download.head_contentRange (d : Download) :
    d.head.field? "content-range" = d.range.map (·.contentRange d.size) := by
  rcases d with ⟨size, _ | range, protocol, conn⟩ <;> rfl

/-! ## Whole downloads -/

/-- An answer to a download that serves `length` bytes, and what comes of it when so many frames are read, or all
of them, and the body is then dropped. -/
structure Served (request : TransferRequest) (range : Option ByteRange) (conn : Conn) (length : Nat)
    (later : Instant) (reads : Option Nat) (r : Reply) : Prop where
  status : r.head.status = if range.isSome then 206 else 200
  contentLength : r.head.field? "content-length" = some (toString length)
  /-- The request is logged with the head, and nothing else until the body is closed. -/
  begun : r.events = [.requestReceived request range conn]
  reported : ∃ elapsed, (r.deliver later reads).events = [.requestReceived request range conn,
    .requestDone ⟨request, range, conn, ⟨(r.deliver later reads).frames.sum, elapsed⟩⟩]
  outcome : ∀ o ∈ Event.completions (r.deliver later reads).events,
    o.expected = some length ∧ o.stats.bytes ≤ length ∧
      (o.isComplete = true ↔ (r.deliver later reads).frames.sum = length)
  ended : reads = none → (r.deliver later reads).ended = true
  whole : (r.deliver later reads).ended = true → (r.deliver later reads).frames.sum = length
  /-- The frames are zero bytes, whatever was in the buffer that they were read into. -/
  zeros : ∃ body, r.content = .payload body ∧ ∀ buffer : List UInt8, buffer.length = Payload.chunkSize →
    body.frames later buffer (reads.getD body.readsToEnd) =
      (r.deliver later reads).frames.map (List.replicate · 0)

theorem served_download (later : Instant) (reads : Option Nat) {d : Download} (hlength : d.length < UInt64.size) :
    Served ⟨.bytes d.size, .download, d.protocol⟩ d.range d.conn d.length later reads
      ⟨d.head, .payload (.ofDownload d), [d.tag.received], []⟩ := by
  let b := DownloadBody.ofDownload d
  obtain ⟨elapsed, hdeliver⟩ := deliver_reads later reads hlength d.head [d.tag.received] []
  have hexpected : (TransferOutcome.mk d.tag.request d.range d.conn
      ⟨(b.read later (reads.getD b.readsToEnd)).1.sum, elapsed⟩).expected = some d.length := by
    rw [Download.length_eq]
    exact TransferOutcome.expected_of_size rfl
  exact {
    status := d.head_status
    contentLength := d.head_contentLength
    begun := rfl
    reported := ⟨elapsed, by rw [hdeliver]; rfl⟩
    outcome := by
      intro o ho
      rw [hdeliver] at ho ⊢
      obtain rfl := TransferTag.mem_completions.1 ho
      exact ⟨hexpected, b.read_sum_le later _, TransferOutcome.isComplete_iff hexpected⟩
    ended := by
      rintro rfl
      rw [hdeliver]
      rfl
    whole := by
      rw [hdeliver]
      exact b.read_sum_of_ended later reads
    zeros := ⟨b, rfl, fun buffer hbuffer => by rw [hdeliver]; exact b.frames_eq hbuffer later _⟩ }

/-- A refused transfer has no body, and reading or dropping its answer logs nothing. -/
theorem deliver_refused (direction : Direction) (conn : Conn) (e : ApiError) (later : Instant)
    (reads : Option Nat) : ((refuseTransfer direction conn e).deliver later reads).events = [] := by
  cases e <;> rfl

theorem unsatisfiable_size {text : String} {size n : Nat}
    (h : ByteRange.parseRange text size = .error (.unsatisfiable n)) : n = size := by
  unfold ByteRange.parseRange at h
  split at h
  · cases h
  · split at h
    · cases h; rfl
    · cases h

/-- A download is refused without an event for its size or for a range that the resource has nothing of. Any
other is served: the range that its header asks for, or the whole where there is no header or one that is
malformed. -/
theorem download_answers (later : Instant) (limit : Option Nat) (conn : Conn) (sizeText : String)
    (req : Request) (reads : Option Nat) :
    let r := download limit conn sizeText req
    let request := fun size => TransferRequest.mk (.bytes size) .download req.version.protocol
    match Size.parse sizeText with
    | .error _ => Refused 400 r ∧ (r.deliver later reads).events = []
    | .ok size =>
      if limit.any (· < size) then Refused 413 r ∧ (r.deliver later reads).events = []
      else
        match (fieldValue? "range" req.fields).bind HeaderField.visibleText? with
        | none => Served (request size) none conn size later reads r ∧ r.head.field? "content-range" = none
        | some text =>
          match ByteRange.parseRange text size with
          | .ok range =>
            Served (request size) (some range) conn range.len later reads r ∧
              r.head.field? "content-range" = some (range.contentRange size)
          | .error (.malformed _) =>
            Served (request size) none conn size later reads r ∧ r.head.field? "content-range" = none
          | .error (.unsatisfiable _) =>
            Refused 416 r ∧ (r.deliver later reads).events = [] ∧
              r.head.field? "content-range" = some s!"bytes */{size}" := by
  intro r request
  have hserved : ∀ d : Download, d.length < UInt64.size →
      r = ⟨d.head, .payload (.ofDownload d), [d.tag.received], []⟩ →
      Served ⟨.bytes d.size, .download, d.protocol⟩ d.range d.conn d.length later reads r ∧
        r.head.field? "content-range" = d.range.map (·.contentRange d.size) := by
    rintro d hlength hd
    rw [hd]
    exact ⟨served_download later reads hlength, d.head_contentRange⟩
  have hrefused : ∀ e : ApiError, r = refuseTransfer .download conn e →
      Refused e.status r ∧ (r.deliver later reads).events = [] := by
    rintro e he
    rw [he]
    exact ⟨refused_of_error .download conn e, deliver_refused .download conn e later reads⟩
  cases hparse : Size.parse sizeText with
  | error e =>
    dsimp only
    rw [← parse_error_status hparse]
    refine hrefused (.size e) ?_
    simp only [r, download, Download.accept, Size.validate_error limit hparse]
  | ok size =>
    dsimp only
    have haccept := Size.validate_ok limit hparse
    have hsize := Size.lt_of_parse hparse
    split
    · rename_i hlimit
      refine hrefused (.size (.tooLarge size (limit.getD size))) ?_
      simp only [r, download, Download.accept, haccept, if_pos hlimit]
    · rename_i hlimit
      rw [if_neg hlimit] at haccept
      cases hvalue : (fieldValue? "range" req.fields).bind HeaderField.visibleText? with
      | none =>
        refine hserved ⟨size, none, req.version.protocol, conn⟩ hsize ?_
        simp only [r, download, Download.accept, haccept, requestedRange, hvalue]
      | some text =>
        dsimp only
        cases hrange : ByteRange.parseRange text size with
        | ok range =>
          have hwithin := (ByteRange.inside_of_parseRange hrange).within
          refine hserved ⟨size, some range, req.version.protocol, conn⟩ (Nat.lt_of_le_of_lt ?_ hsize) ?_
          · exact Nat.le_trans (Nat.le_add_left _ _) hwithin
          simp only [r, download, Download.accept, haccept, requestedRange, hvalue, hrange]
        | error e =>
          cases e with
          | malformed _ =>
            refine hserved ⟨size, none, req.version.protocol, conn⟩ hsize ?_
            simp only [r, download, Download.accept, haccept, requestedRange, hvalue, hrange]
          | unsatisfiable n =>
            obtain rfl := unsatisfiable_size hrange
            have hr : r = refuseTransfer .download conn (.unsatisfiable n) := by
              simp only [r, download, Download.accept, haccept, requestedRange, hvalue, hrange]
            obtain ⟨hstatus, hsilent⟩ := hrefused _ hr
            exact ⟨hstatus, hsilent, by rw [hr]; rfl⟩

/-- Six of ten bytes are asked for: a reader that comes to the end gets them, and one that drops the body at once
leaves an incomplete transfer. -/
theorem six_of_ten_bytes :
    let conn : Conn := ⟨1, .v4 ⟨127, 0, 0, 1⟩ 50000, .v4 ⟨127, 0, 0, 1⟩ 4443, "http/1.1"⟩
    let req : Request := ⟨"GET", ⟨"/api/10".toList, []⟩, .http11, [⟨"range", "bytes=2-7".toList⟩], []⟩
    let r := download none conn "10" req
    r.head.status = 206 ∧ r.head.field? "content-range" = some "bytes 2-7/10" ∧
      (r.deliver .origin none).frames.sum = 6 ∧
      ∀ o ∈ Event.completions (r.deliver .origin (some 0)).events, o.isComplete = false := by
  intro conn req r
  have hread := download_answers .origin none conn "10" req none
  have hdropped := download_answers .origin none conn "10" req (some 0)
  have hsize : Size.parse "10" = .ok 10 := by cbv
  have hvalue : (fieldValue? "range" req.fields).bind HeaderField.visibleText? = some "bytes=2-7" := rfl
  have hrange : ByteRange.parseRange "bytes=2-7" 10 = .ok ⟨2, 6⟩ := by cbv
  have htext : (ByteRange.mk 2 6).contentRange 10 = "bytes 2-7/10" := rfl
  simp only [hsize, hvalue, hrange, htext, Option.any_none, Bool.false_eq_true, if_false] at hread hdropped
  refine ⟨hread.1.status, hread.2, hread.1.whole (hread.1.ended rfl), ?_⟩
  intro o ho
  rw [← Bool.not_eq_true, (hdropped.1.outcome o ho).2.2]
  decide

end Http

end Goodput
