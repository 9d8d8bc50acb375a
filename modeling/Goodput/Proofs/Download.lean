import Mathlib
import Goodput.Http.App
import Goodput.Proofs.Meter
/-!
# Reading a download

However many frames are read of a download, its meter counts exactly their bytes, as far as a word can count
them, and what is not handed out is still in the source. Reading often enough hands out all of it. A download
that a word can count (`deliver_reads`) is counted exactly.
-/

namespace Goodput

/-- Where room for a chunk is offered, a bounded payload gives a chunk or what it has left. -/
theorem BoundedPayload.given_chunk (p : BoundedPayload) :
    p.given Payload.chunkSize = min p.remaining Payload.chunkSize := by
  unfold given Payload.given
  omega

namespace Http

namespace DownloadBody

variable (now : Instant)

/-- The body after a chunk was handed out, or less if there was less. -/
def afterChunk (b : DownloadBody) : DownloadBody :=
  let n := min b.source.remaining Payload.chunkSize
  ⟨⟨b.source.remaining - n⟩, b.meter.add now n⟩

theorem next_eq (b : DownloadBody) :
    b.next now = (if b.source.remaining = 0 then none else some (min b.source.remaining Payload.chunkSize),
      b.afterChunk now) := by
  have hn : min b.source.remaining Payload.chunkSize = 0 ↔ b.source.remaining = 0 := by
    unfold Payload.chunkSize; omega
  unfold next
  dsimp only
  rw [BoundedPayload.after, BoundedPayload.given_chunk]
  simp only [hn]
  split <;> rfl

theorem read_empty {b : DownloadBody} (h : b.source.remaining = 0) (k : Nat) :
    b.read now (k + 1) = ([], b.afterChunk now) := by
  rw [read, next_eq, if_pos h]

theorem read_more {b : DownloadBody} (h : b.source.remaining ≠ 0) (k : Nat) :
    b.read now (k + 1) = (min b.source.remaining Payload.chunkSize :: ((b.afterChunk now).read now k).1,
      ((b.afterChunk now).read now k).2) := by
  rw [read, next_eq, if_neg h]

/-- What was handed out was counted, and was taken from the source. -/
structure HandsOut (b b' : DownloadBody) (bytes : Nat) : Prop where
  counted : b.meter.Counts bytes b'.meter
  left : b'.source.remaining + bytes = b.source.remaining
  listener : b'.meter.listener = b.meter.listener

theorem HandsOut.trans {b b' b'' : DownloadBody} {m n : Nat} (h : HandsOut b b' m) (h' : HandsOut b' b'' n) :
    HandsOut b b'' (m + n) where
  counted := h.counted.trans h'.counted
  left := by rw [← h.left, ← h'.left]; omega
  listener := h'.listener.trans h.listener

theorem afterChunk_handsOut (b : DownloadBody) :
    HandsOut b (b.afterChunk now) (min b.source.remaining Payload.chunkSize) where
  counted := Meter.add_counts _
  left := by simp only [afterChunk]; omega
  listener := by simp [afterChunk]

theorem read_handsOut (k : Nat) (b : DownloadBody) : HandsOut b (b.read now k).2 (b.read now k).1.sum := by
  induction k generalizing b with
  | zero => exact ⟨.of_eq rfl, rfl, rfl⟩
  | succ k ih =>
    have hchunk := b.afterChunk_handsOut now
    by_cases h : b.source.remaining = 0
    · rw [read_empty now h]
      simpa [h] using hchunk
    · rw [read_more now h, List.sum_cons]
      exact hchunk.trans (ih (b.afterChunk now))

/-- Reading once more often than there are chunks comes to the end. -/
theorem read_to_end {j : Nat} {b : DownloadBody} (h : b.source.remaining ≤ j * Payload.chunkSize) :
    (b.read now (j + 1)).2.source.remaining = 0 := by
  -- The last of the reads is the one that finds nothing.
  induction j generalizing b with
  | zero =>
    have h0 : b.source.remaining = 0 := by omega
    rw [read_empty now h0]
    simp [afterChunk, h0]
  | succ j ih =>
    by_cases h0 : b.source.remaining = 0
    · rw [read_empty now h0]
      simp [afterChunk, h0]
    · rw [read_more now h0]
      refine ih ?_
      rw [Nat.succ_mul] at h
      simp only [afterChunk]
      omega

theorem read_all (b : DownloadBody) : (b.read now b.readsToEnd).1.sum = b.source.remaining := by
  have hend : (b.read now b.readsToEnd).2.source.remaining = 0 := by
    refine b.read_to_end now (j := b.source.remaining / Payload.chunkSize + 1) ?_
    unfold Payload.chunkSize; omega
  have hleft := (b.read_handsOut now b.readsToEnd).left
  omega

end DownloadBody

/-- A download has the length of its range, or of the whole where it has none. -/
theorem Download.length_eq (d : Download) : d.length = (d.range.map (·.len)).getD d.size := by
  rcases d with ⟨size, _ | range, protocol, conn⟩ <;> rfl

/-- However many frames of a download are read, closing it reports exactly the bytes that were handed out. -/
theorem deliver_reads (now : Instant) (reads : Option Nat) {d : Download} (hlength : d.length < UInt64.size)
    (head : Head) (events : List Event) (records : List LogRecord) :
    let b := DownloadBody.ofDownload d
    let frames := (b.read now (reads.getD b.readsToEnd)).1
    ∃ elapsed, (Reply.mk head (.payload b) events records).deliver now reads =
      ⟨frames, reads.all fun n => decide (frames.length < n), events ++ [d.tag.done ⟨frames.sum, elapsed⟩]⟩ := by
  intro b frames
  let rest := (b.read now (reads.getD b.readsToEnd)).2
  obtain ⟨hcounted, hleft, hlistener⟩ := b.read_handsOut now (reads.getD b.readsToEnd)
  have hbytes : rest.meter.bytes = frames.sum := by
    have hzero : b.meter.bytes = 0 := rfl
    have hall : b.source.remaining = d.length := rfl
    rw [Meter.Counts, hzero, Nat.zero_add] at hcounted
    exact hcounted (by omega)
  have hclose : rest.close now = [d.tag.done ⟨frames.sum, rest.meter.elapsed now⟩] := by
    rw [← hbytes]
    exact dispose_events (hlistener.trans (TransferTag.meter_listener d.tag)) now
  refine ⟨rest.meter.elapsed now, ?_⟩
  simp only [Reply.deliver]
  rw [show (b.read now (reads.getD b.readsToEnd)).2 = rest from rfl, hclose]

/-- A download that is read to its end hands out its length, and reports it when it is closed. -/
theorem deliver_download (now : Instant) {d : Download} (hlength : d.length < UInt64.size) (head : Head)
    (events : List Event) (records : List LogRecord) :
    ∃ frames elapsed, frames.sum = d.length ∧
      (Reply.mk head (.payload (.ofDownload d)) events records).deliver now none =
        ⟨frames, true, events ++ [d.tag.done ⟨d.length, elapsed⟩]⟩ := by
  let b := DownloadBody.ofDownload d
  have hall : (b.read now b.readsToEnd).1.sum = d.length := b.read_all now
  obtain ⟨elapsed, hdeliver⟩ := deliver_reads now none hlength head events records
  simp only [Option.getD_none, Option.all_none] at hdeliver
  rw [hall] at hdeliver
  exact ⟨(b.read now b.readsToEnd).1, elapsed, hall, hdeliver⟩

end Http

end Goodput
