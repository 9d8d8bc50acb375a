import Goodput.Client.SplitRun
import Goodput.Proofs.Download
import Goodput.Proofs.PartitionRequest
import Goodput.Proofs.TransferPath
import Goodput.Proofs.Upload
/-!
# Client and server agree on split transfers

A client cuts a transfer into the partitions of its plan and asks for each with a request of its own. The
server knows nothing of plans: it reads a size from the path and a range from a header. We follow the request
of one partition through the server, piece by piece, and `split_transfer_agrees` puts the partitions together
again: each answer has the status that the client expects, each moves exactly its partition, and what the
server logs adds up to the transfer.
-/

namespace Goodput

open Http

namespace Client

/-! ## The server's side -/

/-- A partition of a transfer of `total` bytes is asked for at a server, with a body of these chunks. -/
def ask (settings : Server.Settings) (now : Instant) (conn : Conn) (direction : Direction) (total : Nat)
    (p : Partition) (chunks : List Nat) : Reply :=
  App.answerDetached settings now (some conn)
    (partitionRequest (transferPath total) direction p (chunks.map .data))

/-- What the events of a partition's transfer say. -/
def partitionTag (conn : Conn) (direction : Direction) (p : Partition) : TransferTag :=
  ⟨⟨.bytes p.parent, direction, .http2⟩, askedRange p, conn⟩

/-- The request of a partition comes to the handler of its direction. -/
theorem ask_eq {settings : Server.Settings} (hmode : settings.mode ≠ .ndt7) (now : Instant) (conn : Conn)
    (direction : Direction) (total : Nat) (p : Partition) (chunks : List Nat) :
    let req := partitionRequest (transferPath total) direction p (chunks.map .data)
    let sizeText := String.ofList (Decimal.digits total)
    ask settings now conn direction total p chunks = CrossOrigin.apply (match direction with
      | .download => download settings.maxSize conn sizeText req
      | .upload => upload now settings.maxSize conn sizeText req) := by
  cases direction <;>
    simp [ask, App.answerDetached, App.answer, App.onPath, partitionRequest, ofText_transferPath,
      ofPath?_transferPath hmode, Route.methods, App.onRoute, transfer, segmentText?_digits]

theorem accept_download {p : Partition} (h : Askable p) (limit : Option Nat) (conn : Conn) :
    Download.accept limit .http2 conn (String.ofList (Decimal.digits p.parent))
        (fieldValue? "range" (partitionFields .download p)) =
      if limit.any (· < p.parent) then .error (.size (.tooLarge p.parent (limit.getD p.parent)))
      else .ok ⟨p.parent, askedRange p, .http2, conn⟩ := by
  rw [Download.accept, Size.validate_ok limit (Size.parse_digits h.bounded)]
  cases limit.any (· < p.parent) with
  | true => rfl
  | false =>
    simp only [Bool.false_eq_true, if_false]
    rw [requestedRange_partition h]

theorem accept_upload {p : Partition} (h : Askable p) (limit : Option Nat) (conn : Conn) :
    Upload.accept limit .http2 conn (String.ofList (Decimal.digits p.parent))
        (fieldValue? "content-range" (partitionFields .upload p)) =
      if limit.any (· < p.parent) then .error (.size (.tooLarge p.parent (limit.getD p.parent)))
      else .ok ⟨p.parent, askedRange p, .http2, conn⟩ := by
  rw [Upload.accept, Size.validate_ok limit (Size.parse_digits h.bounded)]
  cases limit.any (· < p.parent) with
  | true => rfl
  | false =>
    simp only [Bool.false_eq_true, if_false]
    rw [announcedRange_partition h]

/-! ## One partition -/

/-- A partition is counted in a word. -/
theorem len_lt_of_askable {p : Partition} (h : Askable p) : p.len < UInt64.size := by
  refine Nat.lt_of_le_of_lt ?_ h.bounded
  rw [← askedRange_len p, askedRange]
  cases hwhole : p.isWhole with
  | true => exact Nat.le_refl _
  | false => exact Nat.le_trans (Nat.le_add_left _ _) (h.inside hwhole).within

/-- The answer for a partition is the one that its client expects, its bytes moved, and the server logged
the transfer and its end. -/
structure Moved (direction : Direction) (p : Partition) (tag : TransferTag) (r : Reply) (d : Delivery) : Prop where
  status : r.head.status = expectedStatus direction p
  frames : direction = .download → d.frames.sum = p.len
  logged : ∃ elapsed, d.events = [.requestReceived tag.request tag.range tag.conn,
    .requestDone ⟨tag.request, tag.range, tag.conn, ⟨p.len, elapsed⟩⟩]
  complete : ∀ o ∈ Event.completions d.events, o.isComplete = true

theorem deliver_apply (r : Reply) (now : Instant) (reads : Option Nat) :
    (CrossOrigin.apply r).deliver now reads = r.deliver now reads := rfl

theorem partition_complete {conn : Conn} {direction : Direction} {p : Partition} {events : List Event}
    (h : ∃ elapsed, events = [(partitionTag conn direction p).received,
      (partitionTag conn direction p).done ⟨p.len, elapsed⟩]) :
    ∀ o ∈ Event.completions events, o.isComplete = true := by
  obtain ⟨elapsed, rfl⟩ := h
  intro o ho
  obtain rfl := TransferTag.mem_completions.1 ho
  rw [TransferOutcome.isComplete_iff (TransferOutcome.expected_of_size rfl)]
  exact (askedRange_len p).symm

theorem download_moved {p : Partition} (h : Askable p) {limit : Option Nat}
    (hlimit : limit.any (· < p.parent) = false) (later : Instant) (conn : Conn) (body : List BodyPart) :
    let r := download limit conn (String.ofList (Decimal.digits p.parent))
      (partitionRequest (transferPath p.parent) .download p body)
    Moved .download p (partitionTag conn .download p) r (r.deliver later none) := by
  let d : Download := ⟨p.parent, askedRange p, .http2, conn⟩
  have hlen : d.length = p.len := (Download.length_eq d).trans (askedRange_len p)
  have hstatus : d.head.status = expectedStatus .download p := by
    simp only [d, Download.head, askedRange, expectedStatus]
    cases p.isWhole <;> rfl
  have hr : download limit conn (String.ofList (Decimal.digits p.parent))
      (partitionRequest (transferPath p.parent) .download p body) =
        ⟨d.head, .payload (.ofDownload d), [d.tag.received], []⟩ := by
    simp only [download, partitionRequest, Version.protocol, accept_download h, hlimit, Bool.false_eq_true,
      if_false]
    rfl
  have hfits : d.length < UInt64.size := hlen ▸ len_lt_of_askable h
  obtain ⟨frames, elapsed, hframes, hdeliver⟩ := deliver_download later hfits d.head [d.tag.received] []
  rw [hlen] at hframes hdeliver
  dsimp only
  rw [hr, hdeliver]
  exact ⟨hstatus, fun _ => hframes, ⟨elapsed, rfl⟩, partition_complete ⟨elapsed, rfl⟩⟩

theorem upload_moved {p : Partition} (h : Askable p) {limit : Option Nat}
    (hlimit : limit.any (· < p.parent) = false) (now later : Instant) (conn : Conn) {chunks : List Nat}
    (hbody : chunks.sum = p.len) :
    let r := upload now limit conn (String.ofList (Decimal.digits p.parent))
      (partitionRequest (transferPath p.parent) .upload p (chunks.map .data))
    Moved .upload p (partitionTag conn .upload p) r (r.deliver later none) := by
  let u : Upload := ⟨p.parent, askedRange p, .http2, conn⟩
  have hlen : u.length = p.len := (Upload.length_eq u).trans (askedRange_len p)
  have hreceive : u.receive now (chunks.map .data) =
      ⟨none, p.len, [u.tag.received, u.tag.done ⟨p.len, .zero⟩]⟩ := by
    have hfits : u.length < UInt64.size := hlen ▸ len_lt_of_askable h
    rw [receive_eq now hfits, available_data, failure_data, hlen, hbody]
    simp
  have hr : upload now limit conn (String.ofList (Decimal.digits p.parent))
      (partitionRequest (transferPath p.parent) .upload p (chunks.map .data)) =
        ⟨.empty 204, .none, [u.tag.received, u.tag.done ⟨p.len, .zero⟩], []⟩ := by
    simp only [upload, partitionRequest, Version.protocol, accept_upload h, hlimit, Bool.false_eq_true, if_false]
    change Reply.mk (u.receive now (chunks.map .data)).head .none (u.receive now (chunks.map .data)).events _ = _
    rw [hreceive]
    rfl
  dsimp only
  rw [hr]
  exact ⟨rfl, fun hdirection => (by cases hdirection), ⟨.zero, rfl⟩, partition_complete ⟨.zero, rfl⟩⟩

/-! ## All partitions -/

/-- A partition of a transfer within the limit moves. -/
theorem ask_moved {settings : Server.Settings} (hmode : settings.mode ≠ .ndt7) (now later : Instant)
    (conn : Conn) {direction : Direction} {p : Partition} {chunks : List Nat} (h : Askable p)
    (hlimit : settings.maxSize.any (· < p.parent) = false) (hbody : direction = .upload → chunks.sum = p.len) :
    let r := ask settings now conn direction p.parent p chunks
    Moved direction p (partitionTag conn direction p) r (r.deliver later none) := by
  dsimp only
  rw [ask_eq hmode, deliver_apply]
  cases direction with
  | download =>
    have hmoved := download_moved h hlimit later conn (chunks.map .data)
    exact ⟨hmoved.status, hmoved.frames, hmoved.logged, hmoved.complete⟩
  | upload =>
    have hmoved := upload_moved h hlimit now later conn (hbody rfl)
    exact ⟨hmoved.status, hmoved.frames, hmoved.logged, hmoved.complete⟩

/-- A partition of a transfer above the limit is refused before its range is looked at. -/
theorem ask_refused {settings : Server.Settings} (hmode : settings.mode ≠ .ndt7) (now later : Instant)
    (conn : Conn) (direction : Direction) {p : Partition} (chunks : List Nat) (h : Askable p)
    (hlimit : settings.maxSize.any (· < p.parent) = true) :
    let r := ask settings now conn direction p.parent p chunks
    Refused 413 r ∧ (r.deliver later none).events = [] := by
  dsimp only
  rw [ask_eq hmode, deliver_apply]
  cases direction with
  | download =>
    simp only [download, partitionRequest, Version.protocol, accept_download h, hlimit, if_true]
    exact ⟨⟨rfl, rfl⟩, rfl⟩
  | upload =>
    simp only [upload, partitionRequest, Version.protocol, accept_upload h, hlimit, if_true]
    exact ⟨⟨rfl, rfl⟩, rfl⟩

/-- A client never takes a refusal for its size for a good answer. -/
theorem partitionResult_tooLarge (direction : Direction) (p : Partition) (stats : TransferStats) :
    partitionResult direction p 413 stats = .error (.status p.index 413) := by
  have hne : 413 ≠ expectedStatus direction p := by
    cases direction with
    | download => unfold expectedStatus; cases p.isWhole <;> decide
    | upload => exact (by decide : 413 ≠ 204)
  rw [partitionResult, if_neg hne]

/-- For every plan, mode, direction and limit: if the transfer is within the limit, the request of each
partition is answered as the client expects, its bytes move, and the server logs it under its range, or
under none where the plan has one partition; the transfers logged add up to the whole. Above the limit
each partition is refused as too large, which the client reports, and nothing is logged. -/
theorem split_transfer_agrees (settings : Server.Settings) (now later : Instant) (conn : Conn)
    (policy : SplitPolicy) (total : Nat) (mode : StreamCount) (direction : Direction)
    (chunks : Partition → List Nat) (hmode : settings.mode ≠ .ndt7) (htotal : total < UInt64.size)
    (hbody : ∀ p ∈ policy.plan total mode, direction = .upload → (chunks p).sum = p.len) :
    let plan := policy.plan total mode
    let reply := fun p => ask settings now conn direction total p (chunks p)
    let delivery := fun p => (reply p).deliver later none
    if settings.maxSize.any (· < total) then
      ∀ p ∈ plan, Refused 413 (reply p) ∧ (delivery p).events = [] ∧
        ∀ stats, partitionResult direction p (reply p).head.status stats = .error (.status p.index 413)
    else
      (∀ p ∈ plan, Moved direction p
        ⟨⟨.bytes total, direction, .http2⟩, if plan.length = 1 then none else some p.range, conn⟩
        (reply p) (delivery p)) ∧
      ((plan.flatMap fun p => Event.completions (delivery p).events).map (·.stats.bytes)).sum = total := by
  intro plan reply delivery
  have hparent : ∀ p ∈ plan, p.parent = total := fun p hp => parent_of_mem hp
  have hask : ∀ p ∈ plan, Askable p := fun p hp => askable_of_mem htotal hp
  have hrange : ∀ p ∈ plan, askedRange p = if plan.length = 1 then none else some p.range := by
    intro p hp
    have hwhole : p.isWhole = true ↔ plan.length = 1 := isWhole_iff_of_mem hp
    simp only [askedRange, hwhole]
  split
  · rename_i hlimit
    intro p hp
    have hr : Refused 413 (reply p) ∧ (delivery p).events = [] := by
      have h := ask_refused hmode now later conn direction (chunks p) (hask p hp)
      rw [hparent p hp] at h
      exact h hlimit
    refine ⟨hr.1, hr.2, fun stats => ?_⟩
    rw [hr.1.status]
    exact partitionResult_tooLarge direction p stats
  · rename_i hlimit
    rw [Bool.not_eq_true] at hlimit
    have hmoved : ∀ p ∈ plan, Moved direction p
        ⟨⟨.bytes total, direction, .http2⟩, if plan.length = 1 then none else some p.range, conn⟩
        (reply p) (delivery p) := by
      intro p hp
      have h := ask_moved hmode now later conn (hask p hp) (by rwa [hparent p hp]) (hbody p hp)
      rw [partitionTag, hrange p hp, hparent p hp] at h
      exact h
    have hbytes : ∀ p ∈ plan, (Event.completions (delivery p).events).map (·.stats.bytes) = [p.len] := by
      intro p hp
      obtain ⟨elapsed, hlogged⟩ := (hmoved p hp).logged
      rw [hlogged]
      rfl
    refine ⟨hmoved, ?_⟩
    -- Each partition adds its own length, and the lengths of a plan add up.
    rw [List.map_flatMap, List.flatMap_congr hbytes, ← List.map_eq_flatMap]
    exact sum_lens total (policy.streamCount total mode)

/-- 1003 bytes in four partitions: an upload that the server takes, and a download that it finds too large. -/
theorem split_transfer_1003 :
    let conn : Conn := ⟨1, .v4 ⟨127, 0, 0, 1⟩ 50000, .v4 ⟨127, 0, 0, 1⟩ 4444, "h2"⟩
    let settings := Server.Settings.forMode .http2
    let limited := { settings with maxSize := some 1002 }
    let plan := (SplitPolicy.mk 500 251 16).plan 1003 .auto
    let uploaded := fun p : Partition => (ask settings .origin conn .upload 1003 p [p.len]).deliver .origin none
    (settings.mode ≠ .ndt7 ∧ 1003 < UInt64.size ∧
      ∀ p ∈ plan, Direction.upload = .upload → [p.len].sum = p.len) ∧
    plan.map (·.len) = [250, 250, 250, 253] ∧
    ((plan.flatMap fun p => Event.completions (uploaded p).events).map (·.stats.bytes)).sum = 1003 ∧
    ∀ p ∈ plan, Refused 413 (ask limited .origin conn .download 1003 p []) := by
  intro conn settings limited plan uploaded
  have hbody : ∀ p ∈ plan, Direction.upload = .upload → [p.len].sum = p.len :=
    fun p _ _ => Nat.add_zero p.len
  have htaken := split_transfer_agrees settings .origin .origin conn ⟨500, 251, 16⟩ 1003 .auto .upload
    (fun p => [p.len]) (by decide) (by decide) hbody
  have hlimited := split_transfer_agrees limited .origin .origin conn ⟨500, 251, 16⟩ 1003 .auto .download
    (fun _ => []) (by decide) (by decide) (fun _ _ hdirection => by cases hdirection)
  exact ⟨⟨by decide, by decide, hbody⟩, by decide, htaken.2, fun p hp => (hlimited p hp).1⟩

end Client

end Goodput
