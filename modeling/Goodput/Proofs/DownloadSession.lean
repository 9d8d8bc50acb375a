import Mathlib
import Goodput.Ndt7.Session
import Goodput.Proofs.Meter
/-!
# What a download session counts

The rounds of a session make calls on its socket, and the socket has a queue: a flush that succeeds, or a
close frame that is flushed, sends out all that was queued before. `Outbox` is that queue. It knows nothing
of meters, and `download_counts_what_left` says that the count reported is the sum of the messages that left
it, each of them once.

The session tallies. `download_counts_in_words` says that it could as well count in words, unless more bytes leave
the queue than a word can count.

That the socket's flush does what `Outbox.call` says is taken on trust; how each call comes out is arbitrary.
-/

namespace Goodput.Ndt7

/-! ## The queue of the socket -/

/-- A call of a download session on its socket, and how it came out. -/
inductive SocketCall where
  | queueText (queued : Bool)
  | queueBinary (size : Nat) (queued : Bool)
  | flush (outcome : Flush)
  | close (flushed : Bool)
deriving Repr, DecidableEq, Inhabited

/-- The binary messages that wait in the queue, and those that left it. -/
structure Outbox where
  queued : List Nat
  left : List Nat
deriving Repr, DecidableEq, Inhabited

namespace Outbox

def empty : Outbox := ⟨[], []⟩

def call (o : Outbox) : SocketCall → Outbox
  | .queueBinary size true => { o with queued := o.queued ++ [size] }
  | .flush .done | .close true => ⟨[], o.left ++ o.queued⟩
  | .flush .broken => ⟨[], o.left⟩
  | .queueText _ | .queueBinary _ false | .flush .cut | .close false => o

def run (o : Outbox) (calls : List SocketCall) : Outbox := calls.foldl call o

end Outbox

/-! ## The calls of a session -/

namespace Turn

/-- The calls that send the binary message. -/
def binaryCalls (t : Turn) (size : Nat) : List SocketCall :=
  .queueBinary size t.binaryQueued :: if t.binaryQueued then [.flush t.flush] else []

/-- The calls of a round that finds the session in a state. -/
def calls (t : Turn) (s : Download) : List SocketCall :=
  if s.due t then .queueText t.textQueued :: if t.textQueued then t.binaryCalls s.message else []
  else t.binaryCalls s.message

/-- What becomes of the binary message of a round. -/
def fate (t : Turn) : Fate :=
  match t.binaryQueued, t.flush with
  | false, _ => .unqueued
  | true, .done => .flushed
  | true, .cut => .cut
  | true, .broken => .broken

/-- The binary message of a round. A measurement that cannot be queued comes in its way. -/
def message? (t : Turn) (s : Download) : Option SentMessage :=
  if s.due t && !t.textQueued then none else some ⟨s.message, t.fate⟩

end Turn

/-- The rounds that take place, each with the state that it finds. -/
def Download.rounds : List Turn → Download → List (Turn × Download)
  | [], _ => []
  | t :: ts, s => (t, s) :: if (s.turn t).1 then rounds ts (s.turn t).2 else []

namespace DownloadRun

def rounds (r : DownloadRun) : List (Turn × Download) :=
  (Download.start r.window r.conn r.uuid r.start).rounds r.turns

def calls (r : DownloadRun) : List SocketCall :=
  (r.rounds.flatMap fun (t, s) => t.calls s) ++ [.close r.closeFlushed]

/-- The session after its rounds. -/
def last (r : DownloadRun) : Download := (Download.start r.window r.conn r.uuid r.start).loop r.turns

/-- The queue after the session. -/
def outbox (r : DownloadRun) : Outbox := Outbox.empty.run r.calls

end DownloadRun

/-- A message leaves by its own flush, or with the close frame if its flush was cut short. -/
def Fate.leaves (closeFlushed : Bool) : Fate → Bool
  | .flushed => true
  | .cut => closeFlushed
  | .unqueued | .broken => false

/-- The sizes of the messages that leave. -/
def Download.leaving (closeFlushed : Bool) (s : Download) : List Nat :=
  (s.messages.filter (·.fate.leaves closeFlushed)).map (·.size)

/-! ## What sending does -/

namespace Download

variable (t : Turn) (s : Download)

/-- Adapting the size touches nothing that counts. -/
theorem adapt_eq : ∃ sizer message, s.adapt = { s with sizer := sizer, message := message } := by
  unfold adapt
  dsimp only
  split
  · exact ⟨_, _, rfl⟩
  · exact ⟨_, s.message, rfl⟩

/-- The state after a binary message of the fate that its calls gave it. -/
structure AfterSend (t : Turn) (s s' : Download) : Prop where
  messages : s'.messages = s.messages ++ [⟨s.message, t.fate⟩]
  bytes : s'.meter.bytes = s.meter.bytes + if t.fate = .flushed then s.message else 0
  pending : s'.pending = match t.fate with
    | .unqueued => s.pending
    | .cut => s.message
    | .flushed | .broken => 0
  listener : s'.meter.listener = s.meter.listener
  tag : s'.tag = s.tag
  log : s'.log = s.log

theorem AfterSend.adapt {t : Turn} {s s' : Download} (h : AfterSend t s s') : AfterSend t s s'.adapt := by
  obtain ⟨sizer, message, hadapt⟩ := adapt_eq s'
  rw [hadapt]
  exact ⟨h.messages, h.bytes, h.pending, h.listener, h.tag, h.log⟩

theorem send_after : AfterSend t s (s.send t).2 := by
  have hfate : t.fate = match t.binaryQueued, t.flush with
    | false, _ => .unqueued
    | true, .done => .flushed
    | true, .cut => .cut
    | true, .broken => .broken := rfl
  unfold send
  cases hqueued : t.binaryQueued with
  | false =>
    rw [hqueued] at hfate
    constructor <;> simp [hfate, sent]
  | true =>
    cases hflush : t.flush with
    | done =>
      rw [hqueued, hflush] at hfate
      refine AfterSend.adapt ?_
      constructor <;> simp [hfate, sent]
    | cut | broken =>
      rw [hqueued, hflush] at hfate
      constructor <;> simp [hfate, sent]

/-- The session goes on as long as its messages are flushed. -/
theorem send_goesOn : (s.send t).1 = decide (t.fate = .flushed) := by
  unfold send Turn.fate
  cases t.binaryQueued <;> cases t.flush <;> rfl

theorem leaving_append {s s' : Download} {m : SentMessage} (h : s'.messages = s.messages ++ [m]) (flushed : Bool) :
    s'.leaving flushed = s.leaving flushed ++ if m.fate.leaves flushed then [m.size] else [] := by
  rw [leaving, h, List.filter_append, List.map_append, leaving]
  congr 1
  cases hm : m.fate.leaves flushed <;> simp [hm]

/-- The session when a round of it comes to the binary message. -/
def ready : Download := if s.due t then s.measure t else s

@[simp] theorem ready_bytes : (s.ready t).meter.bytes = s.meter.bytes := by
  unfold ready; split <;> rfl

@[simp] theorem ready_message : (s.ready t).message = s.message := by
  unfold ready; split <;> rfl

@[simp] theorem ready_messages : (s.ready t).messages = s.messages := by
  unfold ready; split <;> rfl

@[simp] theorem ready_tag : (s.ready t).tag = s.tag := by
  unfold ready; split <;> rfl

/-- A measurement that cannot be queued ends the session, and any other round sends a binary message. -/
theorem turn_cases :
    ((s.due t && !t.textQueued) = true ∧ s.turn t = (false, s.ready t)) ∨
      ((s.due t && !t.textQueued) = false ∧ s.turn t = (s.ready t).send t) := by
  unfold turn ready
  cases s.due t <;> cases t.textQueued <;> simp

end Download

/-- What the calls for a binary message do to the queue. -/
theorem run_binaryCalls (t : Turn) (size : Nat) (o : Outbox) :
    o.run (t.binaryCalls size) = match t.fate with
      | .unqueued => o
      | .flushed => ⟨[], o.left ++ (o.queued ++ [size])⟩
      | .cut => ⟨o.queued ++ [size], o.left⟩
      | .broken => ⟨[], o.left⟩ := by
  unfold Turn.binaryCalls Turn.fate
  cases t.binaryQueued <;> cases t.flush <;> rfl

/-! ## What a round does to the count -/

/-- The session's numbers are those of the queue, whichever way the close frame goes. -/
structure Accounted (s : Download) (o : Outbox) : Prop where
  counted : s.meter.bytes = o.left.sum
  pending : s.pending = o.queued.sum
  leaving : ∀ flushed, (o.call (.close flushed)).left = s.leaving flushed

/-- Between two rounds nothing is queued. -/
structure Settled (s : Download) (o : Outbox) : Prop extends Accounted s o where
  empty : o.queued = []

/-- Sending keeps the account, and leaves nothing queued if the session goes on. -/
theorem send_accounted {s : Download} {o : Outbox} (t : Turn) (h : Settled s o) :
    Accounted (s.send t).2 (o.run (t.binaryCalls s.message)) ∧
      ((s.send t).1 = true → (o.run (t.binaryCalls s.message)).queued = []) := by
  rcases o with ⟨queued, left⟩
  obtain rfl : queued = [] := h.empty
  -- With nothing queued the close frame has nothing to flush, so both ways of closing agree so far.
  have hleaving : ∀ flushed, s.leaving flushed = left := by
    intro flushed
    rw [← h.leaving flushed]
    cases flushed <;> simp [Outbox.call]
  have hs := Download.send_after t s
  rw [run_binaryCalls, Download.send_goesOn]
  generalize (s.send t).2 = s' at hs ⊢
  -- From here on only the fate of the message matters, not the calls that led to it.
  obtain ⟨hmessages, hbytes, hpending, -, -, -⟩ := hs
  have hleaving' := fun flushed => Download.leaving_append hmessages flushed
  rw [h.counted] at hbytes
  rw [h.pending] at hpending
  cases hf : t.fate with
  | unqueued | flushed | cut | broken =>
    simp only [hf] at hbytes hpending hleaving' ⊢
    refine ⟨⟨?_, ?_, ?_⟩, by simp⟩
    · simp [hbytes]
    · simp [hpending]
    · intro flushed
      rw [hleaving', hleaving]
      cases flushed <;> simp [Outbox.call, Fate.leaves]

/-- A measurement counts nothing, whether it is queued or not. -/
theorem turn_accounted {s : Download} {o : Outbox} (t : Turn) (h : Settled s o) :
    Accounted (s.turn t).2 (o.run (t.calls s)) ∧
      ((s.turn t).1 = true → (o.run (t.calls s)).queued = []) := by
  have hready : Settled (s.ready t) o := by
    unfold Download.ready
    split
    · exact ⟨⟨h.counted, h.pending, h.leaving⟩, h.empty⟩
    · exact h
  have hcalls : o.run (t.calls s) =
      if s.due t && !t.textQueued then o else o.run (t.binaryCalls (s.ready t).message) := by
    rw [Turn.calls, Download.ready_message]
    cases s.due t <;> cases t.textQueued <;> rfl
  rcases Download.turn_cases t s with ⟨hblocked, hturn⟩ | ⟨hopen, hturn⟩
  · rw [hturn, hcalls, if_pos hblocked]
    exact ⟨hready.toAccounted, fun hgoesOn => by cases hgoesOn⟩
  · rw [hturn, hcalls, if_neg (by simp [hopen])]
    exact send_accounted t hready

theorem turn_messages (t : Turn) (s : Download) :
    (s.turn t).2.messages = s.messages ++ (t.message? s).toList := by
  rw [Turn.message?]
  rcases Download.turn_cases t s with ⟨hblocked, hturn⟩ | ⟨hopen, hturn⟩
  · simp [hturn, hblocked]
  · simp [hturn, hopen, (Download.send_after t _).messages]

/-- The meter tells the session's end to the log, and nobody has told it before. -/
structure Open (s : Download) : Prop where
  listener : s.meter.listener = some s.tag
  silent : Event.completions s.log = []

theorem send_open {s : Download} (t : Turn) (h : Open s) : Open (s.send t).2 := by
  have hs := Download.send_after t s
  exact ⟨by rw [hs.listener, hs.tag, h.listener], by rw [hs.log, h.silent]⟩

theorem turn_open {s : Download} (t : Turn) (h : Open s) : Open (s.turn t).2 ∧ (s.turn t).2.tag = s.tag := by
  have hready : Open (s.ready t) := by
    unfold Download.ready
    split
    · refine ⟨h.listener, ?_⟩
      simp only [Download.measure, Event.completions, List.filterMap_append]
      exact List.append_eq_nil_iff.2 ⟨h.silent, rfl⟩
    · exact h
  rcases Download.turn_cases t s with ⟨-, hturn⟩ | ⟨-, hturn⟩
  · rw [hturn]
    exact ⟨hready, Download.ready_tag t s⟩
  · rw [hturn]
    exact ⟨send_open t hready, (Download.send_after t _).tag.trans (Download.ready_tag t s)⟩

/-! ## What all rounds do -/

theorem loop_accounted {s : Download} {o : Outbox} (ts : List Turn) (h : Settled s o) :
    Accounted (s.loop ts) (o.run ((s.rounds ts).flatMap fun (t, s) => t.calls s)) := by
  -- A round that goes on leaves nothing queued, so the next one finds the session settled again.
  induction ts generalizing s o with
  | nil => exact h.toAccounted
  | cons t ts ih =>
    obtain ⟨hturn, hqueued⟩ := turn_accounted t h
    simp only [Download.loop, Download.rounds, List.flatMap_cons]
    rw [show ∀ a b, o.run (a ++ b) = (o.run a).run b from fun a b => List.foldl_append]
    split
    · rename_i hgoesOn
      exact ih ⟨hturn, hqueued hgoesOn⟩
    · exact hturn

theorem loop_messages (ts : List Turn) (s : Download) :
    (s.loop ts).messages = s.messages ++ (s.rounds ts).filterMap fun (t, s) => t.message? s := by
  induction ts generalizing s with
  | nil => simp [Download.loop, Download.rounds]
  | cons t ts ih =>
    simp only [Download.loop, Download.rounds, List.filterMap_cons]
    split
    · rw [ih, turn_messages]
      cases t.message? s <;> simp
    · rw [turn_messages]
      cases t.message? s <;> simp

theorem loop_open {s : Download} (ts : List Turn) (h : Open s) : Open (s.loop ts) ∧ (s.loop ts).tag = s.tag := by
  induction ts generalizing s with
  | nil => exact ⟨h, rfl⟩
  | cons t ts ih =>
    obtain ⟨hturn, htag⟩ := turn_open t h
    simp only [Download.loop]
    split
    · rw [← htag]
      exact ih hturn
    · exact ⟨hturn, htag⟩

/-! ## The end of a session -/

theorem close_bytes (s : Download) (now : Instant) (flushed : Bool) :
    (s.close now flushed).meter.bytes = s.meter.bytes + if flushed then s.pending else 0 := by
  unfold Download.close
  cases flushed with
  | false => simp
  | true =>
    simp only [Bool.true_and, decide_eq_true_eq, if_true]
    split
    · simp
    · omega

/-- The close frame brings the count up to what left the queue with it. -/
theorem close_counted {s : Download} {o : Outbox} (now : Instant) (flushed : Bool) (h : Accounted s o) :
    (s.close now flushed).meter.bytes = (o.call (.close flushed)).left.sum := by
  rw [close_bytes, h.counted, h.pending]
  cases flushed <;> simp [Outbox.call]

/-- The session after its rounds shows what left the queue in them. -/
theorem last_accounted (r : DownloadRun) :
    Accounted r.last (Outbox.empty.run (r.rounds.flatMap fun (t, s) => t.calls s)) :=
  loop_accounted r.turns
    ⟨⟨by simp [Download.start, Outbox.empty], rfl, fun flushed => by cases flushed <;> rfl⟩, rfl⟩

theorem outbox_eq (r : DownloadRun) :
    r.outbox = (Outbox.empty.run (r.rounds.flatMap fun (t, s) => t.calls s)).call (.close r.closeFlushed) := by
  simp only [DownloadRun.outbox, DownloadRun.calls, Outbox.run, List.foldl_append]
  rfl

theorem closed_bytes (r : DownloadRun) : (r.last.close r.stop r.closeFlushed).meter.bytes = r.outbox.left.sum := by
  rw [outbox_eq]
  exact close_counted r.stop r.closeFlushed (last_accounted r)

theorem close_open {s : Download} (now : Instant) (flushed : Bool) (h : Open s) :
    Open (s.close now flushed) ∧ (s.close now flushed).tag = s.tag := by
  unfold Download.close
  split
  · exact ⟨⟨by simp [h.listener], h.silent⟩, rfl⟩
  · exact ⟨h, rfl⟩

theorem close_messages (s : Download) (now : Instant) (flushed : Bool) :
    (s.close now flushed).messages = s.messages := by
  unfold Download.close; split <;> rfl

theorem finish_completions {s : Download} (now : Instant) (h : Open s) :
    Event.completions (s.finish now).log = [⟨s.tag.request, s.tag.range, s.tag.conn, s.meter.stats now⟩] := by
  have hfinish := finish_events h.listener now
  simp only [Download.finish, List.append_assoc]
  rw [hfinish, Event.completions, List.filterMap_append]
  exact (congrArg (· ++ _) h.silent).trans rfl

/-- A download session reports its end once. The count is the sum of the binary messages that left the
queue, which are those that their own flush or the close frame flushed, and the messages are those of
the rounds that took place. -/
theorem download_counts_what_left (r : DownloadRun) :
    (∃ elapsed, Event.completions r.session.log =
      [⟨⟨.window r.window, .download, .webSocket⟩, none, r.conn, ⟨r.outbox.left.sum, elapsed⟩⟩]) ∧
    r.outbox.left = r.session.leaving r.closeFlushed ∧
    r.session.messages = r.rounds.filterMap fun (t, s) => t.message? s := by
  let first := Download.start r.window r.conn r.uuid r.start
  let closed := r.last.close r.stop r.closeFlushed
  have hmessages : r.session.messages = r.last.messages := close_messages r.last r.stop r.closeFlushed
  have hlastOpen : Open r.last ∧ r.last.tag = first.tag :=
    loop_open r.turns ⟨by simp [Download.start], rfl⟩
  obtain ⟨hclosedOpen, htag⟩ := close_open r.stop r.closeFlushed hlastOpen.1
  rw [hlastOpen.2] at htag
  refine ⟨⟨closed.meter.elapsed r.stop, ?_⟩, ?_, ?_⟩
  · have hbytes : closed.meter.bytes = r.outbox.left.sum := closed_bytes r
    rw [← hbytes]
    refine (finish_completions r.stop hclosedOpen).trans ?_
    rw [htag]
    rfl
  · rw [outbox_eq, Download.leaving, hmessages]
    exact (last_accounted r).leaving r.closeFlushed
  · rw [hmessages]
    exact loop_messages r.turns first

/-! ## Counting in words -/

theorem bytes_le_turn (t : Turn) (s : Download) : s.meter.bytes ≤ (s.turn t).2.meter.bytes := by
  rcases Download.turn_cases t s with ⟨-, hturn⟩ | ⟨-, hturn⟩
  · simp [hturn]
  · rw [hturn, (Download.send_after t _).bytes, Download.ready_bytes]
    omega

theorem bytes_le_loop (ts : List Turn) (s : Download) : s.meter.bytes ≤ (s.loop ts).meter.bytes := by
  induction ts generalizing s with
  | nil => exact Nat.le_refl _
  | cons t ts ih =>
    simp only [Download.loop]
    split
    · exact (bytes_le_turn t s).trans (ih _)
    · exact bytes_le_turn t s

/-- What a round counts is part of what all rounds count. -/
theorem rounds_bytes_le {ts : List Turn} {s s' : Download} {t : Turn} (h : (t, s') ∈ s.rounds ts) :
    (s'.turn t).2.meter.bytes ≤ (s.loop ts).meter.bytes := by
  induction ts generalizing s with
  | nil => cases h
  | cons t' ts ih =>
    rcases List.mem_cons.1 h with hfirst | hlater
    · obtain ⟨rfl, rfl⟩ := Prod.mk.inj hfirst
      simp only [Download.loop]
      split
      · exact bytes_le_loop ts _
      · exact Nat.le_refl _
    · -- There are later rounds only if this one goes on.
      split at hlater
      · rename_i hgoesOn
        simp only [Download.loop, if_pos hgoesOn]
        exact ih hlater
      · cases hlater

/-- A flushed message is counted. -/
theorem turn_bytes {t : Turn} {s : Download} {n : Nat} (h : t.message? s = some ⟨n, .flushed⟩) :
    (s.turn t).2.meter.bytes = s.meter.bytes + n := by
  rw [Turn.message?] at h
  rcases Download.turn_cases t s with ⟨hblocked, -⟩ | ⟨hopen, hturn⟩
  · rw [if_pos hblocked] at h
    cases h
  · rw [hopen, if_neg Bool.false_ne_true] at h
    obtain ⟨hsize, hfate⟩ := SentMessage.mk.inj (Option.some.inj h)
    rw [hturn, (Download.send_after t _).bytes, if_pos hfate, Download.ready_bytes, Download.ready_message, hsize]

/-- If a word holds the bytes that leave the queue, every tally of a session is a sum of words: those of the messages
that are flushed, and that of the close frame. -/
theorem download_counts_in_words (r : DownloadRun) (hfits : r.outbox.left.sum < UInt64.size) :
    (∀ t s n, (t, s) ∈ r.rounds → t.message? s = some ⟨n, .flushed⟩ → s.meter.add t.now n = s.meter.tally t.now n) ∧
    (r.closeFlushed = true → r.last.meter.add r.stop r.last.pending = r.last.meter.tally r.stop r.last.pending) := by
  have hclosed := closed_bytes r
  rw [close_bytes] at hclosed
  constructor
  · intro t s n hround hmessage
    have hbytes := turn_bytes hmessage
    have hround_le : (s.turn t).2.meter.bytes ≤ r.last.meter.bytes := rounds_bytes_le hround
    exact Meter.add_eq_tally t.now s.meter (by omega)
  · intro hflushed
    rw [hflushed, if_pos rfl] at hclosed
    exact Meter.add_eq_tally r.stop r.last.meter (by omega)

end Goodput.Ndt7
