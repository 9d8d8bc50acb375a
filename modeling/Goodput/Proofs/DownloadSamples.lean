import Goodput.Proofs.DownloadSession
/-!
# What a download session says of itself

Now and then a round of a download session logs a sample and makes a measurement of it. Meanwhile the count, the size
of the messages, the time of the next measurement and the connection information change, each in a place of its own.
`Consistent` says what the log and the measurements have to do with the rounds so far. We prove that a session is
consistent whenever a round begins and after the last one, and that no measurement comes early, however long a round
takes (`measurements_consistent`).
-/

namespace Goodput.Ndt7

/-! ## What a session should say -/

def flushedBytes (ms : List SentMessage) : Nat := ((ms.filter fun m => m.fate = .flushed).map (·.size)).sum

/-- The rounds in which a measurement is due. -/
def measuring (rounds : List (Turn × Download)) : List (Turn × Download) := rounds.filter fun (t, s) => s.due t

namespace DownloadRun

def sample (r : DownloadRun) : Turn × Download → Event
  | (t, s) => .ndt7Sample r.conn .download s.meter.bytes (s.meter.elapsed t.sampledAt) s.message

/-- The ends of the connection and the name of the session. -/
def info (r : DownloadRun) : ConnectionInfo := ⟨r.conn.remote.text, r.conn.localAddr.text, r.uuid⟩

/-- The measurement of a round, after `k` others. -/
def measurement (r : DownloadRun) (k : Nat) : Turn × Download → Measurement
  | (t, s) =>
    let elapsed := s.meter.elapsed t.measuredAt
    { appInfo := some ⟨(min elapsed.micros maxNumber : Nat), (min s.meter.bytes maxNumber : Nat)⟩
      connectionInfo := if k = 0 then some r.info else none
      origin := some "server"
      test := some "download" }

/-- The session after its rounds, before it is closed. -/
def lastState (r : DownloadRun) : Download := (Download.start r.window r.conn r.uuid r.start).loop r.turns

/-- The readings of the clock, in the order in which they are taken. -/
def readings (r : DownloadRun) : List Instant :=
  r.start :: (r.rounds.flatMap fun (t, s) => t.now :: if s.due t then [t.sampledAt, t.measuredAt] else []) ++ [r.stop]

/-- No reading is before an earlier one. -/
def Steady (r : DownloadRun) : Prop := r.readings.Pairwise fun a b => a.nanos ≤ b.nanos

instance (r : DownloadRun) : Decidable r.Steady :=
  inferInstanceAs (Decidable (r.readings.Pairwise fun a b => a.nanos ≤ b.nanos))

end DownloadRun

/-- What a session has said when some rounds are behind it: a sample and a measurement for each of them in which one
was due, with the bytes that were flushed until then. The count never falls, and the message in use is always of the
sizer's size. -/
structure Consistent (r : DownloadRun) (behind : List (Turn × Download)) (s : Download) : Prop where
  message : s.message = s.sizer.size
  bytes : s.meter.bytes = flushedBytes (behind.filterMap fun (t, s) => t.message? s)
  rising : ∀ p ∈ behind, p.2.meter.bytes ≤ s.meter.bytes
  log : s.log = (sessionTag .download r.window r.conn).received :: (measuring behind).map r.sample
  measurements : s.measurements = (measuring behind).mapIdx r.measurement

/-! ## One round -/

theorem flushedBytes_append (ms ms' : List SentMessage) :
    flushedBytes (ms ++ ms') = flushedBytes ms + flushedBytes ms' := by
  simp [flushedBytes]

theorem measuring_concat (rounds : List (Turn × Download)) (t : Turn) (s : Download) :
    measuring (rounds ++ [(t, s)]) = measuring rounds ++ if s.due t then [(t, s)] else [] := by
  cases hdue : s.due t <;> simp [measuring, hdue]

namespace Download

/-- What sending a binary message does not touch. The message is of the sizer's size again afterwards. -/
structure Sends (s s' : Download) : Prop where
  message : s.message = s.sizer.size → s'.message = s'.sizer.size
  next : s'.nextMeasurement = s.nextMeasurement
  info : s'.connectionInfo = s.connectionInfo
  measurements : s'.measurements = s.measurements

theorem adapt_sends (s : Download) : Sends s s.adapt := by
  unfold adapt MessageSizer.observe
  cases s.sizer.grows s.meter.bytes with
  | false => exact ⟨fun h => h, rfl, rfl, rfl⟩
  | true => exact ⟨fun _ => rfl, rfl, rfl, rfl⟩

theorem send_sends (t : Turn) (s : Download) : Sends s (s.send t).2 := by
  unfold send
  cases t.binaryQueued with
  | false => exact ⟨fun h => h, rfl, rfl, rfl⟩
  | true =>
    cases t.flush with
    | cut | broken => exact ⟨fun h => h, rfl, rfl, rfl⟩
    | done =>
      obtain ⟨message, next, info, measurements⟩ :=
        adapt_sends { s.sent .flushed with meter := s.meter.tally t.now s.message, pending := 0 }
      exact ⟨message, next, info, measurements⟩

/-- What a round does to the state that it finds: what a measurement does, if one is due, and then what sending
does. -/
structure AfterTurn (t : Turn) (s s' : Download) : Prop extends Sends (s.ready t) s' where
  bytes : s'.meter.bytes = s.meter.bytes + flushedBytes (t.message? s).toList
  log : s'.log = (s.ready t).log
  tag : s'.tag = s.tag

theorem turn_after (t : Turn) (s : Download) : AfterTurn t s (s.turn t).2 := by
  rcases turn_cases t s with ⟨hblocked, hturn⟩ | ⟨hopen, hturn⟩
  · rw [hturn]
    refine ⟨⟨fun h => h, rfl, rfl, rfl⟩, ?_, rfl, ready_tag t s⟩
    rw [Turn.message?, if_pos hblocked, ready_bytes]
    rfl
  · have hsend := send_after t (s.ready t)
    rw [hturn]
    refine ⟨send_sends t _, ?_, hsend.log, hsend.tag.trans (ready_tag t s)⟩
    rw [Turn.message?, if_neg (by simp [hopen]), hsend.bytes, ready_bytes, ready_message]
    by_cases hfate : t.fate = .flushed <;> simp [flushedBytes, hfate]

end Download

/-! ## Measurements on time -/

/-- What a session has said when a measurement was due in some rounds, and what it says next and when. -/
structure Paced (r : DownloadRun) (due : List (Turn × Download)) (s : Download) : Prop where
  tag : s.tag = sessionTag .download r.window r.conn
  log : s.log = (sessionTag .download r.window r.conn).received :: due.map r.sample
  measurements : s.measurements = due.mapIdx r.measurement
  info : s.connectionInfo = if due.length = 0 then some r.info else none
  next : s.nextMeasurement.nanos = r.start.nanos + (due.length + 1) * measurementInterval.nanos
  punctual : ∀ k t s, due[k]? = some (t, s) →
    r.start.nanos + (k + 1) * measurementInterval.nanos ≤ t.now.nanos

variable {r : DownloadRun} {t : Turn} {s : Download}

theorem measure_paced {due : List (Turn × Download)} (hdue : s.due t = true) (hmessage : s.message = s.sizer.size)
    (h : Paced r due s) : Paced r (due ++ [(t, s)]) (s.measure t) where
  tag := h.tag
  log := by
    rw [List.map_append, ← List.cons_append, ← h.log, Download.measure, h.tag, ← hmessage]
    rfl
  measurements := by
    rw [List.mapIdx_concat, ← h.measurements, Download.measure, h.info]
    rfl
  info := by simp [Download.measure]
  next := by
    rw [List.length_append, List.length_singleton, Nat.succ_mul (due.length + 1), ← Nat.add_assoc, ← h.next]
    rfl
  punctual := by
    -- Only the last one is new, and its round found it due.
    intro k t' s' hk
    by_cases hbefore : k < due.length
    · rw [List.getElem?_append_left hbefore] at hk
      exact h.punctual k t' s' hk
    · have hlast : k = due.length := by
        have hlength := (List.getElem?_eq_some_iff.1 hk).1
        rw [List.length_append, List.length_singleton] at hlength
        omega
      obtain ⟨rfl, rfl⟩ : t = t' ∧ s = s' := by simpa [hlast] using hk
      rw [hlast, ← h.next]
      simpa [Download.due, Instant.reached] using hdue

theorem turn_paced {behind : List (Turn × Download)} (hmessage : s.message = s.sizer.size)
    (h : Paced r (measuring behind) s) : Paced r (measuring (behind ++ [(t, s)])) (s.turn t).2 := by
  have ht := Download.turn_after t s
  have hready : Paced r (measuring (behind ++ [(t, s)])) (s.ready t) := by
    rw [measuring_concat]
    unfold Download.ready
    split
    · rename_i hdue
      exact measure_paced hdue hmessage h
    · rw [List.append_nil]
      exact h
  exact {
    tag := ht.tag.trans h.tag
    log := ht.log.trans hready.log
    measurements := ht.measurements.trans hready.measurements
    info := ht.info.trans hready.info
    next := ht.next ▸ hready.next
    punctual := hready.punctual }

/-! ## All rounds -/

/-- A session that is consistent, with its next measurement on time. -/
structure InStep (r : DownloadRun) (behind : List (Turn × Download)) (s : Download) : Prop
    extends Consistent r behind s, Paced r (measuring behind) s

theorem start_inStep (r : DownloadRun) : InStep r [] (.start r.window r.conn r.uuid r.start) where
  message := rfl
  bytes := rfl
  rising := by simp
  log := rfl
  measurements := rfl
  tag := rfl
  info := rfl
  next := by simp [Download.start, Instant.after, measuring]
  punctual := by simp [measuring]

theorem turn_inStep {behind : List (Turn × Download)} (t : Turn) (h : InStep r behind s) :
    InStep r (behind ++ [(t, s)]) (s.turn t).2 := by
  have ht := Download.turn_after t s
  have hpaced : Paced r (measuring (behind ++ [(t, s)])) (s.turn t).2 := turn_paced h.message h.toPaced
  refine ⟨⟨?_, ?_, ?_, hpaced.log, hpaced.measurements⟩, hpaced.tag, hpaced.info, hpaced.next, hpaced.punctual⟩
  · refine ht.message ?_
    unfold Download.ready
    split <;> exact h.message
  · rw [ht.bytes, h.bytes, List.filterMap_append, flushedBytes_append]
    cases hm : t.message? s <;> simp [hm]
  · intro p hp
    rw [ht.bytes]
    rcases List.mem_append.1 hp with hp | hp
    · exact Nat.le_trans (h.rising p hp) (Nat.le_add_right _ _)
    · rw [List.mem_singleton.1 hp]
      exact Nat.le_add_right _ _

/-- The session is in step whenever a round begins, and after the last one. -/
theorem loop_inStep {behind : List (Turn × Download)} (ts : List Turn) (h : InStep r behind s) :
    (∀ i t s', (s.rounds ts)[i]? = some (t, s') → InStep r (behind ++ (s.rounds ts).take i) s') ∧
      InStep r (behind ++ s.rounds ts) (s.loop ts) := by
  -- Each round is behind the next one, so the induction is over all that may be behind a session.
  induction ts generalizing behind s with
  | nil => exact ⟨by simp [Download.rounds], by simpa [Download.rounds, Download.loop] using h⟩
  | cons t ts ih =>
    have hturn := turn_inStep t h
    let later := if (s.turn t).1 then (s.turn t).2.rounds ts else []
    have hrounds : s.rounds (t :: ts) = (t, s) :: later := rfl
    have hlater : (∀ i t' s', later[i]? = some (t', s') → InStep r (behind ++ [(t, s)] ++ later.take i) s') ∧
        InStep r (behind ++ [(t, s)] ++ later) (s.loop (t :: ts)) := by
      simp only [later, Download.loop]
      split
      · exact ih hturn
      · exact ⟨by simp, by simpa using hturn⟩
    simp only [List.append_assoc, List.singleton_append] at hlater
    rw [hrounds]
    refine ⟨fun i t' s' hi => ?_, hlater.2⟩
    cases i with
    | zero =>
      obtain ⟨rfl, rfl⟩ : t = t' ∧ s = s' := by simpa using hi
      simpa using h
    | succ i => exact hlater.1 i t' s' hi

/-! ## The whole session -/

theorem DownloadRun.Steady.measuring (h : r.Steady) (hmem : (t, s) ∈ measuring r.rounds) :
    t.now.nanos ≤ t.sampledAt.nanos ∧ t.sampledAt.nanos ≤ t.measuredAt.nanos := by
  obtain ⟨hround, hdue⟩ := List.mem_filter.1 hmem
  have hrounds := (List.pairwise_cons.1 (List.pairwise_append.1 h).1).2
  have hreadings := (List.pairwise_flatMap.1 hrounds).1 _ hround
  simp only [hdue, if_true, List.pairwise_cons, List.mem_cons, List.not_mem_nil, or_false] at hreadings
  exact ⟨hreadings.1 _ (.inl rfl), hreadings.2.1 _ rfl⟩

/-- Closing a session adds to its count and changes nothing else that it says. -/
theorem close_after (s : Download) (now : Instant) (closed : Bool) :
    let s' := s.close now closed
    s.meter.bytes ≤ s'.meter.bytes ∧ s'.log = s.log ∧ s'.measurements = s.measurements := by
  dsimp only
  unfold Download.close
  split
  · exact ⟨by simp, rfl, rfl⟩
  · exact ⟨Nat.le_refl _, rfl, rfl⟩

/-- A download session is consistent whenever a round begins and after the last one. Then its end is the only thing that
it still reports, with no fewer bytes than it said before. Each measurement comes behind its sample, and the one with
`k` others in front of it no earlier than `k + 1` intervals after the start. -/
theorem measurements_consistent (r : DownloadRun) (h : r.Steady) :
    (∀ i t s, r.rounds[i]? = some (t, s) → Consistent r (r.rounds.take i) s) ∧
    Consistent r r.rounds r.lastState ∧
    (∃ stats, r.session.log = r.lastState.log ++ [(sessionTag .download r.window r.conn).done stats] ∧
      ∀ p ∈ r.rounds, p.2.meter.bytes ≤ stats.bytes) ∧
    r.session.measurements = r.lastState.measurements ∧
    ∀ k t s, (measuring r.rounds)[k]? = some (t, s) →
      r.start.nanos + (k + 1) * (Span.ofMillis 250).nanos ≤ t.now.nanos ∧
      t.now.nanos ≤ t.sampledAt.nanos ∧ t.sampledAt.nanos ≤ t.measuredAt.nanos := by
  obtain ⟨hbegin, hlast⟩ := loop_inStep r.turns (start_inStep r)
  rw [List.nil_append] at hlast
  let closed := r.lastState.close r.stop r.closeFlushed
  obtain ⟨hbytes, hlog, hmeasurements⟩ := close_after r.lastState r.stop r.closeFlushed
  have hlistener : closed.meter.listener = some (sessionTag .download r.window r.conn) := by
    have hopen : Open r.lastState := (loop_open r.turns ⟨rfl, rfl⟩).1
    obtain ⟨hclosed, htag⟩ := close_open r.stop r.closeFlushed hopen
    exact hclosed.listener.trans (congrArg some (htag.trans hlast.tag))
  refine ⟨fun i t s hi => (hbegin i t s hi).toConsistent, hlast.toConsistent,
    ⟨closed.meter.stats r.stop, ?_, fun p hp => Nat.le_trans (hlast.rising p hp) hbytes⟩, hmeasurements,
    fun k t s hk => ⟨hlast.punctual k t s hk, h.measuring (List.mem_of_getElem? hk)⟩⟩
  rw [← finish_events hlistener r.stop, ← hlog, ← List.append_assoc]
  rfl

/-- A session of one second that stalls after its first message: the measurements of the time it lost follow one
another, one a round, and its last message leaves with the close frame. -/
def stalledRun : DownloadRun :=
  let turn (now : Nat) (flush : Flush) : Turn := ⟨⟨now⟩, ⟨now + 1⟩, ⟨now + 2⟩, true, true, flush⟩
  { window := .ofSecs 1
    conn := default
    uuid := ""
    start := ⟨7⟩
    turns := [turn 100000000 .done, turn 800000000 .done, turn 800000003 .done, turn 800000006 .done,
      turn 900000000 .cut]
    closeFlushed := true
    stop := ⟨1000000000⟩ }

theorem stalled_measurements_catch_up :
    stalledRun.Steady ∧
    (measuring stalledRun.rounds).map (fun (t, s) => (t.now.nanos, s.meter.bytes)) =
      [(800000000, 8192), (800000003, 16384), (800000006, 24576)] ∧
    Consistent stalledRun stalledRun.rounds stalledRun.lastState ∧
    ∃ stats, stalledRun.session.log =
        stalledRun.lastState.log ++ [(sessionTag .download (.ofSecs 1) default).done stats] ∧
      ∀ p ∈ stalledRun.rounds, p.2.meter.bytes ≤ stats.bytes := by
  have hsteady : stalledRun.Steady := by decide
  obtain ⟨-, hlast, hdone, -, -⟩ := measurements_consistent stalledRun hsteady
  exact ⟨hsteady, by decide, hlast, hdone⟩

end Goodput.Ndt7
