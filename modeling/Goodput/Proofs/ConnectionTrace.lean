import Mathlib
import Goodput.Proofs.Meter
import Goodput.Server.Lifecycle
/-!
# The trace of one connection

The events about one connection, in the order of the log, are its trace. A connection that is open has a trace
that begins with its opening and holds no end; one that is gone has the same with its end behind it. Between the
two there are only the events of its sessions and at most one error.

What carries this is how the lease is shared: the task has a share as long as it serves, every open session has
one, and all of these are counted among the holders (`LiveConn.Sound`). So a lease has no holder left only when
neither the task nor a session is there to log anything more.
-/

namespace Goodput

namespace Event

/-- The connection that an event is about. -/
def conn? : Event → Option Conn
  | .connNew conn | .connClosed conn _ | .connError conn _ | .requestReceived _ _ conn
  | .ndt7Sample conn _ _ _ _ => some conn
  | .requestDone o => some o.conn
  | .handshakeFailed _ _ => none

/-- The events about the connection with an id. -/
def trace (id : Nat) (log : List Event) : List Event := log.filter fun e => e.conn?.any (·.id == id)

/-- A session on a connection logs the event. -/
def OfSession (conn : Conn) : Event → Prop
  | .requestReceived _ _ c | .ndt7Sample c _ _ _ _ => c = conn
  | .requestDone o => o.conn = conn
  | .connNew _ | .connClosed _ _ | .connError _ _ | .handshakeFailed _ _ => False

def isError : Event → Bool
  | .connError _ _ => true
  | _ => false

def isClosing : Event → Bool
  | .connClosed _ _ => true
  | _ => false

/-- An event that a connection may log between its opening and its end. -/
def During (conn : Conn) (e : Event) : Prop := e.OfSession conn ∨ ∃ message, e = .connError conn message

variable {conn : Conn} {e : Event}

theorem OfSession.not_error (h : e.OfSession conn) : e.isError = false := by
  cases e with
  | connError _ _ => cases h
  | _ => rfl

theorem OfSession.conn?_eq (h : e.OfSession conn) : e.conn? = some conn := by
  cases e with
  | requestReceived _ _ _ => exact congrArg some h
  | ndt7Sample _ _ _ _ _ => exact congrArg some h
  | requestDone _ => exact congrArg some h
  | connNew _ | connClosed _ _ | connError _ _ | handshakeFailed _ _ => cases h

theorem During.conn?_eq (h : e.During conn) : e.conn? = some conn := by
  rcases h with h | ⟨message, rfl⟩
  · exact h.conn?_eq
  · rfl

theorem During.not_closing (h : e.During conn) : e.isClosing = false := by
  rcases h with h | ⟨message, rfl⟩
  · cases e with
    | connClosed _ _ => cases h
    | _ => rfl
  · rfl

theorem trace_append (id : Nat) (log events : List Event) :
    trace id (log ++ events) = trace id log ++ trace id events := List.filter_append _ _

/-- Events about one connection are its trace. -/
theorem trace_own {events : List Event} (h : ∀ e ∈ events, e.conn? = some conn) :
    trace conn.id events = events := by
  refine List.filter_eq_self.2 ?_
  intro e he
  simp [h e he]

/-- Events about no other connection than one are not in the trace of another. -/
theorem trace_other {id other : Nat} (hne : other ≠ id) {events : List Event}
    (h : ∀ e ∈ events, ∀ conn, e.conn? = some conn → conn.id = other) : trace id events = [] := by
  refine List.filter_eq_nil_iff.2 ?_
  intro e he hany
  obtain ⟨conn, hconn, hid⟩ := (Option.any_eq_true _ _).1 hany
  exact hne ((h e he conn hconn).symm.trans (by simpa using hid))

end Event

/-- The listener of a session's meter says which connection the session is on. -/
def Meter.On (conn : Conn) (m : Meter TransferTag) : Prop := ∃ tag, m.listener = some tag ∧ tag.conn = conn

theorem Meter.On.dispose {conn : Conn} {m : Meter TransferTag} (h : m.On conn) (now : Instant) :
    ∀ e ∈ reportEvents (m.dispose now), e.OfSession conn := by
  obtain ⟨tag, hlistener, hconn⟩ := h
  rw [dispose_events hlistener]
  intro e he
  obtain rfl := List.mem_singleton.1 he
  exact hconn

theorem Meter.On.finish {conn : Conn} {m : Meter TransferTag} (h : m.On conn) (now : Instant) :
    ∀ e ∈ reportEvents (m.finish now).2.1 ++ reportEvents ((m.finish now).2.2.dispose now), e.OfSession conn := by
  obtain ⟨tag, hlistener, hconn⟩ := h
  rw [finish_events hlistener]
  intro e he
  obtain rfl := List.mem_singleton.1 he
  exact hconn

namespace Server

namespace LiveConn

/-- What holds of an open connection that logged these events since its opening. -/
structure Sound (c : LiveConn) (during : List Event) : Prop where
  within : ∀ e ∈ during, e.During c.lease.conn
  /-- Only the end of the serving may log an error. -/
  errors : during.countP Event.isError ≤ (!c.serving).toNat
  serving : c.serving = true → c.taskHolds = true
  held : 0 < c.lease.holders
  /-- The task and the open sessions are among the holders. -/
  shares : c.taskHolds.toNat + c.openSessions ≤ c.lease.holders
  sessions : ∀ m, some m ∈ c.sessions → m.On c.lease.conn

/-- The shares of the lease that an action adds. -/
def taken : Action → Nat
  | .share _ => 1
  | _ => 0

/-- The shares of the lease that an action takes away: that of a holder which is neither the task nor an open
session, or that of the task once it does not serve any more. -/
def dropped (c : LiveConn) : Action → Nat
  | .release _ => if c.otherShares = 0 then 0 else 1
  | .taskReleases _ => if c.taskHolds && !c.serving then 1 else 0
  | _ => 0

/-- What an action that takes and drops so many shares makes of an open connection: it stays open, or its only
holder goes and its end is logged. -/
inductive Onward (c : LiveConn) (during : List Event) (taken dropped : Nat) : List Event × Stage → Prop
  | goesOn {events : List Event} {c' : LiveConn} (conn : c'.lease.conn = c.lease.conn)
      (sound : c'.Sound (during ++ events)) (holders : c'.lease.holders + dropped = c.lease.holders + taken) :
      Onward c during taken dropped (events, .live c')
  | ends {lifetime : Span} (last : c.lease.holders = 1) (holders : dropped = c.lease.holders + taken) :
      Onward c during taken dropped ([.connClosed c.lease.conn lifetime], .gone)

variable {c : LiveConn} {during : List Event}

/-! ## Each kind of action -/

theorem Sound.stays (h : c.Sound during) : c.Onward during 0 0 ([], .live c) :=
  .goesOn rfl (by rwa [List.append_nil]) rfl

theorem Sound.share (h : c.Sound during) :
    c.Onward during 1 0 ([], .live { c with lease := c.lease.share }) := by
  refine .goesOn rfl ?_ rfl
  rw [List.append_nil]
  exact { h with
    held := Nat.succ_pos _
    shares := Nat.le_succ_of_le h.shares }

/-- Where there is a share that neither the task nor a session has, one holder can let go. -/
theorem Sound.releaseShare (h : c.Sound during) (now : Instant)
    (hspare : c.taskHolds.toNat + c.openSessions < c.lease.holders) :
    c.Onward during 0 1 (c.releaseShare now) := by
  have hheld := h.held
  unfold LiveConn.releaseShare Lease.release
  by_cases hlast : c.lease.holders ≤ 1
  · rw [if_pos hlast]
    exact .ends (by omega) (by omega)
  · rw [if_neg hlast]
    refine .goesOn rfl ?_ (by simp only; omega)
    rw [List.append_nil]
    refine { h with held := ?_, shares := ?_ }
    · simp only; omega
    · simp only [openSessions] at hspare ⊢
      omega

/-- An open connection goes on with the events of a session and what became of its sessions. -/
theorem Sound.withSessions (h : c.Sound during) {events : List Event}
    {sessions : List (Option (Meter TransferTag))} (hevents : ∀ e ∈ events, e.OfSession c.lease.conn)
    (hshares : c.taskHolds.toNat + sessions.countP (·.isSome) ≤ c.lease.holders)
    (hsessions : ∀ m, some m ∈ sessions → m.On c.lease.conn) :
    c.Onward during 0 0 (events, .live { c with sessions := sessions }) := by
  refine .goesOn rfl ?_ rfl
  have hnone : events.countP Event.isError = 0 :=
    List.countP_eq_zero.2 fun e he => by simp [(hevents e he).not_error]
  refine { h with within := ?_, errors := ?_, shares := hshares, sessions := hsessions }
  · intro e he
    exact (List.mem_append.1 he).elim (h.within e) fun he => .inl (hevents e he)
  · rw [List.countP_append, hnone, Nat.add_zero]
    exact h.errors

theorem Sound.beginSession (h : c.Sound during) (window : Span) (direction : Direction) :
    c.Onward during 0 0 (c.beginSession window direction) := by
  unfold LiveConn.beginSession
  split
  · exact h.stays
  · rename_i hspare
    have hshares := h.shares
    refine h.withSessions ?_ ?_ ?_
    · intro e he
      obtain rfl := List.mem_singleton.1 he
      exact (rfl : c.lease.conn = c.lease.conn)
    · -- The session takes over a share that was nobody's.
      simp only [otherShares, openSessions] at hspare hshares
      simp only [List.countP_append, List.countP_singleton, Option.isSome_some, if_true]
      omega
    · intro m hm
      rcases List.mem_append.1 hm with hm | hm
      · exact h.sessions m hm
      · obtain rfl := Option.some.inj (List.mem_singleton.1 hm)
        exact ⟨_, rfl, rfl⟩

theorem session?_eq_some {k : Nat} {m : Meter TransferTag} (h : c.session? k = some m) :
    ∃ hk : k < c.sessions.length, c.sessions[k] = some m :=
  List.getElem?_eq_some_iff.1 (Option.join_eq_some_iff.1 h)

/-- A session that logs events of its own, and goes on under the same listener or ends. -/
theorem Sound.withSession (h : c.Sound during) (k : Nat)
    {f : Meter TransferTag → List Event × Option (Meter TransferTag)}
    (hf : ∀ m, m.On c.lease.conn →
      (∀ e ∈ (f m).1, e.OfSession c.lease.conn) ∧ ∀ m', (f m).2 = some m' → m'.On c.lease.conn) :
    c.Onward during 0 0 (c.withSession k f) := by
  unfold LiveConn.withSession
  split
  · exact h.stays
  · rename_i m hsession
    obtain ⟨hk, hm⟩ := session?_eq_some hsession
    obtain ⟨hevents, hmeter⟩ := hf m (h.sessions m (hm ▸ List.getElem_mem hk))
    refine h.withSessions hevents ?_ ?_
    · have hshares := h.shares
      have hopen : 0 < c.sessions.countP (·.isSome) :=
        List.countP_pos_iff.2 ⟨some m, hm ▸ List.getElem_mem hk, rfl⟩
      rw [List.countP_set hk, hm]
      simp only [openSessions] at hshares
      simp only [Option.isSome_some, if_true]
      split <;> omega
    · intro m' hm'
      rcases List.mem_or_eq_of_mem_set hm' with hm' | hm'
      · exact h.sessions m' hm'
      · exact hmeter m' hm'.symm

theorem Sound.servingEnded (h : c.Sound during) (hserving : c.serving = true) (error : Option String) :
    c.Onward during 0 0 (error.toList.map (.connError c.lease.conn), .live { c with serving := false }) := by
  refine .goesOn rfl ?_ rfl
  have herrors := h.errors
  rw [hserving] at herrors
  refine { h with within := ?_, errors := ?_, serving := nofun }
  · intro e he
    rcases List.mem_append.1 he with he | he
    · exact h.within e he
    · obtain ⟨message, -, rfl⟩ := List.mem_map.1 he
      exact .inr ⟨message, rfl⟩
  · have hone : (error.toList.map (Event.connError c.lease.conn)).countP Event.isError ≤ 1 := by
      cases error <;> simp [Event.isError]
    rw [List.countP_append]
    simp only [Bool.not_true, Bool.toNat_false, Nat.le_zero] at herrors
    simp only [Bool.not_false, Bool.toNat_true]
    omega

theorem Sound.taskReleases (h : c.Sound during) (now : Instant) (hholds : c.taskHolds = true)
    (hserving : c.serving = false) :
    c.Onward during 0 1 ({ c with taskHolds := false }.releaseShare now) := by
  have hshares := h.shares
  rw [hholds] at hshares
  -- Without its task the connection is as sound as before, and the share of the task is spare.
  have hsound : { c with taskHolds := false }.Sound during := by
    refine { h with serving := ?_, shares := ?_ }
    · intro hserves
      rw [hserving] at hserves
      cases hserves
    · simp only [openSessions, Bool.toNat_true, Bool.toNat_false] at hshares ⊢
      omega
  have honward := hsound.releaseShare now (by
    simp only [openSessions, Bool.toNat_true, Bool.toNat_false] at hshares ⊢
    omega)
  generalize { c with taskHolds := false }.releaseShare now = result at honward ⊢
  cases honward with
  | goesOn conn sound holders => exact .goesOn conn sound holders
  | ends last holders => exact .ends last holders

theorem Sound.step (h : c.Sound during) (window : Span) (now : Instant) (action : Action) :
    c.Onward during (taken action) (c.dropped action) (c.step window now action) := by
  cases action with
  | share id => exact h.share
  | release id =>
    simp only [LiveConn.step, dropped]
    split
    · exact h.stays
    · rename_i hspare
      refine h.releaseShare now ?_
      simp only [otherShares] at hspare
      omega
  | sessionBegin id direction => exact h.beginSession window direction
  | sessionCount id k n =>
    simp only [LiveConn.step]
    refine h.withSession k ?_
    rintro m ⟨tag, hlistener, hconn⟩
    refine ⟨by simp, ?_⟩
    rintro m' ⟨⟩
    exact ⟨tag, by rw [Meter.add_listener, hlistener], hconn⟩
  | sessionSample id k size =>
    simp only [LiveConn.step]
    refine h.withSession k ?_
    intro m hm
    constructor
    · intro e he
      obtain rfl := List.mem_singleton.1 he
      exact (rfl : c.lease.conn = c.lease.conn)
    · rintro m' ⟨⟩
      exact hm
  | sessionFinish id k =>
    simp only [LiveConn.step]
    refine h.withSession k ?_
    intro m hm
    exact ⟨hm.finish now, by simp⟩
  | sessionAbort id k =>
    simp only [LiveConn.step]
    refine h.withSession k ?_
    intro m hm
    exact ⟨hm.dispose now, by simp⟩
  | servingEnded id error =>
    simp only [LiveConn.step]
    split
    · rename_i hserving
      exact h.servingEnded hserving error
    · exact h.stays
  | taskReleases id =>
    simp only [LiveConn.step, dropped]
    split
    · rename_i hlets
      simp only [Bool.and_eq_true, Bool.not_eq_true'] at hlets
      exact h.taskReleases now hlets.1 hlets.2
    · exact h.stays
  | _ => exact h.stays

end LiveConn

end Server

end Goodput
