import Goodput.Proofs.ConnectionTrace
/-!
# Connections over whole server runs

A run is any row of actions. Each action concerns at most one connection, because ids are distinct, and we know
from the trace of that connection what the action may do to it; all others keep their stage and their trace. By
induction every connection of every run has a trace that goes with its stage (`connection_lifecycle`).

The token of a connection goes out with its acceptance and comes back only after the end of its lease was logged,
so a server that has nothing left to wait for has logged the end of every connection.
-/

namespace Goodput

namespace Server

/-! ## One connection -/

/-- The trace that a connection with an id has at a stage. -/
def Stage.Tells (id : Nat) (trace : List Event) : Stage → Prop
  | .handshaking | .refused => trace = []
  | .live c => c.lease.conn.id = id ∧ ∃ during, trace = .connNew c.lease.conn :: during ∧ c.Sound during
  | .gone => ∃ conn : Conn, conn.id = id ∧ ∃ during lifetime,
      trace = .connNew conn :: (during ++ [.connClosed conn lifetime]) ∧
        (∀ e ∈ during, e.During conn) ∧ during.countP Event.isError ≤ 1

/-- The stages that one action leads to. Only a lease with one holder comes to its end. -/
inductive Stage.Next : Stage → Stage → Prop
  | stays (s : Stage) : Next s s
  | refused : Next .handshaking .refused
  | opened {c : LiveConn} (first : c.lease.holders = 1) : Next .handshaking (.live c)
  | goesOn {c c' : LiveConn} (conn : c'.lease.conn = c.lease.conn) : Next (.live c) (.live c')
  | ends {c : LiveConn} (last : c.lease.holders = 1) : Next (.live c) .gone

/-- The action ends a handshake without a connection: it fails, or a shutdown cuts it off. -/
def Action.Refuses (shuttingDown : Bool) : Action → Prop
  | .handshakeFailed _ _ => True
  | .handshakeCut _ => shuttingDown = true
  | _ => False

namespace Accepted

/-- The holders of the lease of a connection. -/
def holders (a : Accepted) : Nat :=
  match a.stage with
  | .live c => c.lease.holders
  | .handshaking | .refused | .gone => 0

/-- The shares of the lease that an action adds: the handshake gives the task the first one. -/
def taken (action : Action) (a : Accepted) : Nat :=
  if action.id? = some a.id then
    match a.stage, action with
    | .handshaking, .handshakeDone _ _ => 1
    | .live _, action => LiveConn.taken action
    | _, _ => 0
  else 0

/-- The shares of the lease that an action takes away. -/
def dropped (action : Action) (a : Accepted) : Nat :=
  if action.id? = some a.id then
    match a.stage with
    | .live c => c.dropped action
    | .handshaking | .refused | .gone => 0
  else 0

/-- What holds of an accepted connection with a trace. -/
structure Sound (a : Accepted) (trace : List Event) : Prop where
  told : a.stage.Tells a.id trace
  /-- The token is out as long as there may be a lease. -/
  token : a.leaseGone = false → a.tokenOut = true

/-- What an action makes of a connection, and what it logs on account of it. -/
structure Follows (a : Accepted) (trace : List Event) (shuttingDown : Bool) (action : Action)
    (r : List Event × Accepted) : Prop where
  id : r.2.id = a.id
  sound : r.2.Sound (trace ++ Event.trace a.id r.1)
  own : ∀ e ∈ r.1, ∀ conn, e.conn? = some conn → conn.id = a.id
  next : a.stage.Next r.2.stage
  holders : r.2.holders + a.dropped action = a.holders + a.taken action
  silent : a.leaseGone = true → r.1 = []
  refused : a.stage = .handshaking →
    (r.2.stage = .refused ↔ action.id? = some a.id ∧ action.Refuses shuttingDown)

variable {a : Accepted} {trace : List Event} {shuttingDown : Bool} {action : Action}

theorem Sound.told_at (h : a.Sound trace) {s : Stage} (hstage : a.stage = s) : s.Tells a.id trace :=
  hstage ▸ h.told

/-- An action on another connection leaves the shares alone. -/
theorem shares_of_other (h : action.id? ≠ some a.id) : a.dropped action = 0 ∧ a.taken action = 0 := by
  simp [dropped, taken, h]

theorem shares_of_live {c : LiveConn} (hstage : a.stage = .live c) (hid : action.id? = some a.id) :
    a.holders = c.lease.holders ∧ a.dropped action = c.dropped action ∧
      a.taken action = LiveConn.taken action := by
  simp [holders, dropped, taken, hstage, hid]

/-- A connection that stays at its stage logs nothing; its task may be done, and its token may come back once
there is no lease. -/
theorem Sound.stays (h : a.Sound trace) {a' : Accepted} (hid : a'.id = a.id) (hstage : a'.stage = a.stage)
    (htoken : a.leaseGone = false → a'.tokenOut = a.tokenOut)
    (hshares : a.dropped action = 0 ∧ a.taken action = 0)
    (hrefuses : a.stage = .handshaking → ¬(action.id? = some a.id ∧ action.Refuses shuttingDown)) :
    a.Follows trace shuttingDown action ([], a') where
  id := hid
  sound := by
    refine ⟨?_, ?_⟩
    · rw [hid, hstage]
      exact (List.append_nil trace).symm ▸ h.told
    · intro hlease
      have hlease : a.leaseGone = false := by rwa [leaseGone, hstage] at hlease
      rw [htoken hlease]
      exact h.token hlease
  own := by simp
  next := hstage ▸ .stays a.stage
  holders := by rw [hshares.1, hshares.2, holders, holders, hstage]
  silent := fun _ => rfl
  refused := by
    intro hhandshaking
    refine iff_of_false ?_ (hrefuses hhandshaking)
    simp [hstage, hhandshaking]

theorem Sound.opened (h : a.Sound trace) (hstage : a.stage = .handshaking) (now : Instant) {conn : Conn}
    (hconn : conn.id = a.id) {alpn : Option (List UInt8)} :
    a.Follows trace shuttingDown (.handshakeDone a.id alpn)
      ([.connNew conn], { a with stage := .live (.ofConn now conn) }) where
  id := rfl
  sound := by
    have htold : trace = [] := h.told_at hstage
    have hown : Event.trace a.id [.connNew conn] = [.connNew conn] := hconn ▸ Event.trace_own (by simp [Event.conn?])
    refine ⟨⟨hconn, [], by simp [htold, hown, LiveConn.ofConn, Lease.ofConn], ?_⟩, ?_⟩
    · exact {
        within := by simp
        errors := Nat.zero_le _
        serving := fun _ => rfl
        held := Nat.one_pos
        shares := Nat.le_refl 1
        sessions := by simp [LiveConn.ofConn] }
    · intro _
      exact h.token (by rw [leaseGone, hstage])
  own := by
    intro e he c hc
    obtain rfl := List.mem_singleton.1 he
    obtain rfl := Option.some.inj hc
    exact hconn
  next := by rw [hstage]; exact .opened rfl
  holders := by simp [holders, dropped, taken, hstage, Action.id?, LiveConn.ofConn, Lease.ofConn]
  silent := by simp [leaseGone, hstage]
  refused := fun _ => iff_of_false nofun fun hboth => hboth.2

/-- A refused connection has no trace: the failure of its handshake names no connection. -/
theorem Sound.refused (h : a.Sound trace) (hstage : a.stage = .handshaking) {events : List Event}
    (hevents : ∀ e ∈ events, e.conn? = none) (hid : action.id? = some a.id)
    (hrefuses : action.Refuses shuttingDown) :
    a.Follows trace shuttingDown action (events, { a with stage := .refused }) where
  id := rfl
  sound := by
    have htold : trace = [] := h.told_at hstage
    have hnone : Event.trace a.id events = [] :=
      List.filter_eq_nil_iff.2 fun e he => by simp [hevents e he]
    exact ⟨by simp [Stage.Tells, htold, hnone], nofun⟩
  own := by
    intro e he conn hconn
    rw [hevents e he] at hconn
    cases hconn
  next := by rw [hstage]; exact .refused
  holders := by
    have htaken : a.taken action = 0 := by
      unfold taken
      rw [if_pos hid, hstage]
      cases action with
      | handshakeDone id alpn => cases hrefuses
      | _ => rfl
    simp [holders, dropped, htaken, hstage]
  silent := by simp [leaseGone, hstage]
  refused := fun _ => iff_of_true rfl ⟨hid, hrefuses⟩

/-- What an action makes of an open connection carries over to the accepted one. -/
theorem Sound.live (h : a.Sound trace) {c : LiveConn} (hstage : a.stage = .live c) {r : List Event × Stage}
    (hid : action.id? = some a.id)
    (hr : ∀ during, c.Sound during → c.Onward during (LiveConn.taken action) (c.dropped action) r) :
    a.Follows trace shuttingDown action (r.1, { a with stage := r.2 }) := by
  obtain ⟨hconnId, during, rfl, hsound⟩ := h.told_at hstage
  obtain ⟨hheld, hdropped, htaken⟩ := shares_of_live hstage hid
  have htoken : a.tokenOut = true := h.token (by rw [leaseGone, hstage])
  have hopen : a.leaseGone ≠ true := by rw [leaseGone, hstage]; exact Bool.false_ne_true
  have hnot : a.stage ≠ .handshaking := by rw [hstage]; exact nofun
  cases hr during hsound with
  | @goesOn events c' hconn hsound' hholders =>
    have hevents : ∀ e ∈ events, e.conn? = some c.lease.conn := fun e he =>
      hconn ▸ (hsound'.within e (List.mem_append_right _ he)).conn?_eq
    have hown : Event.trace a.id events = events := hconnId ▸ Event.trace_own hevents
    exact {
      id := rfl
      sound := ⟨⟨hconn ▸ hconnId, during ++ events, by simp [hown, hconn], hsound'⟩, fun _ => htoken⟩
      own := fun e he conn hc => by
        obtain rfl := Option.some.inj ((hevents e he).symm.trans hc)
        exact hconnId
      next := by rw [hstage]; exact .goesOn hconn
      holders := by rw [hheld, hdropped, htaken]; exact hholders
      silent := fun hgone => absurd hgone hopen
      refused := fun hhandshaking => absurd hhandshaking hnot }
  | @ends lifetime hlast hholders =>
    have hown : Event.trace a.id [.connClosed c.lease.conn lifetime] = [.connClosed c.lease.conn lifetime] :=
      hconnId ▸ Event.trace_own (by simp [Event.conn?])
    have herrors : during.countP Event.isError ≤ 1 :=
      Nat.le_trans hsound.errors (Bool.toNat_le _)
    exact {
      id := rfl
      sound := ⟨⟨c.lease.conn, hconnId, during, lifetime, by simp [hown], hsound.within, herrors⟩, nofun⟩
      own := fun e he conn hc => by
        obtain rfl := List.mem_singleton.1 he
        obtain rfl := Option.some.inj hc
        exact hconnId
      next := by rw [hstage]; exact .ends hlast
      holders := by rw [hheld, hdropped, htaken, ← hholders]; exact Nat.zero_add _
      silent := fun hgone => absurd hgone hopen
      refused := fun hhandshaking => absurd hhandshaking hnot }

theorem Sound.step (h : a.Sound trace) (localAddr : SocketAddress) (window : Span) (now : Instant)
    (hid : action.id? = some a.id) :
    a.Follows trace shuttingDown action (a.step localAddr window shuttingDown now action) := by
  unfold Accepted.step
  split
  · -- The task is done, or stays because it has a share.
    refine h.stays ?_ ?_ ?_ ?_ (by simp [Action.Refuses])
    · split <;> rfl
    · split <;> rfl
    · intro _
      split <;> rfl
    · cases hstage : a.stage <;> simp [dropped, taken, hstage, LiveConn.dropped, LiveConn.taken]
  · -- The token comes back, if there is no lease.
    refine h.stays ?_ ?_ ?_ ?_ (by simp [Action.Refuses])
    · split <;> rfl
    · split <;> rfl
    · intro hlease
      rw [hlease]
      rfl
    · cases hstage : a.stage <;> simp [dropped, taken, hstage, LiveConn.dropped, LiveConn.taken]
  · rename_i hstage
    obtain rfl := Option.some.inj hid
    exact h.opened hstage now rfl
  · rename_i hstage
    exact h.refused hstage (by simp [Event.conn?]) hid trivial
  · rename_i hstage
    split
    · rename_i hdown
      exact h.refused hstage (by simp) hid hdown
    · rename_i hdown
      refine h.stays rfl rfl (fun _ => rfl) ?_ fun _ hboth => hdown hboth.2
      simp [dropped, taken, hstage]
  · rename_i c _ hstage _ _
    exact h.live hstage hid fun during hsound => hsound.step window now _
  · -- Any other action does nothing to a connection that is not open.
    rename_i action _ _ _ _ hlive hdone hfailed hcut
    refine h.stays rfl rfl (fun _ => rfl) ?_ ?_
    · unfold dropped taken
      cases hstage : a.stage with
      | live c => exact absurd hstage (hlive c)
      | refused | gone => simp
      | handshaking =>
        cases action with
        | handshakeDone id alpn => exact (hdone id alpn hstage rfl).elim
        | _ => simp
    · rintro hhandshaking ⟨-, hrefuses⟩
      cases action with
      | handshakeFailed id message => exact hfailed id message hhandshaking rfl
      | handshakeCut id => exact hcut id hhandshaking rfl
      | _ => exact hrefuses

/-- The end of a connection is in its trace once, and only when it is gone. -/
theorem Sound.closings (h : a.Sound trace) : trace.countP Event.isClosing = if a.stage = .gone then 1 else 0 := by
  have hduring : ∀ (conn : Conn) (during : List Event), (∀ e ∈ during, e.During conn) →
      during.countP Event.isClosing = 0 := by
    intro conn during hwithin
    exact List.countP_eq_zero.2 fun e he => by simp [(hwithin e he).not_closing]
  cases hstage : a.stage with
  | handshaking | refused =>
    rw [show trace = [] from h.told_at hstage]
    rfl
  | live c =>
    obtain ⟨-, during, rfl, hsound⟩ := h.told_at hstage
    simp [Event.isClosing, hduring c.lease.conn during hsound.within]
  | gone =>
    obtain ⟨conn, -, during, lifetime, rfl, hwithin, -⟩ := h.told_at hstage
    simp [Event.isClosing, List.countP_cons, List.countP_append, hduring conn during hwithin]

/-- The end is logged in the very step in which the last holder goes. -/
theorem closings_next {a' : Accepted} {trace' : List Event} (h : a.Sound trace) (h' : a'.Sound trace')
    (hnext : a.stage.Next a'.stage) :
    trace'.countP Event.isClosing =
      trace.countP Event.isClosing + if a.holders = 1 ∧ a'.holders = 0 then 1 else 0 := by
  rw [h.closings, h'.closings]
  have hheld : ∀ c, a'.stage = .live c → 0 < c.lease.holders := by
    intro c hstage
    obtain ⟨-, during, -, hsound⟩ := h'.told_at hstage
    exact hsound.held
  unfold holders
  generalize a.stage = s, a'.stage = s' at hnext hheld ⊢
  cases hnext with
  | stays =>
    cases s with
    | live c => simp; omega
    | _ => simp
  | refused => simp
  | opened first => simp
  | goesOn conn =>
    have hpos := hheld _ rfl
    simp
    omega
  | ends last => simp [last]

end Accepted

/-! ## All connections of a run -/

namespace Run

/-- What holds of every run: ids count up from one, no event is about a connection that was not accepted, and
every connection has a trace that goes with its stage. -/
structure Sound (r : Run) : Prop where
  ids : r.conns.map (·.id) = List.range' 1 r.accepted
  known : ∀ e ∈ r.log, ∀ conn, e.conn? = some conn → conn.id ∈ r.conns.map (·.id)
  conns : ∀ a ∈ r.conns, a.Sound (Event.trace a.id r.log)

/-- What an action made of a connection of a run. -/
structure Moves (r r' : Run) (action : Action) (a a' : Accepted) : Prop where
  mem : a' ∈ r'.conns
  id : a'.id = a.id
  next : a.stage.Next a'.stage
  /-- The holders are those who took a share and did not drop it. -/
  holders : a'.holders + a.dropped action = a.holders + a.taken action
  /-- Nothing is logged about a connection that has no lease any more. -/
  silent : a.leaseGone = true → Event.trace a.id r'.log = Event.trace a.id r.log
  refused : a.stage = .handshaking →
    (a'.stage = .refused ↔ action.id? = some a.id ∧ action.Refuses r.shuttingDown)

variable {r : Run} {action : Action} {id : Nat}

theorem Sound.distinct (h : r.Sound) : (r.conns.map (·.id)).Nodup := by
  rw [h.ids]
  exact List.nodup_range'

theorem start_sound (localAddr : SocketAddress) (window : Span) : (start localAddr window).Sound where
  ids := rfl
  known := by simp [start]
  conns := by simp [start]

/-! ### Actions on one connection -/

/-- What an action that concerns an id makes of one connection of the run. -/
def outcome (r : Run) (now : Instant) (id : Nat) (action : Action) (a : Accepted) : List Event × Accepted :=
  if a.id = id then a.step r.localAddr r.window r.shuttingDown now action else ([], a)

theorem onConn_eq (r : Run) (now : Instant) (id : Nat) (action : Action) :
    r.onConn now id action =
      { r with
        conns := r.conns.map fun a => (r.outcome now id action a).2
        log := r.log ++ r.conns.flatMap fun a => (r.outcome now id action a).1 } := by
  simp only [onConn, outcome, List.map_map, List.flatMap_map]
  rfl

theorem Sound.outcome (h : r.Sound) (now : Instant) (hid : action.id? = some id) {a : Accepted}
    (ha : a ∈ r.conns) :
    a.Follows (Event.trace a.id r.log) r.shuttingDown action (r.outcome now id action a) := by
  unfold Run.outcome
  split
  · rename_i heq
    exact (h.conns a ha).step r.localAddr r.window now (heq ▸ hid)
  · rename_i hne
    have hother : action.id? ≠ some a.id := fun hid' => hne (Option.some.inj (hid'.symm.trans hid))
    exact (h.conns a ha).stays rfl rfl (fun _ => rfl) (Accepted.shares_of_other hother)
      fun _ hboth => hother hboth.1

/-- Where one element of a list has a key of its own, and all others give nothing, it gives all. -/
theorem flatMap_eq_of_key {α β : Type} {l : List α} {f : α → List β} {key : α → Nat} (hl : (l.map key).Nodup)
    {a : α} (ha : a ∈ l) (hf : ∀ b ∈ l, key b ≠ key a → f b = []) : l.flatMap f = f a := by
  induction l with
  | nil => cases ha
  | cons x xs ih =>
    rw [List.map_cons, List.nodup_cons] at hl
    obtain ⟨hx, hxs⟩ := hl
    rw [List.flatMap_cons]
    rcases List.mem_cons.1 ha with rfl | ha
    · have hrest : xs.flatMap f = [] := List.flatMap_eq_nil_iff.2 fun b hb =>
        hf b (List.mem_cons_of_mem _ hb) fun heq => hx (heq ▸ List.mem_map_of_mem hb)
      rw [hrest, List.append_nil]
    · have hne : key x ≠ key a := fun heq => hx (heq ▸ List.mem_map_of_mem ha)
      rw [hf x List.mem_cons_self hne, List.nil_append]
      exact ih hxs ha fun b hb => hf b (List.mem_cons_of_mem _ hb)

/-- An action adds to the trace of a connection what it logs on account of it. -/
theorem Sound.trace_onConn (h : r.Sound) (now : Instant) (hid : action.id? = some id) {a : Accepted}
    (ha : a ∈ r.conns) :
    Event.trace a.id (r.onConn now id action).log =
      Event.trace a.id r.log ++ Event.trace a.id (r.outcome now id action a).1 := by
  have hone : Event.trace a.id (r.conns.flatMap fun b => (r.outcome now id action b).1) =
      Event.trace a.id (r.outcome now id action a).1 := by
    unfold Event.trace
    rw [List.filter_flatMap]
    exact flatMap_eq_of_key h.distinct ha fun b hb hne => Event.trace_other hne (h.outcome now hid hb).own
  rw [onConn_eq, Event.trace_append, hone]

theorem Sound.onConn (h : r.Sound) (now : Instant) (hid : action.id? = some id) :
    (r.onConn now id action).Sound := by
  have hconns : (r.onConn now id action).conns = r.conns.map fun a => (r.outcome now id action a).2 := by
    rw [onConn_eq]
  have hids : (r.onConn now id action).conns.map (·.id) = r.conns.map (·.id) := by
    rw [hconns, List.map_map]
    exact List.map_congr_left fun a ha => (h.outcome now hid ha).id
  refine ⟨?_, ?_, ?_⟩
  · rw [hids, h.ids, onConn_eq]
  · intro e he conn hconn
    rw [hids]
    rw [onConn_eq, List.mem_append, List.mem_flatMap] at he
    rcases he with he | ⟨a, ha, he⟩
    · exact h.known e he conn hconn
    · rw [(h.outcome now hid ha).own e he conn hconn]
      exact List.mem_map_of_mem ha
  · intro a' ha'
    rw [hconns] at ha'
    obtain ⟨a, ha, rfl⟩ := List.mem_map.1 ha'
    rw [(h.outcome now hid ha).id, h.trace_onConn now hid ha]
    exact (h.outcome now hid ha).sound

theorem Sound.moves_onConn (h : r.Sound) (now : Instant) (hid : action.id? = some id) {a : Accepted}
    (ha : a ∈ r.conns) : r.Moves (r.onConn now id action) action a (r.outcome now id action a).2 where
  mem := by
    rw [onConn_eq]
    exact List.mem_map_of_mem ha
  id := (h.outcome now hid ha).id
  next := (h.outcome now hid ha).next
  holders := (h.outcome now hid ha).holders
  silent := by
    intro hgone
    rw [h.trace_onConn now hid ha, (h.outcome now hid ha).silent hgone]
    exact List.append_nil _
  refused := (h.outcome now hid ha).refused

/-! ### The other actions -/

/-- A connection that an action does not concern stays what it is. -/
theorem moves_same {r' : Run} (hid : action.id? = none) {a : Accepted} (ha : a ∈ r'.conns)
    (hlog : r'.log = r.log) : r.Moves r' action a a where
  mem := ha
  id := rfl
  next := .stays a.stage
  holders := by
    obtain ⟨hdropped, htaken⟩ := Accepted.shares_of_other (a := a) (hid ▸ nofun : action.id? ≠ some a.id)
    rw [hdropped, htaken]
  silent := fun _ => by rw [hlog]
  refused := by
    intro hhandshaking
    simp [hhandshaking, hid]

theorem Sound.accept (h : r.Sound) (remote : SocketAddress) : (r.accept remote).Sound := by
  unfold Run.accept
  split
  · refine ⟨?_, ?_, ?_⟩
    · simp only [List.map_append, h.ids, List.map_cons, List.map_nil, List.range'_1_concat, Nat.add_comm 1]
    · intro e he conn hconn
      rw [List.map_append]
      exact List.mem_append_left _ (h.known e he conn hconn)
    · intro a ha
      rcases List.mem_append.1 ha with ha | ha
      · exact h.conns a ha
      · obtain rfl := List.mem_singleton.1 ha
        -- No event is about an id that was not given out before.
        refine ⟨List.filter_eq_nil_iff.2 ?_, fun _ => rfl⟩
        intro e he hany
        obtain ⟨conn, hconn, hconnId⟩ := (Option.any_eq_true _ _).1 hany
        have hmem := h.known e he conn hconn
        rw [h.ids, List.mem_range'_1] at hmem
        have heq : conn.id = r.accepted + 1 := by simpa using hconnId
        omega
  · exact h

/-- What an action can be: a connection is taken in, the server is told to stop or does stop listening, or one
connection is concerned. -/
theorem step_cases (r : Run) (now : Instant) (action : Action) :
    (action.id? = none ∧ ∃ remote, r.step now action = r.accept remote) ∨
    (action.id? = none ∧ ∃ shuttingDown listening,
      r.step now action = { r with shuttingDown := shuttingDown, listening := listening }) ∨
    ∃ id, action.id? = some id ∧ r.step now action = r.onConn now id action := by
  cases action with
  | accept remote => exact .inl ⟨rfl, remote, rfl⟩
  | acceptFailed => exact .inr (.inl ⟨rfl, r.shuttingDown, r.listening, rfl⟩)
  | shutdown => exact .inr (.inl ⟨rfl, true, r.listening, rfl⟩)
  | stopListening =>
    refine .inr (.inl ⟨rfl, r.shuttingDown, if r.shuttingDown then false else r.listening, ?_⟩)
    simp only [step]
    split <;> rfl
  | _ => exact .inr (.inr ⟨_, rfl, rfl⟩)

theorem mem_accept {a : Accepted} (ha : a ∈ r.conns) (remote : SocketAddress) :
    a ∈ (r.accept remote).conns ∧ (r.accept remote).log = r.log := by
  unfold accept
  split
  · exact ⟨List.mem_append_left _ ha, rfl⟩
  · exact ⟨ha, rfl⟩

/-! ### Steps and runs -/

theorem Sound.step (h : r.Sound) (now : Instant) (action : Action) : (r.step now action).Sound := by
  rcases step_cases r now action with ⟨-, remote, heq⟩ | ⟨-, shuttingDown, listening, heq⟩ | ⟨id, hid, heq⟩
  · rw [heq]
    exact h.accept remote
  · rw [heq]
    exact ⟨h.ids, h.known, h.conns⟩
  · rw [heq]
    exact h.onConn now hid

theorem Sound.moves (h : r.Sound) (now : Instant) (action : Action) {a : Accepted} (ha : a ∈ r.conns) :
    ∃ a', r.Moves (r.step now action) action a a' := by
  rcases step_cases r now action with ⟨hid, remote, heq⟩ | ⟨hid, shuttingDown, listening, heq⟩ | ⟨id, hid, heq⟩
  · rw [heq]
    obtain ⟨hmem, hlog⟩ := mem_accept ha remote
    exact ⟨a, moves_same hid hmem hlog⟩
  · rw [heq]
    exact ⟨a, moves_same hid ha rfl⟩
  · rw [heq]
    exact ⟨_, h.moves_onConn now hid ha⟩

theorem Sound.steps (h : r.Sound) (actions : List (Instant × Action)) : (r.steps actions).Sound := by
  induction actions generalizing r with
  | nil => exact h
  | cons action rest ih => exact ih (h.step action.1 action.2)

/-- A connection without a lease has logged all that it ever will. -/
theorem Sound.settled (h : r.Sound) {a : Accepted} (ha : a ∈ r.conns) (hgone : a.leaseGone = true)
    (later : List (Instant × Action)) :
    Event.trace a.id (r.steps later).log = Event.trace a.id r.log := by
  induction later generalizing r a with
  | nil => rfl
  | cons action rest ih =>
    obtain ⟨a', hmoves⟩ := h.moves action.1 action.2 ha
    have hstage : a'.stage = a.stage := by
      have hnext := hmoves.next
      unfold Accepted.leaseGone at hgone
      generalize a.stage = s, a'.stage = s' at hnext hgone ⊢
      cases hnext with
      | stays => rfl
      | refused | opened | goesOn | ends => cases hgone
    have hgone' : a'.leaseGone = true := by rwa [Accepted.leaseGone, hstage]
    have hrest := ih (h.step action.1 action.2) hmoves.mem hgone'
    rw [hmoves.id] at hrest
    exact hrest.trans (hmoves.silent hgone)

/-! ## The end of a run -/

theorem tracked_eq_zero (h : r.mayReturn = true) : ∀ a ∈ r.conns, a.tokenOut = false := by
  simp only [mayReturn, Bool.and_eq_true, beq_iff_eq] at h
  intro a ha
  have hzero : a.tracked = 0 := List.sum_eq_zero_iff.1 h.2 _ (List.mem_map_of_mem ha)
  simp only [Accepted.tracked, Nat.add_eq_zero_iff] at hzero
  exact Bool.toNat_eq_zero.1 hzero.2

/-- A server that may return has logged the end of every connection that it logged the opening of. -/
theorem Sound.closed_of_mayReturn (h : r.Sound) (hreturn : r.mayReturn = true) (conn : Conn)
    (hnew : .connNew conn ∈ r.log) : ∃ lifetime, .connClosed conn lifetime ∈ r.log := by
  obtain ⟨a, ha, hid⟩ := List.mem_map.1 (h.known _ hnew conn rfl)
  have htrace : .connNew conn ∈ Event.trace a.id r.log :=
    List.mem_filter.2 ⟨hnew, by simp [Event.conn?, hid]⟩
  have hlease : a.leaseGone = true := by
    rw [← Bool.not_eq_false]
    intro hlease
    have htoken := (h.conns a ha).token hlease
    rw [tracked_eq_zero hreturn a ha] at htoken
    cases htoken
  cases hstage : a.stage with
  | handshaking => simp [Accepted.leaseGone, hstage] at hlease
  | live c => simp [Accepted.leaseGone, hstage] at hlease
  | refused =>
    rw [show Event.trace a.id r.log = [] from (h.conns a ha).told_at hstage] at htrace
    cases htrace
  | gone =>
    obtain ⟨conn', -, during, lifetime, heq, hwithin, -⟩ := (h.conns a ha).told_at hstage
    have hclosed : .connClosed conn' lifetime ∈ r.log := by
      refine List.mem_of_mem_filter (p := fun e => e.conn?.any (·.id == a.id)) ?_
      rw [show r.log.filter _ = _ from heq]
      simp
    rw [heq] at htrace
    simp only [List.mem_cons, List.mem_append, Event.connNew.injEq, reduceCtorEq, List.not_mem_nil,
      or_false] at htrace
    rcases htrace with rfl | hmem
    · exact ⟨lifetime, hclosed⟩
    · rcases hwithin _ hmem with hsession | ⟨message, herror⟩
      · cases hsession
      · cases herror

/-- What the log of a run says of its connections. -/
structure Orderly (r : Run) : Prop where
  distinct : (r.conns.map (·.id)).Nodup
  known : ∀ e ∈ r.log, ∀ conn, e.conn? = some conn → ∃ a ∈ r.conns, a.id = conn.id
  told : ∀ a ∈ r.conns, a.stage.Tells a.id (Event.trace a.id r.log)
  returned : r.mayReturn = true → ∀ conn, .connNew conn ∈ r.log → ∃ lifetime, .connClosed conn lifetime ∈ r.log

/-- However a run goes, its log is orderly. The next action moves every connection along its stages: only a
handshake that fails or is cut off makes it a refused one, the holders of its lease are those who took a share
and did not drop it, and its end is logged in the very step in which the last of them lets go. Once it is refused
or gone, nothing is logged about it any more. -/
theorem connection_lifecycle (localAddr : SocketAddress) (window : Span) (earlier : List (Instant × Action))
    (now : Instant) (action : Action) :
    let r := (start localAddr window).steps earlier
    let r' := r.step now action
    r.Orderly ∧ ∀ a ∈ r.conns,
      (∃ a', r.Moves r' action a a' ∧
        (Event.trace a.id r'.log).countP Event.isClosing =
          (Event.trace a.id r.log).countP Event.isClosing +
            if a.holders = 1 ∧ a'.holders = 0 then 1 else 0) ∧
      (a.leaseGone = true → ∀ later, Event.trace a.id (r.steps later).log = Event.trace a.id r.log) := by
  intro r r'
  have hsound : r.Sound := (start_sound localAddr window).steps earlier
  have hsound' : r'.Sound := hsound.step now action
  refine ⟨?_, fun a ha => ⟨?_, hsound.settled ha⟩⟩
  · exact {
      distinct := hsound.distinct
      known := fun e he conn hconn => List.mem_map.1 (hsound.known e he conn hconn)
      told := fun a ha => (hsound.conns a ha).told
      returned := hsound.closed_of_mayReturn }
  · obtain ⟨a', hmoves⟩ := hsound.moves now action ha
    refine ⟨a', hmoves, ?_⟩
    have hnow := hsound'.conns a' hmoves.mem
    rw [hmoves.id] at hnow
    exact Accepted.closings_next (hsound.conns a ha) hnow hmoves.next

/-- The handshake of one connection fails. The session on another one outlives its task: the end of the
connection is logged when the session lets go, and the server waits for it. -/
theorem session_outlives_task :
    let localAddr : SocketAddress := .v4 ⟨127, 0, 0, 1⟩ 4567
    let remote : SocketAddress := .v4 ⟨127, 0, 0, 1⟩ 50000
    let actions : List Action := [.accept remote, .accept remote, .handshakeFailed 1 "no certificate",
      .handshakeDone 2 none, .share 2, .sessionBegin 2 .download, .servingEnded 2 none, .taskReleases 2,
      .taskDone 1, .taskDone 2, .tokenReturned 1, .sessionSample 2 0 8192, .shutdown, .stopListening,
      .sessionFinish 2 0, .release 2, .tokenReturned 2]
    let r := (start localAddr (.ofSecs 10)).steps (actions.map fun action => (.origin, action))
    r.mayReturn = true ∧
      r.log.map Event.kind =
        ["HandshakeFailed", "ConnNew", "RequestReceived", "Ndt7Sample", "RequestDone", "ConnClosed"] ∧
      ∃ lifetime, .connClosed ⟨2, remote, localAddr, "none"⟩ lifetime ∈ r.log := by
  intro localAddr remote actions r
  have hreturn : r.mayReturn = true := by decide
  have horderly := (connection_lifecycle localAddr (.ofSecs 10)
    (actions.map fun action => (.origin, action)) .origin .shutdown).1
  exact ⟨hreturn, by decide, horderly.returned hreturn _ (by decide)⟩

end Run

end Server

end Goodput
