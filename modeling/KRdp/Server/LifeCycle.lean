/-
The life cycle of the connections and the list of the server.

The states of a connection only move forward, so it reports each at most once.
What the queue still holds was reported in this order, and a connection whose
end is reported stays in the list until the server is told.
-/

import KRdp.Server.Connections

namespace KRdp

namespace Server

open RdpConnection (State Iteration)

/-- The state that a connection has reported last. -/
def lastState (id : Nat) (emitted : List Notification) : State :=
  emitted.foldl (fun state each => if each.session = id then each.state else state) .initial

def closedNotification (id : Nat) : Notification := { session := id, state := .closed }

/-- Exactly the named connection is gone, and the others are where they were. -/
def Removal.TakesOutOne (removal : Removal) : Prop :=
  ∃ front session back,
    removal.before = front ++ session :: back ∧ removal.after = front ++ back ∧
      session.id = removal.session ∧
      ∀ other ∈ front ++ back, other.id ≠ removal.session

/-- What the delivery of the next signal does to the list. -/
structure Delivers (world : World) (notification : Notification) (rest : List Notification) :
    Prop where
  queue : (step world .deliver).queue = rest
  closed : notification.state = .closed →
    Removal.TakesOutOne
      { session := notification.session
        before := world.sessions
        after := (step world .deliver).sessions }
  other : notification.state ≠ .closed → (step world .deliver).sessions = world.sessions

/-- A connection that has closed is in the list as long as its signal waits, and the
other way round. -/
structure LifeCycle (world : World) : Prop where
  forward : world.emitted.Pairwise fun earlier later =>
    earlier.session = later.session → earlier.state.rank < later.state.rank
  closedOnce : ∀ id, world.emitted.count (closedNotification id) ≤ 1
  current : ∀ session ∈ world.sessions,
    session.connection.state = lastState session.id world.emitted
  removed : ∀ removal ∈ world.removals, removal.TakesOutOne
  found : ∀ each ∈ world.queue, each.state = .closed →
    ∃ session, world.findSession each.session = some session ∧
      session.connection.state = .closed
  waiting : ∀ session ∈ world.sessions, session.connection.state = .closed →
    closedNotification session.id ∈ world.queue
  delivers : ∀ notification rest, world.queue = notification :: rest →
    Delivers world notification rest

/-- The invariant of the server. -/
structure Orderly (world : World) : Prop where
  fresh : ∀ session ∈ world.sessions, session.id < world.created
  distinct : (world.sessions.map Session.id).Nodup
  wellFormed : ∀ session ∈ world.sessions, session.WellFormed
  known : ∀ each ∈ world.emitted, each.session < world.created
  bounded : ∀ session ∈ world.sessions, ∀ each ∈ world.emitted,
    each.session = session.id → each.state.rank ≤ session.connection.state.rank
  forward : world.emitted.Pairwise fun earlier later =>
    earlier.session = later.session → earlier.state.rank < later.state.rank
  queueEmitted : List.Sublist world.queue world.emitted
  closing : ∀ each ∈ world.queue, each.state = .closed →
    ∃ session ∈ world.sessions, session.id = each.session ∧
      session.connection.state = .closed
  current : ∀ session ∈ world.sessions,
    session.connection.state = lastState session.id world.emitted
  removed : ∀ removal ∈ world.removals, removal.TakesOutOne

section Facts

variable {world : World} {session next other : Session} {each : Notification}
  {notifications : List Notification} {id : Nat}

theorem lastState_append (id : Nat) (emitted added : List Notification) :
    lastState id (emitted ++ added) =
      added.foldl (fun state each => if each.session = id then each.state else state)
        (lastState id emitted) :=
  List.foldl_append

theorem lastState_other (absent : ∀ each ∈ notifications, each.session ≠ id)
    (emitted : List Notification) :
    lastState id (emitted ++ notifications) = lastState id emitted := by
  rw [lastState_append]
  generalize lastState id emitted = state
  induction notifications generalizing state with
  | nil => rfl
  | cons head rest ih =>
      rw [List.foldl_cons, if_neg (absent head (List.mem_cons_self ..))]
      exact ih (fun each member => absent each (List.mem_cons_of_mem _ member)) state

theorem lastState_changed (session next : Session) {emitted : List Notification}
    (before : session.connection.state = lastState session.id emitted) :
    lastState session.id (emitted ++ stateChanged session next) = next.connection.state := by
  unfold stateChanged
  by_cases same : next.connection.state = session.connection.state
  · rw [if_pos same, List.append_nil, same, before]
  · rw [if_neg same, lastState_append, List.foldl_cons, if_pos rfl, List.foldl_nil]

theorem rank_le (state : State) : state.rank ≤ State.closed.rank := by
  cases state <;> decide

/-- The state of a connection stays or moves forward. -/
def Session.Ahead (session next : Session) : Prop :=
  next.connection.state = session.connection.state ∨
    session.connection.state.rank < next.connection.state.rank

theorem Session.Ahead.rank_le (ahead : session.Ahead next) :
    session.connection.state.rank ≤ next.connection.state.rank := by
  rcases ahead with same | later
  · rw [same]
  · exact Nat.le_of_lt later

theorem Session.Ahead.closed (ahead : session.Ahead next)
    (isClosed : session.connection.state = .closed) : next.connection.state = .closed := by
  rcases ahead with same | later
  · rw [same, isClosed]
  · rw [isClosed] at later
    exact absurd later (Nat.not_lt.mpr (Server.rank_le _))

end Facts

/-! ### What a step preserves -/

section Steps

variable {world : World} {session next : Session}

theorem Orderly.closes (orderly : Orderly world) (calls : List CloseCall) :
    Orderly { world with closes := calls } :=
  { orderly with }

theorem Orderly.close (orderly : Orderly world) (id : Nat) (reason : CloseReason) :
    Orderly (Server.close id reason world) := by
  unfold Server.close
  split
  · exact orderly
  · exact orderly.closes _

theorem Orderly.listed (orderly : Orderly world) : Orderly world.listed where
  fresh := by
    intro session member
    rcases List.mem_append.mp member with earlier | latest
    · exact Nat.lt_succ_of_lt (orderly.fresh session earlier)
    · rw [List.mem_singleton.mp latest]
      exact Nat.lt_succ_self _
  distinct := by
    unfold World.listed
    rw [List.map_append, List.map_singleton, List.nodup_append]
    refine ⟨orderly.distinct, List.nodup_singleton _, ?_⟩
    intro id member new latest
    obtain ⟨session, sessionMember, rfl⟩ := List.mem_map.mp member
    rw [List.mem_singleton.mp latest]
    exact Nat.ne_of_lt (orderly.fresh session sessionMember)
  wellFormed := by
    intro session member
    rcases List.mem_append.mp member with earlier | latest
    · exact orderly.wellFormed session earlier
    · rw [List.mem_singleton.mp latest]
      exact ⟨rfl, rfl, rfl⟩
  known := by
    intro each member
    exact Nat.lt_succ_of_lt (orderly.known each member)
  bounded := by
    intro session member each emitted same
    rcases List.mem_append.mp member with earlier | latest
    · exact orderly.bounded session earlier each emitted same
    · rw [List.mem_singleton.mp latest] at same
      exact absurd same (Nat.ne_of_lt (orderly.known each emitted))
  forward := orderly.forward
  queueEmitted := orderly.queueEmitted
  closing := by
    intro each member isClosed
    obtain ⟨session, sessionMember, found⟩ := orderly.closing each member isClosed
    exact ⟨session, List.mem_append_left _ sessionMember, found⟩
  current := by
    intro session member
    rcases List.mem_append.mp member with earlier | latest
    · exact orderly.current session earlier
    · rw [List.mem_singleton.mp latest]
      have silent : lastState world.created ([] ++ world.emitted) = lastState world.created [] :=
        lastState_other (fun each emitted => Nat.ne_of_lt (orderly.known each emitted)) []
      exact silent.symm
  removed := orderly.removed

/-- A connection moves forward, and some of what it reports is queued. -/
theorem Orderly.advance_queued (orderly : Orderly world) (next : Session)
    (member : session ∈ world.sessions) (sameId : next.id = session.id)
    (ahead : session.Ahead next) (well : next.WellFormed)
    {queued : List Notification} (reported : List.Sublist queued (stateChanged session next)) :
    Orderly ((world.update session next).post queued) where
  fresh := by
    intro each eachMember
    rcases Registry.mem_store eachMember with stored | kept
    · rw [stored.1, sameId]
      exact orderly.fresh session member
    · exact orderly.fresh each kept.1
  distinct := by
    have keys : (Registry.store Session.id next world.sessions).map Session.id =
        world.sessions.map Session.id := Registry.keys_store next world.sessions
    exact keys ▸ orderly.distinct
  wellFormed := by
    intro each eachMember
    rcases Registry.mem_store eachMember with stored | kept
    · exact stored.1 ▸ well
    · exact orderly.wellFormed each kept.1
  known := by
    intro each emitted
    rcases List.mem_append.mp emitted with earlier | latest
    · exact orderly.known each earlier
    · rw [(mem_stateChanged latest).2]
      exact orderly.fresh session member
  bounded := by
    intro each eachMember notification emitted same
    rcases Registry.mem_store eachMember with stored | kept
    · rw [stored.1]
      rw [stored.1, sameId] at same
      rcases List.mem_append.mp emitted with earlier | latest
      · exact (orderly.bounded session member notification earlier same).trans ahead.rank_le
      · rw [(mem_stateChanged latest).2]
    · rcases List.mem_append.mp emitted with earlier | latest
      · exact orderly.bounded each kept.1 notification earlier same
      · rw [(mem_stateChanged latest).2] at same
        exact absurd (same.symm.trans sameId.symm) kept.2
  forward := by
    apply List.pairwise_append.mpr
    refine ⟨orderly.forward, ?_, ?_⟩
    · unfold stateChanged
      split
      · exact List.Pairwise.nil
      · exact List.pairwise_singleton _ _
    · intro earlier earlierMember later laterMember same
      obtain ⟨changed, laterEq⟩ := mem_stateChanged laterMember
      rw [laterEq] at same ⊢
      have below := orderly.bounded session member earlier earlierMember same
      rcases ahead with unchanged | later
      · exact absurd unchanged changed
      · exact Nat.lt_of_le_of_lt below later
  queueEmitted := orderly.queueEmitted.append reported
  closing := by
    intro each queuedMember isClosed
    rcases List.mem_append.mp queuedMember with earlier | latest
    · obtain ⟨other, otherMember, otherId, otherClosed⟩ :=
        orderly.closing each earlier isClosed
      by_cases same : other.id = next.id
      · refine ⟨next, Registry.mem_store_self otherMember same, same ▸ otherId, ?_⟩
        have otherEq := Registry.eq_of_key orderly.distinct otherMember member
          (same.trans sameId)
        exact ahead.closed (otherEq ▸ otherClosed)
      · exact ⟨other, Registry.mem_store_other otherMember same, otherId, otherClosed⟩
    · have eachEq := (mem_stateChanged (reported.subset latest)).2
      rw [eachEq] at isClosed ⊢
      exact ⟨next, Registry.mem_store_self member sameId.symm, sameId, isClosed⟩
  current := by
    intro each eachMember
    rcases Registry.mem_store eachMember with stored | kept
    · rw [stored.1, sameId]
      exact (lastState_changed session next (orderly.current session member)).symm
    · rw [orderly.current each kept.1]
      symm
      apply lastState_other
      intro notification latest same
      rw [(mem_stateChanged latest).2] at same
      exact kept.2 (same.symm.trans sameId.symm)
  removed := orderly.removed

theorem Orderly.advance (orderly : Orderly world) (member : session ∈ world.sessions)
    (sameId : next.id = session.id) (ahead : session.Ahead next) (well : next.WellFormed) :
    Orderly (Server.advance session next world) :=
  orderly.advance_queued next member sameId ahead well (List.Sublist.refl _)

theorem findSession_some {id : Nat} (found : world.findSession id = some session) :
    session ∈ world.sessions ∧ session.id = id :=
  Registry.find_eq_some found

/-! ### The steps of a connection -/

theorem Session.WellFormed.of_queued (well : session.WellFormed)
    (queued : session.initialization = .queued) :
    session.thread = .notStarted ∧ session.connection.videoStream.gfxContext = false ∧
      session.connection.state = .initial ∧ session.peer = false := by
  unfold Session.WellFormed at well
  split at well
  · rename_i thread
    rw [queued] at well
    exact ⟨thread, well⟩
  all_goals
    rw [queued] at well
    cases well.1

theorem Session.WellFormed.initialized (failure : Option InitializeFailure)
    (closedStream : session.connection.videoStream.gfxContext = false) :
    (session.initialized failure).WellFormed := by
  cases failure with
  | none => exact ⟨rfl, rfl, rfl⟩
  | some failure => exact ⟨closedStream, rfl, Option.some_ne_none failure, rfl⟩

theorem Orderly.initialized (orderly : Orderly world) (member : session ∈ world.sessions)
    (queued : session.initialization = .queued) (failure : Option InitializeFailure) :
    Orderly (world.update session (session.initialized failure)) := by
  obtain ⟨_, closedStream, initial, _⟩ := (orderly.wellFormed session member).of_queued queued
  have ahead : session.Ahead (session.initialized failure) := by
    refine .inr ?_
    rw [initial]
    exact Nat.zero_lt_one
  have next : Orderly ((world.update session (session.initialized failure)).post []) :=
    orderly.advance_queued (session.initialized failure) member rfl ahead
      (Session.WellFormed.initialized failure closedStream) (List.nil_sublist _)
  simpa only [World.post, List.append_nil] using next

theorem Orderly.startRunning (orderly : Orderly world) (member : session ∈ world.sessions)
    (created : session.thread = .created) :
    Orderly (Server.advance session session.startRunning world) := by
  have well := orderly.wellFormed session member
  simp only [Session.WellFormed, created] at well
  obtain ⟨returned, peer, starting⟩ := well
  have ahead : session.Ahead session.startRunning := by
    refine .inr ?_
    rw [starting]
    exact Nat.lt_succ_self _
  exact orderly.advance member rfl ahead ⟨returned, peer, .inl rfl⟩

theorem Session.WellFormed.iterate (well : session.WellFormed) (looping : session.thread = .looping)
    (input : Iteration) :
    session.Ahead (session.iterate input) ∧ (session.iterate input).WellFormed := by
  simp only [Session.WellFormed, looping] at well
  obtain ⟨returned, peer, position⟩ := well
  have state : (session.iterate input).connection.state = session.connection.state ∨
      (session.iterate input).connection.state = .streaming :=
    iterate_state input session.connection
  constructor
  · rcases state with same | streaming
    · exact .inl same
    · rcases position with running | already
      · refine .inr ?_
        rw [running, streaming]
        exact Nat.lt_succ_self _
      · exact .inl (streaming.trans already.symm)
  · have nextPosition : (session.iterate input).connection.state = .running ∨
        (session.iterate input).connection.state = .streaming := by
      rcases state with same | streaming
      · exact same ▸ position
      · exact .inr streaming
    rcases session.iterate_thread input with stays | leaves
    · simp only [Session.WellFormed, stays]
      exact ⟨returned, peer, nextPosition⟩
    · simp only [Session.WellFormed, leaves]
      exact ⟨returned, peer, nextPosition⟩

theorem Session.WellFormed.finish (well : session.WellFormed)
    (leaving : session.thread = .leaving) :
    session.Ahead session.finish ∧ session.finish.WellFormed := by
  simp only [Session.WellFormed, leaving] at well
  obtain ⟨returned, peer, position⟩ := well
  refine ⟨.inr ?_, returned, peer, rfl⟩
  rcases position with running | streaming
  · rw [running]
    change 2 < 4
    decide
  · rw [streaming]
    exact Nat.lt_succ_self _

theorem Orderly.iterated (orderly : Orderly world) (member : session ∈ world.sessions)
    (looping : session.thread = .looping) (input : Iteration) :
    Orderly (Server.advance session (session.iterate input) world) := by
  obtain ⟨ahead, well⟩ := (orderly.wellFormed session member).iterate looping input
  exact orderly.advance member rfl ahead well

theorem Orderly.finished (orderly : Orderly world) (member : session ∈ world.sessions)
    (leaving : session.thread = .leaving) :
    Orderly (Server.advance session session.finish world) := by
  obtain ⟨ahead, well⟩ := (orderly.wellFormed session member).finish leaving
  exact orderly.advance member rfl ahead well

/-! ### The delivery of a signal -/

theorem Orderly.dequeue (orderly : Orderly world) {notification : Notification}
    {rest : List Notification} (queue : world.queue = notification :: rest) :
    Orderly { world with queue := rest } := by
  have shorter : List.Sublist rest world.queue := queue ▸ List.sublist_cons_self notification rest
  refine { orderly with queueEmitted := shorter.trans orderly.queueEmitted, closing := ?_ }
  intro each member
  exact orderly.closing each (shorter.subset member)

/-- No second end of the same connection waits in the queue. -/
theorem Orderly.queue_once (orderly : Orderly world) {notification : Notification}
    {rest : List Notification} (queue : world.queue = notification :: rest)
    (isClosed : notification.state = .closed) :
    ∀ each ∈ rest, each.state = .closed → each.session ≠ notification.session := by
  intro each member eachClosed same
  have ordered := orderly.forward.sublist orderly.queueEmitted
  rw [queue, List.pairwise_cons] at ordered
  have later := ordered.1 each member same.symm
  rw [isClosed, eachClosed] at later
  exact Nat.lt_irrefl _ later

theorem Orderly.takesOutOne (orderly : Orderly world) (member : session ∈ world.sessions) :
    Removal.TakesOutOne
      { session := session.id
        before := world.sessions
        after := Registry.remove Session.id session.id world.sessions } := by
  obtain ⟨found, foundEq, foundId⟩ :
      ∃ found, world.findSession session.id = some found ∧ found.id = session.id :=
    Registry.find_of_mem member
  obtain ⟨front, back, split, removed⟩ := Registry.remove_split foundEq
  refine ⟨front, found, back, split, removed, foundId, ?_⟩
  intro other otherMember
  rw [← removed] at otherMember
  exact ((Registry.mem_remove_iff orderly.distinct).mp otherMember).2

/-- A connection is told to be closed only after its thread has finished. -/
theorem Session.WellFormed.finished (well : session.WellFormed)
    (isClosed : session.connection.state = .closed) : session.thread = .finished := by
  have notOpen :
      ¬(session.connection.state = .running ∨ session.connection.state = .streaming) := by
    rw [isClosed]
    simp
  unfold Session.WellFormed at well
  split at well
  · split at well
    · exact absurd (well.2.1.symm.trans isClosed) State.noConfusion
    · exact absurd (well.2.1.symm.trans isClosed) State.noConfusion
  · exact absurd (well.2.2.symm.trans isClosed) State.noConfusion
  · exact absurd well.2.2 notOpen
  · exact absurd well.2.2 notOpen
  · assumption

theorem Orderly.finished_of_queued (orderly : Orderly world) {notification : Notification}
    (queued : notification ∈ world.queue) (isClosed : notification.state = .closed)
    (member : session ∈ world.sessions) (same : session.id = notification.session) :
    session.thread = .finished := by
  obtain ⟨closing, closingMember, closingId, closingState⟩ :=
    orderly.closing notification queued isClosed
  have closingEq := Registry.eq_of_key orderly.distinct closingMember member
    (closingId.trans same.symm)
  exact (orderly.wellFormed session member).finished (closingEq ▸ closingState)

theorem Orderly.removeSession (orderly : Orderly world) (member : session ∈ world.sessions)
    (once : ∀ each ∈ world.queue, each.state = .closed → each.session ≠ session.id) :
    let sessions := Registry.remove Session.id session.id world.sessions
    Orderly
      { world with
        sessions
        removals := world.removals ++
          [{ session := session.id, before := world.sessions, after := sessions }] } := by
  intro sessions
  have kept : ∀ other ∈ sessions, other ∈ world.sessions :=
    fun other otherMember => ((Registry.mem_remove_iff orderly.distinct).mp otherMember).1
  refine
    { fresh := fun other otherMember => orderly.fresh other (kept other otherMember)
      distinct := orderly.distinct.sublist ((Registry.remove_sublist _ _).map _)
      wellFormed := fun other otherMember => orderly.wellFormed other (kept other otherMember)
      known := orderly.known
      bounded := fun other otherMember => orderly.bounded other (kept other otherMember)
      forward := orderly.forward
      queueEmitted := orderly.queueEmitted
      closing := ?_
      current := fun other otherMember => orderly.current other (kept other otherMember)
      removed := ?_ }
  · intro each queued isClosed
    obtain ⟨other, otherMember, otherId, otherClosed⟩ := orderly.closing each queued isClosed
    have apart : other.id ≠ session.id := otherId ▸ once each queued isClosed
    exact ⟨other, (Registry.mem_remove_iff orderly.distinct).mpr ⟨otherMember, apart⟩,
      otherId, otherClosed⟩
  · intro removal removalMember
    rcases List.mem_append.mp removalMember with earlier | latest
    · exact orderly.removed removal earlier
    · rw [List.mem_singleton.mp latest]
      exact orderly.takesOutOne member

theorem Orderly.deliver (orderly : Orderly world) {notification : Notification}
    {rest : List Notification} (queue : world.queue = notification :: rest) :
    Orderly (onStateChanged { world with queue := rest } notification) := by
  have dequeued := orderly.dequeue queue
  unfold onStateChanged
  by_cases isClosed : notification.state = .closed
  · rw [if_pos isClosed]
    obtain ⟨session, member, sameId, _⟩ :=
      orderly.closing notification (queue ▸ List.mem_cons_self ..) isClosed
    have once := orderly.queue_once queue isClosed
    rw [← sameId] at once ⊢
    have closed := dequeued.close session.id .none
    unfold Server.close at closed ⊢
    split
    · rename_i missing
      simp only [missing] at closed
      exact closed.removeSession member once
    · rename_i found foundEq
      simp only [foundEq] at closed
      exact closed.removeSession member once
  · rw [if_neg isClosed]
    exact dequeued

theorem Orderly.step (orderly : Orderly world) (action : Action) :
    Orderly (Server.step world action) := by
  have change := step_change world action
  generalize Server.step world action = next at change ⊢
  cases change with
  | unchanged => exact orderly
  | listed => exact orderly.listed
  | listedWithError => exact orderly.listed.close _ _
  | initialized found queued failure =>
      exact orderly.initialized (findSession_some found).1 queued failure
  | running found created => exact orderly.startRunning (findSession_some found).1 created
  | iterated found looping input =>
      exact orderly.iterated (findSession_some found).1 looping input
  | finished found leaving => exact orderly.finished (findSession_some found).1 leaving
  | videoFailed => exact orderly.close _ _
  | errorReported => exact orderly.close _ _
  | delivered queue => exact orderly.deliver queue

end Steps

/-! ### The signals that wait -/

def Waiting (world : World) : Prop :=
  ∀ session ∈ world.sessions, session.connection.state = .closed →
    closedNotification session.id ∈ world.queue

section Waiting

variable {world : World} {session next : Session}

theorem Waiting.listed (waiting : Waiting world) : Waiting world.listed := by
  intro other member isClosed
  rcases List.mem_append.mp member with earlier | latest
  · exact waiting other earlier isClosed
  · rw [List.mem_singleton.mp latest] at isClosed
    cases isClosed

theorem Waiting.close (waiting : Waiting world) (id : Nat) (reason : CloseReason) :
    Waiting (Server.close id reason world) := by
  unfold Waiting
  rw [close_sessions, close_queue]
  exact waiting

/-- A connection closes along with a signal. -/
theorem Waiting.post (waiting : Waiting world) (member : session ∈ world.sessions)
    (sameId : next.id = session.id) {queued : List Notification}
    (told : next.connection.state = .closed → stateChanged session next ⊆ queued) :
    Waiting ((world.update session next).post queued) := by
  intro other otherMember isClosed
  apply List.mem_append.mpr
  rcases Registry.mem_store otherMember with stored | kept
  · rw [stored.1] at isClosed ⊢
    rw [sameId]
    by_cases same : next.connection.state = session.connection.state
    · exact .inl (waiting session member (same ▸ isClosed))
    · apply Or.inr
      apply told isClosed
      rw [stateChanged, if_neg same, isClosed]
      exact List.mem_singleton_self _
  · exact .inl (waiting other kept.1 isClosed)

theorem Waiting.advance (waiting : Waiting world) (member : session ∈ world.sessions)
    (sameId : next.id = session.id) : Waiting (Server.advance session next world) :=
  waiting.post member sameId fun _ => List.Subset.refl _

theorem Waiting.deliver (waiting : Waiting world) (orderly : Orderly world)
    {notification : Notification} {rest : List Notification}
    (queue : world.queue = notification :: rest) :
    Waiting (onStateChanged { world with queue := rest } notification) := by
  unfold Waiting
  rw [onStateChanged_sessions, onStateChanged_queue]
  intro other member isClosed
  have told (otherMember : other ∈ world.sessions) :
      closedNotification other.id = notification ∨ closedNotification other.id ∈ rest := by
    have waits := waiting other otherMember isClosed
    rw [queue] at waits
    exact List.mem_cons.mp waits
  split at member
  · obtain ⟨otherMember, apart⟩ := (Registry.mem_remove_iff orderly.distinct).mp member
    rcases told otherMember with same | later
    · exact absurd (congrArg Notification.session same) apart
    · exact later
  · rename_i notClosed
    rcases told member with same | later
    · exact absurd (same ▸ rfl) notClosed
    · exact later

theorem Waiting.step (waiting : Waiting world) (orderly : Orderly world) (action : Action) :
    Waiting (Server.step world action) := by
  have change := step_change world action
  generalize Server.step world action = after at change ⊢
  cases change with
  | unchanged => exact waiting
  | listed => exact waiting.listed
  | listedWithError => exact waiting.listed.close _ _
  | @initialized _ session found queued failure =>
      have starting : (session.initialized failure).connection.state = .starting := rfl
      have posted : Waiting ((world.update session (session.initialized failure)).post []) := by
        apply waiting.post (findSession_some found).1
        · rfl
        · intro isClosed
          exact absurd (starting.symm.trans isClosed) State.noConfusion
      simpa only [World.post, List.append_nil] using posted
  | running found created => exact waiting.advance (findSession_some found).1 rfl
  | iterated found looping input => exact waiting.advance (findSession_some found).1 rfl
  | finished found leaving => exact waiting.advance (findSession_some found).1 rfl
  | videoFailed => exact waiting.close _ _
  | errorReported => exact waiting.close _ _
  | delivered queue => exact waiting.deliver orderly queue

end Waiting

/-! ### Every run -/

theorem Orderly.initial : Orderly {} := by
  constructor <;> simp

theorem orderly_run (actions : List Action) : Orderly (StepRun.run step {} actions) :=
  StepRun.run_invariant Orderly Orderly.initial (fun _ action orderly => orderly.step action)
    actions

theorem count_le_one {emitted : List Notification}
    (forward : emitted.Pairwise fun earlier later =>
      earlier.session = later.session → earlier.state.rank < later.state.rank)
    (each : Notification) : emitted.count each ≤ 1 := by
  apply List.nodup_iff_count_le_one.mp
  apply forward.imp
  intro earlier later ordered same
  rw [same] at ordered
  exact Nat.lt_irrefl _ (ordered rfl)

theorem Orderly.found {world : World} (orderly : Orderly world) {each : Notification}
    (queued : each ∈ world.queue) (isClosed : each.state = .closed) :
    ∃ session, world.findSession each.session = some session ∧
      session.connection.state = .closed := by
  obtain ⟨closing, closingMember, closingId, closingState⟩ := orderly.closing each queued isClosed
  obtain ⟨session, foundEq, sameId⟩ :
      ∃ found, world.findSession closing.id = some found ∧ found.id = closing.id :=
    Registry.find_of_mem closingMember
  have sessionEq := Registry.eq_of_key orderly.distinct (Registry.find_eq_some foundEq).1
    closingMember sameId
  rw [closingId] at foundEq
  exact ⟨session, foundEq, sessionEq ▸ closingState⟩

theorem Orderly.delivers {world : World} (orderly : Orderly world) {notification : Notification}
    {rest : List Notification} (queue : world.queue = notification :: rest) :
    Delivers world notification rest := by
  have delivered : Server.step world .deliver =
      onStateChanged { world with queue := rest } notification := by
    simp only [Server.step, queue]
  constructor
  · rw [delivered, onStateChanged_queue]
  · intro isClosed
    obtain ⟨session, member, sameId, _⟩ :=
      orderly.closing notification (queue ▸ List.mem_cons_self ..) isClosed
    rw [delivered, onStateChanged_sessions, if_pos isClosed, ← sameId]
    exact orderly.takesOutOne member
  · intro notClosed
    rw [delivered, onStateChanged_sessions, if_neg notClosed]

theorem Orderly.lifeCycle {world : World} (orderly : Orderly world) (waiting : Waiting world) :
    LifeCycle world where
  forward := orderly.forward
  closedOnce := fun id => count_le_one orderly.forward (closedNotification id)
  current := orderly.current
  removed := orderly.removed
  found := fun _ queued isClosed => orderly.found queued isClosed
  waiting := waiting
  delivers := fun _ _ queue => orderly.delivers queue

/-- In every run the connections only move forward, each closes at most once, its
signal finds it in the list, and the delivery takes out exactly this one. -/
theorem lifeCycle_always (actions : List Action) :
    StepRun.Always step LifeCycle {} actions := by
  apply StepRun.always_of_invariant (fun world => Orderly world ∧ Waiting world)
  · exact ⟨Orderly.initial, by simp [Waiting]⟩
  · intro world action invariant
    exact ⟨invariant.1.step action, invariant.2.step invariant.1 action⟩
  · intro world invariant
    exact invariant.1.lifeCycle invariant.2

end Server

end KRdp
