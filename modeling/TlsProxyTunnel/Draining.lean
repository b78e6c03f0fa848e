/-
The graceful shutdown, down to the bytes.

When `Server::run` has returned, every session that was ever opened has come to
its end and has delivered what it could.  Once a signal has arrived nothing
keeps `run` from returning, except clients that never cease to come and peers
that never cease to speak or stay silent with the connection open: the script of
every socket is finite and ends the stream, and `process` of a client of `Ban`
or `Echo` may end at any time.
-/

import TlsProxyTunnel.Live

namespace TlsProxyTunnel

open Interleave hiding run
open Transition

/-- A call that has a result failed before its relay, or its relay has ended:
both writers are shut down, and each has got everything its reader had unless
it failed itself. -/
structure ProxyCall.Completed (call : ProxyCall) (run : ProxyRun) : Prop where
  inOrder : call.InOrder run
  failed : run.relayed = none → ∃ error, run.result = some (.error error)
  joined :
    ∀ state, run.relayed = some state →
      run.result = some (.ok ()) ∧ state.tx.shutdowns = 1 ∧
        state.rx.shutdowns = 1
  upstreamGot :
    run.relayed ≠ none → WritesClean call.outbound.writes →
      run.forwarded = stream call.inbound.reads
  clientGot :
    run.relayed ≠ none → WritesClean call.inbound.writes →
      ∃ header, call.Swallows header ∧
        header ++ run.returned = stream call.outbound.reads

theorem ProxyCall.completed (call : ProxyCall) (schedule : List Side)
    (ended : (call.proxy schedule).result.isSome = true) :
    call.Completed (call.proxy schedule) := by
  have inOrder := call.proxy_inOrder schedule
  rcases call.proxy_cases with ⟨error, requestSent, _, proxied⟩ |
    ⟨requestSent, outbound, relays⟩
  · rw [proxied schedule] at inOrder ⊢
    exact
      { inOrder := inOrder
        failed := fun _ => ⟨error, rfl⟩
        joined := fun state some_ => by cases some_
        upstreamGot := fun some_ => absurd rfl some_
        clientGot := fun some_ => absurd rfl some_ }
  · rw [relays.proxied schedule] at inOrder ended ⊢
    rw [ProxyRun.relaying_eq_ofRelay, ProxyRun.ofRelay,
      Option.isSome_map] at ended
    obtain ⟨value, joined⟩ := Option.isSome_iff_exists.mp ended
    obtain ⟨txDone, rxDone, rfl⟩ :=
      (RelayState.result_eq_some_iff _ value).mp joined
    obtain ⟨txExit, txReturned⟩ := (CopyState.result_isSome_iff _).mp txDone
    obtain ⟨rxExit, rxReturned⟩ := (CopyState.result_isSome_iff _).mp rxDone
    refine
      { inOrder := inOrder
        failed := fun none_ => by cases none_
        joined := ?_
        upstreamGot := ?_
        clientGot := ?_ }
    · rintro state some_
      cases some_
      refine ⟨?_, ?_, ?_⟩
      · simp only [ProxyRun.relaying, joined, Option.map_some]
      · exact (relay_tx_exact schedule _ _).closedOnce txExit txReturned
      · exact (relay_rx_exact schedule _ _).closedOnce rxExit rxReturned
    · intro _ clean
      rw [relay_tx] at txDone
      have whole := copy_whole _ _ (relays.writes clean) _ txDone
      simp only [ProxyRun.forwarded, ProxyRun.relaying, relay_tx]
      exact whole
    · intro _ clean
      rw [relay_rx] at rxDone
      have whole := copy_whole _ _ clean _ rxDone
      obtain ⟨header, swallows, left⟩ := relays.reads
      refine ⟨header, swallows, ?_⟩
      rw [← left]
      simp only [ProxyRun.returned, ProxyRun.relaying, relay_rx]
      exact congrArg (header ++ ·) whole

theorem reachable_opened_after_return (server : Server) (parser : TlsParser)
    (runtime : Runtime) (state later : LiveState)
    (counted : state.run.Counted server) (main : state.run.main = .returned)
    (continued : Reachable (liveStep server parser runtime) state later) :
    later.opened = state.opened := by
  refine (continued.invariant
    (fun later => Reachable (runStep server parser) state.run later.run ∧
      later.opened = state.opened) ⟨Reachable.refl _ _, rfl⟩ ?_).2
  rintro before event after moved ⟨reached, same⟩
  refine ⟨reached.trans
    (liveStep_run server parser runtime before event after moved), ?_⟩
  have idle := (reachable_after_return server parser state.run before.run
    counted main reached).1
  cases liveStep_cases server parser runtime before after event moved with
  | opened front back handler chosen meeting next tasks waiting handlers =>
      rw [idle] at tasks
      simp at tasks
  | quiet next handlers => exact same
  | accepted handler next waiting handlers => exact same
  | refused front back handler next tasks waiting handlers => exact same
  | finished front back handler next tasks handlers done => exact same
  | moved position task session event found stepped => exact same

theorem ended_of_returned (server : Server) (parser : TlsParser)
    (runtime : Runtime) (state : LiveState)
    (reached : Reachable (liveStep server parser runtime)
      (LiveState.start server) state)
    (returned : state.run.main = .returned) :
    state.sessions = [] ∧
    state.opened.Perm (state.ended.map Prod.fst) ∧
    ∀ call run, (call, run) ∈ state.ended →
      ∃ schedule, call.proxy schedule = run ∧
        (call.proxy schedule).result.isSome = true := by
  have counted := reachable_counted server parser state.run
    (reachable_run server parser runtime state reached)
  have paired := reachable_paired server parser runtime state reached
  have none_ : state.sessions = [] := by
    have beside := paired.sessions
    rw [(counted.quiet returned).2] at beside
    exact List.forall₂_nil_left_iff.mp beside
  refine ⟨none_, ?_, ?_⟩
  · have ledger := paired.ledger
    rw [LiveState.live, none_, List.filterMap_nil, List.append_nil] at ledger
    exact ledger
  · intro call run member
    obtain ⟨ended, schedule, rfl⟩ := call.reachable_explains _
      (paired.outcomes call run member)
    exact ⟨schedule, rfl, ended⟩

/-- `run` does not return before every session that was opened has: each of
them is a completed run of `proxy`, none is left and none is opened later. -/
theorem run_returns_delivered (server : Server) (parser : TlsParser)
    (runtime : Runtime) (state : LiveState)
    (reached : Reachable (liveStep server parser runtime)
      (LiveState.start server) state)
    (returned : state.run.main = .returned) :
    state.sessions = [] ∧
    state.opened.Perm (state.ended.map Prod.fst) ∧
    (∀ call run, (call, run) ∈ state.ended →
      (∃ schedule, call.proxy schedule = run) ∧ call.Completed run) ∧
    ∀ later, Reachable (liveStep server parser runtime) state later →
      later.opened = state.opened := by
  have counted := reachable_counted server parser state.run
    (reachable_run server parser runtime state reached)
  obtain ⟨none_, ledger, outcomes⟩ :=
    ended_of_returned server parser runtime state reached returned
  refine ⟨none_, ledger, ?_, fun later =>
    reachable_opened_after_return server parser runtime state later counted
      returned⟩
  intro call run member
  obtain ⟨schedule, rfl, ended⟩ := outcomes call run member
  exact ⟨⟨schedule, rfl⟩, call.completed schedule ended⟩

theorem run_returns_delivered_after_signal :
    ∃ (state : LiveState) (call : ProxyCall) (run : ProxyRun),
      Reachable (liveStep directServer TlsParser.refusing bareRuntime)
        (LiveState.start directServer) state ∧
      state.ended = [(call, run)] ∧
      run.forwarded = stream greetedClient.reads ∧
      run.returned = greeting ∧
      state.sessions = [] ∧
      state.opened.Perm (state.ended.map Prod.fst) ∧
      (∀ call run, (call, run) ∈ state.ended →
        (∃ schedule, call.proxy schedule = run) ∧ call.Completed run) ∧
      ∀ later,
        Reachable (liveStep directServer TlsParser.refusing bareRuntime) state
          later →
        later.opened = state.opened := by
  have reached : Reachable
      (liveStep directServer TlsParser.refusing bareRuntime)
      (LiveState.start directServer) _ :=
    ⟨[.run .loopSpawned, .run (.task (.started 0 (.ok ()))),
      .run (.task (.accepted 0 (.ok quietConnection))),
      .dispatched 0 greetedMeeting, .moved 0 .advanced,
      .moved 0 (.polled .first), .run (.task .signal), .run .cancelled,
      .run .closed, .run (.task (.stopped 0)),
      .moved 0 (.polled .first), .moved 0 (.polled .first),
      .moved 0 (.polled .first), .moved 0 (.polled .first),
      .moved 0 (.polled .second), .moved 0 (.polled .second),
      .moved 0 (.polled .second), .moved 0 (.polled .second),
      .moved 0 (.polled .second), .moved 0 .advanced,
      .run (.task (.processed 0)), .run .waited], rfl⟩
  exact ⟨_, _, _, reached, rfl, rfl, rfl,
    run_returns_delivered directServer TlsParser.refusing bareRuntime _ reached
      rfl⟩

/-! ### What is left to do -/

def LiveEvent.isOutside : LiveEvent → Bool
  | .run (.task (.accepted _ (.ok _))) => true
  | .run (.task (.accepted _ .wouldBlock)) => true
  | .run (.task .signal) => true
  | _ => false

def LoopPhase.left : LoopPhase → Nat
  | .starting => 2
  | .accepting => 1
  | .ended => 0

def loopsLeft (server : Server) (loops : Nat → LoopPhase) : Nat :=
  ∑ listener ∈ Finset.range server.proxies.length, (loops listener).left

def MainPhase.left : MainPhase → Nat
  | .starting => 3
  | .closing => 2
  | .waiting => 1
  | .returned => 0

def sessionLeft (session : Option LiveTask) : Nat :=
  match session with
  | some task => task.call.remaining task.session
  | none => 0

def RunState.undispatched (state : RunState) : Nat :=
  state.server.handlers.countP (fun handler => handler.processing.isNone)

/-- What the main task, the loops, the handlers and the sessions have before
them.  A handler may leave a detached connection behind. -/
def LiveState.load (server : Server) (state : LiveState) : Nat :=
  state.run.main.left + (server.proxies.length - state.run.spawned) +
    loopsLeft server state.run.server.loops +
    2 * state.run.server.handlers.length +
    state.run.server.detached.length +
    (state.sessions.map sessionLeft).sum

/-- A session may be of any length, so handing a handler its upstream counts
before everything else. -/
def LiveState.rank (server : Server) (state : LiveState) : Nat ×ₗ Nat :=
  toLex (state.run.undispatched, state.load server)

theorem loopsLeft_update (server : Server) (loops : Nat → LoopPhase)
    (listener : Nat) (phase : LoopPhase)
    (inside : listener < server.proxies.length)
    (further : phase.left < (loops listener).left) :
    loopsLeft server (Function.update loops listener phase) <
      loopsLeft server loops := by
  refine Finset.sum_lt_sum (fun other _ => ?_)
    ⟨listener, Finset.mem_range.mpr inside, ?_⟩
  · by_cases same : other = listener
    · subst same
      rw [Function.update_self]
      exact further.le
    · rw [Function.update_of_ne same]
  · rw [Function.update_self]
    exact further

theorem sum_set_lt {α : Type} (weight : α → Nat) (items : List α)
    (position : Nat) (item replaced : α)
    (found : items[position]? = some item)
    (lighter : weight replaced < weight item) :
    ((items.set position replaced).map weight).sum <
      (items.map weight).sum := by
  induction items generalizing position with
  | nil => simp at found
  | cons first rest ih =>
      cases position with
      | zero =>
          rw [List.getElem?_cons_zero, Option.some.injEq] at found
          subst found
          simpa using lighter
      | succ position =>
          rw [List.getElem?_cons_succ] at found
          simpa using ih position found

theorem sum_eraseIdx_le {α : Type} (weight : α → Nat) (items : List α)
    (position : Nat) :
    ((items.eraseIdx position).map weight).sum ≤ (items.map weight).sum :=
  ((List.eraseIdx_sublist items position).map weight).sum_le_sum
    (fun _ _ => Nat.zero_le _)

@[simp] theorem ServerState.release_cancelled (state : ServerState)
    (permit : Option Semaphore) :
    (state.release permit).cancelled = state.cancelled := by
  cases permit <;> rfl

@[simp] theorem ServerState.release_returned (state : ServerState)
    (permit : Option Semaphore) :
    (state.release permit).returned = state.returned := by
  cases permit <;> rfl

theorem ServerState.onAccept_flags (state : ServerState) (listener : Nat)
    (proxy : Proxy) (connection : Connection) :
    (state.onAccept listener proxy connection).returned = state.returned ∧
      (state.onAccept listener proxy connection).cancelled =
        state.cancelled := by
  rcases state.onAccept_cases listener proxy connection with
    ⟨_, outcome⟩ | ⟨_, _, outcome⟩ | ⟨_, _, outcome⟩
  · rw [outcome]
    exact ⟨rfl, rfl⟩
  · rw [outcome]
    exact ⟨rfl, rfl⟩
  · rw [outcome]
    exact ⟨rfl, rfl⟩

theorem serverStep_running (server : Server) (parser : TlsParser)
    (state next : ServerState) (event : ServerEvent)
    (moved : serverStep server parser state event = some next)
    (running : event ≠ .drained) :
    next.returned = state.returned ∧
      (state.cancelled = true → next.cancelled = true) := by
  cases event with
  | started listener bind =>
      obtain ⟨proxy, _, _, ⟨_, _, rfl⟩ | ⟨_, rfl⟩⟩ :=
        serverStep_started server parser state next listener bind moved
      · exact ⟨rfl, id⟩
      · exact ⟨rfl, id⟩
  | accepted listener result =>
      obtain ⟨proxy, _, _, ⟨connection, _, rfl⟩ | ⟨_, rfl⟩ | ⟨_, rfl⟩⟩ :=
        serverStep_accepted server parser state next listener result moved
      · obtain ⟨returned, cancelled⟩ :=
          state.onAccept_flags listener proxy connection
        rw [returned, cancelled]
        exact ⟨rfl, id⟩
      · exact ⟨rfl, id⟩
      · exact ⟨rfl, id⟩
  | stopped listener =>
      obtain ⟨_, _, rfl⟩ :=
        serverStep_stopped server parser state next listener moved
      exact ⟨rfl, id⟩
  | dispatched position =>
      obtain ⟨before, handler, after, proxy, _, _, _, _,
        ⟨chosen, _, rfl⟩ | ⟨_, _, rfl⟩⟩ :=
        serverStep_dispatched server parser state next position moved
      · exact ⟨rfl, id⟩
      · simp
  | processed position =>
      obtain ⟨before, handler, after, chosen, _, _, _, rfl⟩ :=
        serverStep_processed server parser state next position moved
      simp
  | served position =>
      rw [serverStep_served server parser state next position moved]
      exact ⟨rfl, id⟩
  | signal =>
      rw [serverStep_signal server parser state next moved]
      exact ⟨rfl, fun _ => rfl⟩
  | trackerClosed =>
      obtain ⟨_, rfl⟩ := serverStep_trackerClosed server parser state next moved
      exact ⟨rfl, id⟩
  | drained => exact absurd rfl running

theorem RunState.afterTask_main (server : Server) (state : RunState)
    (event : ServerEvent) (next : ServerState) :
    (state.afterTask server event next).main = state.main ∧
      (state.afterTask server event next).spawned = state.spawned ∧
      (state.afterTask server event next).tracker.closed =
        state.tracker.closed := by
  unfold RunState.afterTask
  repeat' split
  all_goals exact ⟨rfl, rfl, rfl⟩

theorem runStep_task_main (server : Server) (parser : TlsParser)
    (state next : RunState) (event : ServerEvent)
    (moved : runStep server parser state (.task event) = some next) :
    state.canMove event = true ∧ next.main = state.main ∧
      next.spawned = state.spawned ∧
      next.tracker.closed = state.tracker.closed := by
  simp only [runStep] at moved
  split at moved
  · rename_i canMove
    obtain ⟨after, _, rfl⟩ := Option.map_eq_some_iff.mp moved
    exact ⟨canMove, state.afterTask_main server event after⟩
  · cases moved

structure RunState.Steady (server : Server) (state : RunState) : Prop where
  running : state.server.returned = false
  closed : state.main = .waiting → state.tracker.closed = true
  spawned : state.spawned ≤ server.proxies.length

theorem RunState.start_steady (server : Server) :
    (RunState.start server).Steady server :=
  { running := rfl
    closed := fun waiting => by cases waiting
    spawned := Nat.zero_le _ }

theorem runStep_steady (server : Server) (parser : TlsParser)
    (state next : RunState) (event : RunEvent)
    (moved : runStep server parser state event = some next)
    (before : state.Steady server) :
    next.Steady server ∧
      (state.server.cancelled = true → next.server.cancelled = true) := by
  obtain ⟨running, closed, spawned⟩ := before
  cases event with
  | loopSpawned =>
      simp only [runStep] at moved
      split at moved <;> cases moved
      rename_i guards
      exact ⟨⟨running, closed, guards.2⟩, id⟩
  | cancelled =>
      simp only [runStep] at moved
      split at moved <;> cases moved
      exact ⟨⟨running, (fun later => by cases later), spawned⟩, id⟩
  | closed =>
      simp only [runStep] at moved
      split at moved
      · obtain ⟨after, closing, rfl⟩ := Option.map_eq_some_iff.mp moved
        obtain ⟨_, rfl⟩ :=
          serverStep_trackerClosed server parser state.server after closing
        exact ⟨⟨running, fun _ => rfl, spawned⟩, id⟩
      · cases moved
  | waited =>
      simp only [runStep] at moved
      split at moved <;> cases moved
      exact ⟨⟨running, (fun later => by cases later), spawned⟩, id⟩
  | task event =>
      have stepped := runStep_task server parser state next event moved
      obtain ⟨canMove, main, loops, tracker⟩ :=
        runStep_task_main server parser state next event moved
      have undrained : event ≠ .drained := by
        rintro rfl
        cases canMove
      obtain ⟨returned, cancelled⟩ :=
        serverStep_running server parser _ _ event stepped undrained
      refine ⟨⟨returned.trans running, ?_, ?_⟩, cancelled⟩
      · rw [main, tracker]
        exact closed
      · rw [loops]
        exact spawned

/-- A live server behind a signal. -/
structure LiveState.Draining (server : Server) (parser : TlsParser)
    (runtime : Runtime) (state : LiveState) : Prop where
  counted : state.run.Counted server
  accounted : state.run.server.Accounted server parser
  steady : state.run.Steady server
  paired : state.Paired runtime
  cancelled : state.run.server.cancelled = true

theorem reachable_steady (server : Server) (parser : TlsParser)
    (state : RunState)
    (reached : Reachable (runStep server parser) (RunState.start server)
      state) : state.Steady server :=
  reached.invariant _ (RunState.start_steady server)
    (fun before event after moved holds =>
      (runStep_steady server parser before after event moved holds).1)

theorem liveStep_cancelled (server : Server) (parser : TlsParser)
    (runtime : Runtime) (state : LiveState) (event : LiveEvent)
    (next : LiveState)
    (moved : liveStep server parser runtime state event = some next)
    (steady : state.run.Steady server)
    (cancelled : state.run.server.cancelled = true) :
    next.run.server.cancelled = true :=
  ((liveStep_run server parser runtime state event next moved).invariant
    (fun run => run.Steady server ∧ run.server.cancelled = true)
    ⟨steady, cancelled⟩ (by
      rintro before event after moved ⟨steady, cancelled⟩
      obtain ⟨still, kept⟩ :=
        runStep_steady server parser before after event moved steady
      exact ⟨still, kept cancelled⟩)).2

theorem reachable_draining (server : Server) (parser : TlsParser)
    (runtime : Runtime) (state : LiveState)
    (reached : Reachable (liveStep server parser runtime)
      (LiveState.start server) state)
    (cancelled : state.run.server.cancelled = true) :
    state.Draining server parser runtime := by
  have ran := reachable_run server parser runtime state reached
  exact
    { counted := reachable_counted server parser state.run ran
      accounted := reachable_accounted server parser state.run.server
        (reachable_server server parser state.run ran)
      steady := reachable_steady server parser state.run ran
      paired := reachable_paired server parser runtime state reached
      cancelled := cancelled }

/-! ### Every step does some of it -/

def LiveState.Lowers (server : Server) (state next : LiveState) : Prop :=
  next.run.undispatched < state.run.undispatched ∨
    next.run.undispatched = state.run.undispatched ∧
      next.load server < state.load server

theorem LiveState.Lowers.rank {server : Server} {state next : LiveState}
    (lowers : state.Lowers server next) :
    next.rank server < state.rank server :=
  Prod.Lex.toLex_lt_toLex.mpr lowers

theorem LiveState.lowers_of_run (server : Server) (state : LiveState)
    (next : RunState) (handlers : next.server.handlers = state.run.server.handlers)
    (detached : next.server.detached = state.run.server.detached)
    (further : next.main.left + (server.proxies.length - next.spawned) +
        loopsLeft server next.server.loops <
      state.run.main.left + (server.proxies.length - state.run.spawned) +
        loopsLeft server state.run.server.loops) :
    state.Lowers server { state with run := next } := by
  refine Or.inr ⟨?_, ?_⟩
  · simp only [RunState.undispatched, handlers]
  · simp only [LiveState.load, handlers, detached]
    omega

theorem runStep_main_lowers (server : Server) (parser : TlsParser)
    (state : LiveState) (next : RunState) (event : RunEvent)
    (moved : runStep server parser state.run event = some next)
    (main : ∀ task, event ≠ .task task) :
    state.Lowers server { state with run := next } := by
  cases event with
  | loopSpawned =>
      simp only [runStep] at moved
      split at moved <;> cases moved
      rename_i guards
      refine state.lowers_of_run server _ (by rfl) (by rfl) ?_
      have more := guards.2
      dsimp only
      omega
  | cancelled =>
      simp only [runStep] at moved
      split at moved <;> cases moved
      rename_i guards
      refine state.lowers_of_run server _ (by rfl) (by rfl) ?_
      simp only [guards.1, MainPhase.left]
      omega
  | closed =>
      simp only [runStep] at moved
      split at moved
      · rename_i closing
        obtain ⟨after, stepped, rfl⟩ := Option.map_eq_some_iff.mp moved
        obtain ⟨_, rfl⟩ := serverStep_trackerClosed server parser _ after stepped
        refine state.lowers_of_run server _ (by rfl) (by rfl) ?_
        simp only [closing, MainPhase.left]
        omega
      · cases moved
  | waited =>
      simp only [runStep] at moved
      split at moved <;> cases moved
      rename_i guards
      refine state.lowers_of_run server _ (by rfl) (by rfl) ?_
      simp only [guards.1, MainPhase.left]
      omega
  | task event => exact absurd rfl (main event)

theorem LiveState.lowers_of_loop (server : Server) (state : LiveState)
    (next : RunState) (listener : Nat) (phase : LoopPhase)
    (main : next.main = state.run.main ∧ next.spawned = state.run.spawned)
    (same : next.server =
      { state.run.server with
        loops := Function.update state.run.server.loops listener phase })
    (inside : listener < server.proxies.length)
    (further : phase.left < (state.run.server.loops listener).left) :
    state.Lowers server { state with run := next } := by
  apply state.lowers_of_run server next (by rw [same]) (by rw [same])
  have fewer := loopsLeft_update server state.run.server.loops listener phase
    inside further
  rw [main.1, main.2, same]
  dsimp only
  omega

theorem loop_inside (server : Server) (parser : TlsParser) (runtime : Runtime)
    (state : LiveState) (draining : state.Draining server parser runtime) (listener : Nat)
    (accepting : state.run.server.loops listener = .accepting) :
    listener < server.proxies.length := by
  obtain ⟨proxy, configured, _⟩ :=
    draining.accounted.listening listener accepting
  exact (List.getElem?_eq_some_iff.mp configured).1

theorem countP_middle (before after : List Handler) (handler : Handler)
    (busy : handler.processing.isNone = false) :
    (before ++ handler :: after).countP (fun other => other.processing.isNone) =
      (before ++ after).countP (fun other => other.processing.isNone) := by
  simp [List.countP_append, busy]

theorem LiveState.lowers_of_processed (server : Server) (state : LiveState)
    (next : RunState) (before after : List Handler) (handler : Handler)
    (ended : List (ProxyCall × ProxyRun))
    (main : next.main = state.run.main ∧ next.spawned = state.run.spawned)
    (loops : next.server.loops = state.run.server.loops)
    (tasks : state.run.server.handlers = before ++ handler :: after)
    (busy : handler.processing.isNone = false)
    (handlers : next.server.handlers = before ++ after)
    (detached : next.server.detached.length ≤
      state.run.server.detached.length + 1) :
    state.Lowers server
      { state with
        run := next
        sessions := state.sessions.eraseIdx before.length
        ended := ended } := by
  have fewer := sum_eraseIdx_le sessionLeft state.sessions before.length
  refine Or.inr ⟨?_, ?_⟩
  · simp only [RunState.undispatched, handlers, tasks,
      countP_middle before after handler busy]
  · have shorter : (before ++ after).length + 1 =
        state.run.server.handlers.length := by
      rw [tasks]
      simp
      omega
    simp only [LiveState.load, main.1, main.2, handlers, loops]
    omega

theorem LiveState.lowers_of_served (server : Server) (state : LiveState)
    (next : RunState) (position : Nat)
    (main : next.main = state.run.main ∧ next.spawned = state.run.spawned)
    (same : next.server =
      { state.run.server with
        detached := state.run.server.detached.eraseIdx position })
    (within : position < state.run.server.detached.length) :
    state.Lowers server { state with run := next } := by
  have fewer : next.server.detached.length + 1 =
      state.run.server.detached.length := by
    rw [same]
    simp only [List.length_eraseIdx_of_lt within]
    omega
  have handlers : next.server.handlers = state.run.server.handlers := by
    rw [same]
  have loops : next.server.loops = state.run.server.loops := by rw [same]
  refine Or.inr ⟨?_, ?_⟩
  · simp only [RunState.undispatched, handlers]
  · simp only [LiveState.load, main.1, main.2, handlers, loops]
    omega

theorem serverStep_served_within (server : Server) (parser : TlsParser)
    (state next : ServerState) (position : Nat)
    (moved : serverStep server parser state (.served position) = some next) :
    position < state.detached.length := by
  by_contra outside
  unfold serverStep at moved
  split at moved
  · cases moved
  · simp only [if_neg outside] at moved
    cases moved

theorem liveStep_task_lowers (server : Server) (parser : TlsParser)
    (runtime : Runtime) (state : LiveState) (event : ServerEvent)
    (next : RunState) (admitted : state.admits (.task event) = true)
    (inside : LiveEvent.isOutside (.run (.task event)) = false)
    (draining : state.Draining server parser runtime)
    (moved : runStep server parser state.run (.task event) = some next) :
    state.Lowers server (state.afterRun (.task event) next) := by
  have stepped := runStep_task server parser state.run next event moved
  obtain ⟨canMove, still, spawned, _⟩ :=
    runStep_task_main server parser state.run next event moved
  have main := And.intro still spawned
  cases event with
  | started listener bind =>
      obtain ⟨proxy, configured, starting, ⟨_, _, same⟩ | ⟨_, same⟩⟩ :=
        serverStep_started server parser _ _ listener bind stepped
      · refine state.lowers_of_loop server next listener .accepting main same
          (List.getElem?_eq_some_iff.mp configured).1 ?_
        rw [starting]
        decide
      · refine state.lowers_of_loop server next listener .ended main same
          (List.getElem?_eq_some_iff.mp configured).1 ?_
        rw [starting]
        decide
  | accepted listener result =>
      obtain ⟨proxy, configured, accepting,
        ⟨connection, rfl, _⟩ | ⟨rfl, _⟩ | ⟨⟨error, rfl⟩, same⟩⟩ :=
        serverStep_accepted server parser _ _ listener result stepped
      · cases inside
      · cases inside
      · have kept : next.server.handlers = state.run.server.handlers := by
          rw [same]
          rfl
        simp only [LiveState.afterRun]
        rw [if_neg (by rw [kept]; exact Nat.lt_irrefl _)]
        refine state.lowers_of_loop server next listener .ended main same
          (List.getElem?_eq_some_iff.mp configured).1 ?_
        rw [accepting]
        decide
  | stopped listener =>
      obtain ⟨accepting, _, same⟩ :=
        serverStep_stopped server parser _ _ listener stepped
      refine state.lowers_of_loop server next listener .ended main same
        (loop_inside server parser runtime state draining listener
          accepting) ?_
      rw [accepting]
      decide
  | dispatched position => cases admitted
  | processed position =>
      obtain ⟨before, handler, after, chosen, tasks, rfl, processing, same⟩ :=
        serverStep_processed server parser _ _ position stepped
      refine state.lowers_of_processed server next before after handler _ main
        (by rw [same]; simp) tasks (by simp [processing]) (by rw [same]) ?_
      rw [same]
      dsimp only
      split <;> simp
  | served position =>
      exact state.lowers_of_served server next position main
        (serverStep_served server parser _ _ position stepped)
        (serverStep_served_within server parser _ _ position stepped)
  | signal => cases inside
  | trackerClosed => cases canMove
  | drained => cases canMove

theorem liveStep_lowers (server : Server) (parser : TlsParser)
    (runtime : Runtime) (state : LiveState) (event : LiveEvent)
    (next : LiveState)
    (moved : liveStep server parser runtime state event = some next)
    (inside : event.isOutside = false)
    (draining : state.Draining server parser runtime) :
    state.Lowers server next := by
  cases event with
  | run event =>
      simp only [liveStep] at moved
      split at moved
      · rename_i admitted
        obtain ⟨after, stepped, rfl⟩ := Option.map_eq_some_iff.mp moved
        cases event with
        | task event =>
            exact liveStep_task_lowers server parser runtime state event after
              admitted inside draining stepped
        | loopSpawned =>
            exact runStep_main_lowers server parser state after _ stepped
              (by simp)
        | cancelled =>
            exact runStep_main_lowers server parser state after _ stepped
              (by simp)
        | closed =>
            exact runStep_main_lowers server parser state after _ stepped
              (by simp)
        | waited =>
            exact runStep_main_lowers server parser state after _ stepped
              (by simp)
      · cases moved
  | dispatched position meeting =>
      obtain ⟨after, stepped, rfl⟩ := Option.map_eq_some_iff.mp moved
      obtain ⟨before, handler, later, proxy, tasks, rfl, waiting, _, outcome⟩ :=
        serverStep_dispatched server parser _ _ position
          (runStep_task server parser _ _ _ stepped)
      refine Or.inl ?_
      have same : (state.afterDispatch runtime before.length meeting after).run =
          after := by
        unfold LiveState.afterDispatch
        split <;> rfl
      rw [same]
      rcases outcome with ⟨chosen, _, next⟩ | ⟨_, _, next⟩
      · simp only [RunState.undispatched, next, tasks, List.countP_append,
          List.countP_cons, waiting, Option.isNone_none, Option.isNone_some,
          if_true, Bool.false_eq_true, if_false]
        omega
      · simp only [RunState.undispatched, next, tasks, List.countP_append,
          List.countP_cons, waiting, Option.isNone_none, if_true]
        omega
  | moved position event =>
      simp only [liveStep] at moved
      split at moved
      · rename_i task found
        obtain ⟨session, stepped, rfl⟩ := Option.map_eq_some_iff.mp moved
        have fewer := sum_set_lt sessionLeft state.sessions position _
          (some { task with session := session }) found
          (sessionStep_remaining task.call task.session session
            (task.call.step_cases task.session session event stepped))
        refine Or.inr ⟨rfl, ?_⟩
        simp only [LiveState.load]
        omega
      · cases moved

/-! ### No state is stuck -/

theorem liveStep_of_main (server : Server) (parser : TlsParser)
    (runtime : Runtime) (state : LiveState) (event : RunEvent)
    (admitted : state.admits event = true)
    (moves : ∃ next, runStep server parser state.run event = some next) :
    ∃ next, liveStep server parser runtime state (.run event) = some next := by
  obtain ⟨next, moved⟩ := moves
  exact ⟨state.afterRun event next, by
    simp only [liveStep, if_pos admitted, moved, Option.map_some]⟩

theorem runStep_of_task (server : Server) (parser : TlsParser)
    (state : RunState) (event : ServerEvent)
    (canMove : state.canMove event = true)
    (moves : ∃ next, serverStep server parser state.server event = some next) :
    ∃ next, runStep server parser state (.task event) = some next := by
  obtain ⟨next, moved⟩ := moves
  exact ⟨state.afterTask server event next, by
    simp only [runStep, if_pos canMove, moved, Option.map_some]⟩

theorem loop_moves (server : Server) (parser : TlsParser) (runtime : Runtime)
    (state : LiveState) (draining : state.Draining server parser runtime)
    (listener : Nat) (spawned : listener < state.run.spawned)
    (running : state.run.server.loops listener ≠ .ended) :
    ∃ event next, LiveEvent.isOutside event = false ∧
      liveStep server parser runtime state event = some next := by
  have open_ := draining.steady.running
  have inside := Nat.lt_of_lt_of_le spawned draining.steady.spawned
  have configured := List.getElem?_eq_getElem inside
  cases phase : state.run.server.loops listener with
  | starting =>
      refine ⟨.run (.task (.started listener (.ok ()))), ?_⟩
      obtain ⟨next, moved⟩ := liveStep_of_main server parser runtime state
        (.task (.started listener (.ok ()))) rfl
        (runStep_of_task server parser state.run _ (decide_eq_true spawned) (by
          unfold serverStep
          rw [if_neg (by simp [open_])]
          simp only [configured, phase]
          split
          · exact ⟨_, rfl⟩
          · exact ⟨_, rfl⟩))
      exact ⟨next, rfl, moved⟩
  | accepting =>
      refine ⟨.run (.task (.stopped listener)), ?_⟩
      obtain ⟨next, moved⟩ := liveStep_of_main server parser runtime state
        (.task (.stopped listener)) rfl
        (runStep_of_task server parser state.run _ rfl (by
          unfold serverStep
          rw [if_neg (by simp [open_])]
          simp only [phase, draining.cancelled, and_self, if_true]
          exact ⟨_, rfl⟩))
      exact ⟨next, rfl, moved⟩
  | ended => exact absurd phase running

/-- A client that closes its side without a byte. -/
def silentMeeting : Meeting :=
  { inbound := { reads := [], writes := [] }
    outbound := { reads := [], writes := [] }
    cache := UpstreamAddress.new ""
    dial :=
      { called := 0
        completed := 0
        lookup := .ok []
        attempt := fun _ => .ok ()
        elapsed := fun _ => 0 }
    outboundNodelay := .ok ()
    inboundNodelay := .ok () }

theorem handler_moves (server : Server) (parser : TlsParser)
    (runtime : Runtime) (state : LiveState)
    (draining : state.Draining server parser runtime) (handler : Handler)
    (rest : List Handler)
    (handlers : state.run.server.handlers = handler :: rest) :
    ∃ event next, LiveEvent.isOutside event = false ∧
      liveStep server parser runtime state event = some next := by
  have open_ := draining.steady.running
  have front : state.run.server.handlers.splitAt 0 = ([], handler :: rest) := by
    rw [handlers]
    rfl
  obtain ⟨proxy, configured, _⟩ := draining.accounted.handlers handler
    (by rw [handlers]; exact List.mem_cons_self)
  cases processing : handler.processing with
  | none =>
      refine ⟨.dispatched 0 silentMeeting, ?_⟩
      obtain ⟨next, moved⟩ := runStep_of_task server parser state.run
        (.dispatched 0) rfl (by
          unfold serverStep
          rw [if_neg (by simp [open_])]
          simp only [front, processing, configured]
          split
          · exact ⟨_, rfl⟩
          · exact ⟨_, rfl⟩)
      exact ⟨state.afterDispatch runtime 0 silentMeeting next, rfl, by
        simp only [liveStep, moved, Option.map_some]⟩
  | some chosen =>
      have processed : ∃ next,
          runStep server parser state.run (.task (.processed 0)) = some next :=
        runStep_of_task server parser state.run (.processed 0) rfl (by
          unfold serverStep
          rw [if_neg (by simp [open_])]
          simp only [front, processing]
          exact ⟨_, rfl⟩)
      by_cases admitted : state.admits (.task (.processed 0)) = true
      · obtain ⟨next, moved⟩ := liveStep_of_main server parser runtime state
          _ admitted processed
        exact ⟨.run (.task (.processed 0)), next, rfl, moved⟩
      · -- Its session keeps the handler, and has a step to take.
        simp only [LiveState.admits] at admitted
        split at admitted
        · rename_i task found
          obtain ⟨event, session, stepped⟩ := task.call.step_isSome task.session
            (Bool.not_eq_true _ ▸ admitted)
          refine ⟨.moved 0 event,
            { state with
              sessions := state.sessions.set 0
                (some { task with session := session }) }, rfl, ?_⟩
          simp only [liveStep, found, stepped, Option.map_some]
        · exact absurd rfl admitted

theorem draining_moves (server : Server) (parser : TlsParser)
    (runtime : Runtime) (state : LiveState)
    (draining : state.Draining server parser runtime)
    (running : state.run.main ≠ .returned) :
    ∃ event next, LiveEvent.isOutside event = false ∧
      liveStep server parser runtime state event = some next := by
  cases main : state.run.main with
  | starting =>
      by_cases more : state.run.spawned < server.proxies.length
      · obtain ⟨next, moved⟩ := liveStep_of_main server parser runtime state
          .loopSpawned rfl ⟨_, if_pos ⟨main, more⟩⟩
        exact ⟨.run .loopSpawned, next, rfl, moved⟩
      · have complete := Nat.le_antisymm draining.steady.spawned
          (Nat.le_of_not_lt more)
        obtain ⟨next, moved⟩ := liveStep_of_main server parser runtime state
          .cancelled rfl ⟨_, if_pos ⟨main, complete, draining.cancelled⟩⟩
        exact ⟨.run .cancelled, next, rfl, moved⟩
  | closing =>
      obtain ⟨next, moved⟩ := liveStep_of_main server parser runtime state
        .closed rfl (by
          simp only [runStep, if_pos main, serverStep,
            draining.steady.running, Bool.false_eq_true, if_false,
            draining.cancelled, if_true, Option.map_some]
          exact ⟨_, rfl⟩)
      exact ⟨.run .closed, next, rfl, moved⟩
  | waiting =>
      by_cases idle : state.run.tracker.live = 0
      · have waited : state.run.tracker.waited = true := by
          simp [TaskTracker.waited, draining.steady.closed main, idle]
        obtain ⟨next, moved⟩ := liveStep_of_main server parser runtime state
          .waited rfl ⟨_, if_pos ⟨main, waited⟩⟩
        exact ⟨.run .waited, next, rfl, moved⟩
      · -- The tracker counts a loop or a handler.
        have tasks := draining.counted.tasks
        cases handlers : state.run.server.handlers with
        | cons handler rest =>
            exact handler_moves server parser runtime state draining handler
              rest handlers
        | nil =>
            rw [handlers, List.length_nil, Nat.add_zero] at tasks
            rw [tasks, runningLoops_eq_zero_iff] at idle
            obtain ⟨listener, unfinished⟩ := not_forall.mp idle
            obtain ⟨spawned, unended⟩ := Classical.not_imp.mp unfinished
            exact loop_moves server parser runtime state draining listener
              spawned unended
  | returned => exact absurd main running

/-- Behind a signal `run` returns, whatever order the tasks, the sessions and
the main task move in, provided that every peer closes or fails in the end, as
the finite scripts of the sockets have it.  Clients or signals that never cease
to come could keep it too, so any number of those is given and no more. -/
theorem drain_inevitable (server : Server) (parser : TlsParser)
    (runtime : Runtime) (state : LiveState)
    (reached : Reachable (liveStep server parser runtime)
      (LiveState.start server) state)
    (cancelled : state.run.server.cancelled = true) (ration : Nat) :
    Inevitable
      (rationed (liveStep server parser runtime) LiveEvent.isOutside)
      (fun later => later.1.run.main = .returned) (state, ration) := by
  let holds (later : LiveState) : Prop :=
    Reachable (liveStep server parser runtime) (LiveState.start server) later ∧
      later.run.server.cancelled = true
  have draining (later : LiveState) (both : holds later) :
      later.Draining server parser runtime :=
    reachable_draining server parser runtime later both.1 both.2
  apply inevitable_rationed (fun later => later.run.main = .returned) holds
    (LiveState.rank server)
  · intro before event after moved both
    exact ⟨both.1.tail moved,
      liveStep_cancelled server parser runtime before event after moved
        (draining before both).steady both.2⟩
  · intro before event after moved inside both
    exact (liveStep_lowers server parser runtime before event after moved
      inside (draining before both)).rank
  · intro before both running
    exact draining_moves server parser runtime before (draining before both)
      running
  · exact ⟨reached, cancelled⟩

theorem drain_inevitable_of_open_session :
    ∃ state : LiveState,
      Reachable (liveStep directServer TlsParser.refusing bareRuntime)
        (LiveState.start directServer) state ∧
      state.opened.length = 1 ∧ state.ended = [] ∧
      ∀ ration, Inevitable
        (rationed (liveStep directServer TlsParser.refusing bareRuntime)
          LiveEvent.isOutside)
        (fun later => later.1.run.main = .returned) (state, ration) := by
  have reached : Reachable
      (liveStep directServer TlsParser.refusing bareRuntime)
      (LiveState.start directServer) _ :=
    ⟨[.run .loopSpawned, .run (.task (.started 0 (.ok ()))),
      .run (.task (.accepted 0 (.ok quietConnection))),
      .dispatched 0 greetedMeeting, .run (.task .signal)], rfl⟩
  exact ⟨_, reached, rfl, rfl,
    drain_inevitable directServer TlsParser.refusing bareRuntime _ reached rfl⟩

end TlsProxyTunnel
