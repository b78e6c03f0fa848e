/-
Which connections are still being served, and by whom.

A handler that is done with a ban, echo or proxy upstream is done with the
connection.  The health upstream spawns a task of its own, outside the tracker,
and lets the handler go: permit and tracker forget a connection that is open.
-/

import TlsProxyTunnel.Shutdown

namespace TlsProxyTunnel

open Transition

variable (server : Server) (parser : TlsParser)

structure Served where
  listener : Nat
  connection : Connection
  task : Option Handler

/-- Handlers serve their connections; detached ones are served by tasks that
nobody tracks. -/
def ServerState.serving (state : ServerState) : List Served :=
  state.handlers.map (fun handler =>
    { listener := handler.listener
      connection := handler.connection
      task := some handler }) ++
  state.detached.map (fun entry =>
    { listener := entry.1
      connection := entry.2
      task := none })

/-- Every connection in service has a live task, which the tracker counts and
which holds the permit of an ordinary listener. -/
structure RunState.Covered (state : RunState) : Prop where
  tasks :
    ∀ served, served ∈ state.server.serving →
      ∃ handler, served.task = some handler ∧
        handler ∈ state.server.handlers ∧
        ∀ proxy, server.proxies[served.listener]? = some proxy →
          proxy.isHealthServer = false →
          handler.permit = some proxy.maxclients
  tracked :
    state.tracker.live =
      runningLoops state.server.loops state.spawned +
        state.server.serving.length

def Proxy.Admits (proxy : Proxy) : Prop :=
  proxy.isHealthServer = true ∨ 0 < server.start.available proxy.maxclients

def Proxy.RoutesToHealth (proxy : Proxy) : Prop :=
  ∃ (connection : Connection) (upstream : Upstream) (dispatch : Dispatch),
    proxy.accept parser connection.peerAddr connection.peek =
      .ok (upstream, dispatch) ∧ upstream.isHealth = true

theorem ServerState.Accounted.admits {state : ServerState}
    (accounted : state.Accounted server parser) (handler : Handler)
    (member : handler ∈ state.handlers) (proxy : Proxy)
    (permit : handler.permit = proxy.permit) : proxy.Admits server := by
  cases health : proxy.isHealthServer with
  | true => exact Or.inl health
  | false =>
      have held : 0 < state.held proxy.maxclients :=
        List.countP_pos_iff.mpr ⟨handler, member, by
          simp [permit, Proxy.permit, health]⟩
      have conserved := accounted.permits proxy.maxclients
      exact Or.inr (by omega)

theorem serverStep_detached (state next : ServerState)
    (step : ServerStep server parser state next)
    (accounted : state.Accounted server parser)
    (none_ : ∀ (listener : Nat) (proxy : Proxy),
      server.proxies[listener]? = some proxy → proxy.knownProtocol = true →
      proxy.Admits server → ¬ proxy.RoutesToHealth parser)
    (detached : state.detached = []) : next.detached = [] := by
  have release (permit : Option Semaphore) :
      (state.release permit).detached = [] := by
    cases permit <;> exact detached
  cases step with
  | processed before after handler chosen tasks processing =>
      have member : handler ∈ state.handlers := by simp [tasks]
      obtain ⟨proxy, configured, known, permit, routed⟩ :=
        accounted.handlers handler member
      have ordinary : ¬ chosen.1.isHealth = true := by
        intro health
        exact none_ handler.listener proxy configured known
          (accounted.admits server parser handler member proxy permit)
          ⟨handler.connection, chosen.1, chosen.2, routed chosen processing,
            health⟩
      simp only [if_neg ordinary]
      exact detached
  | admitted listener proxy connection configured accepting =>
      rcases state.onAccept_cases listener proxy connection with
        ⟨_, outcome⟩ | ⟨_, _, outcome⟩ | ⟨_, _, outcome⟩ <;>
        rw [outcome] <;> exact detached
  | refused before after handler tasks waiting => exact release handler.permit
  | served position => simp [detached]
  | listening listener proxy configured starting known => exact detached
  | loopEnded listener running => exact detached
  | idle => exact detached
  | dispatched before after handler proxy chosen tasks waiting configured
      routed => exact detached
  | signal => exact detached
  | trackerClosed cancelled => exact detached
  | drained closed idleTasks ended => exact detached

theorem covered_of_no_health_route
    (none_ : ∀ (listener : Nat) (proxy : Proxy),
      server.proxies[listener]? = some proxy → proxy.knownProtocol = true →
      proxy.Admits server → ¬ proxy.RoutesToHealth parser)
    (state : RunState)
    (reached : Reachable (runStep server parser) (RunState.start server)
      state) : state.Covered server := by
  have counted := reachable_counted server parser state reached
  have tasks := reachable_server server parser state reached
  have accounted := reachable_accounted server parser state.server tasks
  have detached : state.server.detached = [] :=
    (tasks.invariant (fun state => state.Accounted server parser ∧
      state.detached = []) ⟨server.start_accounted parser, rfl⟩ (by
        rintro before event after moved ⟨holds, nobody⟩
        have step := serverStep_cases server parser before after event moved
        exact ⟨serverStep_accounted server parser before after step holds,
          serverStep_detached server parser before after step holds none_
            nobody⟩)).2
  refine ⟨?_, ?_⟩
  · intro served member
    rw [ServerState.serving, detached, List.map_nil, List.append_nil] at member
    obtain ⟨handler, live, rfl⟩ := List.mem_map.mp member
    refine ⟨handler, rfl, live, fun proxy configured ordinary => ?_⟩
    obtain ⟨same, found, _, permit, _⟩ := accounted.handlers handler live
    dsimp only at configured
    rw [configured, Option.some.injEq] at found
    subst found
    rw [permit, proxy.permit_eq_maxclients_iff]
    exact ordinary
  · rw [counted.tasks, ServerState.serving, detached, List.map_nil,
      List.append_nil, List.length_map]

/-! ### With a health route -/

theorem reachable_spawned (count : Nat)
    (bound : count ≤ server.proxies.length) :
    ∃ state, Reachable (runStep server parser) (RunState.start server) state ∧
      state.server = server.start ∧ state.main = .starting ∧
      state.spawned = count := by
  induction count with
  | zero => exact ⟨_, Reachable.refl _ _, rfl, rfl, rfl⟩
  | succ count ih =>
      obtain ⟨state, reached, tasks, main, spawned⟩ :=
        ih (Nat.le_of_succ_le bound)
      have more : state.main = .starting ∧
          state.spawned < server.proxies.length := ⟨main, by omega⟩
      have moved : runStep server parser state .loopSpawned = some _ :=
        if_pos more
      exact ⟨_, reached.tail moved, tasks, main,
        congrArg (fun earlier => earlier + 1) spawned⟩

theorem reachable_of_tasks (events : List ServerEvent) (state : RunState)
    (final : ServerState) (spawned : state.spawned = server.proxies.length)
    (ran : run (serverStep server parser) state.server events = some final)
    (tasks : ∀ event, event ∈ events →
      event ≠ .trackerClosed ∧ event ≠ .drained) :
    ∃ after, Reachable (runStep server parser) state after ∧
      after.server = final := by
  induction events generalizing state with
  | nil =>
      rw [run, Option.some.injEq] at ran
      exact ⟨state, Reachable.refl _ state, ran⟩
  | cons event events ih =>
      obtain ⟨next, moved, rest⟩ := Option.bind_eq_some_iff.mp ran
      have canMove : state.canMove event = true := by
        cases event with
        | started listener bind =>
            obtain ⟨proxy, configured, _⟩ :=
              serverStep_started server parser state.server next listener bind
                moved
            rw [RunState.canMove, spawned, decide_eq_true_eq]
            exact (List.getElem?_eq_some_iff.mp configured).1
        | trackerClosed => exact absurd rfl (tasks _ List.mem_cons_self).1
        | drained => exact absurd rfl (tasks _ List.mem_cons_self).2
        | _ => rfl
      have same : (state.afterTask server event next).server = next ∧
          (state.afterTask server event next).spawned = state.spawned := by
        unfold RunState.afterTask
        repeat' split
        all_goals exact ⟨rfl, rfl⟩
      obtain ⟨after, reached, outcome⟩ := ih
        (state.afterTask server event next) (same.2.trans spawned)
        (by rw [same.1]; exact rest)
        (fun other member => tasks other (List.mem_cons_of_mem _ member))
      refine ⟨after, Reachable.trans ⟨[.task event], ?_⟩ reached, outcome⟩
      simp [run, runStep, canMove, moved]

theorem run_detaches (listener : Nat) (proxy : Proxy) (connection : Connection)
    (upstream : Upstream) (dispatch : Dispatch)
    (configured : server.proxies[listener]? = some proxy)
    (known : proxy.knownProtocol = true) (admits : proxy.Admits server)
    (routed : proxy.accept parser connection.peerAddr connection.peek =
      .ok (upstream, dispatch)) (health : upstream.isHealth = true) :
    ∃ state, run (serverStep server parser) server.start
        [.started listener (.ok ()), .accepted listener (.ok connection),
          .dispatched 0, .processed 0] = some state ∧
      state.detached = [(listener, connection)] := by
  have admitted : (server.start.beginLoop listener).admits proxy = true := by
    rw [ServerState.admits, Bool.or_eq_true, decide_eq_true_eq]
    exact admits
  have tasks := (server.start.beginLoop listener).onAccept_handlers listener
    proxy connection
  have others : ((server.start.beginLoop listener).onAccept listener proxy
        connection).returned = false ∧
      ((server.start.beginLoop listener).onAccept listener proxy
        connection).detached = [] := by
    rcases (server.start.beginLoop listener).onAccept_cases listener proxy
        connection with ⟨_, outcome⟩ | ⟨_, _, outcome⟩ | ⟨_, _, outcome⟩ <;>
      rw [outcome] <;> exact ⟨rfl, rfl⟩
  have started : serverStep server parser server.start
      (.started listener (.ok ())) = some (server.start.beginLoop listener) := by
    simp [serverStep, configured, known, Server.start]
  have accepted : serverStep server parser (server.start.beginLoop listener)
      (.accepted listener (.ok connection)) =
        some ((server.start.beginLoop listener).onAccept listener proxy
          connection) := by
    simp [serverStep, configured, Server.start, ServerState.beginLoop]
  generalize (server.start.beginLoop listener).onAccept listener proxy
    connection = arrived at tasks others accepted
  obtain ⟨running, nobody⟩ := others
  rw [admitted, if_pos rfl] at tasks
  change arrived.handlers = [_] at tasks
  have dispatched : serverStep server parser arrived (.dispatched 0) =
      some
        { arrived with
          handlers :=
            [{ listener := listener
               connection := connection
               permit := proxy.permit
               processing := some (upstream, dispatch) }] } := by
    simp [serverStep, running, tasks, configured, routed, List.splitAt_eq]
  refine ⟨_, by
    rw [run, started, Option.bind_some, run, accepted, Option.bind_some, run,
      dispatched, Option.bind_some, run]
    simp only [serverStep, running, List.splitAt_eq]
    rfl, ?_⟩
  simp [nobody, health]

/-- Every connection in service is covered in every reachable state exactly where
no listener that runs and takes connections has a route to health. -/
theorem service_covered_iff :
    (∀ state,
      Reachable (runStep server parser) (RunState.start server) state →
        state.Covered server) ↔
      ∀ (listener : Nat) (proxy : Proxy),
        server.proxies[listener]? = some proxy → proxy.knownProtocol = true →
        proxy.Admits server → ¬ proxy.RoutesToHealth parser := by
  constructor
  · rintro covered listener proxy configured known admits
      ⟨connection, upstream, dispatch, routed, health⟩
    obtain ⟨final, ran, detached⟩ := run_detaches server parser listener proxy
      connection upstream dispatch configured known admits routed health
    obtain ⟨spawned, reached, tasks, _, all⟩ :=
      reachable_spawned server parser server.proxies.length (Nat.le_refl _)
    rw [← tasks] at ran
    obtain ⟨state, continued, outcome⟩ := reachable_of_tasks server parser _
      spawned final all ran (by simp)
    have holds := covered state (reached.trans continued)
    obtain ⟨handler, untracked, _⟩ := holds.tasks
      { listener := listener
        connection := connection
        task := none } (by simp [ServerState.serving, outcome, detached])
    cases untracked
  · intro none_ state reached
    exact covered_of_no_health_route server parser none_ state reached

def healthConfig : ParsedConfig :=
  { loopbackConfig [] none with
    servers := AList.singleton "health_server"
      { loopbackServer ["127.0.0.1:9001"] none with
        default := some "health" } }

/-- The client of a health server that keeps its connection open is being served
when the process has counted its last task and returns. -/
theorem open_health_check_is_not_covered :
    verifyConfig id healthConfig = .ok healthConfig ∧
      ∃ server,
        Server.fromParsedConfig AddrText.std healthConfig = some server ∧
        ∃ state,
          Reachable (runStep server TlsParser.refusing)
            (RunState.start server) state ∧
          state.server.serving.length = 1 ∧ state.tracker.live = 0 ∧
          state.main = .returned ∧ ¬ state.Covered server := by
  let server : Server :=
    { proxies := (rawProxies AddrText.std healthConfig.servers).map
        (fun proxy =>
          { proxy with upstream := sharedUpstream AddrText.std healthConfig }) }
  have drained : Reachable (runStep server TlsParser.refusing)
      (RunState.start server) _ :=
    ⟨[.loopSpawned, .task (.started 0 (.ok ())),
      .task (.accepted 0 (.ok quietConnection)), .task (.dispatched 0),
      .task (.processed 0), .task .signal, .task (.stopped 0), .cancelled,
      .closed, .waited], rfl⟩
  refine ⟨rfl, server, rfl, _, drained, rfl, rfl, rfl, fun covered => ?_⟩
  obtain ⟨handler, untracked, _⟩ := covered.tasks _ (List.mem_singleton_self _)
  cases untracked

end TlsProxyTunnel
