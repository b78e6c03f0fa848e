/-
The traffic that is exempt from the connection limit.

Whether a connection takes a permit is decided by the listener's default
action, before its route is known.  The two agree exactly where no route leaves
the side of the default.
-/

import TlsProxyTunnel.Delivery
import TlsProxyTunnel.Loader
import TlsProxyTunnel.Permits
import TlsProxyTunnel.SocketAddrText

namespace TlsProxyTunnel

open Transition

variable (server : Server) (parser : TlsParser)

theorem reachable_accepting (state : ServerState) (listener : Nat)
    (proxy : Proxy) (configured : server.proxies[listener]? = some proxy)
    (known : proxy.knownProtocol = true)
    (starting : state.loops listener = .starting)
    (running : state.returned = false) :
    Reachable (serverStep server parser) state (state.beginLoop listener) := by
  refine ⟨[.started listener (.ok ())], ?_⟩
  simp [run, serverStep, running, configured, starting, known]

theorem reachable_onAccept (state : ServerState) (listener : Nat) (proxy : Proxy)
    (connection : Connection)
    (configured : server.proxies[listener]? = some proxy)
    (accepting : state.loops listener = .accepting)
    (running : state.returned = false) :
    Reachable (serverStep server parser) state
      (state.onAccept listener proxy connection) := by
  refine ⟨[.accepted listener (.ok connection)], ?_⟩
  simp [run, serverStep, running, configured, accepting]

theorem reachable_dispatched (state : ServerState) (before : List Handler)
    (handler : Handler) (proxy : Proxy) (chosen : Upstream × Dispatch)
    (tasks : state.handlers = before ++ [handler])
    (waiting : handler.processing = none)
    (configured : server.proxies[handler.listener]? = some proxy)
    (routed : proxy.accept parser handler.connection.peerAddr
      handler.connection.peek = .ok chosen)
    (running : state.returned = false) :
    Reachable (serverStep server parser) state
      { state with
        handlers := before ++ [{ handler with processing := some chosen }] } := by
  refine ⟨[.dispatched before.length], ?_⟩
  simp [run, serverStep, running, tasks, List.splitAt_eq, waiting, configured,
    routed]

def processingHandler (listener : Nat) (proxy : Proxy) (connection : Connection)
    (chosen : Upstream × Dispatch) : Handler :=
  { listener := listener
    connection := connection
    permit := proxy.permit
    processing := some chosen }

theorem reachable_processing (state : ServerState) (listener : Nat)
    (proxy : Proxy) (connection : Connection) (chosen : Upstream × Dispatch)
    (configured : server.proxies[listener]? = some proxy)
    (routed : proxy.accept parser connection.peerAddr connection.peek =
      .ok chosen)
    (accepting : state.loops listener = .accepting)
    (running : state.returned = false)
    (room : proxy.isHealthServer = true ∨
      0 < state.available proxy.maxclients) :
    ∃ next, Reachable (serverStep server parser) state next ∧
      next.handlers = state.handlers ++
        [processingHandler listener proxy connection chosen] ∧
      next.loops = state.loops ∧ next.returned = false ∧
      ∀ semaphore, state.available semaphore ≤
        next.available semaphore +
          if semaphore = proxy.maxclients then 1 else 0 := by
  have arrived := reachable_onAccept server parser state listener proxy connection
    configured accepting running
  rcases state.onAccept_cases listener proxy connection with
    ⟨health, outcome⟩ | ⟨ordinary, available, outcome⟩ | ⟨ordinary, full, _⟩
  · rw [outcome] at arrived
    refine ⟨_, arrived.trans (reachable_dispatched server parser _
      state.handlers _ proxy chosen rfl rfl configured routed running), ?_, rfl,
      running, ?_⟩
    · simp [processingHandler, Proxy.permit, health]
    · intro semaphore
      exact Nat.le_add_right _ _
  · rw [outcome] at arrived
    refine ⟨_, arrived.trans (reachable_dispatched server parser _
      state.handlers _ proxy chosen rfl rfl configured routed running), ?_, rfl,
      running, ?_⟩
    · simp [processingHandler, Proxy.permit, ordinary]
    · intro semaphore
      by_cases same : semaphore = proxy.maxclients
      · subst same
        simp only [ServerState.spawn, ServerState.acquire,
          Function.update_self, if_pos]
        omega
      · simp [ServerState.spawn, ServerState.acquire,
          Function.update_of_ne same]
  · rcases room with health | available
    · rw [ordinary] at health
      cases health
    · omega

/-- A listener can be filled with connections of one route up to its permits,
and without end where it needs none. -/
theorem reachable_filled (listener : Nat) (proxy : Proxy)
    (connection : Connection) (chosen : Upstream × Dispatch)
    (configured : server.proxies[listener]? = some proxy)
    (routed : proxy.accept parser connection.peerAddr connection.peek =
      .ok chosen) (count : Nat) (state : ServerState)
    (accepting : state.loops listener = .accepting)
    (running : state.returned = false)
    (room : proxy.isHealthServer = true ∨
      count ≤ state.available proxy.maxclients) :
    ∃ next, Reachable (serverStep server parser) state next ∧
      next.handlers = state.handlers ++
        List.replicate count
          (processingHandler listener proxy connection chosen) ∧
      next.loops = state.loops ∧ next.returned = false ∧
      ∀ semaphore, semaphore ≠ proxy.maxclients →
        state.available semaphore ≤ next.available semaphore := by
  induction count generalizing state with
  | zero =>
      exact ⟨state, Reachable.refl _ state, by simp, rfl, running,
        fun _ _ => Nat.le_refl _⟩
  | succ count ih =>
      obtain ⟨next, reached, tasks, loops, still, left⟩ :=
        reachable_processing server parser state listener proxy connection
          chosen configured routed accepting running
          (room.imp_right (fun enough => by omega))
      have roomLeft : proxy.isHealthServer = true ∨
          count ≤ next.available proxy.maxclients := by
        refine room.imp_right (fun enough => ?_)
        have own := left proxy.maxclients
        rw [if_pos rfl] at own
        omega
      obtain ⟨final, continued, allTasks, allLoops, stillRunning, others⟩ :=
        ih next (by rw [loops, accepting]) still roomLeft
      refine ⟨final, reached.trans continued, ?_, by rw [allLoops, loops],
        stillRunning, ?_⟩
      · rw [allTasks, tasks, List.append_assoc, List.singleton_append,
          List.replicate_succ]
      · intro semaphore different
        have own := left semaphore
        rw [if_neg different] at own
        exact Nat.le_trans own (others semaphore different)

/-! ### The exemption -/

structure ServerState.ExemptsHealthOnly (state : ServerState) : Prop where
  permits :
    ∀ handler proxy upstream dispatch, handler ∈ state.handlers →
      server.proxies[handler.listener]? = some proxy →
      handler.processing = some (upstream, dispatch) →
      (handler.permit = some proxy.maxclients ↔ upstream.isHealth = false)
  rejections :
    ∀ listener connection proxy upstream dispatch,
      (listener, connection) ∈ state.rejected →
      server.proxies[listener]? = some proxy →
      proxy.accept parser connection.peerAddr connection.peek =
        .ok (upstream, dispatch) →
      upstream.isHealth = false

/-- Every route of the listener is on the side of its default action: health
for a health server, and something else for any other. -/
def Proxy.RoutesWithDefault (proxy : Proxy) : Prop :=
  ∀ (connection : Connection) (upstream : Upstream) (dispatch : Dispatch),
    proxy.accept parser connection.peerAddr connection.peek =
      .ok (upstream, dispatch) →
    upstream.isHealth = proxy.isHealthServer

theorem Proxy.permit_eq_maxclients_iff (proxy : Proxy) :
    proxy.permit = some proxy.maxclients ↔ proxy.isHealthServer = false := by
  unfold Proxy.permit
  cases proxy.isHealthServer <;> simp

theorem exemption_broken (listener : Nat) (proxy : Proxy)
    (connection : Connection) (upstream : Upstream) (dispatch : Dispatch)
    (configured : server.proxies[listener]? = some proxy)
    (known : proxy.knownProtocol = true)
    (routed : proxy.accept parser connection.peerAddr connection.peek =
      .ok (upstream, dispatch))
    (crossing : upstream.isHealth ≠ proxy.isHealthServer) :
    ∃ state, Reachable (serverStep server parser) server.start state ∧
      ¬ state.ExemptsHealthOnly server parser := by
  have started := reachable_accepting server parser server.start listener proxy
    configured known rfl rfl
  by_cases room : proxy.isHealthServer = true ∨
      0 < server.start.available proxy.maxclients
  · obtain ⟨state, reached, tasks, _, _, _⟩ :=
      reachable_processing server parser (server.start.beginLoop listener)
        listener proxy connection (upstream, dispatch) configured routed
        (Function.update_self listener _ _) rfl room
    refine ⟨state, started.trans reached, fun exempt => crossing ?_⟩
    have own := exempt.permits
      (processingHandler listener proxy connection (upstream, dispatch)) proxy
      upstream dispatch (by simp [tasks]) configured rfl
    rw [processingHandler, proxy.permit_eq_maxclients_iff] at own
    cases health : proxy.isHealthServer with
    | false => exact own.mp health
    | true =>
        by_contra ordinary
        rw [Bool.not_eq_true] at ordinary
        rw [own.mpr ordinary] at health
        cases health
  · rw [not_or, Bool.not_eq_true, Nat.not_lt, Nat.le_zero] at room
    have arrived := reachable_onAccept server parser
      (server.start.beginLoop listener) listener proxy connection configured
      (Function.update_self listener _ _) rfl
    refine ⟨_, started.trans arrived, fun exempt => crossing ?_⟩
    have rejected := exempt.rejections listener connection proxy upstream
      dispatch (by simp [ServerState.onAccept, ServerState.beginLoop, room.1,
        room.2]) configured routed
    rw [rejected, room.1]

theorem health_exemption_iff :
    (∀ state, Reachable (serverStep server parser) server.start state →
      state.ExemptsHealthOnly server parser) ↔
      ∀ (listener : Nat) (proxy : Proxy),
        server.proxies[listener]? = some proxy →
        proxy.knownProtocol = true → proxy.RoutesWithDefault parser := by
  constructor
  · intro exempt listener proxy configured known connection upstream dispatch
      routed
    by_contra crossing
    obtain ⟨state, reached, broken⟩ := exemption_broken server parser listener
      proxy connection upstream dispatch configured known routed crossing
    exact broken (exempt state reached)
  · intro uniform state reached
    have accounted := reachable_accounted server parser state reached
    constructor
    · intro handler proxy upstream dispatch member configured processing
      obtain ⟨same, found, known, permit, routed⟩ :=
        accounted.handlers handler member
      rw [configured, Option.some.injEq] at found
      subst found
      have side := uniform handler.listener proxy configured known
        handler.connection upstream dispatch (routed _ processing)
      rw [permit, proxy.permit_eq_maxclients_iff, side]
    · intro listener connection proxy upstream dispatch member configured routed
      obtain ⟨same, found, known, ordinary⟩ := accounted.rejections _ member
      rw [configured, Option.some.injEq] at found
      subst found
      rw [uniform listener proxy configured known connection upstream dispatch
        routed, ordinary]

def loopbackServer (listen : List String) (sni : Option (HashMap SniTarget)) :
    ServerConfig :=
  { listen := listen
    protocol := none
    tls := some sni.isSome
    sni := sni
    default := some "echo"
    via := ViaUpstream.default
    maxclients := 1 }

def loopbackConfig (listen : List String) (sni : Option (HashMap SniTarget)) :
    ParsedConfig :=
  { version := 1
    log := none
    servers := AList.singleton "echo_server" (loopbackServer listen sni)
    upstream := builtinUpstreams }

def quietConnection : Connection :=
  { peerAddr := .ok ()
    peek := .ok [] }

def helloConnection : Connection :=
  { quietConnection with peek := .ok exampleHello.record }

theorem getSni_exampleHello :
    lenient.parser.getSni (helloBuffer exampleHello.record) =
      ["www.example.org"] := by
  have whole : exampleHello.record.take 87 = exampleHello.record := by decide
  have visible : exampleHello.NamesVisible 87 := by
    refine ⟨by decide, fun position behind within => ?_⟩
    have sniEnd : exampleHello.sniEnd = 80 := by decide
    omega
  rw [← whole]
  exact exampleHello.getSni_of_visible lenient lenient.parser
    lenient.parser_conforms exampleHello_accepted 87 visible

theorem accept_exampleHello (proxy : Proxy) (upstream : Upstream)
    (tls : proxy.tls = true)
    (selected : proxy.selectUpstream
      (proxy.choose ["www.example.org"]).upstreamName = .ok upstream) :
    proxy.accept lenient.parser helloConnection.peerAddr helloConnection.peek =
      .ok (upstream, proxy.choose ["www.example.org"]) := by
  have names : proxy.snis lenient.parser exampleHello.record =
      ["www.example.org"] := by
    rw [Proxy.snis, if_pos tls, getSni_exampleHello]
  simp [Proxy.accept, helloConnection, quietConnection, tls, names, selected]

/-- A health check by name on an ordinary listener takes its permit. -/
theorem named_health_check_takes_permit :
    let config := loopbackConfig ["127.0.0.1:9001"]
      (some (AList.singleton "www.example.org" (.simple "health")))
    verifyConfig id config = .ok config ∧
      ∃ server, Server.fromParsedConfig AddrText.std config = some server ∧
        ∃ state,
          Reachable (serverStep server lenient.parser) server.start state ∧
            ¬ state.ExemptsHealthOnly server lenient.parser := by
  refine ⟨rfl, _, rfl, ?_⟩
  exact exemption_broken _ lenient.parser 0 _ helloConnection _ _ rfl rfl
    (accept_exampleHello _ _ rfl rfl) (by decide)

end TlsProxyTunnel
