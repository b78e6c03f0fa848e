/-
Permits, live handlers and what the metrics report of them.

The builder puts one semaphore into a proxy and into its metrics entry, and the
same entries into every health upstream.  What is missing from the semaphore is
then the number of handlers at work, listener by listener.
-/

import TlsProxyTunnel.Exemption

namespace TlsProxyTunnel

open Transition

/-- `saturating_sub`, as subtraction is here. -/
def MetricsEntry.active (entry : MetricsEntry) (available : Semaphore → Nat) :
    Nat :=
  entry.maxclientsLimit - available entry.semaphore

def gaugeSample (gauge name listen : String) (value : Nat) : String :=
  gauge ++ "\x7bname=\"" ++ name ++ "\",listen=\"" ++ listen ++ "\"\x7d " ++
    toString value

def gaugeLines (gauge help : String) (value : MetricsEntry → Nat)
    (metrics : Metrics) : List String :=
  ["# HELP " ++ gauge ++ " " ++ help, "# TYPE " ++ gauge ++ " gauge"] ++
    metrics.map (fun entry =>
      gaugeSample gauge entry.name entry.listen (value entry))

def activeLines (metrics : Metrics) (available : Semaphore → Nat) :
    List String :=
  gaugeLines "tpt_active_connections" "Current number of active connections"
    (fun entry => entry.active available) metrics

def maxclientsLines (metrics : Metrics) : List String :=
  gaugeLines "tpt_maxclients" "Maximum number of concurrent connections"
    MetricsEntry.maxclientsLimit metrics

structure HealthResponse where
  contentType : Option String
  body : String
  deriving DecidableEq, Repr

def healthHandler (path : String) (metrics : Metrics)
    (available : Semaphore → Nat) : HealthResponse :=
  if path = "/metrics" then
    { contentType := some "text/plain; version=0.0.4; charset=utf-8"
      body := String.join
        ((activeLines metrics available ++ maxclientsLines metrics).map
          (fun line => line ++ "\n")) }
  else
    { contentType := none
      body := "OK" }

theorem gaugeLines_getElem? (gauge help : String) (value : MetricsEntry → Nat)
    (metrics : Metrics) (index : Nat) :
    (gaugeLines gauge help value metrics)[index + 2]? =
      metrics[index]?.map (fun entry =>
        gaugeSample gauge entry.name entry.listen (value entry)) := by
  simp [gaugeLines]

theorem gaugeLines_length (gauge help : String) (value : MetricsEntry → Nat)
    (metrics : Metrics) :
    (gaugeLines gauge help value metrics).length = metrics.length + 2 := by
  simp only [gaugeLines, List.length_append, List.length_map, List.length_cons,
    List.length_nil]
  omega

theorem healthHandler_lines (metrics : Metrics) (available : Semaphore → Nat)
    (index : Nat) (entry : MetricsEntry) (found : metrics[index]? = some entry) :
    ∃ lines : List String,
      (healthHandler "/metrics" metrics available).body =
        String.join (lines.map (fun line => line ++ "\n")) ∧
      lines.length = 2 * metrics.length + 4 ∧
      lines[index + 2]? =
        some (gaugeSample "tpt_active_connections" entry.name entry.listen
          (entry.active available)) ∧
      lines[metrics.length + index + 4]? =
        some (gaugeSample "tpt_maxclients" entry.name entry.listen
          entry.maxclientsLimit) := by
  have inside := (List.getElem?_eq_some_iff.mp found).1
  refine ⟨activeLines metrics available ++ maxclientsLines metrics, ?_, ?_, ?_,
    ?_⟩
  · rw [healthHandler, if_pos rfl]
  · rw [List.length_append, activeLines, maxclientsLines, gaugeLines_length,
      gaugeLines_length]
    omega
  · rw [List.getElem?_append_left (by
        rw [activeLines, gaugeLines_length]
        omega),
      activeLines, gaugeLines_getElem?, found, Option.map_some]
  · have second : metrics.length + index + 4 -
        (activeLines metrics available).length = index + 2 := by
      rw [activeLines, gaugeLines_length]
      omega
    rw [List.getElem?_append_right (by
        rw [activeLines, gaugeLines_length]
        omega),
      second, maxclientsLines, gaugeLines_getElem?, found, Option.map_some]

variable (text : AddrText) (config : ParsedConfig) (server : Server)

theorem Server.fromParsedConfig_maxclients
    (built : Server.fromParsedConfig text config = some server) (listener : Nat)
    (proxy : Proxy) (configured : server.proxies[listener]? = some proxy) :
    proxy.maxclients = ⟨listener⟩ := by
  rw [Server.fromParsedConfig_getElem? text config server built,
    Option.map_eq_some_iff] at configured
  obtain ⟨listening, _, rfl⟩ := configured
  rfl

theorem Server.fromParsedConfig_metrics
    (built : Server.fromParsedConfig text config = some server)
    (holder : Proxy) (held : holder ∈ server.proxies) (key : String)
    (metrics : Metrics)
    (health : holder.upstream.lookup key = some (.health metrics)) :
    metrics = server.proxies.mapIdx (fun listener proxy =>
      { name := proxy.name
        listen := text.display proxy.listen
        maxclientsLimit := proxy.maxclientsLimit
        semaphore := ⟨listener⟩ }) := by
  obtain ⟨_, _, _, shared⟩ :=
    Server.fromParsedConfig_mem text config server built holder held
  rw [shared, sharedUpstream, HashMap.lookup_mapValues, Option.map_eq_some_iff]
    at health
  obtain ⟨stored, _, becomes⟩ := health
  have injected : metrics = metricsOf text (rawProxies text config.servers) := by
    cases stored <;> cases becomes
    rfl
  rw [injected]
  apply List.ext_getElem?
  intro listener
  rw [List.getElem?_mapIdx, metricsOf, rawProxies, List.getElem?_map,
    List.getElem?_mapIdx,
    Server.fromParsedConfig_getElem? text config server built, Option.map_map,
    Option.map_map]
  rfl

def ServerState.live (state : ServerState) (listener : Nat) : Nat :=
  state.handlers.countP (fun handler => handler.listener = listener)

variable (parser : TlsParser)

theorem held_eq_live
    (built : Server.fromParsedConfig text config = some server)
    (state : ServerState) (accounted : state.Accounted server parser)
    (listener : Nat) (proxy : Proxy)
    (configured : server.proxies[listener]? = some proxy)
    (ordinary : proxy.isHealthServer = false) :
    state.held proxy.maxclients = state.live listener := by
  have own := Server.fromParsedConfig_maxclients text config server built
  rw [ServerState.held, ServerState.live]
  apply List.countP_congr
  intro handler member
  obtain ⟨holder, found, _, permit, _⟩ := accounted.handlers handler member
  rw [decide_eq_true_eq, decide_eq_true_eq, permit,
    own listener proxy configured]
  constructor
  · intro holds
    rw [Proxy.permit] at holds
    split at holds
    · cases holds
    · rw [own handler.listener holder found, Option.some.injEq,
        Semaphore.mk.injEq] at holds
      exact holds
  · intro same
    rw [same, configured, Option.some.injEq] at found
    subst found
    rw [Proxy.permit, ordinary, own listener _ configured]
    rfl

theorem available_add_live
    (built : Server.fromParsedConfig text config = some server)
    (state : ServerState) (accounted : state.Accounted server parser)
    (listener : Nat) (proxy : Proxy)
    (configured : server.proxies[listener]? = some proxy)
    (ordinary : proxy.isHealthServer = false) :
    state.available proxy.maxclients + state.live listener =
      proxy.maxclientsLimit := by
  have conserved := accounted.permits proxy.maxclients
  rw [held_eq_live text config server parser built state accounted listener
    proxy configured ordinary] at conserved
  rw [conserved, Server.fromParsedConfig_maxclients text config server built
    listener proxy configured]
  simp [Server.start, configured]

/-- The listener whose step the event is: of its loop, or of a task that was
spawned for one of its connections. -/
def ServerEvent.listener (state : ServerState) : ServerEvent → Option Nat
  | .started listener _ => some listener
  | .accepted listener _ => some listener
  | .stopped listener => some listener
  | .dispatched position => (state.handlers[position]?).map Handler.listener
  | .processed position => (state.handlers[position]?).map Handler.listener
  | .served position => (state.detached[position]?).map Prod.fst
  | .signal => none
  | .trackerClosed => none
  | .drained => none

theorem ServerState.onAccept_live (state : ServerState) (accepting : Nat)
    (proxy : Proxy) (connection : Connection) (listener : Nat) :
    (state.onAccept accepting proxy connection).live listener =
      state.live listener +
        if state.admits proxy = true ∧ accepting = listener then 1 else 0 := by
  rw [ServerState.live, ServerState.onAccept_handlers, List.countP_append]
  cases state.admits proxy <;> simp [ServerState.live, List.countP_singleton]

theorem serverStep_live_of_other (state next : ServerState)
    (event : ServerEvent)
    (moved : serverStep server parser state event = some next) (listener : Nat)
    (other : event.listener state ≠ some listener) :
    next.live listener = state.live listener := by
  cases event with
  | started starting bind =>
      obtain ⟨_, _, _, ⟨_, _, rfl⟩ | ⟨_, rfl⟩⟩ :=
        serverStep_started server parser state next starting bind moved
      · rfl
      · rfl
  | accepted accepting result =>
      obtain ⟨proxy, _, _, ⟨connection, _, rfl⟩ | ⟨_, rfl⟩ | ⟨_, rfl⟩⟩ :=
        serverStep_accepted server parser state next accepting result moved
      · have different : ¬ accepting = listener :=
          fun same => other (congrArg some same)
        rw [ServerState.onAccept_live, if_neg (fun both => different both.2)]
        rfl
      · rfl
      · rfl
  | stopped stopping =>
      obtain ⟨_, _, rfl⟩ :=
        serverStep_stopped server parser state next stopping moved
      rfl
  | dispatched position =>
      obtain ⟨before, handler, after, proxy, tasks, rfl, _, _,
        ⟨_, _, rfl⟩ | ⟨_, _, rfl⟩⟩ :=
        serverStep_dispatched server parser state next position moved
      all_goals
        have different : ¬ handler.listener = listener :=
          fun same => other (by simp [ServerEvent.listener, tasks, same])
        simp [ServerState.live, tasks, different]
  | processed position =>
      obtain ⟨before, handler, after, _, tasks, rfl, _, rfl⟩ :=
        serverStep_processed server parser state next position moved
      have different : ¬ handler.listener = listener :=
        fun same => other (by simp [ServerEvent.listener, tasks, same])
      simp [ServerState.live, tasks, different]
  | served position =>
      rw [serverStep_served server parser state next position moved]
      rfl
  | signal =>
      rw [serverStep_signal server parser state next moved]
      rfl
  | trackerClosed =>
      obtain ⟨_, rfl⟩ := serverStep_trackerClosed server parser state next moved
      rfl
  | drained =>
      obtain ⟨_, rfl⟩ := serverStep_drained server parser state next moved
      rfl

/-! ### Exactness -/

/-- What holds of an ordinary listener in one state: its permits add up, every
health upstream reports its live handlers on `/metrics`, it drops connections
exactly at its limit, and the steps of others change none of that. -/
structure ServerState.ExactAt (state : ServerState) (listener : Nat)
    (proxy : Proxy) : Prop where
  permits :
    state.available proxy.maxclients + state.live listener =
      proxy.maxclientsLimit
  gauge :
    ∀ (holder : Proxy) (key : String) (metrics : Metrics),
      holder ∈ server.proxies →
      holder.upstream.lookup key = some (.health metrics) →
      ∃ entry, metrics[listener]? = some entry ∧
        entry.semaphore = proxy.maxclients ∧
        entry.maxclientsLimit = proxy.maxclientsLimit ∧
        state.available entry.semaphore ≤ entry.maxclientsLimit ∧
        entry.active state.available = state.live listener
  reported :
    ∀ (holder : Proxy) (key : String) (metrics : Metrics),
      holder ∈ server.proxies →
      holder.upstream.lookup key = some (.health metrics) →
      ∃ lines : List String,
        (healthHandler "/metrics" metrics state.available).body =
          String.join (lines.map (fun line => line ++ "\n")) ∧
        lines.length = 2 * server.proxies.length + 4 ∧
        lines[listener + 2]? =
          some (gaugeSample "tpt_active_connections" proxy.name
            (text.display proxy.listen) (state.live listener)) ∧
        lines[server.proxies.length + listener + 4]? =
          some (gaugeSample "tpt_maxclients" proxy.name
            (text.display proxy.listen) proxy.maxclientsLimit)
  dropped :
    ∀ (connection : Connection) (next : ServerState),
      serverStep server parser state (.accepted listener (.ok connection)) =
        some next →
      (next.rejected = state.rejected ++ [(listener, connection)] ↔
        state.live listener = proxy.maxclientsLimit) ∧
      (next.live listener = state.live listener + 1 ↔
        state.live listener ≠ proxy.maxclientsLimit)
  others :
    ∀ (event : ServerEvent) (next : ServerState),
      serverStep server parser state event = some next →
      event.listener state ≠ some listener →
      next.available proxy.maxclients = state.available proxy.maxclients ∧
        next.live listener = state.live listener ∧
        next.admits proxy = state.admits proxy ∧
        ∀ entry : MetricsEntry, entry.semaphore = proxy.maxclients →
          entry.active next.available = entry.active state.available

theorem admits_iff_of_exact (state : ServerState) (listener : Nat)
    (proxy : Proxy) (ordinary : proxy.isHealthServer = false)
    (permits : state.available proxy.maxclients + state.live listener =
      proxy.maxclientsLimit) :
    state.admits proxy = true ↔
      state.live listener ≠ proxy.maxclientsLimit := by
  rw [ServerState.admits, ordinary, Bool.false_or, decide_eq_true_eq]
  omega

theorem serverStep_accepted_ok (state next : ServerState) (listener : Nat)
    (proxy : Proxy) (configured : server.proxies[listener]? = some proxy)
    (connection : Connection)
    (moved : serverStep server parser state
      (.accepted listener (.ok connection)) = some next) :
    next = state.onAccept listener proxy connection := by
  obtain ⟨same, found, _, ⟨_, arrived, outcome⟩ | ⟨blocked, _⟩ |
    ⟨⟨_, failed⟩, _⟩⟩ :=
    serverStep_accepted server parser state next listener _ moved
  · rw [configured, Option.some.injEq] at found
    rw [outcome, ← found, Attempt.ok.inj arrived]
  · cases blocked
  · cases failed

theorem permits_and_gauge_exact
    (built : Server.fromParsedConfig text config = some server)
    (state : ServerState)
    (reached : Reachable (serverStep server parser) server.start state)
    (listener : Nat) (proxy : Proxy)
    (configured : server.proxies[listener]? = some proxy)
    (ordinary : proxy.isHealthServer = false) :
    state.ExactAt text server parser listener proxy := by
  have exact_ (later : ServerState)
      (reachedLater : Reachable (serverStep server parser) server.start later) :=
    available_add_live text config server parser built later
      (reachable_accounted server parser later reachedLater) listener proxy
      configured ordinary
  have permits := exact_ state reached
  have own := Server.fromParsedConfig_maxclients text config server built
    listener proxy configured
  have entry (holder : Proxy) (key : String) (metrics : Metrics)
      (held : holder ∈ server.proxies)
      (health : holder.upstream.lookup key = some (.health metrics)) :
      metrics.length = server.proxies.length ∧
        metrics[listener]? =
          some
            { name := proxy.name
              listen := text.display proxy.listen
              maxclientsLimit := proxy.maxclientsLimit
              semaphore := proxy.maxclients } := by
    rw [Server.fromParsedConfig_metrics text config server built holder held key
      metrics health, List.length_mapIdx, List.getElem?_mapIdx, configured, own]
    exact ⟨rfl, rfl⟩
  have active : proxy.maxclientsLimit - state.available proxy.maxclients =
      state.live listener := by omega
  refine ⟨permits, ?_, ?_, ?_, ?_⟩
  · intro holder key metrics held health
    obtain ⟨_, found⟩ := entry holder key metrics held health
    refine ⟨_, found, rfl, rfl, ?_, active⟩
    dsimp only
    omega
  · intro holder key metrics held health
    obtain ⟨all, found⟩ := entry holder key metrics held health
    obtain ⟨lines, body, length, sample, limit⟩ :=
      healthHandler_lines metrics state.available listener _ found
    rw [MetricsEntry.active, active] at sample
    rw [all] at length limit
    exact ⟨lines, body, length, sample, limit⟩
  · intro connection next moved
    have admitted := admits_iff_of_exact state listener proxy ordinary permits
    rw [serverStep_accepted_ok server parser state next listener proxy configured
      connection moved, ServerState.onAccept_rejected, ServerState.onAccept_live]
    cases decision : state.admits proxy <;> rw [decision] at admitted <;>
      simpa using admitted
  · intro event next moved other
    have live := serverStep_live_of_other server parser state next event moved
      listener other
    have later := exact_ next (reached.tail moved)
    have available : next.available proxy.maxclients =
        state.available proxy.maxclients := by omega
    refine ⟨available, live, by simp only [ServerState.admits, available], ?_⟩
    intro entry same
    simp only [MetricsEntry.active, same, available]

theorem permits_and_gauge_exact_at_limit :
    ∃ server proxy state,
      Server.fromParsedConfig AddrText.std
        (loopbackConfig ["127.0.0.1:9001", "127.0.0.1:9002"] none) =
          some server ∧
      server.proxies[0]? = some proxy ∧
      Reachable (serverStep server TlsParser.refusing) server.start state ∧
      (state.live 0 = 1 ∧ state.rejected.length = 1) ∧
      state.ExactAt AddrText.std server TlsParser.refusing 0 proxy := by
  let config := loopbackConfig ["127.0.0.1:9001", "127.0.0.1:9002"] none
  let server : Server :=
    { proxies := (rawProxies AddrText.std config.servers).map (fun proxy =>
        { proxy with upstream := sharedUpstream AddrText.std config }) }
  have filled : Reachable (serverStep server TlsParser.refusing) server.start _ :=
    ⟨[.started 0 (.ok ()), .started 1 (.ok ()),
      .accepted 0 (.ok quietConnection), .accepted 0 (.ok quietConnection),
      .accepted 1 (.ok quietConnection), .dispatched 0, .processed 0,
      .accepted 0 (.ok quietConnection)], rfl⟩
  exact ⟨server, _, _, rfl, rfl, filled, by decide,
    permits_and_gauge_exact AddrText.std config server TlsParser.refusing rfl _
      filled 0 _ rfl rfl⟩

end TlsProxyTunnel
