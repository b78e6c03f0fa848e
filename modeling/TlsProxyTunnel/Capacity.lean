/-
The connection limit of a server entry.

Every listener has a semaphore of its own, so an entry with two addresses
admits twice its limit; and a health server admits without a permit whatever
its SNI routes say.  The limit is a cap exactly where neither can happen.
-/

import TlsProxyTunnel.Exemption

namespace TlsProxyTunnel

open Transition

variable (server : Server) (parser : TlsParser)

def Upstream.relays : Upstream → Bool
  | .echo => true
  | .proxy _ => true
  | .ban => false
  | .health _ => false

def Handler.relaysFor (handler : Handler) (name : String) : Bool :=
  (server.proxies[handler.listener]?).any (fun proxy => proxy.name = name) &&
    handler.processing.any (fun chosen => chosen.1.relays)

def ServerState.relaying (state : ServerState) (name : String) : Nat :=
  state.handlers.countP (fun handler => handler.relaysFor server name)

def Proxy.CanRelay (proxy : Proxy) : Prop :=
  ∃ (connection : Connection) (chosen : Upstream × Dispatch),
    proxy.accept parser connection.peerAddr connection.peek = .ok chosen ∧
      chosen.1.relays = true

def Server.SingleListener (name : String) : Prop :=
  ∀ (left right : Nat) (leftProxy rightProxy : Proxy),
    server.proxies[left]? = some leftProxy →
    server.proxies[right]? = some rightProxy →
    leftProxy.name = name → rightProxy.name = name → left = right

variable (text : AddrText) (config : ParsedConfig)

theorem Server.fromParsedConfig_of_name
    (built : Server.fromParsedConfig text config = some server) (name : String)
    (entry : ServerConfig) (found : config.servers.lookup name = some entry)
    (listener : Nat) (proxy : Proxy)
    (configured : server.proxies[listener]? = some proxy)
    (named : proxy.name = name) :
    ∃ address,
      proxy =
        { Listening.toProxy ⟨name, entry, address⟩ listener with
          upstream := sharedUpstream text config } := by
  rw [Server.fromParsedConfig_getElem? text config server built,
    Option.map_eq_some_iff] at configured
  obtain ⟨listening, at_, rfl⟩ := configured
  change listening.name = name at named
  have stored : config.servers.lookup listening.name = some listening.config :=
    AList.mem_lookup_iff.mpr (listenings_mem text config.servers listening
      (List.mem_of_getElem? at_))
  rw [named, found, Option.some.injEq] at stored
  exact ⟨listening.address, by rw [← named, stored]⟩

/-- Proxies of one entry route alike, run alike and are limited alike; the
semaphore is that of the position. -/
structure Proxy.Alike (left right : Proxy) : Prop where
  health : left.isHealthServer = right.isHealthServer
  known : left.knownProtocol = right.knownProtocol
  limit : left.maxclientsLimit = right.maxclientsLimit
  routes :
    ∀ peerAddr peek, left.accept parser peerAddr peek =
      right.accept parser peerAddr peek

theorem Server.fromParsedConfig_alike
    (built : Server.fromParsedConfig text config = some server) (name : String)
    (entry : ServerConfig) (found : config.servers.lookup name = some entry)
    (left right : Nat) (leftProxy rightProxy : Proxy)
    (leftIs : server.proxies[left]? = some leftProxy)
    (rightIs : server.proxies[right]? = some rightProxy)
    (leftNamed : leftProxy.name = name) (rightNamed : rightProxy.name = name) :
    leftProxy.Alike parser rightProxy := by
  obtain ⟨leftAddress, rfl⟩ := Server.fromParsedConfig_of_name server text
    config built name entry found left leftProxy leftIs leftNamed
  obtain ⟨rightAddress, rfl⟩ := Server.fromParsedConfig_of_name server text
    config built name entry found right rightProxy rightIs rightNamed
  exact ⟨rfl, rfl, rfl, fun _ _ => rfl⟩

theorem Server.start_available
    (built : Server.fromParsedConfig text config = some server) (name : String)
    (entry : ServerConfig) (found : config.servers.lookup name = some entry)
    (listener : Nat) (proxy : Proxy)
    (configured : server.proxies[listener]? = some proxy)
    (named : proxy.name = name) :
    proxy.maxclients = ⟨listener⟩ ∧
      server.start.available ⟨listener⟩ = entry.maxclients := by
  simp only [Server.start, configured]
  obtain ⟨address, rfl⟩ := Server.fromParsedConfig_of_name server text config
    built name entry found listener proxy configured named
  exact ⟨rfl, rfl⟩

/-! ### Below the limit -/

theorem Handler.relaysFor_iff (handler : Handler) (name : String) :
    handler.relaysFor server name = true ↔
      (∃ proxy, server.proxies[handler.listener]? = some proxy ∧
        proxy.name = name) ∧
      ∃ chosen, handler.processing = some chosen ∧ chosen.1.relays = true := by
  simp only [Handler.relaysFor, Bool.and_eq_true, Option.any_eq_true,
    decide_eq_true_eq]

theorem relaying_eq_zero (name : String) (state : ServerState)
    (accounted : state.Accounted server parser)
    (idle : ∀ (listener : Nat) (proxy : Proxy),
      server.proxies[listener]? = some proxy → proxy.name = name →
      proxy.knownProtocol = true → ¬ proxy.CanRelay parser) :
    state.relaying server name = 0 := by
  rw [ServerState.relaying, List.countP_eq_zero]
  intro handler member relays
  obtain ⟨⟨proxy, configured, named⟩, chosen, processing, traffic⟩ :=
    (handler.relaysFor_iff server name).mp relays
  obtain ⟨same, found, known, _, routed⟩ := accounted.handlers handler member
  rw [configured, Option.some.injEq] at found
  subst found
  exact idle handler.listener proxy configured named known
    ⟨handler.connection, chosen, routed chosen processing, traffic⟩

theorem relaying_le_held (name : String) (state : ServerState)
    (accounted : state.Accounted server parser) (semaphore : Semaphore)
    (own : ∀ (listener : Nat) (proxy : Proxy),
      server.proxies[listener]? = some proxy → proxy.name = name →
      proxy.permit = some semaphore) :
    state.relaying server name ≤ state.held semaphore := by
  apply List.countP_mono_left
  intro handler member relays
  obtain ⟨⟨proxy, configured, named⟩, _⟩ :=
    (handler.relaysFor_iff server name).mp relays
  obtain ⟨same, found, _, permit, _⟩ := accounted.handlers handler member
  rw [configured, Option.some.injEq] at found
  subst found
  rw [decide_eq_true_eq, permit, own handler.listener proxy configured named]

theorem relaying_without_permits (name : String) (state : ServerState)
    (accounted : state.Accounted server parser)
    (ordinary : ∀ (listener : Nat) (proxy : Proxy),
      server.proxies[listener]? = some proxy → proxy.name = name →
      proxy.permit = some ⟨listener⟩ ∧
        server.start.available ⟨listener⟩ = 0) :
    state.relaying server name = 0 := by
  rw [ServerState.relaying, List.countP_eq_zero]
  intro handler member relays
  obtain ⟨⟨proxy, configured, named⟩, _⟩ :=
    (handler.relaysFor_iff server name).mp relays
  obtain ⟨same, found, _, permit, _⟩ := accounted.handlers handler member
  rw [configured, Option.some.injEq] at found
  subst found
  obtain ⟨own, empty⟩ := ordinary handler.listener proxy configured named
  have held : 0 < state.held ⟨handler.listener⟩ :=
    List.countP_pos_iff.mpr ⟨handler, member, by simp [permit, own]⟩
  have conserved := accounted.permits ⟨handler.listener⟩
  omega

/-! ### Beyond the limit -/

theorem relaying_filled (name : String) (state : ServerState)
    (earlier : List Handler) (listener : Nat) (proxy : Proxy)
    (connection : Connection) (chosen : Upstream × Dispatch) (count : Nat)
    (tasks : state.handlers = earlier ++ List.replicate count
      (processingHandler listener proxy connection chosen))
    (configured : server.proxies[listener]? = some proxy)
    (named : proxy.name = name) (traffic : chosen.1.relays = true) :
    state.relaying server name =
      earlier.countP (fun handler => handler.relaysFor server name) + count := by
  have relays : (processingHandler listener proxy connection chosen).relaysFor
      server name = true :=
    (Handler.relaysFor_iff server _ name).mpr
      ⟨⟨proxy, configured, named⟩, chosen, rfl, traffic⟩
  rw [ServerState.relaying, tasks, List.countP_append, List.countP_replicate,
    if_pos relays]

theorem relaying_unlimited (name : String) (listener : Nat) (proxy : Proxy)
    (configured : server.proxies[listener]? = some proxy)
    (named : proxy.name = name) (known : proxy.knownProtocol = true)
    (health : proxy.isHealthServer = true) (busy : proxy.CanRelay parser)
    (count : Nat) :
    ∃ state, Reachable (serverStep server parser) server.start state ∧
      state.relaying server name = count := by
  obtain ⟨connection, chosen, routed, traffic⟩ := busy
  have started := reachable_accepting server parser server.start listener proxy
    configured known rfl rfl
  obtain ⟨state, reached, tasks, _⟩ := reachable_filled server parser listener
    proxy connection chosen configured routed count
    (server.start.beginLoop listener) (Function.update_self listener _ _) rfl
    (Or.inl health)
  refine ⟨state, started.trans reached, ?_⟩
  rw [relaying_filled server name state _ listener proxy connection chosen count
    tasks configured named traffic]
  simp [ServerState.beginLoop, Server.start]

theorem relaying_two_listeners (name : String) (left right : Nat)
    (leftProxy rightProxy : Proxy) (different : left ≠ right)
    (leftIs : server.proxies[left]? = some leftProxy)
    (rightIs : server.proxies[right]? = some rightProxy)
    (leftNamed : leftProxy.name = name) (rightNamed : rightProxy.name = name)
    (known : rightProxy.knownProtocol = true)
    (alike : leftProxy.Alike parser rightProxy)
    (busy : rightProxy.CanRelay parser)
    (leftOwn : leftProxy.maxclients = ⟨left⟩)
    (rightOwn : rightProxy.maxclients = ⟨right⟩) :
    ∃ state, Reachable (serverStep server parser) server.start state ∧
      state.relaying server name =
        server.start.available ⟨left⟩ + server.start.available ⟨right⟩ := by
  obtain ⟨connection, chosen, routed, traffic⟩ := busy
  have leftStarted := reachable_accepting server parser server.start left
    leftProxy leftIs (by rw [alike.known, known]) rfl rfl
  obtain ⟨first, firstReached, firstTasks, firstLoops, firstRunning,
    untouched⟩ :=
    reachable_filled server parser left leftProxy connection chosen leftIs
      (by rw [alike.routes, routed]) (server.start.available ⟨left⟩)
      (server.start.beginLoop left) (Function.update_self left _ _) rfl
      (Or.inr (by rw [leftOwn]; exact Nat.le_refl _))
  have rightStarting : first.loops right = .starting := by
    rw [firstLoops]
    simp [ServerState.beginLoop, Function.update_of_ne (Ne.symm different),
      Server.start]
  have rightStarted := reachable_accepting server parser first right rightProxy
    rightIs known rightStarting firstRunning
  have rightFree : server.start.available ⟨right⟩ ≤
      (first.beginLoop right).available rightProxy.maxclients := by
    rw [rightOwn]
    apply untouched
    rw [leftOwn]
    simpa using different.symm
  obtain ⟨second, secondReached, secondTasks, _⟩ :=
    reachable_filled server parser right rightProxy connection chosen rightIs
      routed (server.start.available ⟨right⟩) (first.beginLoop right)
      (Function.update_self right _ _) firstRunning (Or.inr rightFree)
  refine ⟨second, ((leftStarted.trans firstReached).trans rightStarted).trans
    secondReached, ?_⟩
  rw [relaying_filled server name second _ right rightProxy connection chosen _
    secondTasks rightIs rightNamed traffic]
  have firstCount := relaying_filled server name first _ left leftProxy
    connection chosen _ firstTasks leftIs leftNamed traffic
  change first.relaying server name + _ = _
  rw [firstCount]
  simp [ServerState.beginLoop, Server.start]

/-- No listener of the entry that runs can relay, or none of them is a health
server and they are at most one, or may admit nobody. -/
def Server.OneLimit (name : String) (entry : ServerConfig) : Prop :=
  (∀ (listener : Nat) (proxy : Proxy),
    server.proxies[listener]? = some proxy → proxy.name = name →
    proxy.knownProtocol = true → ¬ proxy.CanRelay parser) ∨
  ((∀ (listener : Nat) (proxy : Proxy),
      server.proxies[listener]? = some proxy → proxy.name = name →
      proxy.isHealthServer = false) ∧
    (entry.maxclients = 0 ∨ server.SingleListener name))

theorem relaying_le_of_oneLimit
    (built : Server.fromParsedConfig text config = some server) (name : String)
    (entry : ServerConfig) (found : config.servers.lookup name = some entry)
    (oneLimit : server.OneLimit parser name entry) (state : ServerState)
    (reached : Reachable (serverStep server parser) server.start state) :
    state.relaying server name ≤ entry.maxclients := by
  have own := Server.start_available server text config built name entry found
  have accounted := reachable_accounted server parser state reached
  rcases oneLimit with idle | ⟨ordinary, none_ | single⟩
  · rw [relaying_eq_zero server parser name state accounted idle]
    exact Nat.zero_le _
  · rw [relaying_without_permits server parser name state accounted]
    · exact Nat.zero_le _
    · intro listener proxy configured named
      obtain ⟨position, limit⟩ := own listener proxy configured named
      rw [Proxy.permit, ordinary listener proxy configured named, position,
        limit]
      exact ⟨rfl, none_⟩
  · by_cases some_ : ∃ (listener : Nat) (proxy : Proxy),
        server.proxies[listener]? = some proxy ∧ proxy.name = name
    · obtain ⟨listener, proxy, configured, named⟩ := some_
      obtain ⟨position, limit⟩ := own listener proxy configured named
      have within := relaying_le_held server parser name state accounted
        ⟨listener⟩ (fun other otherProxy otherIs otherNamed => by
          obtain ⟨otherPosition, _⟩ := own other otherProxy otherIs otherNamed
          rw [Proxy.permit, ordinary other otherProxy otherIs otherNamed,
            otherPosition, single other listener otherProxy proxy otherIs
              configured otherNamed named]
          rfl)
      have conserved := accounted.permits ⟨listener⟩
      omega
    · rw [relaying_eq_zero server parser name state accounted]
      · exact Nat.zero_le _
      · intro listener proxy configured named
        exact absurd ⟨listener, proxy, configured, named⟩ some_

theorem oneLimit_of_relaying_le
    (built : Server.fromParsedConfig text config = some server) (name : String)
    (entry : ServerConfig) (found : config.servers.lookup name = some entry)
    (capped : ∀ state,
      Reachable (serverStep server parser) server.start state →
        state.relaying server name ≤ entry.maxclients) :
    server.OneLimit parser name entry := by
  have own := Server.start_available server text config built name entry found
  have alike := Server.fromParsedConfig_alike server parser text config built
    name entry found
  by_contra many
  rw [Server.OneLimit, not_or] at many
  obtain ⟨relaying, limits⟩ := many
  push Not at relaying
  obtain ⟨listener, proxy, configured, named, known, busy⟩ := relaying
  -- A health server takes one connection more than the limit.
  have ordinary : proxy.isHealthServer = false := by
    by_contra health
    rw [Bool.not_eq_false] at health
    obtain ⟨state, reached, count⟩ := relaying_unlimited server parser name
      listener proxy configured named known health busy
      (entry.maxclients + 1)
    have bound := capped state reached
    omega
  apply limits
  refine ⟨fun other otherProxy otherIs otherNamed => ?_, ?_⟩
  · rw [(alike other listener otherProxy proxy otherIs configured otherNamed
      named).health, ordinary]
  · by_contra several
    rw [not_or] at several
    obtain ⟨positive, notSingle⟩ := several
    apply notSingle
    intro left right leftProxy rightProxy leftIs rightIs leftNamed rightNamed
    -- Two listeners take twice the limit.
    by_contra different
    have same := alike right listener rightProxy proxy rightIs configured
      rightNamed named
    obtain ⟨connection, chosen, routed, traffic⟩ := busy
    obtain ⟨leftOwn, leftLimit⟩ := own left leftProxy leftIs leftNamed
    obtain ⟨rightOwn, rightLimit⟩ := own right rightProxy rightIs rightNamed
    obtain ⟨state, reached, count⟩ := relaying_two_listeners server parser
      name left right leftProxy rightProxy different leftIs rightIs leftNamed
      rightNamed (by rw [same.known, known])
      (alike left right leftProxy rightProxy leftIs rightIs leftNamed
        rightNamed)
      ⟨connection, chosen, by rw [same.routes, routed], traffic⟩ leftOwn
      rightOwn
    have bound := capped state reached
    omega

theorem connection_limit_is_cap_iff
    (built : Server.fromParsedConfig text config = some server) (name : String)
    (entry : ServerConfig) (found : config.servers.lookup name = some entry) :
    (∀ state, Reachable (serverStep server parser) server.start state →
      state.relaying server name ≤ entry.maxclients) ↔
      server.OneLimit parser name entry := by
  constructor
  · intro capped
    exact oneLimit_of_relaying_le server parser text config built name entry
      found capped
  · intro oneLimit state reached
    exact relaying_le_of_oneLimit server parser text config built name entry
      found oneLimit state reached

theorem connection_limit_of_one_address :
    ∃ server,
      Server.fromParsedConfig AddrText.std
        (loopbackConfig ["127.0.0.1:9001"] none) = some server ∧
      ((∀ state,
        Reachable (serverStep server TlsParser.refusing) server.start state →
          state.relaying server "echo_server" ≤ 1) ↔
        server.OneLimit TlsParser.refusing "echo_server"
          (loopbackServer ["127.0.0.1:9001"] none)) :=
  ⟨_, rfl, connection_limit_is_cap_iff _ TlsParser.refusing AddrText.std
    (loopbackConfig ["127.0.0.1:9001"] none) rfl "echo_server" _ rfl⟩

/-- One client each on two addresses of a server for one client. -/
theorem two_addresses_exceed_limit :
    let config := loopbackConfig ["127.0.0.1:9001", "127.0.0.1:9002"] none
    verifyConfig id config = .ok config ∧
      ∃ server, Server.fromParsedConfig AddrText.std config = some server ∧
        ∃ state,
          Reachable (serverStep server TlsParser.refusing) server.start state ∧
            state.relaying server "echo_server" = 2 :=
  ⟨rfl, _, rfl, _,
    ⟨[.started 0 (.ok ()), .started 1 (.ok ()),
      .accepted 0 (.ok quietConnection), .accepted 1 (.ok quietConnection),
      .dispatched 0, .dispatched 1], rfl⟩,
    by decide⟩

end TlsProxyTunnel
