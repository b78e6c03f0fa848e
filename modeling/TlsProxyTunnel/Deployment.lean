/-
What a configuration file means, and that the server does that.

The meaning is given without loader, builder or router: relations between the
texts of the file and what a client is to be given, in which no order of a map
occurs.
-/

import TlsProxyTunnel.Live
import TlsProxyTunnel.Loading

namespace TlsProxyTunnel

open Transition

/-- What a client is given in the end: nothing, its own bytes, a word about the
server, or a connection to an address. -/
inductive Destination where
  | closed
  | echoed
  | health
  | forwarded (address protocol : String)
  deriving DecidableEq

def builtinDestinations : List (String × Destination) :=
  [("ban", .closed), ("echo", .echoed), ("health", .health)]

/-- Where a name of an upstream leads.  A name that is configured hides the one
that would be there without. -/
inductive BaseConfig.Leads (parseUrl : String → Option Url)
    (base : BaseConfig) (name : String) : Destination → Prop where
  | configured (url host : String) (port : UInt16) (parsed : Url)
      (written : base.upstream.lookup name = some url)
      (known : parseUrl url = some parsed)
      (hosted : parsed.hostStr = some host)
      (ported : parsed.portOrKnownDefault = some port) :
      Leads parseUrl base name
        (.forwarded (host ++ ":" ++ toString port.toNat) parsed.scheme)
  | builtin (destination : Destination)
      (unwritten : base.upstream.lookup name = none)
      (there : builtinDestinations.lookup name = some destination) :
      Leads parseUrl base name destination

/-- The names a server is shown: only where `tls` is on does it look. -/
def ServerConfig.presented (entry : ServerConfig) (parser : TlsParser)
    (peeked : Bytes) : List String :=
  if entry.tls = some true then parser.getSni (helloBuffer peeked) else []

inductive ServerConfig.Prescribes (entry : ServerConfig)
    (names : List String) : String → ViaUpstream → Prop where
  | mapped (sniMap : HashMap SniTarget) (name : String) (target : SniTarget)
      (written : entry.sni = some sniMap)
      (first : FirstMatch sniMap names name target) :
      Prescribes entry names target.upstreamName
        (target.viaOverride.getD entry.via)
  | default
      (unmapped : ∀ sniMap name, entry.sni = some sniMap → name ∈ names →
        sniMap.lookup name = none) :
      Prescribes entry names (entry.default.getD "ban") entry.via

theorem BaseConfig.Leads.unique {parseUrl : String → Option Url}
    {base : BaseConfig} {name : String} {left right : Destination}
    (leftLeads : base.Leads parseUrl name left)
    (rightLeads : base.Leads parseUrl name right) : left = right := by
  cases leftLeads with
  | configured url host port parsed written known hosted ported =>
      cases rightLeads with
      | configured _ _ _ _ otherWritten otherKnown otherHosted otherPorted =>
          obtain rfl := Option.some.inj (written.symm.trans otherWritten)
          obtain rfl := Option.some.inj (known.symm.trans otherKnown)
          obtain rfl := Option.some.inj (hosted.symm.trans otherHosted)
          obtain rfl := Option.some.inj (ported.symm.trans otherPorted)
          rfl
      | builtin _ unwritten =>
          rw [written] at unwritten
          cases unwritten
  | builtin _ unwritten there =>
      cases rightLeads with
      | configured _ _ _ _ written =>
          rw [written] at unwritten
          cases unwritten
      | builtin _ _ otherThere =>
          exact Option.some.inj (there.symm.trans otherThere)

/-- The name that comes first decides, so there is one prescription. -/
theorem ServerConfig.Prescribes.unique {entry : ServerConfig}
    {names : List String} {left right : String} {leftVia rightVia : ViaUpstream}
    (leftIs : entry.Prescribes names left leftVia)
    (rightIs : entry.Prescribes names right rightVia) :
    left = right ∧ leftVia = rightVia := by
  cases leftIs with
  | mapped sniMap name target written first =>
      cases rightIs with
      | mapped other otherName otherTarget otherWritten otherFirst =>
          obtain rfl := Option.some.inj (written.symm.trans otherWritten)
          have one := matchSni_of_firstMatch sniMap "ban" names name target first
          rw [matchSni_of_firstMatch sniMap "ban" names otherName otherTarget
            otherFirst, Prod.mk.injEq] at one
          exact ⟨one.1.symm, by rw [one.2]⟩
      | default unmapped =>
          obtain ⟨before, after, rfl, _, found⟩ := first
          rw [unmapped sniMap name written (by simp)] at found
          cases found
  | default unmapped =>
      cases rightIs with
      | mapped sniMap name target written first =>
          obtain ⟨before, after, rfl, _, found⟩ := first
          rw [unmapped sniMap name written (by simp)] at found
          cases found
      | default => exact ⟨rfl, rfl⟩

def Upstream.destination : Upstream → Destination
  | .ban => .closed
  | .echo => .echoed
  | .health _ => .health
  | .proxy config => .forwarded config.addr config.protocol

@[simp] theorem injectMetrics_destination (metrics : Metrics)
    (upstream : Upstream) :
    (injectMetrics metrics upstream).destination = upstream.destination := by
  cases upstream <;> rfl

variable {parseUrl : String → Option Url} {base : BaseConfig}
  {config : ParsedConfig} {text : AddrText} {server : Server}

theorem leads_of_builtin (name : String) (upstream : Upstream)
    (unwritten : base.upstream.lookup name = none)
    (found : builtinUpstreams.lookup name = some upstream) :
    base.Leads parseUrl name upstream.destination ∧
      ∀ proxy, upstream ≠ .proxy proxy := by
  have entries : builtinUpstreams.entries =
      [⟨"health", .health []⟩, ⟨"echo", .echo⟩, ⟨"ban", .ban⟩] := rfl
  have member := AList.mem_lookup_iff.mp found
  rw [entries] at member
  simp only [List.mem_cons, List.not_mem_nil, or_false, Sigma.mk.injEq,
    heq_eq_eq] at member
  rcases member with ⟨rfl, rfl⟩ | ⟨rfl, rfl⟩ | ⟨rfl, rfl⟩
  · exact ⟨.builtin _ unwritten rfl, nofun⟩
  · exact ⟨.builtin _ unwritten rfl, nofun⟩
  · exact ⟨.builtin _ unwritten rfl, nofun⟩

theorem Loaded.leads (loaded : Loaded parseUrl base config) (name : String)
    (upstream : Upstream) (found : config.upstream.lookup name = some upstream) :
    base.Leads parseUrl name upstream.destination ∧
      ∀ proxy, upstream = .proxy proxy →
        proxy.addresses.address = proxy.addr := by
  cases written : base.upstream.lookup name with
  | some url =>
      obtain ⟨parsed, host, port, known, hosted, ported, built⟩ :=
        loaded.configured name url written
      rw [found, Option.some.injEq] at built
      subst built
      refine ⟨.configured url host port parsed written known hosted ported,
        fun proxy same => ?_⟩
      obtain rfl := Upstream.proxy.inj same
      rfl
  | none =>
      rw [loaded.builtin name written] at found
      have there : base.Leads parseUrl name upstream.destination ∧ _ :=
        leads_of_builtin name upstream written found
      exact ⟨there.1, fun proxy same => absurd same (there.2 proxy)⟩

theorem Loaded.shared_leads (loaded : Loaded parseUrl base config)
    (name : String) (upstream : Upstream)
    (found : (sharedUpstream text config).lookup name = some upstream) :
    base.Leads parseUrl name upstream.destination ∧
      ∀ proxy, upstream = .proxy proxy →
        proxy.addresses.address = proxy.addr := by
  rw [sharedUpstream, HashMap.lookup_mapValues, Option.map_eq_some_iff] at found
  obtain ⟨stored, lookup, rfl⟩ := found
  obtain ⟨leads, own⟩ := loaded.leads name stored lookup
  refine ⟨by rwa [injectMetrics_destination], fun proxy same => ?_⟩
  refine own proxy ?_
  cases stored <;> cases same
  rfl

/-! ### Routes as they are taken -/

structure Proxy.BuiltFrom (proxy : Proxy) (entry : ServerConfig) : Prop where
  tls : proxy.tls = entry.tls.getD false
  sni : proxy.sni = entry.sni
  default : proxy.defaultAction = entry.default.getD "ban"
  via : proxy.via = entry.via
  protocol : proxy.protocol = entry.protocol.getD "tcp"
  limit : proxy.maxclientsLimit = entry.maxclients

theorem Server.fromParsedConfig_entry
    (built : Server.fromParsedConfig text config = some server)
    (proxy : Proxy) (member : proxy ∈ server.proxies) :
    ∃ entry, config.servers.lookup proxy.name = some entry ∧
      proxy.BuiltFrom entry ∧ proxy.upstream = sharedUpstream text config := by
  obtain ⟨index, there⟩ := List.mem_iff_getElem?.mp member
  rw [Server.fromParsedConfig_getElem? text config server built,
    Option.map_eq_some_iff] at there
  obtain ⟨listening, inside, rfl⟩ := there
  have stored := listenings_mem text config.servers listening
    (List.mem_of_getElem? inside)
  exact ⟨listening.config, AList.mem_lookup_iff.mpr stored,
    ⟨rfl, rfl, rfl, rfl, rfl, rfl⟩, rfl⟩

variable {proxy : Proxy} {entry : ServerConfig}

theorem Proxy.BuiltFrom.snis (same : proxy.BuiltFrom entry)
    (parser : TlsParser) (peeked : Bytes) :
    proxy.snis parser peeked = entry.presented parser peeked := by
  rw [Proxy.snis, ServerConfig.presented, same.tls]
  cases entry.tls with
  | none => rfl
  | some tls => cases tls <;> rfl

theorem Proxy.BuiltFrom.tls_iff (same : proxy.BuiltFrom entry) :
    proxy.tls = true ↔ entry.tls = some true := by
  rw [same.tls]
  cases entry.tls <;> simp

theorem Proxy.BuiltFrom.prescribed (same : proxy.BuiltFrom entry)
    (names : List String) :
    entry.Prescribes names (proxy.choose names).upstreamName
      (proxy.choose names).via := by
  rw [Proxy.choose, Proxy.effectiveVia]
  cases written : entry.sni with
  | none =>
      have default : proxy.route names = (proxy.defaultAction, none) := by
        rcases proxy.route_cases names with ⟨sniMap, _, _, mapped, _⟩ | default
        · rw [same.sni, written] at mapped
          cases mapped
        · exact default
      rw [default, same.default, same.via]
      refine .default (fun sniMap name mapped => ?_)
      rw [written] at mapped
      cases mapped
  | some sniMap =>
      have mapped : proxy.sni = some sniMap := same.sni.trans written
      rcases matchSni_cases sniMap proxy.defaultAction names with
        ⟨name, target, first⟩ | ⟨unmapped, default⟩
      · rw [proxy.route_of_firstMatch sniMap names name target mapped first,
          same.via]
        exact .mapped sniMap name target written first
      · have route : proxy.route names = (proxy.defaultAction, none) := by
          rw [Proxy.route, mapped]
          dsimp only
          rw [default, ite_self]
        rw [route, same.default, same.via]
        refine .default (fun other name mapped member => ?_)
        obtain rfl := Option.some.inj (written.symm.trans mapped)
        exact unmapped name member

theorem ServerConfig.Prescribes.there {parser : TlsParser} {peeked : Bytes}
    {name : String} {via : ViaUpstream}
    (prescribed : entry.Prescribes (entry.presented parser peeked) name via)
    (routes : RoutesSound config entry) :
    (config.upstream.lookup name).isSome = true := by
  cases prescribed with
  | mapped sniMap name target written first =>
      have tls : entry.tls = some true := by
        by_contra off
        refine first.ne_nil ?_
        rw [ServerConfig.presented, if_neg off]
      obtain ⟨_, _, _, _, found⟩ := first
      exact routes.mapped sniMap name target (by rw [tls]; rfl) written found
  | default => exact routes.default

/-- What a listener does for a client is what the entry prescribes for the names
of this client: nothing else is chosen, the choice is made wherever the bytes
can be read, and only the socket can fail it. -/
structure Proxy.Follows (proxy : Proxy) (parseUrl : String → Option Url)
    (base : BaseConfig) (entry : ServerConfig) (parser : TlsParser) :
    Prop where
  protocol : proxy.protocol = entry.protocol.getD "tcp"
  limit : proxy.maxclientsLimit = entry.maxclients
  served :
    ∀ peerAddr peek upstream dispatch,
      proxy.accept parser peerAddr peek = .ok (upstream, dispatch) →
      ∃ peeked, (entry.tls = some true → peek = .ok peeked) ∧
        entry.Prescribes (entry.presented parser peeked)
          dispatch.upstreamName dispatch.via ∧
        base.Leads parseUrl dispatch.upstreamName upstream.destination ∧
        dispatch.connectTarget =
          dispatch.via.connectTarget (entry.presented parser peeked)
  chosen :
    ∀ peeked name via destination,
      entry.Prescribes (entry.presented parser peeked) name via →
      base.Leads parseUrl name destination →
      ∃ upstream, upstream.destination = destination ∧
        proxy.accept parser (.ok ()) (.ok peeked) =
          .ok (upstream,
            { upstreamName := name
              via := via
              connectTarget :=
                via.connectTarget (entry.presented parser peeked) })
  failed :
    ∀ peerAddr peek error,
      proxy.accept parser peerAddr peek = .error error →
      ∃ reported, error = .io reported ∧
        (peerAddr = .error reported ∨
          entry.tls = some true ∧ peek = .error reported)

theorem Proxy.choose_connectTarget (proxy : Proxy) (names : List String) :
    (proxy.choose names).connectTarget =
      (proxy.choose names).via.connectTarget names := rfl

theorem Proxy.selectUpstream_of_lookup (proxy : Proxy) (name : String)
    (upstream : Upstream) (found : proxy.upstream.lookup name = some upstream) :
    proxy.selectUpstream name = .ok upstream := by
  rw [Proxy.selectUpstream, found]

section Follows

variable (same : proxy.BuiltFrom entry)
  (shared : proxy.upstream = sharedUpstream text config)
  (routes : RoutesSound config entry) (parser : TlsParser)

include same shared routes

theorem Proxy.chosen_there (peeked : Bytes) :
    ∃ upstream,
      (sharedUpstream text config).lookup
          (proxy.choose (proxy.snis parser peeked)).upstreamName =
        some upstream ∧
      proxy.selectUpstream
          (proxy.choose (proxy.snis parser peeked)).upstreamName =
        .ok upstream := by
  have prescribed := same.prescribed (proxy.snis parser peeked)
  rw [same.snis parser peeked] at prescribed ⊢
  have there := prescribed.there routes
  rw [← sharedUpstream_isSome text] at there
  obtain ⟨upstream, found⟩ := Option.isSome_iff_exists.mp there
  exact ⟨upstream, found,
    proxy.selectUpstream_of_lookup _ upstream (by rw [shared, found])⟩

theorem Proxy.accept_served (loaded : Loaded parseUrl base config)
    (peerAddr : Except IoError Unit) (peek : Except IoError Bytes)
    (upstream : Upstream) (dispatch : Dispatch)
    (accepted : proxy.accept parser peerAddr peek =
      .ok (upstream, dispatch)) :
    ∃ peeked, (entry.tls = some true → peek = .ok peeked) ∧
      entry.Prescribes (entry.presented parser peeked)
        dispatch.upstreamName dispatch.via ∧
      base.Leads parseUrl dispatch.upstreamName upstream.destination ∧
      (∀ config, upstream = .proxy config →
        config.addresses.address = config.addr) ∧
      dispatch.connectTarget =
        dispatch.via.connectTarget (entry.presented parser peeked) := by
  obtain ⟨_, peeked, withTls, _, rfl, selected⟩ :=
    (proxy.accept_ok_iff parser peerAddr peek upstream dispatch).mp accepted
  obtain ⟨there, found, chosen⟩ :=
    Proxy.chosen_there same shared routes parser peeked
  rw [selected, Except.ok.injEq] at chosen
  subst chosen
  obtain ⟨leads, own⟩ := loaded.shared_leads _ upstream found
  refine ⟨peeked, fun tls => withTls (same.tls_iff.mpr tls), ?_, leads, own, ?_⟩
  · rw [← same.snis parser peeked]
    exact same.prescribed _
  · rw [← same.snis parser peeked]
    exact proxy.choose_connectTarget _

theorem Proxy.accept_chosen (loaded : Loaded parseUrl base config)
    (peeked : Bytes) (name : String) (via : ViaUpstream)
    (destination : Destination)
    (prescribed : entry.Prescribes (entry.presented parser peeked) name via)
    (leads : base.Leads parseUrl name destination) :
    ∃ upstream, upstream.destination = destination ∧
      proxy.accept parser (.ok ()) (.ok peeked) =
        .ok (upstream,
          { upstreamName := name
            via := via
            connectTarget :=
              via.connectTarget (entry.presented parser peeked) }) := by
  obtain ⟨upstream, found, selected⟩ :=
    Proxy.chosen_there same shared routes parser peeked
  have taken := same.prescribed (proxy.snis parser peeked)
  rw [same.snis parser peeked] at taken found selected
  obtain ⟨rfl, rfl⟩ := prescribed.unique taken
  refine ⟨upstream, (loaded.shared_leads _ upstream found).1.unique leads, ?_⟩
  rw [proxy.accept_ok_iff]
  refine ⟨Or.inr rfl, ?_⟩
  cases tls : proxy.tls with
  | true =>
      exact ⟨peeked, fun _ => rfl, fun off => absurd off (by decide),
        by rw [same.snis]; rfl, selected⟩
  | false =>
      have nameless : proxy.snis parser [] = entry.presented parser peeked := by
        rw [← same.snis, Proxy.snis, Proxy.snis, tls]
        rfl
      exact ⟨[], fun on => absurd on (by decide), fun _ => rfl,
        by rw [nameless]; rfl, selected⟩

theorem Proxy.accept_failed (peerAddr : Except IoError Unit)
    (peek : Except IoError Bytes) (error : BoxError)
    (refused : proxy.accept parser peerAddr peek = .error error) :
    ∃ reported, error = .io reported ∧
      (peerAddr = .error reported ∨
        entry.tls = some true ∧ peek = .error reported) := by
  unfold Proxy.accept at refused
  split at refused
  · rename_i reported looked
    cases refused
    refine ⟨reported, rfl, Or.inl ?_⟩
    split at looked
    · cases looked
    · exact looked
  split at refused
  · rename_i reported looked
    cases refused
    refine ⟨reported, rfl, Or.inr ?_⟩
    split at looked
    · rename_i tls
      exact ⟨same.tls_iff.mp tls, looked⟩
    · cases looked
  · rename_i peeked looked
    obtain ⟨upstream, _, selected⟩ :=
      Proxy.chosen_there same shared routes parser peeked
    simp only [selected] at refused
    cases refused

end Follows

def BaseConfig.listeners (base : BaseConfig) (text : AddrText) (name : String)
    (address : SocketAddr) : Nat :=
  match base.servers.lookup name with
  | some entry => (entry.listen.filterMap text.parse).count address
  | none => 0

theorem countP_listenings (text : AddrText)
    (entries : List (Sigma fun _ : String => ServerConfig))
    (distinct : entries.NodupKeys) (name : String) (address : SocketAddr) :
    (entries.flatMap (fun entry =>
      (entry.2.listen.filterMap text.parse).map (fun address =>
        (⟨entry.1, entry.2, address⟩ : Listening)))).countP
        (fun listening =>
          listening.name = name ∧ listening.address = address) =
      match entries.dlookup name with
      | some entry => (entry.listen.filterMap text.parse).count address
      | none => 0 := by
  induction entries with
  | nil => rfl
  | cons entry rest ih =>
      obtain ⟨key, server⟩ := entry
      rw [List.nodupKeys_cons] at distinct
      obtain ⟨fresh, others⟩ := distinct
      rw [List.flatMap_cons, List.countP_append, ih others, List.countP_map]
      by_cases same : key = name
      · subst same
        rw [List.dlookup_cons_eq, List.dlookup_eq_none.mpr fresh, List.count]
        simp [Function.comp_def, beq_eq_decide]
      · rw [List.dlookup_cons_ne _ _ (Ne.symm same)]
        simp [Function.comp_def, same]

theorem Server.fromParsedConfig_count
    (built : Server.fromParsedConfig text config = some server)
    (same : config.servers = base.servers) (name : String)
    (address : SocketAddr) :
    server.proxies.countP
        (fun proxy => proxy.name = name ∧ proxy.listen = address) =
      base.listeners text name address := by
  have pairs : server.proxies.map (fun proxy => (proxy.name, proxy.listen)) =
      (listenings text config.servers).map
        (fun listening => (listening.name, listening.address)) := by
    apply List.ext_getElem?
    intro index
    rw [List.getElem?_map, List.getElem?_map,
      Server.fromParsedConfig_getElem? text config server built, Option.map_map]
    rfl
  have counted := congrArg (List.countP (fun pair : String × SocketAddr =>
    pair.1 = name ∧ pair.2 = address)) pairs
  rw [List.countP_map, List.countP_map] at counted
  refine counted.trans ?_
  rw [BaseConfig.listeners, ← same]
  exact countP_listenings text config.servers.entries
    config.servers.nodupKeys name address

/-! ### The running server -/

/-- A session goes where the file sends its client, asks for what the file says
and carries bytes of this connection only. -/
structure LiveTask.Follows (task : LiveTask)
    (parseUrl : String → Option Url) (base : BaseConfig)
    (entry : ServerConfig) (names : List String) : Prop where
  upstream :
    ∃ name, entry.Prescribes names name task.call.via ∧
      base.Leads parseUrl name
        (.forwarded task.call.upstream.addr task.call.upstream.protocol)
  resolved : task.call.upstream.addresses.address = task.call.upstream.addr
  target : task.call.connectTarget = task.call.via.connectTarget names
  carried : task.call.InOrder task.session.observed

theorem live_follows (loaded : Loaded parseUrl base config)
    (built : Server.fromParsedConfig text config = some server)
    (routes : ∀ entry, entry ∈ HashMap.values config.servers →
      RoutesSound config entry)
    (parser : TlsParser) (runtime : Runtime) (state : LiveState)
    (reached : Reachable (liveStep server parser runtime)
      (LiveState.start server) state)
    (position : Nat) (task : LiveTask)
    (found : state.sessions[position]? = some (some task)) :
    ∃ handler proxy entry peeked,
      state.run.server.handlers[position]? = some handler ∧
      server.proxies[handler.listener]? = some proxy ∧
      base.servers.lookup proxy.name = some entry ∧
      (entry.tls = some true → handler.connection.peek = .ok peeked) ∧
      task.Follows parseUrl base entry (entry.presented parser peeked) := by
  have paired := reachable_paired server parser runtime state reached
  obtain ⟨handler, here, upstream, dispatch, meeting, processing, call,
    stepped⟩ := paired.at_position position (some task) found
  have accounted := reachable_accounted server parser state.run.server
    (reachable_server server parser state.run
      (reachable_run server parser runtime state reached))
  obtain ⟨proxy, configured, _, _, routed⟩ := accounted.handlers handler
    (List.mem_of_getElem? here)
  obtain ⟨entry, written, same, shared⟩ := Server.fromParsedConfig_entry built
    proxy (List.mem_of_getElem? configured)
  have stored : entry ∈ HashMap.values config.servers :=
    List.mem_map.mpr ⟨⟨proxy.name, entry⟩, AList.mem_lookup_iff.mp written, rfl⟩
  obtain ⟨peeked, looked, prescribed, leads, own, target⟩ :=
    Proxy.accept_served same shared (routes entry stored) parser loaded _ _ _ _
      (routed _ processing)
  have observed := task.call.observed_inOrder task.session
    (task.call.reachable_explains task.session stepped)
  refine ⟨handler, proxy, entry, peeked, here, configured,
    by rw [← loaded.servers, written], looked, ?_, ?_, ?_, observed⟩
  · rw [call]
    exact ⟨dispatch.upstreamName, prescribed, leads⟩
  · rw [call]
    exact own upstream rfl
  · rw [call]
    exact target

/-- A server that is built from a loaded file listens where the file says, on
each listener does with every client what its entry prescribes, and in every
interleaving of its connections has each of them where the file sends it. -/
theorem deployed_as_configured (parseUrl : String → Option Url)
    (hashOrder : List String → List String)
    (iterates : ∀ names name, name ∈ hashOrder names ↔ name ∈ names)
    (text : AddrText) (base : BaseConfig) (config : ParsedConfig)
    (accepted : loadConfig parseUrl hashOrder base = .ok config)
    (server : Server)
    (built : Server.fromParsedConfig text config = some server)
    (parser : TlsParser) :
    (∀ name address,
      server.proxies.countP
          (fun proxy => proxy.name = name ∧ proxy.listen = address) =
        base.listeners text name address) ∧
    (∀ proxy, proxy ∈ server.proxies →
      ∃ entry, base.servers.lookup proxy.name = some entry ∧
        proxy.Follows parseUrl base entry parser) ∧
    ∀ runtime state,
      Reachable (liveStep server parser runtime) (LiveState.start server)
        state →
      ∀ (position : Nat) task,
        state.sessions[position]? = some (some task) →
        ∃ handler proxy entry peeked,
          state.run.server.handlers[position]? = some handler ∧
          server.proxies[handler.listener]? = some proxy ∧
          base.servers.lookup proxy.name = some entry ∧
          (entry.tls = some true → handler.connection.peek = .ok peeked) ∧
          task.Follows parseUrl base entry
            (entry.presented parser peeked) := by
  obtain ⟨_, loaded⟩ := loadConfig_loaded parseUrl base hashOrder iterates
    config accepted
  obtain ⟨sound, verified⟩ := loadConfig_ok parseUrl hashOrder base config
    accepted
  have routes := routesSound_of_verified hashOrder
    (fun names name => (iterates names name).mpr) config sound verified
  refine ⟨Server.fromParsedConfig_count built loaded.servers, ?_,
    live_follows loaded built routes parser⟩
  intro proxy member
  obtain ⟨entry, written, same, shared⟩ :=
    Server.fromParsedConfig_entry built proxy member
  have sound := routes entry (List.mem_map.mpr
    ⟨⟨proxy.name, entry⟩, AList.mem_lookup_iff.mp written, rfl⟩)
  refine ⟨entry, by rw [← loaded.servers, written], same.protocol, same.limit,
    ?_, Proxy.accept_chosen same shared sound parser loaded,
    Proxy.accept_failed same shared sound parser⟩
  intro peerAddr peek upstream dispatch served
  obtain ⟨peeked, looked, prescribed, leads, _, target⟩ :=
    Proxy.accept_served same shared sound parser loaded peerAddr peek upstream
      dispatch served
  exact ⟨peeked, looked, prescribed, leads, target⟩

def forwardingBase : BaseConfig :=
  { version := 2
    log := none
    logFormat := none
    servers := AList.singleton "forward"
      { loopbackServer ["127.0.0.1:9001"] none with
        default := some "corp_proxy"
        via :=
          { ViaUpstream.default with
            connectTimeout := defaultConnectTimeout } }
    upstream := AList.singleton "corp_proxy" "tcp4://proxy.internal:3128"
    via := ViaUpstream.default }

def forwardingEvents : List LiveEvent :=
  [ .run .loopSpawned,
    .run (.task (.started 0 (.ok ()))),
    .run (.task (.accepted 0 (.ok quietConnection))),
    .dispatched 0 greetedMeeting,
    .moved 0 .advanced,
    .moved 0 (.polled .first),
    .moved 0 (.polled .first) ]

theorem deployed_as_configured_of_forwarding :
    ∃ config server state task,
      loadConfig parseExampleUrl id forwardingBase = .ok config ∧
      Server.fromParsedConfig AddrText.std config = some server ∧
      run (liveStep server TlsParser.refusing bareRuntime)
        (LiveState.start server) forwardingEvents = some state ∧
      state.sessions = [some task] ∧
      task.session.observed.forwarded = stream greetedClient.reads ∧
      ∃ handler proxy entry peeked,
        state.run.server.handlers[0]? = some handler ∧
        server.proxies[handler.listener]? = some proxy ∧
        forwardingBase.servers.lookup proxy.name = some entry ∧
        (entry.tls = some true → handler.connection.peek = .ok peeked) ∧
        task.Follows parseExampleUrl forwardingBase entry
          (entry.presented TlsParser.refusing peeked) := by
  refine ⟨_, _, _, _, rfl, rfl, rfl, rfl, rfl, ?_⟩
  exact (deployed_as_configured parseExampleUrl id
    (fun _ _ => Iff.rfl) AddrText.std forwardingBase _ rfl _ rfl
    TlsParser.refusing).2.2 bareRuntime _ ⟨forwardingEvents, rfl⟩ 0 _ rfl

end TlsProxyTunnel
