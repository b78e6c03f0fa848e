/-
From the accepted configuration to the proxies that listen.

The builder runs in three passes: one proxy with a semaphore of its own for
each address that parses, a metrics entry for each proxy, and one upstream map
with the metrics in place that every proxy shares.
-/

import TlsProxyTunnel.Config

namespace TlsProxyTunnel

structure AddrText where
  parse : String → Option SocketAddr
  display : SocketAddr → String

/-- `Semaphore::MAX_PERMITS`, `usize::MAX >> 3`; creating a semaphore with
more permits panics. -/
def Semaphore.maxPermits : Nat := 2 ^ 61 - 1

structure Proxy where
  name : String
  listen : SocketAddr
  protocol : String
  tls : Bool
  sni : Option (HashMap SniTarget)
  defaultAction : String
  upstream : HashMap Upstream
  via : ViaUpstream
  maxclients : Semaphore
  maxclientsLimit : Nat

def Proxy.isHealthServer (proxy : Proxy) : Bool :=
  match proxy.upstream.lookup proxy.defaultAction with
  | some (.health _) => true
  | _ => false

structure Server where
  proxies : List Proxy

structure Listening where
  name : String
  config : ServerConfig
  address : SocketAddr

/-- An address that does not parse is logged and passed over. -/
def listenings (text : AddrText) (servers : HashMap ServerConfig) :
    List Listening :=
  servers.entries.flatMap (fun entry =>
    (entry.2.listen.filterMap text.parse).map (fun address =>
      { name := entry.1, config := entry.2, address := address }))

/-- The proxy pushed at position `index`.  The upstream map is the placeholder
of the first pass. -/
def Listening.toProxy (listening : Listening) (index : Nat) : Proxy :=
  { name := listening.name
    listen := listening.address
    protocol := listening.config.protocol.getD "tcp"
    tls := listening.config.tls.getD false
    sni := listening.config.sni
    defaultAction := listening.config.default.getD "ban"
    upstream := ∅
    via := listening.config.via
    maxclients := ⟨index⟩
    maxclientsLimit := listening.config.maxclients }

def rawProxies (text : AddrText) (servers : HashMap ServerConfig) : List Proxy :=
  (listenings text servers).mapIdx (fun index listening =>
    listening.toProxy index)

def metricsOf (text : AddrText) (proxies : List Proxy) : Metrics :=
  proxies.map (fun proxy =>
    { name := proxy.name
      listen := text.display proxy.listen
      maxclientsLimit := proxy.maxclientsLimit
      semaphore := proxy.maxclients })

def injectMetrics (metrics : Metrics) : Upstream → Upstream
  | .health _ => .health metrics
  | upstream => upstream

def sharedUpstream (text : AddrText) (config : ParsedConfig) : HashMap Upstream :=
  HashMap.mapValues
    (injectMetrics (metricsOf text (rawProxies text config.servers)))
    config.upstream

/-- `From<ParsedConfig>`; `none` is the panic of a semaphore that would hold
more permits than one can. -/
def Server.fromParsedConfig (text : AddrText) (config : ParsedConfig) :
    Option Server :=
  let raw := rawProxies text config.servers
  if raw.all (fun proxy => proxy.maxclientsLimit ≤ Semaphore.maxPermits) then
    some
      { proxies := raw.map (fun proxy =>
          { proxy with upstream := sharedUpstream text config }) }
  else
    none

theorem listenings_mem (text : AddrText) (servers : HashMap ServerConfig)
    (listening : Listening) (member : listening ∈ listenings text servers) :
    (⟨listening.name, listening.config⟩ :
      Sigma fun _ : String => ServerConfig) ∈ servers.entries := by
  obtain ⟨entry, stored, addressed⟩ := List.mem_flatMap.mp member
  obtain ⟨address, _, rfl⟩ := List.mem_map.mp addressed
  exact stored

@[simp] theorem injectMetrics_isHealth (metrics : Metrics) (upstream : Upstream) :
    (injectMetrics metrics upstream).isHealth = upstream.isHealth := by
  cases upstream <;> rfl

theorem Server.fromParsedConfig_getElem? (text : AddrText) (config : ParsedConfig)
    (server : Server) (built : Server.fromParsedConfig text config = some server)
    (index : Nat) :
    server.proxies[index]? =
      (listenings text config.servers)[index]?.map (fun listening =>
        { listening.toProxy index with
          upstream := sharedUpstream text config }) := by
  simp only [Server.fromParsedConfig] at built
  split at built
  · cases built
    simp only [rawProxies, List.getElem?_map, List.getElem?_mapIdx,
      Option.map_map]
    rfl
  · cases built

theorem Server.fromParsedConfig_mem (text : AddrText) (config : ParsedConfig)
    (server : Server) (built : Server.fromParsedConfig text config = some server)
    (proxy : Proxy) (member : proxy ∈ server.proxies) :
    ∃ listening index, listening.config ∈ HashMap.values config.servers ∧
      proxy =
        { Listening.toProxy listening index with
          upstream := sharedUpstream text config } := by
  obtain ⟨index, at_⟩ := List.mem_iff_getElem?.mp member
  rw [Server.fromParsedConfig_getElem? text config server built,
    Option.map_eq_some_iff] at at_
  obtain ⟨listening, inside, rfl⟩ := at_
  have stored := listenings_mem text config.servers listening
    (List.mem_of_getElem? inside)
  exact ⟨listening, index, List.mem_map_of_mem stored, rfl⟩

end TlsProxyTunnel
