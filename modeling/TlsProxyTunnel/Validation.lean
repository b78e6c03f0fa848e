/-
What a validated configuration promises the router.

The loader, the validation, the builder and the router each decide for
themselves when the SNI map counts and what a missing default means.  They
agree: whatever names a client presents, the upstream they lead to is there.
-/

import TlsProxyTunnel.Loader
import TlsProxyTunnel.Routing
import TlsProxyTunnel.Exemption

namespace TlsProxyTunnel

def ProxyToUpstream.KnownProtocol (upstream : ProxyToUpstream) : Prop :=
  upstream.protocol = "tcp" ∨ upstream.protocol = "tcp4" ∨
    upstream.protocol = "tcp6"

theorem ProxyToUpstream.tryFrom_known (parseUrl : String → Option Url)
    (value : String) (upstream : ProxyToUpstream)
    (created : ProxyToUpstream.tryFrom parseUrl value = .ok upstream) :
    upstream.KnownProtocol := by
  obtain ⟨url, address, _, known, rfl⟩ :=
    ProxyToUpstream.tryFrom_ok parseUrl value upstream created
  exact known

/-- The default action of a server that names none is there, and every upstream
proxy speaks a known protocol. -/
structure UpstreamsSound (upstream : HashMap Upstream) : Prop where
  ban : (upstream.lookup "ban").isSome = true
  protocols :
    ∀ key config, upstream.lookup key = some (.proxy config) →
      config.KnownProtocol

theorem builtinUpstreams_sound : UpstreamsSound builtinUpstreams := by
  refine ⟨rfl, fun key config found => ?_⟩
  have entries : builtinUpstreams.entries =
      [⟨"health", .health []⟩, ⟨"echo", .echo⟩, ⟨"ban", .ban⟩] := rfl
  have member := AList.mem_lookup_iff.mp found
  simp [entries] at member

theorem UpstreamsSound.insert {upstream : HashMap Upstream}
    (sound : UpstreamsSound upstream) (name : String) (proxy : ProxyToUpstream)
    (known : proxy.KnownProtocol) :
    UpstreamsSound (upstream.insert name (.proxy proxy)) := by
  constructor
  · by_cases same : "ban" = name
    · subst same
      simp
    · rw [AList.lookup_insert_ne same]
      exact sound.ban
  · intro key config found
    by_cases same : key = name
    · subst same
      rw [AList.lookup_insert, Option.some.injEq, Upstream.proxy.injEq] at found
      exact found ▸ known
    · rw [AList.lookup_insert_ne same] at found
      exact sound.protocols key config found

theorem insertUpstreams_sound (parseUrl : String → Option Url)
    (entries : List (Sigma fun _ : String => String))
    (upstream result : HashMap Upstream) (sound : UpstreamsSound upstream)
    (inserted : insertUpstreams parseUrl upstream entries = .ok result) :
    UpstreamsSound result := by
  induction entries generalizing upstream with
  | nil =>
      rw [insertUpstreams, Except.ok.injEq] at inserted
      exact inserted ▸ sound
  | cons entry rest ih =>
      obtain ⟨name, url⟩ := entry
      rw [insertUpstreams] at inserted
      split at inserted
      · cases inserted
      · rename_i proxy created
        exact ih _ (sound.insert name proxy
          (ProxyToUpstream.tryFrom_known parseUrl url proxy created)) inserted

theorem checkUsed_ok (upstream : HashMap Upstream) (names : List String)
    (checked : checkUsed upstream names = .ok ()) (name : String)
    (member : name ∈ names) : (upstream.lookup name).isSome = true := by
  induction names with
  | nil => cases member
  | cons key rest ih =>
      rw [checkUsed] at checked
      split at checked
      · rename_i found
        rcases List.mem_cons.mp member with same | later
        · rw [same, found]
          rfl
        · exact ih checked later
      · cases checked

theorem mem_foldl_insert (names used : List String) (name : String)
    (member : name ∈ used ∨ name ∈ names) :
    name ∈ names.foldl (fun names name => names.insert name) used := by
  induction names generalizing used with
  | nil => simpa using member
  | cons first rest ih =>
      refine ih (used.insert first) ?_
      rw [List.mem_insert_iff]
      rcases member with earlier | named
      · exact Or.inl (Or.inr earlier)
      · rcases List.mem_cons.mp named with same | later
        · exact Or.inl (Or.inl same)
        · exact Or.inr later

theorem verifyServers_ok (hashOrder : List String → List String)
    (iterates : ∀ names name, name ∈ names → name ∈ hashOrder names)
    (upstream : HashMap Upstream) (servers : List ServerConfig)
    (seen used : List String)
    (verified : verifyServers hashOrder upstream seen used servers = .ok ())
    (server : ServerConfig) (member : server ∈ servers) (name : String)
    (named : name ∈ namedUpstreams server) :
    (upstream.lookup name).isSome = true := by
  induction servers generalizing seen used with
  | nil => cases member
  | cons first rest ih =>
      rw [verifyServers] at verified
      split at verified
      · cases verified
      · dsimp only at verified
        split at verified
        · cases verified
        · rename_i checked
          rcases List.mem_cons.mp member with same | later
          · subst same
            exact checkUsed_ok upstream _ checked name
              (iterates _ name (mem_foldl_insert _ used name (Or.inr named)))
          · exact ih _ _ verified later

theorem loadConfig_ok (parseUrl : String → Option Url)
    (hashOrder : List String → List String) (base : BaseConfig)
    (config : ParsedConfig)
    (loaded : loadConfig parseUrl hashOrder base = .ok config) :
    UpstreamsSound config.upstream ∧
      verifyServers hashOrder config.upstream [] []
        (HashMap.values config.servers) = .ok () := by
  unfold loadConfig at loaded
  split at loaded
  · cases loaded
  dsimp only at loaded
  split at loaded
  · cases loaded
  split at loaded
  · cases loaded
  rename_i upstream inserted
  rw [verifyConfig] at loaded
  split at loaded
  · rename_i verified
    cases loaded
    exact ⟨insertUpstreams_sound parseUrl _ _ _ builtinUpstreams_sound inserted,
      verified⟩
  · cases loaded

/-! ### Routes -/

structure RoutesSound (config : ParsedConfig) (entry : ServerConfig) : Prop where
  default : (config.upstream.lookup (entry.default.getD "ban")).isSome = true
  mapped :
    ∀ sniMap sni target, entry.tls.getD false = true →
      entry.sni = some sniMap → sniMap.lookup sni = some target →
      (config.upstream.lookup target.upstreamName).isSome = true

theorem routesSound_of_verified (hashOrder : List String → List String)
    (iterates : ∀ names name, name ∈ names → name ∈ hashOrder names)
    (config : ParsedConfig) (sound : UpstreamsSound config.upstream)
    (verified : verifyServers hashOrder config.upstream [] []
      (HashMap.values config.servers) = .ok ())
    (entry : ServerConfig) (member : entry ∈ HashMap.values config.servers) :
    RoutesSound config entry := by
  have named := verifyServers_ok hashOrder iterates config.upstream
    (HashMap.values config.servers) [] [] verified entry member
  constructor
  · cases default : entry.default with
    | none => exact sound.ban
    | some name => exact named name (by simp [namedUpstreams, default])
  · intro sniMap sni target tls mapped found
    have value : target ∈ HashMap.values sniMap :=
      List.mem_map.mpr ⟨⟨sni, target⟩, AList.mem_lookup_iff.mp found, rfl⟩
    refine named target.upstreamName ?_
    rw [namedUpstreams, if_pos tls, mapped]
    exact List.mem_append_left _ (List.mem_map_of_mem value)

variable (text : AddrText) (config : ParsedConfig) (server : Server)

theorem sharedUpstream_isSome (key : String) :
    ((sharedUpstream text config).lookup key).isSome =
      (config.upstream.lookup key).isSome := by
  rw [sharedUpstream, HashMap.lookup_mapValues, Option.isSome_map]

theorem sharedUpstream_proxy (key : String) (upstream : ProxyToUpstream)
    (found : (sharedUpstream text config).lookup key = some (.proxy upstream)) :
    config.upstream.lookup key = some (.proxy upstream) := by
  rw [sharedUpstream, HashMap.lookup_mapValues, Option.map_eq_some_iff] at found
  obtain ⟨stored, lookup, injected⟩ := found
  rw [lookup]
  cases stored <;> cases injected
  rfl

theorem connectUpstream_known (upstream : ProxyToUpstream)
    (known : upstream.KnownProtocol) (addresses : UpstreamAddress)
    (timeout : Duration) (dial : Dial) :
    connectUpstream addresses upstream.protocol timeout dial ≠
      .error unknownProtocol := by
  have listed : upstream.protocol = "tcp4" ∨ upstream.protocol = "tcp6" ∨
      upstream.protocol = "tcp" := by
    rcases known with tcp | tcp4 | tcp6
    · exact Or.inr (Or.inr tcp)
    · exact Or.inl tcp4
    · exact Or.inr (Or.inl tcp6)
  intro failed
  rw [connectUpstream, if_pos listed] at failed
  split at failed
  · cases failed
  · split at failed
    · split at failed <;> cases failed
    · cases failed

/-- The names accepted from a client lead to an upstream that is there, without
a fallback and without an error; and no upstream proxy has a protocol that
connecting to it would refuse. -/
structure Proxy.RoutesWithin (proxy : Proxy) : Prop where
  found :
    ∀ snis : List String, (proxy.tls = false → snis = []) →
      ∃ upstream,
        proxy.upstream.lookup (proxy.choose snis).upstreamName =
            some upstream ∧
          proxy.selectUpstream (proxy.choose snis).upstreamName = .ok upstream
  known :
    ∀ key upstream, proxy.upstream.lookup key = some (.proxy upstream) →
      upstream.KnownProtocol ∧
        ∀ addresses timeout dial,
          connectUpstream addresses upstream.protocol timeout dial ≠
            .error unknownProtocol

theorem loaded_routes_within (parseUrl : String → Option Url)
    (hashOrder : List String → List String)
    (iterates : ∀ names name, name ∈ names → name ∈ hashOrder names)
    (base : BaseConfig)
    (loaded : loadConfig parseUrl hashOrder base = .ok config)
    (built : Server.fromParsedConfig text config = some server) (proxy : Proxy)
    (member : proxy ∈ server.proxies) : proxy.RoutesWithin := by
  obtain ⟨sound, verified⟩ := loadConfig_ok parseUrl hashOrder base config loaded
  obtain ⟨listening, index, entry, rfl⟩ :=
    Server.fromParsedConfig_mem text config server built proxy member
  have routes := routesSound_of_verified hashOrder iterates config sound verified
    listening.config entry
  constructor
  · intro snis presented
    have key : ((sharedUpstream text config).lookup
        (Proxy.choose
          { Listening.toProxy listening index with
            upstream := sharedUpstream text config } snis).upstreamName).isSome =
          true := by
      rw [sharedUpstream_isSome, Proxy.choose]
      rcases Proxy.route_cases
          { Listening.toProxy listening index with
            upstream := sharedUpstream text config } snis with
        ⟨sniMap, sni, target, mapped, first⟩ | default
      · rw [Proxy.route_of_firstMatch _ sniMap snis sni target mapped first]
        obtain ⟨_, _, _, _, lookup⟩ := id first
        refine routes.mapped sniMap sni target ?_ mapped lookup
        -- Names are only there where `tls` is on.
        by_contra off
        exact first.ne_nil (presented (Bool.eq_false_of_not_eq_true off))
      · rw [default]
        exact routes.default
    obtain ⟨upstream, lookup⟩ := Option.isSome_iff_exists.mp key
    refine ⟨upstream, lookup, ?_⟩
    rw [Proxy.selectUpstream]
    dsimp only
    rw [lookup]
  · intro key upstream found
    have known := sound.protocols key upstream
      (sharedUpstream_proxy text config key upstream found)
    exact ⟨known, connectUpstream_known upstream known⟩

def echoProxyBase : BaseConfig :=
  { version := 2
    log := none
    logFormat := some "json"
    servers := AList.singleton "echo_server"
      (loopbackServer ["127.0.0.1:9001"]
        (some (AList.singleton "www.example.org" (.simple "ban"))))
    upstream := AList.singleton "echo" "tcp4://proxy.internal:3128"
    via := ViaUpstream.default }

theorem loaded_routes_within_of_echoProxy :
    ∃ config server proxy,
      loadConfig parseExampleUrl id echoProxyBase = .ok config ∧
      Server.fromParsedConfig AddrText.std config = some server ∧
      server.proxies = [proxy] ∧ proxy.RoutesWithin := by
  refine ⟨_, _, _, rfl, rfl, rfl, ?_⟩
  exact loaded_routes_within AddrText.std _ _ parseExampleUrl id
    (fun _ _ member => member) echoProxyBase rfl rfl _ List.mem_cons_self

end TlsProxyTunnel
