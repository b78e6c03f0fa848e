/-
What `load_config` makes of a decoded file.

It reports the first fault it meets, and which one that is depends on the order
in which maps are iterated; that there is one, and that what is reported is one,
does not.
-/

import TlsProxyTunnel.Consistency

namespace TlsProxyTunnel

variable (parseUrl : String → Option Url) (base : BaseConfig)

inductive Fault : ConfigError → Prop where
  | version (unsupported : ¬ (base.version = 1 ∨ base.version = 2)) :
      Fault (.custom ("Unsupported config version " ++ toString base.version))
  | logFormat (logFormat : String) (given : base.logFormat = some logFormat)
      (unknown : ¬ (logFormat = "txt" ∨ logFormat = "text" ∨
        logFormat = "json")) :
      Fault (.custom ("Invalid log-format '" ++ logFormat ++
        "': must be 'txt', 'text' or 'json'"))
  | url (name url : String) (configured : base.upstream.lookup name = some url)
      (unusable : ∀ parsed, parseUrl url = some parsed →
        parsed.hostStr = none ∨ parsed.portOrKnownDefault = none) :
      Fault (invalidUpstreamUrl url)
  | scheme (name url : String) (parsed : Url)
      (configured : base.upstream.lookup name = some url)
      (known : parseUrl url = some parsed)
      (unknown : ¬ (parsed.scheme = "tcp" ∨ parsed.scheme = "tcp4" ∨
        parsed.scheme = "tcp6")) :
      Fault (.custom ("Invalid upstream scheme " ++ url))
  | listen (listen : String)
      (twice : 2 ≤ ((HashMap.values base.servers).flatMap
        ServerConfig.listen).count listen) :
      Fault (.custom ("Duplicate listen address " ++ listen))
  | upstream (server : ServerConfig) (name : String)
      (member : server ∈ HashMap.values base.servers)
      (named : name ∈ namedUpstreams server)
      (unconfigured : base.upstream.lookup name = none)
      (unbuilt : builtinUpstreams.lookup name = none) :
      Fault (.custom ("Upstream " ++ name ++ " not found"))

theorem ProxyToUpstream.tryFrom_error (name value : String)
    (error : ConfigError) (configured : base.upstream.lookup name = some value)
    (refused : ProxyToUpstream.tryFrom parseUrl value = .error error) :
    Fault parseUrl base error := by
  unfold ProxyToUpstream.tryFrom at refused
  split at refused
  · rename_i unparsed
    cases refused
    refine .url name value configured (fun parsed known => ?_)
    rw [unparsed] at known
    cases known
  rename_i url parsed
  split at refused
  · rename_i hostless
    cases refused
    refine .url name value configured (fun other known => ?_)
    rw [parsed, Option.some.injEq] at known
    exact Or.inl (known ▸ hostless)
  split at refused
  · rename_i portless
    cases refused
    refine .url name value configured (fun other known => ?_)
    rw [parsed, Option.some.injEq] at known
    exact Or.inr (known ▸ portless)
  split at refused
  · cases refused
  · rename_i unknown
    cases refused
    exact .scheme name value url configured parsed unknown

theorem ProxyToUpstream.tryFrom_usable (value : String)
    (upstream : ProxyToUpstream)
    (created : ProxyToUpstream.tryFrom parseUrl value = .ok upstream) :
    ∃ url host port, parseUrl value = some url ∧ url.hostStr = some host ∧
      url.portOrKnownDefault = some port ∧
      (url.scheme = "tcp" ∨ url.scheme = "tcp4" ∨ url.scheme = "tcp6") ∧
      upstream = ProxyToUpstream.new (host ++ ":" ++ toString port.toNat)
        url.scheme := by
  unfold ProxyToUpstream.tryFrom at created
  split at created
  · cases created
  rename_i url parsed
  split at created
  · cases created
  rename_i host hosted
  split at created
  · cases created
  rename_i port ported
  split at created
  · rename_i known
    cases created
    exact ⟨url, host, port, parsed, hosted, ported, known, rfl⟩
  · cases created

def upstreamOf (value : String) : Option Upstream :=
  match ProxyToUpstream.tryFrom parseUrl value with
  | .ok proxy => some (.proxy proxy)
  | .error _ => none

/-- The map that is built: a configured name hides the one that was there. -/
theorem insertUpstreams_ok (entries : List (Sigma fun _ : String => String))
    (distinct : entries.NodupKeys) (upstream result : HashMap Upstream)
    (inserted : insertUpstreams parseUrl upstream entries = .ok result) :
    (∀ name url, entries.dlookup name = some url →
      ∃ proxy, ProxyToUpstream.tryFrom parseUrl url = .ok proxy) ∧
    ∀ name, result.lookup name =
      match entries.dlookup name with
      | some url => upstreamOf parseUrl url
      | none => upstream.lookup name := by
  induction entries generalizing upstream with
  | nil =>
      rw [insertUpstreams, Except.ok.injEq] at inserted
      subst inserted
      exact ⟨fun name url found => by simp at found, fun name => rfl⟩
  | cons entry rest ih =>
      obtain ⟨key, value⟩ := entry
      rw [List.nodupKeys_cons] at distinct
      obtain ⟨fresh, others⟩ := distinct
      rw [insertUpstreams] at inserted
      split at inserted
      · cases inserted
      rename_i proxy created
      obtain ⟨usable, built⟩ := ih others _ inserted
      refine ⟨?_, ?_⟩
      · intro name url found
        by_cases same : name = key
        · subst same
          rw [List.dlookup_cons_eq, Option.some.injEq] at found
          exact ⟨proxy, found ▸ created⟩
        · rw [List.dlookup_cons_ne _ _ same] at found
          exact usable name url found
      · intro name
        rw [built name]
        by_cases same : name = key
        · subst same
          rw [List.dlookup_cons_eq, List.dlookup_eq_none.mpr fresh]
          simp only [AList.lookup_insert, upstreamOf, created]
        · rw [List.dlookup_cons_ne _ _ same]
          cases rest.dlookup name with
          | some url => rfl
          | none => exact AList.lookup_insert_ne same

theorem insertUpstreams_error (entries : List (Sigma fun _ : String => String))
    (upstream : HashMap Upstream) (error : ConfigError)
    (refused : insertUpstreams parseUrl upstream entries = .error error) :
    ∃ name url, ⟨name, url⟩ ∈ entries ∧
      ProxyToUpstream.tryFrom parseUrl url = .error error := by
  induction entries generalizing upstream with
  | nil => cases refused
  | cons entry rest ih =>
      obtain ⟨key, value⟩ := entry
      rw [insertUpstreams] at refused
      split at refused
      · rename_i failed
        cases refused
        exact ⟨key, value, List.mem_cons_self, failed⟩
      · obtain ⟨name, url, member, failed⟩ := ih _ refused
        exact ⟨name, url, List.mem_cons_of_mem _ member, failed⟩

def duplicateListen (listen : String) : ConfigError :=
  .custom ("Duplicate listen address " ++ listen)

def upstreamNotFound (name : String) : ConfigError :=
  .custom ("Upstream " ++ name ++ " not found")

theorem checkListen_cases (seen listen : List String) :
    (∃ listened, checkListen seen listen = .ok listened ∧
      listened.Perm (seen ++ listen)) ∨
    ∃ text, checkListen seen listen = .error (duplicateListen text) ∧
      2 ≤ (seen ++ listen).count text := by
  induction listen generalizing seen with
  | nil => exact Or.inl ⟨seen, rfl, by rw [List.append_nil]⟩
  | cons first rest ih =>
      by_cases earlier : first ∈ seen
      · refine Or.inr ⟨first, by rw [checkListen, if_pos earlier]; rfl, ?_⟩
        have once := List.count_pos_iff.mpr earlier
        rw [List.count_append, List.count_cons_self]
        omega
      · have moved : (seen.insert first ++ rest).Perm (seen ++ first :: rest) := by
          rw [List.insert_of_not_mem earlier]
          exact List.perm_middle.symm
        rw [checkListen, if_neg earlier]
        rcases ih (seen.insert first) with ⟨listened, checked, same⟩ |
          ⟨text, checked, twice⟩
        · exact Or.inl ⟨listened, checked, same.trans moved⟩
        · exact Or.inr ⟨text, checked, moved.count_eq text ▸ twice⟩

theorem checkUsed_error (upstream : HashMap Upstream) (names : List String)
    (error : ConfigError) (refused : checkUsed upstream names = .error error) :
    ∃ name, name ∈ names ∧ error = upstreamNotFound name ∧
      upstream.lookup name = none := by
  induction names with
  | nil => cases refused
  | cons key rest ih =>
      rw [checkUsed] at refused
      split at refused
      · obtain ⟨name, member, told, missing⟩ := ih refused
        exact ⟨name, List.mem_cons_of_mem _ member, told, missing⟩
      · rename_i missing
        cases refused
        exact ⟨key, List.mem_cons_self, rfl, missing⟩

theorem verifyServers_error (hashOrder : List String → List String)
    (iterates : ∀ names name, name ∈ hashOrder names ↔ name ∈ names)
    (upstream : HashMap Upstream) (servers : List ServerConfig)
    (seen used : List String) (error : ConfigError)
    (refused : verifyServers hashOrder upstream seen used servers =
      .error error) :
    (∃ text, error = duplicateListen text ∧
      2 ≤ (seen ++ servers.flatMap ServerConfig.listen).count text) ∨
    ∃ name, error = upstreamNotFound name ∧ upstream.lookup name = none ∧
      (name ∈ used ∨
        ∃ server, server ∈ servers ∧ name ∈ namedUpstreams server) := by
  induction servers generalizing seen used with
  | nil => cases refused
  | cons server rest ih =>
      rw [verifyServers] at refused
      rw [List.flatMap_cons, ← List.append_assoc]
      rcases checkListen_cases seen server.listen with
        ⟨listened, checked, same⟩ | ⟨text, checked, twice⟩
      · simp only [checked] at refused
        split at refused
        · rename_i missing
          cases refused
          obtain ⟨name, member, told, absent⟩ :=
            checkUsed_error upstream _ error missing
          rw [iterates, mem_foldl_insert_iff] at member
          refine Or.inr ⟨name, told, absent, ?_⟩
          rcases member with earlier | here
          · exact Or.inl earlier
          · exact Or.inr ⟨server, List.mem_cons_self, here⟩
        · rcases ih listened _ refused with ⟨text, told, twice⟩ |
            ⟨name, told, absent, origin⟩
          · refine Or.inl ⟨text, told, ?_⟩
            rwa [(same.append_right _).count_eq text] at twice
          · refine Or.inr ⟨name, told, absent, ?_⟩
            rcases origin with member | ⟨other, member, named⟩
            · rcases (mem_foldl_insert_iff _ used name).mp member with
                earlier | here
              · exact Or.inl earlier
              · exact Or.inr ⟨server, List.mem_cons_self, here⟩
            · exact Or.inr ⟨other, List.mem_cons_of_mem _ member, named⟩
      · simp only [checked, Except.error.injEq] at refused
        refine Or.inl ⟨text, refused.symm, ?_⟩
        rw [List.count_append]
        exact twice.trans (Nat.le_add_right _ _)

/-! ### The file -/

/-- What a configuration that was loaded has of the file: everything but the
log format, with an upstream for every URL beside the built-in ones. -/
structure Loaded (config : ParsedConfig) : Prop where
  version : config.version = base.version
  log : config.log = base.log
  servers : config.servers = base.servers
  configured :
    ∀ name url, base.upstream.lookup name = some url →
      ∃ parsed host port, parseUrl url = some parsed ∧
        parsed.hostStr = some host ∧ parsed.portOrKnownDefault = some port ∧
        config.upstream.lookup name =
          some (.proxy (ProxyToUpstream.new
            (host ++ ":" ++ toString port.toNat) parsed.scheme))
  builtin :
    ∀ name, base.upstream.lookup name = none →
      config.upstream.lookup name = builtinUpstreams.lookup name

theorem loaded_of_inserted (upstream : HashMap Upstream)
    (inserted : insertUpstreams parseUrl builtinUpstreams
      base.upstream.entries = .ok upstream) :
    Loaded parseUrl base
      { version := base.version
        log := base.log
        servers := base.servers
        upstream := upstream } := by
  obtain ⟨usable, built⟩ := insertUpstreams_ok parseUrl base.upstream.entries
    base.upstream.nodupKeys builtinUpstreams upstream inserted
  refine ⟨rfl, rfl, rfl, ?_, ?_⟩
  · intro name url configured
    obtain ⟨proxy, created⟩ := usable name url configured
    obtain ⟨parsed, host, port, known, hosted, ported, _, rfl⟩ :=
      ProxyToUpstream.tryFrom_usable parseUrl url proxy created
    refine ⟨parsed, host, port, known, hosted, ported, ?_⟩
    have here := built name
    rw [show base.upstream.entries.dlookup name = some url from configured]
      at here
    simp only [upstreamOf, created] at here
    exact here
  · intro name unconfigured
    have here := built name
    rw [show base.upstream.entries.dlookup name = none from unconfigured]
      at here
    exact here

theorem no_fault_of_consistent (config : ParsedConfig)
    (loaded : Loaded parseUrl base config) (consistent : Consistent config)
    (version : base.version = 1 ∨ base.version = 2)
    (logFormat : base.logFormat.getD "txt" = "txt" ∨
      base.logFormat.getD "txt" = "text" ∨
      base.logFormat.getD "txt" = "json")
    (schemes : ∀ name url parsed, base.upstream.lookup name = some url →
      parseUrl url = some parsed →
      parsed.scheme = "tcp" ∨ parsed.scheme = "tcp4" ∨
        parsed.scheme = "tcp6")
    (error : ConfigError) : ¬ Fault parseUrl base error := by
  intro fault
  cases fault with
  | version unsupported => exact unsupported version
  | logFormat format given unknown =>
      rw [given] at logFormat
      exact unknown logFormat
  | url name url configured unusable =>
      obtain ⟨parsed, host, port, known, hosted, ported, _⟩ :=
        loaded.configured name url configured
      rcases unusable parsed known with hostless | portless
      · rw [hostless] at hosted
        cases hosted
      · rw [portless] at ported
        cases ported
  | scheme name url parsed configured known unknown =>
      exact unknown (schemes name url parsed configured known)
  | listen listen twice =>
      have distinct := consistent.distinct
      rw [ParsedConfig.listens, loaded.servers] at distinct
      have once := List.nodup_iff_count_le_one.mp distinct listen
      omega
  | upstream server name member named unconfigured unbuilt =>
      have there : (config.upstream.lookup name).isSome = true := by
        rw [← loaded.servers] at member
        rcases (mem_namedUpstreams_iff server name).mp named with
          default | ⟨tls, sniMap, target, sni, listed, same⟩
        · exact consistent.defaults server name member default
        · rw [← same]
          exact consistent.mapped server sniMap target member tls sni listed
      rw [loaded.builtin name unconfigured, unbuilt] at there
      cases there

theorem loadConfig_cases (hashOrder : List String → List String) :
    (∃ error, loadConfig parseUrl hashOrder base = .error error ∧
      Fault parseUrl base error) ∨
    (base.version = 1 ∨ base.version = 2) ∧
      (base.logFormat.getD "txt" = "txt" ∨
        base.logFormat.getD "txt" = "text" ∨
        base.logFormat.getD "txt" = "json") ∧
      ∃ upstream,
        insertUpstreams parseUrl builtinUpstreams base.upstream.entries =
          .ok upstream ∧
        loadConfig parseUrl hashOrder base =
          verifyConfig hashOrder
            { version := base.version
              log := base.log
              servers := base.servers
              upstream := upstream } := by
  unfold loadConfig
  by_cases version : base.version = 1 ∨ base.version = 2
  swap
  · rw [if_pos version]
    exact Or.inl ⟨_, rfl, .version version⟩
  rw [if_neg (not_not.mpr version)]
  dsimp only
  by_cases logFormat : base.logFormat.getD "txt" = "txt" ∨
      base.logFormat.getD "txt" = "text" ∨ base.logFormat.getD "txt" = "json"
  swap
  · rw [if_pos logFormat]
    cases given : base.logFormat with
    | none =>
        rw [given] at logFormat
        exact absurd (Or.inl rfl) logFormat
    | some format =>
        rw [given] at logFormat
        exact Or.inl ⟨_, rfl, .logFormat format given logFormat⟩
  rw [if_neg (not_not.mpr logFormat)]
  cases inserted : insertUpstreams parseUrl builtinUpstreams
      base.upstream.entries with
  | error error =>
      obtain ⟨name, url, member, refused⟩ :=
        insertUpstreams_error parseUrl _ _ error inserted
      exact Or.inl ⟨error, rfl, ProxyToUpstream.tryFrom_error parseUrl base name
        url error (AList.mem_lookup_iff.mpr member) refused⟩
  | ok upstream => exact Or.inr ⟨version, logFormat, upstream, rfl, rfl⟩

section Order

variable (hashOrder : List String → List String)
  (iterates : ∀ names name, name ∈ hashOrder names ↔ name ∈ names)

include iterates

theorem loadConfig_fault (error : ConfigError)
    (refused : loadConfig parseUrl hashOrder base = .error error) :
    Fault parseUrl base error := by
  rcases loadConfig_cases parseUrl base hashOrder with
    ⟨told, failed, fault⟩ | ⟨_, _, upstream, inserted, verifies⟩
  · rw [refused, Except.error.injEq] at failed
    exact failed ▸ fault
  have loaded := loaded_of_inserted parseUrl base upstream inserted
  rw [verifies, verifyConfig] at refused
  split at refused
  · cases refused
  rename_i told missing
  cases refused
  rcases verifyServers_error hashOrder iterates upstream _ [] [] error
      missing with ⟨text, rfl, twice⟩ | ⟨name, rfl, absent, origin⟩
  · exact .listen text twice
  rcases origin with impossible | ⟨server, member, named⟩
  · cases impossible
  have unconfigured : base.upstream.lookup name = none := by
    cases configured : base.upstream.lookup name with
    | none => rfl
    | some url =>
        obtain ⟨_, _, _, _, _, _, built⟩ := loaded.configured name url configured
        rw [absent] at built
        cases built
  exact .upstream server name member named unconfigured
    ((loaded.builtin name unconfigured).symm.trans absent)

theorem loadConfig_loaded (config : ParsedConfig)
    (accepted : loadConfig parseUrl hashOrder base = .ok config) :
    (∀ error, ¬ Fault parseUrl base error) ∧ Loaded parseUrl base config := by
  rcases loadConfig_cases parseUrl base hashOrder with
    ⟨told, failed, fault⟩ | ⟨version, logFormat, upstream, inserted, verifies⟩
  · rw [accepted] at failed
    cases failed
  have loaded := loaded_of_inserted parseUrl base upstream inserted
  rw [verifies] at accepted
  obtain ⟨rfl, _⟩ := verifyConfig_result hashOrder _ config accepted
  refine ⟨no_fault_of_consistent parseUrl base _ loaded
    ((verifyConfig_ok_iff hashOrder iterates _).mp accepted) version logFormat
    ?_, loaded⟩
  intro name url parsed configured known
  obtain ⟨usable, _⟩ := insertUpstreams_ok parseUrl base.upstream.entries
    base.upstream.nodupKeys builtinUpstreams upstream inserted
  obtain ⟨proxy, created⟩ := usable name url configured
  obtain ⟨other, _, _, found, _, _, scheme, _⟩ :=
    ProxyToUpstream.tryFrom_usable parseUrl url proxy created
  rw [known, Option.some.injEq] at found
  exact found ▸ scheme

/-- Whatever the order in which maps and sets are iterated, `load_config` fails
exactly on the files that have a fault, with one that they have; and what it
loads is the file with its upstreams built. -/
theorem load_config_exact :
    (∀ error, loadConfig parseUrl hashOrder base = .error error →
      Fault parseUrl base error) ∧
    (∀ config, loadConfig parseUrl hashOrder base = .ok config →
      (∀ error, ¬ Fault parseUrl base error) ∧ Loaded parseUrl base config) :=
  ⟨loadConfig_fault parseUrl base hashOrder iterates,
    loadConfig_loaded parseUrl base hashOrder iterates⟩

end Order

/-- Two servers that share an address, one of them with an unknown default:
either may be told, and both are there. -/
def clashingBase : BaseConfig :=
  { echoProxyBase with
    servers :=
      (AList.singleton "first" (loopbackServer ["127.0.0.1:9001"] none)).insert
        "second"
        { loopbackServer ["127.0.0.1:9001"] none with
          default := some "missing" } }

theorem load_config_exact_of_clash :
    (∃ error, loadConfig parseExampleUrl List.reverse clashingBase =
      .error error) ∧
    (∀ error,
      loadConfig parseExampleUrl List.reverse clashingBase =
        .error error →
      Fault parseExampleUrl clashingBase error) ∧
    (∀ config,
      loadConfig parseExampleUrl List.reverse clashingBase =
        .ok config →
      (∀ error, ¬ Fault parseExampleUrl clashingBase error) ∧
        Loaded parseExampleUrl clashingBase config) :=
  ⟨⟨_, rfl⟩, load_config_exact parseExampleUrl clashingBase
    List.reverse (fun _ _ => List.mem_reverse)⟩

end TlsProxyTunnel
