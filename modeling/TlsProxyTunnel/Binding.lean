/-
Addresses that are bound twice.

Validation refuses a listen address it has seen before, as a text; the builder
parses the texts.  What is left is for the parser to keep apart.
-/

import TlsProxyTunnel.SocketAddrText
import TlsProxyTunnel.Exemption

namespace TlsProxyTunnel

def ParsedConfig.listens (config : ParsedConfig) : List String :=
  (HashMap.values config.servers).flatMap ServerConfig.listen

theorem checkListen_ok (seen listen listened : List String)
    (checked : checkListen seen listen = .ok listened) :
    listen.Nodup ∧ (∀ text, text ∈ listen → text ∉ seen) ∧
      ∀ text, text ∈ listened ↔ text ∈ seen ∨ text ∈ listen := by
  induction listen generalizing seen with
  | nil =>
      rw [checkListen, Except.ok.injEq] at checked
      subst checked
      simp
  | cons first rest ih =>
      rw [checkListen] at checked
      split at checked
      · cases checked
      · rename_i fresh
        obtain ⟨nodup, unseen, members⟩ := ih _ checked
        simp only [List.mem_insert_iff, not_or] at unseen members
        refine ⟨List.nodup_cons.mpr ⟨fun again => (unseen first again).1 rfl,
          nodup⟩, ?_, ?_⟩
        · intro text member
          rcases List.mem_cons.mp member with same | later
          · rw [same]
            exact fresh
          · exact (unseen text later).2
        · intro text
          rw [members, List.mem_cons]
          tauto

theorem verifyServers_listens (hashOrder : List String → List String)
    (upstream : HashMap Upstream) (servers : List ServerConfig)
    (seen used : List String)
    (verified : verifyServers hashOrder upstream seen used servers = .ok ()) :
    (servers.flatMap ServerConfig.listen).Nodup ∧
      ∀ text, text ∈ servers.flatMap ServerConfig.listen → text ∉ seen := by
  induction servers generalizing seen used with
  | nil => simp
  | cons server rest ih =>
      rw [verifyServers] at verified
      split at verified
      · cases verified
      · rename_i listened checked
        dsimp only at verified
        split at verified
        · cases verified
        · obtain ⟨nodup, unseen, members⟩ := checkListen_ok _ _ _ checked
          obtain ⟨others, apart⟩ := ih _ _ verified
          simp only [members, not_or] at apart
          rw [List.flatMap_cons]
          refine ⟨List.nodup_append'.mpr ⟨nodup, others, ?_⟩, ?_⟩
          · intro text own other
            exact (apart text other).2 own
          · intro text member
            rcases List.mem_append.mp member with own | other
            · exact unseen text own
            · exact (apart text other).1

theorem verifyConfig_listens (hashOrder : List String → List String)
    (config : ParsedConfig)
    (verified : verifyConfig hashOrder config = .ok config) :
    config.listens.Nodup := by
  rw [verifyConfig] at verified
  split at verified
  · rename_i passed
    exact (verifyServers_listens hashOrder _ _ _ _ passed).1
  · cases verified

variable (text : AddrText) (config : ParsedConfig) (server : Server)

theorem Server.fromParsedConfig_listen
    (built : Server.fromParsedConfig text config = some server) :
    server.proxies.map Proxy.listen = config.listens.filterMap text.parse := by
  have addresses : (listenings text config.servers).map Listening.address =
      config.listens.filterMap text.parse := by
    rw [listenings, ParsedConfig.listens, HashMap.values, List.map_flatMap,
      List.flatMap_map, List.filterMap_flatMap]
    simp [List.map_map, Function.comp_def]
  rw [← addresses]
  apply List.ext_getElem?
  intro index
  rw [List.getElem?_map, List.getElem?_map,
    Server.fromParsedConfig_getElem? text config server built, Option.map_map]
  rfl

/-- Different texts of the configuration do not stand for one address. -/
def ParsedConfig.SpelledApart : Prop :=
  ∀ left right address, left ∈ config.listens → right ∈ config.listens →
    left ≠ right → text.parse left = some address →
    text.parse right ≠ some address

theorem bound_addresses_distinct_iff (hashOrder : List String → List String)
    (verified : verifyConfig hashOrder config = .ok config)
    (built : Server.fromParsedConfig text config = some server) :
    (server.proxies.map Proxy.listen).Nodup ↔
      config.SpelledApart text := by
  have texts := verifyConfig_listens hashOrder config verified
  rw [Server.fromParsedConfig_listen text config server built, List.Nodup,
    List.pairwise_filterMap]
  constructor
  · intro apart left right address leftIn rightIn different leftIs rightIs
    have symmetric : Std.Symm (fun left right =>
        ∀ first, text.parse left = some first →
          ∀ second, text.parse right = some second → first ≠ second) :=
      ⟨fun _ _ holds first firstIs second secondIs same =>
        holds second secondIs first firstIs same.symm⟩
    exact apart.forall leftIn rightIn different address leftIs address rightIs
      rfl
  · intro apart
    refine texts.pairwise_of_forall_ne ?_
    intro left leftIn right rightIn different first firstIs second secondIs same
    subst same
    exact apart left right first leftIn rightIn different firstIs secondIs

theorem bound_addresses_distinct_of_loopback :
    ∃ server,
      Server.fromParsedConfig AddrText.std
        (loopbackConfig ["127.0.0.1:9001", "127.0.0.1:9002"] none) =
          some server ∧
      ((server.proxies.map Proxy.listen).Nodup ↔
        (loopbackConfig ["127.0.0.1:9001", "127.0.0.1:9002"] none).SpelledApart
          AddrText.std) :=
  ⟨_, rfl, bound_addresses_distinct_iff AddrText.std
    (loopbackConfig ["127.0.0.1:9001", "127.0.0.1:9002"] none) _ id rfl rfl⟩

def loopbackV6 : SocketAddr :=
  .v6 (fun index => UInt16.ofNat ([0, 0, 0, 0, 0, 0, 0, 1].getD index 0))
    8443 0 0

/-- The loopback address with and without its zeros passes as two texts and is
bound twice. -/
theorem two_spellings_are_bound_twice :
    let config :=
      loopbackConfig ["[::1]:8443", "[0:0:0:0:0:0:0:1]:8443"] none
    verifyConfig id config = .ok config ∧
      ∃ server, Server.fromParsedConfig AddrText.std config = some server ∧
        server.proxies.map Proxy.listen = [loopbackV6, loopbackV6] ∧
        ¬ (server.proxies.map Proxy.listen).Nodup := by
  refine ⟨rfl, _, rfl, ?_⟩
  decide +kernel

end TlsProxyTunnel
