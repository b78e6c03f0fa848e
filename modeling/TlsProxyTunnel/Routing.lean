/-
Where a connection goes and what the upstream proxy is asked for.

Upstream and settings come from the first name that is a key of the SNI map;
the CONNECT target comes from the first name of the list.  A connection without
a name takes the server's own settings, and with them no target at all where
the target was to be the name.
-/

import TlsProxyTunnel.Accept
import TlsProxyTunnel.Leakage

namespace TlsProxyTunnel

theorem sniAuthority_injective (targetPort : UInt16) :
    Function.Injective (fun sni => sniAuthority sni targetPort) := by
  intro left right same
  have texts := congrArg String.toList same
  simp only [sniAuthority, String.toList_append, List.append_assoc] at texts
  exact String.toList_inj.mp (List.append_cancel_right texts)

theorem ViaUpstream.connectTarget_of_useSni (via : ViaUpstream)
    (snis : List String) (useSni : via.useSniAsTarget = true) :
    via.connectTarget snis =
      snis.head?.map (fun sni => sniAuthority sni via.targetPort) := by
  simp only [connectTarget, if_pos useSni]

theorem ViaUpstream.connectTarget_eq_authority_iff (via : ViaUpstream)
    (snis : List String) (sni : String) (useSni : via.useSniAsTarget = true) :
    via.connectTarget snis = some (sniAuthority sni via.targetPort) ↔
      snis.head? = some sni := by
  rw [via.connectTarget_of_useSni snis useSni]
  cases snis with
  | nil => simp
  | cons first rest =>
      simp only [List.head?_cons, Option.map_some, Option.some.injEq]
      exact (sniAuthority_injective via.targetPort).eq_iff

def corpProxy : ProxyToUpstream :=
  ProxyToUpstream.new "proxy.internal:3128" "tcp"

def corpVia : ViaUpstream :=
  { ViaUpstream.default with
    connectTimeout := defaultConnectTimeout
    useSniAsTarget := true
    targetPort := defaultTargetPort }

def corpSniMap : HashMap SniTarget :=
  AList.singleton "www.example.org" (.simple "corp_proxy")

def corpUpstream : HashMap Upstream :=
  (AList.singleton "corp_proxy" (.proxy corpProxy)).insert "ban" .ban

def corpListener (defaultAction : String) : Proxy :=
  { name := "proxy_server"
    listen := .v4 (fun _ => 0) 8443
    protocol := "tcp"
    tls := true
    sni := some corpSniMap
    defaultAction := defaultAction
    upstream := corpUpstream
    via := corpVia
    maxclients := ⟨0⟩
    maxclientsLimit := 100 }

/-! ### The name routed on and the name connected to -/

/-- Route, settings and target all come from the entry for one and the same
name; where everything unknown is banned, only keys of the map are connected
to. -/
structure RoutedByName (proxy : Proxy) (sniMap : HashMap SniTarget)
    (snis : List String) : Prop where
  entry :
    ∀ sni target, FirstMatch sniMap snis sni target →
      proxy.route snis = (target.upstreamName, target.viaOverride) ∧
        proxy.effectiveVia snis = target.viaOverride.getD proxy.via
  host :
    ∀ sni target, FirstMatch sniMap snis sni target →
      (proxy.effectiveVia snis).useSniAsTarget = true →
      (proxy.choose snis).connectTarget =
        some (sniAuthority sni (proxy.effectiveVia snis).targetPort)
  onlyKeys :
    proxy.upstream.lookup proxy.defaultAction = some .ban →
      (proxy.effectiveVia snis).useSniAsTarget = true →
      ∀ config,
        proxy.selectUpstream (proxy.choose snis).upstreamName =
            .ok (.proxy config) →
        ∃ sni target, sniMap.lookup sni = some target ∧
          (proxy.choose snis).connectTarget =
            some (sniAuthority sni (proxy.effectiveVia snis).targetPort)

theorem firstMatch_of_selected_proxy (proxy : Proxy)
    (sniMap : HashMap SniTarget) (snis : List String) (config : ProxyToUpstream)
    (mapped : proxy.sni = some sniMap)
    (banned : proxy.upstream.lookup proxy.defaultAction = some .ban)
    (selected : proxy.selectUpstream (proxy.choose snis).upstreamName =
      .ok (.proxy config)) :
    ∃ sni target, FirstMatch sniMap snis sni target := by
  rcases proxy.route_cases snis with ⟨map, sni, target, found, first⟩ | default
  · rw [mapped, Option.some.injEq] at found
    subst found
    exact ⟨sni, target, first⟩
  · have name : (proxy.choose snis).upstreamName = proxy.defaultAction := by
      rw [Proxy.choose, default]
    rw [name, proxy.selectUpstream_default, banned] at selected
    cases selected

/-- Upstream and settings come from the entry of the first name that is a key;
the host of a target taken from the names is the first name.  The two are the
same name exactly when no name stands before the matching one. -/
theorem route_and_target_of_names (proxy : Proxy) (sniMap : HashMap SniTarget)
    (mapped : proxy.sni = some sniMap) (snis : List String) :
    (∀ sni target, FirstMatch sniMap snis sni target →
      proxy.route snis = (target.upstreamName, target.viaOverride) ∧
      proxy.effectiveVia snis = target.viaOverride.getD proxy.via ∧
      ((proxy.effectiveVia snis).useSniAsTarget = true →
        ∃ first, snis.head? = some first ∧
          (proxy.choose snis).connectTarget =
            some (sniAuthority first (proxy.effectiveVia snis).targetPort) ∧
          ((proxy.choose snis).connectTarget =
              some (sniAuthority sni (proxy.effectiveVia snis).targetPort) ↔
            first = sni))) ∧
    (proxy.upstream.lookup proxy.defaultAction = some .ban →
      (proxy.effectiveVia snis).useSniAsTarget = true →
      ∀ config,
        proxy.selectUpstream (proxy.choose snis).upstreamName =
            .ok (.proxy config) →
        ∃ sni target first, FirstMatch sniMap snis sni target ∧
          snis.head? = some first ∧
          (proxy.choose snis).connectTarget =
            some (sniAuthority first (proxy.effectiveVia snis).targetPort)) ∧
    (RoutedByName proxy sniMap snis ↔
      ∀ sni target, FirstMatch sniMap snis sni target →
        (target.viaOverride.getD proxy.via).useSniAsTarget = true →
        snis.head? = some sni) := by
  have viaOf := fun sni target found =>
    proxy.effectiveVia_of_firstMatch sniMap snis sni target mapped found
  have routeOf := fun sni target found =>
    proxy.route_of_firstMatch sniMap snis sni target mapped found
  have headOf (useSni : (proxy.effectiveVia snis).useSniAsTarget = true)
      (sni : String) :
      (proxy.choose snis).connectTarget =
          some (sniAuthority sni (proxy.effectiveVia snis).targetPort) ↔
        snis.head? = some sni :=
    (proxy.effectiveVia snis).connectTarget_eq_authority_iff snis sni useSni
  have headSome (sni : String) (target : SniTarget)
      (found : FirstMatch sniMap snis sni target) :
      ∃ first, snis.head? = some first :=
    ⟨snis.head found.ne_nil, List.head?_eq_some_head found.ne_nil⟩
  refine ⟨?_, ?_, ?_, ?_⟩
  · intro sni target found
    refine ⟨routeOf sni target found, viaOf sni target found, fun useSni => ?_⟩
    obtain ⟨first, head⟩ := headSome sni target found
    refine ⟨first, head, (headOf useSni first).mpr head, ?_⟩
    rw [headOf useSni sni, head, Option.some.injEq]
  · intro banned useSni config selected
    obtain ⟨sni, target, found⟩ := firstMatch_of_selected_proxy proxy sniMap
      snis config mapped banned selected
    obtain ⟨first, head⟩ := headSome sni target found
    exact ⟨sni, target, first, found, head, (headOf useSni first).mpr head⟩
  · intro routed sni target found useSni
    rw [← viaOf sni target found] at useSni
    exact (headOf useSni sni).mp (routed.host sni target found useSni)
  · intro firstIsKey
    have hostOf (sni : String) (target : SniTarget)
        (found : FirstMatch sniMap snis sni target)
        (useSni : (proxy.effectiveVia snis).useSniAsTarget = true) :
        (proxy.choose snis).connectTarget =
          some (sniAuthority sni (proxy.effectiveVia snis).targetPort) := by
      refine (headOf useSni sni).mpr (firstIsKey sni target found ?_)
      rwa [viaOf sni target found] at useSni
    refine ⟨fun sni target found =>
      ⟨routeOf sni target found, viaOf sni target found⟩, hostOf, ?_⟩
    intro banned useSni config selected
    obtain ⟨sni, target, found⟩ := firstMatch_of_selected_proxy proxy sniMap
      snis config mapped banned selected
    obtain ⟨_, _, _, _, entry⟩ := id found
    exact ⟨sni, target, entry, hostOf sni target found useSni⟩

def twoNames : List String :=
  TlsParser.extensionNames
    (.sni [(0, asBytes "evil.example"), (0, asBytes "www.example.org")])

theorem twoNames_firstMatch :
    FirstMatch corpSniMap twoNames "www.example.org"
      (.simple "corp_proxy") := by
  refine ⟨["evil.example"], [], by decide, ?_, rfl⟩
  intro earlier member
  rw [List.mem_singleton.mp member]
  rfl

theorem corpListener_connects_elsewhere :
    (corpListener "ban").sni = some corpSniMap ∧
      ¬ RoutedByName (corpListener "ban") corpSniMap twoNames := by
  refine ⟨rfl, fun routed => ?_⟩
  have connected := routed.host _ _ twoNames_firstMatch (by decide)
  exact absurd connected (by decide)

theorem route_and_target_of_two_names :
    ∃ first, twoNames.head? = some first ∧
      ((corpListener "ban").choose twoNames).connectTarget =
        some (sniAuthority first 443) := by
  obtain ⟨first, head, target, _⟩ :=
    ((route_and_target_of_names (corpListener "ban") corpSniMap rfl
      twoNames).1 _ _ twoNames_firstMatch).2.2 (by decide)
  exact ⟨first, head, target⟩

/-! ### Tunnels that must not be missing -/

/-- When the settings in effect ask for a tunnel to the name, an upstream proxy
is only handed the connection with a target, and no client byte reaches it
before the tunnel to that target is established. -/
def NeverForwardedRaw (proxy : Proxy) (parser : TlsParser) (peeked : Bytes) :
    Prop :=
  ∀ peerAddr config dispatch,
    proxy.accept parser peerAddr (.ok peeked) = .ok (.proxy config, dispatch) →
    dispatch.via.useSniAsTarget = true →
    ∃ target, dispatch.connectTarget = some target ∧
      ∀ runtime inbound surroundings,
        (config.proxy runtime inbound dispatch.via dispatch.connectTarget
          surroundings).forwarded ≠ [] →
        Established config runtime dispatch.via target surroundings

theorem established_of_forwarded (config : ProxyToUpstream) (runtime : Runtime)
    (inbound : Socket) (via : ViaUpstream) (target : String)
    (surroundings : Surroundings)
    (forwarded : (config.proxy runtime inbound via (some target)
      surroundings).forwarded ≠ []) :
    Established config runtime via target surroundings := by
  by_contra notEstablished
  obtain ⟨error, sent, failed, _⟩ := proxy_of_not_established config runtime
    inbound via target surroundings notEstablished
  rw [failed] at forwarded
  exact forwarded rfl

theorem accept_without_names (proxy : Proxy) (parser : TlsParser)
    (peeked : Bytes) (upstream : Upstream)
    (nameless : proxy.snis parser peeked = [])
    (default : proxy.upstream.lookup proxy.defaultAction = some upstream) :
    proxy.accept parser (.ok ()) (.ok peeked) =
      .ok (upstream, proxy.choose []) := by
  rw [proxy.accept_ok_iff]
  refine ⟨Or.inr rfl, ?_⟩
  have selected := (proxy.selectUpstream_default upstream).mpr default
  cases tls : proxy.tls with
  | true => exact ⟨peeked, by simp, by simp, by rw [nameless], selected⟩
  | false => exact ⟨[], by simp, by simp, by simp [Proxy.snis, tls], selected⟩

theorem accept_proxy_snis (proxy : Proxy) (parser : TlsParser)
    (peerAddr : Except IoError Unit) (peeked : Bytes) (upstream : Upstream)
    (dispatch : Dispatch)
    (accepted : proxy.accept parser peerAddr (.ok peeked) =
      .ok (upstream, dispatch)) :
    dispatch = proxy.choose (proxy.snis parser peeked) ∧
      proxy.selectUpstream dispatch.upstreamName = .ok upstream := by
  obtain ⟨_, seen, withTls, withoutTls, chosen, selected⟩ :=
    (proxy.accept_ok_iff parser peerAddr (.ok peeked) upstream dispatch).mp
      accepted
  refine ⟨?_, selected⟩
  cases tls : proxy.tls with
  | true =>
      have same : peeked = seen := Except.ok.inj (withTls tls)
      rw [chosen, same]
  | false => rw [chosen, Proxy.snis, Proxy.snis, tls]; rfl

/-- The tunnel is missing exactly when no name was found, the server's own
settings ask for one to the name, and the default action is an upstream
proxy. -/
theorem never_forwarded_raw_iff (proxy : Proxy) (parser : TlsParser)
    (peeked : Bytes) :
    NeverForwardedRaw proxy parser peeked ↔
      proxy.snis parser peeked ≠ [] ∨ proxy.via.useSniAsTarget = false ∨
        ∀ config,
          proxy.upstream.lookup proxy.defaultAction ≠ some (.proxy config) := by
  constructor
  · intro tunnelled
    by_contra missing
    simp only [not_or, not_not, not_forall, Bool.not_eq_false] at missing
    obtain ⟨nameless, useSni, config, default⟩ := missing
    obtain ⟨target, connected, _⟩ := tunnelled (.ok ()) config _
      (accept_without_names proxy parser peeked _ nameless default) useSni
    have direct : (proxy.choose []).connectTarget = none :=
      proxy.via.connectTarget_of_useSni [] useSni
    rw [direct] at connected
    cases connected
  · intro condition peerAddr config dispatch accepted useSni
    obtain ⟨rfl, selected⟩ := accept_proxy_snis proxy parser peerAddr peeked
      (.proxy config) dispatch accepted
    cases names : proxy.snis parser peeked with
    | nil =>
        rw [names] at selected useSni condition
        rcases condition with absent | unused | elsewhere
        · exact absurd rfl absent
        · rw [show (proxy.choose []).via = proxy.via from rfl, unused] at useSni
          cases useSni
        · exact absurd ((proxy.selectUpstream_default _).mp selected)
            (elsewhere config)
    | cons first rest =>
        rw [names] at useSni
        have target : (proxy.choose (first :: rest)).connectTarget = _ :=
          (proxy.effectiveVia (first :: rest)).connectTarget_of_useSni _ useSni
        refine ⟨_, target, fun runtime inbound surroundings forwarded => ?_⟩
        rw [target] at forwarded
        exact established_of_forwarded config runtime inbound _ _ surroundings
          forwarded

theorem corpListener_forwards_raw :
    ¬ NeverForwardedRaw (corpListener "corp_proxy") TlsParser.refusing
      (asBytes "CONNECT internal:22 HTTP/1.1") := by
  intro tunnelled
  obtain ⟨target, connected, _⟩ := tunnelled (.ok ()) corpProxy _
    (accept_without_names (corpListener "corp_proxy") TlsParser.refusing _ _
      rfl rfl) rfl
  have direct :
      ((corpListener "corp_proxy").choose []).connectTarget = none := rfl
  rw [direct] at connected
  cases connected

end TlsProxyTunnel
