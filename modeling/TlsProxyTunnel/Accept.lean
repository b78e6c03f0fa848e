/-
What one accepted connection is routed to.

The names found in the ClientHello are searched for a key of the SNI map; the
upstream, the via settings and the CONNECT target follow from that search, the
settings in effect and the names.
-/

import TlsProxyTunnel.Sni
import TlsProxyTunnel.Builder

namespace TlsProxyTunnel

def sniAuthority (sni : String) (targetPort : UInt16) : String :=
  sni ++ ":" ++ toString targetPort.toNat

def matchSni (sniMap : HashMap SniTarget) (defaultAction : String) :
    List String → String × Option ViaUpstream
  | [] => (defaultAction, none)
  | sni :: rest =>
      match sniMap.lookup sni with
      | some target => (target.upstreamName, target.viaOverride)
      | none => matchSni sniMap defaultAction rest

namespace Proxy

variable (proxy : Proxy)

def route (snis : List String) : String × Option ViaUpstream :=
  if snis ≠ [] then
    match proxy.sni with
    | some sniMap => matchSni sniMap proxy.defaultAction snis
    | none => (proxy.defaultAction, none)
  else
    (proxy.defaultAction, none)

def effectiveVia (snis : List String) : ViaUpstream :=
  (proxy.route snis).2.getD proxy.via

end Proxy

/-- No target means a direct forward, without a CONNECT. -/
def ViaUpstream.connectTarget (via : ViaUpstream) (snis : List String) :
    Option String :=
  if via.useSniAsTarget then
    snis.head?.map (fun sni => sniAuthority sni via.targetPort)
  else if via.target ≠ "" then
    some via.target
  else
    none

structure Dispatch where
  upstreamName : String
  via : ViaUpstream
  connectTarget : Option String

namespace Proxy

variable (proxy : Proxy)

def choose (snis : List String) : Dispatch :=
  { upstreamName := (proxy.route snis).1
    via := proxy.effectiveVia snis
    connectTarget := (proxy.effectiveVia snis).connectTarget snis }

/-- A name without an upstream falls back to the default action. -/
def selectUpstream (upstreamName : String) : Except BoxError Upstream :=
  match proxy.upstream.lookup upstreamName with
  | some upstream => .ok upstream
  | none =>
      match proxy.upstream.lookup proxy.defaultAction with
      | some upstream => .ok upstream
      | none =>
          .error (.message ("default upstream '" ++ proxy.defaultAction ++
            "' not found on server '" ++ proxy.name ++ "'"))

def snis (parser : TlsParser) (peeked : Bytes) : List String :=
  if proxy.tls then parser.getSni (helloBuffer peeked) else []

/-- `accept` up to the call of `process`.  The peer address is looked up for
the log line of an ordinary connection only. -/
def accept (parser : TlsParser) (peerAddr : Except IoError Unit)
    (peek : Except IoError Bytes) : Except BoxError (Upstream × Dispatch) :=
  match (if proxy.isHealthServer then .ok () else peerAddr) with
  | .error error => .error (.io error)
  | .ok () =>
      match (if proxy.tls then peek else .ok []) with
      | .error error => .error (.io error)
      | .ok peeked =>
          let dispatch := proxy.choose (proxy.snis parser peeked)
          match proxy.selectUpstream dispatch.upstreamName with
          | .ok upstream => .ok (upstream, dispatch)
          | .error error => .error error

end Proxy

/-! ### The search -/

def FirstMatch (sniMap : HashMap SniTarget) (snis : List String) (sni : String)
    (target : SniTarget) : Prop :=
  ∃ before after, snis = before ++ sni :: after ∧
    (∀ earlier, earlier ∈ before → sniMap.lookup earlier = none) ∧
    sniMap.lookup sni = some target

theorem matchSni_of_firstMatch (sniMap : HashMap SniTarget)
    (defaultAction : String) (snis : List String) (sni : String)
    (target : SniTarget) (found : FirstMatch sniMap snis sni target) :
    matchSni sniMap defaultAction snis =
      (target.upstreamName, target.viaOverride) := by
  obtain ⟨before, after, rfl, unmapped, entry⟩ := found
  induction before with
  | nil => simp only [List.nil_append, matchSni, entry]
  | cons earlier before ih =>
      have skipped := unmapped earlier List.mem_cons_self
      simp only [List.cons_append, matchSni, skipped]
      exact ih (fun name member =>
        unmapped name (List.mem_cons_of_mem _ member))

theorem matchSni_cases (sniMap : HashMap SniTarget) (defaultAction : String)
    (snis : List String) :
    (∃ sni target, FirstMatch sniMap snis sni target) ∨
      ((∀ sni, sni ∈ snis → sniMap.lookup sni = none) ∧
        matchSni sniMap defaultAction snis = (defaultAction, none)) := by
  induction snis with
  | nil => exact Or.inr ⟨by simp, rfl⟩
  | cons first rest ih =>
      cases entry : sniMap.lookup first with
      | some target =>
          exact Or.inl ⟨first, target, [], rest, rfl, by simp, entry⟩
      | none =>
          rcases ih with ⟨sni, target, before, after, rfl, unmapped, found⟩ |
            ⟨unmapped, default⟩
          · refine Or.inl ⟨sni, target, first :: before, after, rfl, ?_, found⟩
            intro earlier member
            rcases List.mem_cons.mp member with same | later
            · rw [same, entry]
            · exact unmapped earlier later
          · refine Or.inr ⟨?_, ?_⟩
            · intro sni member
              rcases List.mem_cons.mp member with same | later
              · rw [same, entry]
              · exact unmapped sni later
            · simp only [matchSni, entry, default]

theorem FirstMatch.ne_nil {sniMap : HashMap SniTarget} {snis : List String}
    {sni : String} {target : SniTarget}
    (found : FirstMatch sniMap snis sni target) : snis ≠ [] := by
  obtain ⟨before, after, rfl, _, _⟩ := found
  simp

namespace Proxy

variable (proxy : Proxy)

@[simp] theorem route_nil : proxy.route [] = (proxy.defaultAction, none) := rfl

@[simp] theorem effectiveVia_nil : proxy.effectiveVia [] = proxy.via := rfl

theorem route_of_firstMatch (sniMap : HashMap SniTarget) (snis : List String)
    (sni : String) (target : SniTarget) (mapped : proxy.sni = some sniMap)
    (found : FirstMatch sniMap snis sni target) :
    proxy.route snis = (target.upstreamName, target.viaOverride) := by
  simp only [route, if_pos found.ne_nil, mapped]
  exact matchSni_of_firstMatch sniMap proxy.defaultAction snis sni target found

theorem effectiveVia_of_firstMatch (sniMap : HashMap SniTarget)
    (snis : List String) (sni : String) (target : SniTarget)
    (mapped : proxy.sni = some sniMap)
    (found : FirstMatch sniMap snis sni target) :
    proxy.effectiveVia snis = target.viaOverride.getD proxy.via := by
  rw [effectiveVia, proxy.route_of_firstMatch sniMap snis sni target mapped found]

theorem route_cases (snis : List String) :
    (∃ sniMap sni target, proxy.sni = some sniMap ∧
      FirstMatch sniMap snis sni target) ∨
      proxy.route snis = (proxy.defaultAction, none) := by
  cases snis with
  | nil => exact Or.inr rfl
  | cons first rest =>
      cases mapped : proxy.sni with
      | none => exact Or.inr (by simp [route, mapped])
      | some sniMap =>
          rcases matchSni_cases sniMap proxy.defaultAction (first :: rest) with
            ⟨sni, target, found⟩ | ⟨unmapped, default⟩
          · exact Or.inl ⟨sniMap, sni, target, rfl, found⟩
          · exact Or.inr (by simp [route, mapped, default])

theorem selectUpstream_default (upstream : Upstream) :
    proxy.selectUpstream proxy.defaultAction = .ok upstream ↔
      proxy.upstream.lookup proxy.defaultAction = some upstream := by
  unfold selectUpstream
  cases proxy.upstream.lookup proxy.defaultAction <;> simp

theorem accept_ok_iff (parser : TlsParser) (peerAddr : Except IoError Unit)
    (peek : Except IoError Bytes) (upstream : Upstream) (dispatch : Dispatch) :
    proxy.accept parser peerAddr peek = .ok (upstream, dispatch) ↔
      (proxy.isHealthServer = true ∨ peerAddr = .ok ()) ∧
      ∃ peeked, (proxy.tls = true → peek = .ok peeked) ∧
        (proxy.tls = false → peeked = []) ∧
        dispatch = proxy.choose (proxy.snis parser peeked) ∧
        proxy.selectUpstream dispatch.upstreamName = .ok upstream := by
  have selecting (peeked : Bytes) :
      (match proxy.selectUpstream
          (proxy.choose (proxy.snis parser peeked)).upstreamName with
        | .ok upstream =>
            (.ok (upstream, proxy.choose (proxy.snis parser peeked)) :
              Except BoxError (Upstream × Dispatch))
        | .error error => .error error) = .ok (upstream, dispatch) ↔
        dispatch = proxy.choose (proxy.snis parser peeked) ∧
          proxy.selectUpstream dispatch.upstreamName = .ok upstream := by
    constructor
    · intro chosen
      split at chosen
      · rename_i selected found
        cases chosen
        exact ⟨rfl, found⟩
      · cases chosen
    · rintro ⟨rfl, found⟩
      rw [found]
  unfold accept
  cases health : proxy.isHealthServer <;> cases tls : proxy.tls <;>
    cases peerAddr <;> cases peek <;>
    simp [selecting]

end Proxy

end TlsProxyTunnel
