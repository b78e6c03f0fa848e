/-
A CONNECT that fails lets nothing through.

The tunnel is established when every stage of the handshake succeeded.  The
relay runs exactly then; on every other path the connection ends with an error
and no byte has crossed in either direction.
-/

import TlsProxyTunnel.Proxy

namespace TlsProxyTunnel

open Delimiter Interleave

/-- Every stage between the client's connection and the relay has succeeded:
the address resolved and connected in time, the request was built and written
without an error, and a complete response header with a status from 200 to 299
was read from the upstream. -/
structure Established (upstream : ProxyToUpstream) (runtime : Runtime)
    (via : ViaUpstream) (target : String) (surroundings : Surroundings) :
    Prop where
  knownProtocol :
    upstream.protocol = "tcp4" ∨ upstream.protocol = "tcp6" ∨
      upstream.protocol = "tcp"
  connected :
    ∃ resolved,
      (upstream.addresses.resolve
        (ResolutionMode.ofProtocol upstream.protocol) surroundings.dial.called
        surroundings.dial.completed surroundings.dial.lookup).1 = .ok resolved ∧
      surroundings.dial.elapsed resolved ≤ via.connectTimeout ∧
      surroundings.dial.attempt resolved = .ok ()
  outboundNodelay : surroundings.outboundNodelay = .ok ()
  inboundNodelay : surroundings.inboundNodelay = .ok ()
  headersResolved :
    ∀ header, header ∈ via.headers.entries →
      ∃ resolved, resolveHeaderValue runtime header.2 = .ok resolved
  requestWritten :
    ∃ request, buildRequest runtime target via.headers = .ok request ∧
      (writeLoop (asBytes request) 0
        surroundings.outbound.writes).outcome = .ok ()
  headerRead :
    ∃ header : Bytes, header <+: stream surroundings.outbound.reads ∧
      header.length ≤ responseLimit ∧ headerEnd <:+: header ∧
      header = (readLoop [] surroundings.outbound.reads).inbufs
  accepted :
    ∃ status,
      parseConnectStatus (readLoop [] surroundings.outbound.reads).inbufs =
          .ok status ∧
        200 ≤ status ∧ status ≤ 299

theorem buildRequest_ok_resolved (runtime : Runtime) (target : String)
    (headers : HashMap String) (request : String)
    (built : buildRequest runtime target headers = .ok request) :
    ∀ header, header ∈ headers.entries →
      ∃ resolved, resolveHeaderValue runtime header.2 = .ok resolved := by
  intro header member
  by_contra unresolved
  obtain ⟨error, failed⟩ := buildRequest_error_of_mem runtime target headers
    header member (fun resolved found => unresolved ⟨resolved, found⟩)
  rw [built] at failed
  cases failed

theorem established_iff (upstream : ProxyToUpstream) (runtime : Runtime)
    (via : ViaUpstream) (target : String) (surroundings : Surroundings) :
    Established upstream runtime via target surroundings ↔
      connectUpstream upstream.addresses upstream.protocol via.connectTimeout
          surroundings.dial = .ok () ∧
        surroundings.outboundNodelay = .ok () ∧
        surroundings.inboundNodelay = .ok () ∧
        (httpConnect runtime target via.headers surroundings.outbound.reads
          surroundings.outbound.writes).result = .ok () := by
  rw [connectUpstream_ok_iff, httpConnect_ok_iff]
  constructor
  · intro established
    obtain ⟨request, built, wrote⟩ := established.requestWritten
    obtain ⟨header, _, _, complete, isBuffer⟩ := established.headerRead
    rw [isBuffer, ← occurs_iff] at complete
    exact ⟨⟨established.knownProtocol, established.connected⟩,
      established.outboundNodelay, established.inboundNodelay,
      request, built, wrote, complete, established.accepted⟩
  · rintro ⟨⟨known, connected⟩, outbound, inbound, request, built, wrote,
      complete, accepted⟩
    have buffered := readLoop_inbufs_prefix [] surroundings.outbound.reads
    rw [List.nil_append] at buffered
    exact
      { knownProtocol := known
        connected := connected
        outboundNodelay := outbound
        inboundNodelay := inbound
        headersResolved := buildRequest_ok_resolved runtime target via.headers
          request built
        requestWritten := ⟨request, built, wrote⟩
        headerRead :=
          ⟨(readLoop [] surroundings.outbound.reads).inbufs, buffered,
            readLoop_inbufs_length [] surroundings.outbound.reads
              (Nat.zero_le _),
            (occurs_iff _ _).mp complete, rfl⟩
        accepted := accepted }

theorem proxy_of_established (upstream : ProxyToUpstream) (runtime : Runtime)
    (inbound : Socket) (via : ViaUpstream) (target : String)
    (surroundings : Surroundings)
    (established : Established upstream runtime via target surroundings) :
    upstream.proxy runtime inbound via (some target) surroundings =
      let handshake := httpConnect runtime target via.headers
        surroundings.outbound.reads surroundings.outbound.writes
      .relaying handshake.sent surroundings.schedule inbound
        { reads := handshake.reads, writes := handshake.writes } := by
  obtain ⟨connected, outbound, inboundOk, opened⟩ :=
    (established_iff _ _ _ _ _).mp established
  simp only [ProxyToUpstream.proxy, connected, outbound, inboundOk, opened]

theorem proxy_of_not_established (upstream : ProxyToUpstream) (runtime : Runtime)
    (inbound : Socket) (via : ViaUpstream) (target : String)
    (surroundings : Surroundings)
    (notEstablished :
      ¬ Established upstream runtime via target surroundings) :
    ∃ error sent,
      upstream.proxy runtime inbound via (some target) surroundings =
          .failed error sent ∧
        (sent = [] ∨ sent = (httpConnect runtime target via.headers
          surroundings.outbound.reads surroundings.outbound.writes).sent) := by
  rw [established_iff] at notEstablished
  unfold ProxyToUpstream.proxy
  cases connected : connectUpstream upstream.addresses upstream.protocol
      via.connectTimeout surroundings.dial with
  | error error => exact ⟨error, [], rfl, Or.inl rfl⟩
  | ok done =>
      cases outbound : surroundings.outboundNodelay with
      | error error => exact ⟨.io error, [], rfl, Or.inl rfl⟩
      | ok done =>
          cases inboundOk : surroundings.inboundNodelay with
          | error error => exact ⟨.io error, [], rfl, Or.inl rfl⟩
          | ok done =>
              simp only
              cases opened : (httpConnect runtime target via.headers
                  surroundings.outbound.reads
                  surroundings.outbound.writes).result with
              | error error => exact ⟨error, _, rfl, Or.inr rfl⟩
              | ok done =>
                  exact absurd ⟨connected, outbound, inboundOk, opened⟩
                    notEstablished

/-- No byte crosses in either direction unless the tunnel is established; on
every other path the connection ends with an error.  A header value that does
not resolve, at whatever place the map is iterated, keeps the request itself
from being sent. -/
theorem failed_connect_leaks_nothing (upstream : ProxyToUpstream)
    (runtime : Runtime) (inbound : Socket) (via : ViaUpstream) (target : String)
    (surroundings : Surroundings) :
    let run := upstream.proxy runtime inbound via (some target) surroundings
    (run.relayed.isSome = true ↔
      Established upstream runtime via target surroundings) ∧
    (run.forwarded ≠ [] ∨ run.returned ≠ [] →
      Established upstream runtime via target surroundings) ∧
    (¬ Established upstream runtime via target surroundings →
      (∃ error, run.result = some (.error error)) ∧
        run.forwarded = [] ∧ run.returned = []) ∧
    ((∃ header, header ∈ via.headers.entries ∧
        ∀ resolved, resolveHeaderValue runtime header.2 ≠ .ok resolved) →
      (∃ error, run.result = some (.error error)) ∧ run.toUpstream = [] ∧
        run.returned = []) := by
  intro run
  by_cases established : Established upstream runtime via target surroundings
  · have relayed := proxy_of_established upstream runtime inbound via target
      surroundings established
    refine ⟨?_, fun _ => established, fun absent => absurd established absent,
      ?_⟩
    · simp [run, relayed, ProxyRun.relaying, established]
    · rintro ⟨header, member, unresolved⟩
      obtain ⟨resolved, found⟩ := established.headersResolved header member
      exact absurd found (unresolved resolved)
  · obtain ⟨error, sent, failed, origin⟩ := proxy_of_not_established upstream
      runtime inbound via target surroundings established
    have runEq : run = .failed error sent := failed
    refine ⟨?_, ?_, fun _ => ?_, ?_⟩
    · simp [runEq, ProxyRun.failed, established]
    · simp [runEq, ProxyRun.failed, ProxyRun.forwarded, ProxyRun.returned]
    · rw [runEq]
      exact ⟨⟨error, rfl⟩, rfl, rfl⟩
    · rintro ⟨header, member, unresolved⟩
      obtain ⟨unbuilt, built⟩ := buildRequest_error_of_mem runtime target
        via.headers header member unresolved
      have unsent := httpConnect_sent runtime target via.headers
        surroundings.outbound.reads surroundings.outbound.writes
      rw [built] at unsent
      have nothing : sent = [] := by
        rcases origin with empty | handshake
        · exact empty
        · rw [handshake, unsent]
      rw [runEq, nothing]
      exact ⟨⟨error, rfl⟩, rfl, rfl⟩

end TlsProxyTunnel
