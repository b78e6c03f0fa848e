/-
From the configuration file to the bytes on the wire.

A session that has ended has no handler any more.  It had one at a moment of the
run, and what the file says of that handler's client is what its upstream was
asked and sent.
-/

import TlsProxyTunnel.Deployment
import TlsProxyTunnel.Draining

namespace TlsProxyTunnel

open Interleave hiding run
open Transition

/-- What comes before the bytes of the client: a CONNECT with the target and the
headers of the call, or nothing. -/
def ProxyCall.Asks (call : ProxyCall) (request : Bytes) : Prop :=
  match call.connectTarget with
  | none => request = []
  | some target =>
      ∃ buf, buildRequest call.runtime target call.via.headers = .ok buf ∧
        request = asBytes buf

theorem ProxyCall.Relays.asked {call : ProxyCall} {requestSent : Bytes}
    {outbound : Socket} (relays : call.Relays requestSent outbound)
    (clean : WritesClean call.outbound.writes) : call.Asks requestSent := by
  have proxied := relays.proxied []
  unfold ProxyCall.Asks
  cases targeted : call.connectTarget with
  | none =>
      by_contra sent
      obtain ⟨target, _, there, _⟩ := relays.request sent
      rw [targeted] at there
      cases there
  | some target =>
      have established := relays.established target targeted []
      obtain ⟨buf, built, _⟩ := established.requestWritten
      have handshaken := proxy_of_established call.upstream call.runtime
        call.inbound call.via target (call.surroundings []) established
      rw [← targeted] at handshaken
      have whole := (writeLoop_clean (asBytes buf) 0 call.outbound.writes
        clean).2.1
      have sent : requestSent =
          (httpConnect call.runtime target call.via.headers
            call.outbound.reads call.outbound.writes).sent :=
        congrArg ProxyRun.requestSent (proxied.symm.trans handshaken)
      refine ⟨buf, built, ?_⟩
      rw [sent, ← whole]
      simp only [httpConnect, built]
      split <;> rfl

theorem ProxyCall.wire (call : ProxyCall) (schedule : List Side)
    (ended : (call.proxy schedule).result.isSome = true)
    (relayed : (call.proxy schedule).relayed ≠ none)
    (clean : WritesClean call.outbound.writes) :
    ∃ request, call.Asks request ∧
      (call.proxy schedule).toUpstream =
        request ++ stream call.inbound.reads := by
  have got := (call.completed schedule ended).upstreamGot relayed clean
  rcases call.proxy_cases with ⟨error, requestSent, _, proxied⟩ |
    ⟨requestSent, outbound, relays⟩
  · rw [proxied schedule] at relayed
    exact absurd rfl relayed
  · refine ⟨requestSent, relays.asked clean, ?_⟩
    rw [ProxyRun.toUpstream, got, relays.proxied schedule]
    rfl

theorem liveStep_opened (runtime : Runtime) (state next : LiveState)
    (step : LiveStep runtime state next) (paired : state.Paired runtime)
    (call : ProxyCall) (member : call ∈ next.opened) :
    call ∈ state.opened ∨
      ∃ (position : Nat) (task : LiveTask),
        next.sessions[position]? = some (some task) ∧ task.call = call := by
  cases step with
  | quiet after handlers => exact Or.inl member
  | accepted handler after waiting handlers => exact Or.inl member
  | opened before later handler chosen meeting after tasks waiting handlers =>
      rcases List.mem_append.mp member with earlier | new
      · exact Or.inl earlier
      · rw [Option.mem_toList, Option.map_eq_some_iff] at new
        obtain ⟨task, begun, same⟩ := new
        have inside : before.length < state.sessions.length := by
          rw [← paired.sessions.length_eq, tasks]
          simp
        refine Or.inr ⟨before.length, task, ?_, same⟩
        dsimp only
        rw [List.getElem?_set_self inside, begun]
  | refused before later handler after tasks waiting handlers =>
      exact Or.inl member
  | finished before later handler after tasks handlers done =>
      exact Or.inl member
  | moved position task session event found stepped => exact Or.inl member

/-- On the way to `state` there was a moment at which the call was in a
session. -/
def LiveState.Met (server : Server) (parser : TlsParser) (runtime : Runtime)
    (state : LiveState) (call : ProxyCall) : Prop :=
  ∃ moment, Reachable (liveStep server parser runtime)
      (LiveState.start server) moment ∧
    Reachable (liveStep server parser runtime) moment state ∧
    ∃ (position : Nat) (task : LiveTask),
      moment.sessions[position]? = some (some task) ∧ task.call = call

theorem reachable_met (server : Server) (parser : TlsParser)
    (runtime : Runtime) (state : LiveState)
    (reached : Reachable (liveStep server parser runtime)
      (LiveState.start server) state) :
    ∀ call, call ∈ state.opened → state.Met server parser runtime call := by
  refine (reached.invariant (fun state =>
    Reachable (liveStep server parser runtime) (LiveState.start server) state ∧
      ∀ call, call ∈ state.opened → state.Met server parser runtime call)
    ⟨Reachable.refl _ _, fun call none_ => absurd none_ List.not_mem_nil⟩ ?_).2
  intro before event after moved holds
  obtain ⟨reachedBefore, earlier⟩ := holds
  have paired := reachable_paired server parser runtime before reachedBefore
  refine ⟨reachedBefore.tail moved, fun call member => ?_⟩
  rcases liveStep_opened runtime before after
      (liveStep_cases server parser runtime before after event moved) paired
      call member with old | new
  · obtain ⟨moment, first, last, there⟩ := earlier call old
    exact ⟨moment, first, last.tail moved, there⟩
  · exact ⟨after, reachedBefore.tail moved, Reachable.refl _ _, new⟩

/-! ### The whole way -/

structure ProxyCall.Follows (call : ProxyCall) (parseUrl : String → Option Url)
    (base : BaseConfig) (entry : ServerConfig) (names : List String) :
    Prop where
  upstream :
    ∃ name, entry.Prescribes names name call.via ∧
      base.Leads parseUrl name
        (.forwarded call.upstream.addr call.upstream.protocol)
  resolved : call.upstream.addresses.address = call.upstream.addr
  target : call.connectTarget = call.via.connectTarget names

/-- When `run` of a server from a loaded file has returned, every session that
was ever opened went, for a client of an entry of the file, where the file sends
this client; and it has ended, with an error before its relay or with everything
delivered that the writers took. -/
theorem file_to_wire (parseUrl : String → Option Url)
    (hashOrder : List String → List String)
    (iterates : ∀ names name, name ∈ hashOrder names ↔ name ∈ names)
    (text : AddrText) (base : BaseConfig) (config : ParsedConfig)
    (accepted : loadConfig parseUrl hashOrder base = .ok config)
    (server : Server)
    (built : Server.fromParsedConfig text config = some server)
    (parser : TlsParser) (runtime : Runtime) (state : LiveState)
    (reached : Reachable (liveStep server parser runtime)
      (LiveState.start server) state)
    (returned : state.run.main = .returned) (call : ProxyCall)
    (opened : call ∈ state.opened) :
    (∃ run, (call, run) ∈ state.ended ∧ call.Completed run ∧
      (run.relayed ≠ none → WritesClean call.outbound.writes →
        ∃ request, call.Asks request ∧
          run.toUpstream = request ++ stream call.inbound.reads)) ∧
    ∃ (moment : LiveState) (position : Nat) (task : LiveTask)
        (handler : Handler) (proxy : Proxy) (entry : ServerConfig)
        (peeked : Bytes),
      Reachable (liveStep server parser runtime) (LiveState.start server)
        moment ∧
      Reachable (liveStep server parser runtime) moment state ∧
      moment.sessions[position]? = some (some task) ∧ task.call = call ∧
      moment.run.server.handlers[position]? = some handler ∧
      server.proxies[handler.listener]? = some proxy ∧
      base.servers.lookup proxy.name = some entry ∧
      (entry.tls = some true → handler.connection.peek = .ok peeked) ∧
      call.Follows parseUrl base entry (entry.presented parser peeked) := by
  obtain ⟨_, loaded⟩ := loadConfig_loaded parseUrl base hashOrder iterates
    config accepted
  obtain ⟨sound, verified⟩ := loadConfig_ok parseUrl hashOrder base config
    accepted
  have routes := routesSound_of_verified hashOrder
    (fun names name => (iterates names name).mpr) config sound verified
  constructor
  · obtain ⟨_, ledger, outcomes⟩ :=
      ended_of_returned server parser runtime state reached returned
    obtain ⟨⟨other, run⟩, member, same⟩ :=
      List.mem_map.mp (ledger.mem_iff.mp opened)
    obtain rfl : other = call := same
    obtain ⟨schedule, rfl, ended⟩ := outcomes other run member
    exact ⟨_, member, other.completed schedule ended, fun relayed clean =>
      other.wire schedule ended relayed clean⟩
  · obtain ⟨moment, before, after, position, task, found, rfl⟩ :=
      reachable_met server parser runtime state reached call opened
    obtain ⟨handler, proxy, entry, peeked, here, configured, written, looked,
      follows⟩ := live_follows loaded built routes parser runtime moment before
        position task found
    exact ⟨moment, position, task, handler, proxy, entry, peeked, before, after,
      found, rfl, here, configured, written, looked, follows.upstream,
      follows.resolved, follows.target⟩

def tunnelledBase : BaseConfig :=
  { forwardingBase with
    servers := AList.singleton "tunnel"
      { loopbackServer ["127.0.0.1:9001"] none with
        default := some "corp_proxy"
        via :=
          { ViaUpstream.default with
            target := "www.example.org:443"
            connectTimeout := defaultConnectTimeout } } }

def tunnelledMeeting : Meeting :=
  { greetedMeeting with
    outbound :=
      { reads := [.data 72 (asBytes "TTP/1.1 200 OK\r\n\r\n"),
          .data 104 (asBytes "ello")]
        writes := [] } }

def tunnelledEvents : List LiveEvent :=
  List.flatten
    [ [ .run .loopSpawned,
        .run (.task (.started 0 (.ok ()))),
        .run (.task (.accepted 0 (.ok quietConnection))),
        .dispatched 0 tunnelledMeeting ],
      List.replicate 6 (.moved 0 .advanced),
      [ .run (.task .signal),
        .run .cancelled,
        .run .closed,
        .run (.task (.stopped 0)) ],
      List.replicate 5 (.moved 0 (.polled .first)),
      List.replicate 5 (.moved 0 (.polled .second)),
      [ .moved 0 .advanced,
        .run (.task (.processed 0)),
        .run .waited ] ]

theorem file_to_wire_of_tunnelled :
    ∃ config server state call run,
      loadConfig parseExampleUrl id tunnelledBase = .ok config ∧
      Server.fromParsedConfig AddrText.std config = some server ∧
      Transition.run (liveStep server TlsParser.refusing bareRuntime)
        (LiveState.start server) tunnelledEvents = some state ∧
      state.ended = [(call, run)] ∧
      run.toUpstream =
        asBytes "CONNECT www.example.org:443 HTTP/1.1\r\n\r\n" ++
          stream greetedClient.reads ∧
      ∃ run, (call, run) ∈ state.ended ∧ call.Completed run ∧
        (run.relayed ≠ none → WritesClean call.outbound.writes →
          ∃ request, call.Asks request ∧
            run.toUpstream = request ++ stream call.inbound.reads) := by
  refine ⟨_, _, _, _, _, rfl, rfl, rfl, rfl, rfl, ?_⟩
  exact (file_to_wire parseExampleUrl id (fun _ _ => Iff.rfl)
    AddrText.std tunnelledBase _ rfl _ rfl TlsParser.refusing bareRuntime _
    ⟨tunnelledEvents, rfl⟩ rfl _ List.mem_cons_self).1

end TlsProxyTunnel
