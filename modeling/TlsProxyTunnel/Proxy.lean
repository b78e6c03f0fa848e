/-
One connection handled by an upstream of kind `Proxy`: connect, open a tunnel
where a target is given, relay.
-/

import TlsProxyTunnel.Handshake
import TlsProxyTunnel.RelayExact

namespace TlsProxyTunnel

open Interleave

/-- What the resolver and the network answer to one `connect_upstream`.
`elapsed` is what the timer of `timeout` has seen pass when it is looked at: the
attempt is polled before it, and it ticks in milliseconds, so an attempt that is
decided at once has taken 0. -/
structure Dial where
  called : Instant
  completed : Instant
  lookup : Except IoError (List SocketAddr)
  attempt : List SocketAddr → Except IoError Unit
  elapsed : List SocketAddr → Duration

def unknownProtocol : BoxError := .message "Reached unknown protocol"

/-- The resolution is awaited before the timeout starts to run. -/
def connectUpstream (addresses : UpstreamAddress) (protocol : String)
    (timeout : Duration) (dial : Dial) : Except BoxError Unit :=
  if protocol = "tcp4" ∨ protocol = "tcp6" ∨ protocol = "tcp" then
    match (addresses.resolve (ResolutionMode.ofProtocol protocol) dial.called
        dial.completed dial.lookup).1 with
    | .error error => .error (.io error)
    | .ok resolved =>
        if dial.elapsed resolved ≤ timeout then
          match dial.attempt resolved with
          | .ok () => .ok ()
          | .error error =>
              .error (.proxyError
                ("failed to connect to upstream: " ++ error.message))
        else
          .error (.proxyError "connection to upstream timed out: Elapsed(())")
  else
    .error unknownProtocol

theorem connectUpstream_ok_iff (addresses : UpstreamAddress) (protocol : String)
    (timeout : Duration) (dial : Dial) :
    connectUpstream addresses protocol timeout dial = .ok () ↔
      (protocol = "tcp4" ∨ protocol = "tcp6" ∨ protocol = "tcp") ∧
      ∃ resolved,
        (addresses.resolve (ResolutionMode.ofProtocol protocol) dial.called
          dial.completed dial.lookup).1 = .ok resolved ∧
        dial.elapsed resolved ≤ timeout ∧
        dial.attempt resolved = .ok () := by
  unfold connectUpstream
  split
  · rename_i known
    cases (addresses.resolve (ResolutionMode.ofProtocol protocol) dial.called
        dial.completed dial.lookup).1 with
    | error error => simp
    | ok resolved =>
        simp only [known, Except.ok.injEq, exists_eq_left', true_and]
        split
        · rename_i inTime
          cases attempt : dial.attempt resolved with
          | error error => simp
          | ok done => simp [inTime]
        · rename_i late
          simp [late]
  · rename_i unknown
    simp [unknown]

/-! ### The connection -/

structure Surroundings where
  dial : Dial
  outboundNodelay : Except IoError Unit
  inboundNodelay : Except IoError Unit
  outbound : Socket
  schedule : List Side

/-- `result` is `none` while the relay is still running, `relayed` is `none`
when it was never started. -/
structure ProxyRun where
  result : Option (Except BoxError Unit)
  requestSent : Bytes
  relayed : Option RelayState

def ProxyRun.forwarded (run : ProxyRun) : Bytes :=
  match run.relayed with
  | some state => state.tx.delivered
  | none => []

def ProxyRun.returned (run : ProxyRun) : Bytes :=
  match run.relayed with
  | some state => state.rx.delivered
  | none => []

def ProxyRun.toUpstream (run : ProxyRun) : Bytes :=
  run.requestSent ++ run.forwarded

def ProxyRun.failed (error : BoxError) (requestSent : Bytes) : ProxyRun :=
  { result := some (.error error)
    requestSent := requestSent
    relayed := none }

def ProxyRun.relaying (requestSent : Bytes) (schedule : List Side)
    (inbound outbound : Socket) : ProxyRun :=
  let final := relay schedule (RelayState.start inbound outbound)
  { result := final.result.map (fun value =>
      match value with
      | .ok _ => .ok ()
      | .error error => .error (.io error))
    requestSent := requestSent
    relayed := some final }

def ProxyToUpstream.proxy (upstream : ProxyToUpstream) (runtime : Runtime)
    (inbound : Socket) (via : ViaUpstream) (connectTarget : Option String)
    (surroundings : Surroundings) : ProxyRun :=
  match connectUpstream upstream.addresses upstream.protocol via.connectTimeout
      surroundings.dial with
  | .error error => .failed error []
  | .ok () =>
      match surroundings.outboundNodelay with
      | .error error => .failed (.io error) []
      | .ok () =>
          match surroundings.inboundNodelay with
          | .error error => .failed (.io error) []
          | .ok () =>
              match connectTarget with
              | none =>
                  .relaying [] surroundings.schedule inbound
                    surroundings.outbound
              | some target =>
                  let handshake := httpConnect runtime target via.headers
                    surroundings.outbound.reads surroundings.outbound.writes
                  match handshake.result with
                  | .error error => .failed error handshake.sent
                  | .ok () =>
                      .relaying handshake.sent surroundings.schedule inbound
                        { reads := handshake.reads
                          writes := handshake.writes }

end TlsProxyTunnel
