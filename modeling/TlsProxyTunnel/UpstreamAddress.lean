/-
The resolver cache in front of every upstream connection.

The cache holds three cells that are written at different moments; a call is
given the instants at which it starts and at which its lookup returns.
-/

import TlsProxyTunnel.Socket

namespace TlsProxyTunnel

abbrev Instant := Nat

abbrev Duration := Nat

def seconds (count : Nat) : Duration := count * 1000000000

inductive SocketAddr where
  | v4 (octets : Fin 4 → UInt8) (port : UInt16)
  | v6 (groups : Fin 8 → UInt16) (port : UInt16) (flowinfo scopeId : UInt32)
  deriving DecidableEq

def SocketAddr.isIpv4 : SocketAddr → Bool
  | .v4 _ _ => true
  | .v6 _ _ _ _ => false

def SocketAddr.isIpv6 : SocketAddr → Bool
  | .v4 _ _ => false
  | .v6 _ _ _ _ => true

inductive ResolutionMode where
  | ipv4AndIpv6
  | ipv4
  | ipv6
  deriving DecidableEq, Repr

/-- `From<&str>`; an unknown protocol is logged and treated as both. -/
def ResolutionMode.ofProtocol (value : String) : ResolutionMode :=
  if value = "tcp4" then .ipv4
  else if value = "tcp6" then .ipv6
  else .ipv4AndIpv6

def ResolutionMode.filter (mode : ResolutionMode)
    (resolved : List SocketAddr) : List SocketAddr :=
  match mode with
  | .ipv4 => resolved.filter SocketAddr.isIpv4
  | .ipv6 => resolved.filter SocketAddr.isIpv6
  | .ipv4AndIpv6 => resolved

/-! ### The cache -/

structure UpstreamAddress where
  address : String
  resolvedAddresses : List SocketAddr
  resolvedTime : Option Instant
  ttl : Option Duration
  deriving DecidableEq

def UpstreamAddress.new (address : String) : UpstreamAddress :=
  { address := address
    resolvedAddresses := []
    resolvedTime := none
    ttl := none }

/-- `Instant::elapsed` saturates at zero, as subtraction does here. -/
def UpstreamAddress.isValid (cache : UpstreamAddress) (now : Instant) : Bool :=
  match cache.resolvedTime, cache.ttl with
  | some resolved, some ttl => now - resolved < ttl
  | _, _ => false

def UpstreamAddress.isResolved (cache : UpstreamAddress) : Bool :=
  !cache.resolvedAddresses.isEmpty

/-- One call of `resolve` by a caller that has the cache to itself: checked at
`called`, with `lookup` returning at `completed` when a lookup is made. -/
def UpstreamAddress.resolve (cache : UpstreamAddress) (mode : ResolutionMode)
    (called completed : Instant) (lookup : Except IoError (List SocketAddr)) :
    Except IoError (List SocketAddr) × UpstreamAddress :=
  if cache.isResolved && cache.isValid called then
    (.ok cache.resolvedAddresses, cache)
  else
    match lookup with
    | .error error =>
        (.error error,
          { cache with
            resolvedTime := some completed
            ttl := some (seconds 3) })
    | .ok resolved =>
        (.ok (mode.filter resolved),
          { cache with
            resolvedAddresses := mode.filter resolved
            resolvedTime := some completed
            ttl := some (seconds 60) })

def UpstreamAddress.hits (cache : UpstreamAddress) (called : Instant) : Bool :=
  cache.isResolved && cache.isValid called

theorem UpstreamAddress.resolve_of_hit (cache : UpstreamAddress)
    (mode : ResolutionMode) (called completed : Instant)
    (lookup : Except IoError (List SocketAddr))
    (hit : cache.hits called = true) :
    cache.resolve mode called completed lookup =
      (.ok cache.resolvedAddresses, cache) := by
  unfold UpstreamAddress.resolve
  exact if_pos hit

theorem UpstreamAddress.resolve_of_miss (cache : UpstreamAddress)
    (mode : ResolutionMode) (called completed : Instant)
    (lookup : Except IoError (List SocketAddr))
    (miss : cache.hits called = false) :
    cache.resolve mode called completed lookup =
      match lookup with
      | .error error =>
          (.error error,
            { cache with
              resolvedTime := some completed
              ttl := some (seconds 3) })
      | .ok resolved =>
          (.ok (mode.filter resolved),
            { cache with
              resolvedAddresses := mode.filter resolved
              resolvedTime := some completed
              ttl := some (seconds 60) }) := by
  unfold UpstreamAddress.resolve
  exact if_neg (fun hit => by simp [UpstreamAddress.hits, hit] at miss)

theorem UpstreamAddress.hits_iff (cache : UpstreamAddress) (called : Instant)
    (resolved : Instant) (ttl : Duration)
    (time : cache.resolvedTime = some resolved) (span : cache.ttl = some ttl) :
    cache.hits called = true ↔
      cache.resolvedAddresses ≠ [] ∧ called - resolved < ttl := by
  simp [UpstreamAddress.hits, UpstreamAddress.isResolved,
    UpstreamAddress.isValid, time, span]

end TlsProxyTunnel
