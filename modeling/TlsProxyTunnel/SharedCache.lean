/-
Many connections that resolve the same upstream at once.

Clones of an upstream share the three cells of its cache.  Every lock is taken
for a single read or write, so between any two of them other callers may do the
same; what a caller carries from one to the next is in its phase.
-/

import TlsProxyTunnel.Library.Tasks
import TlsProxyTunnel.Loader

namespace TlsProxyTunnel

open Transition

/-- An upstream and its clones, with the cells of the cache as they are.
`lookups` are the successful lookups so far, kept for the statements only. -/
structure SharedUpstream where
  upstream : ProxyToUpstream
  lookups : List (List SocketAddr)

def SharedUpstream.start (upstream : ProxyToUpstream) : SharedUpstream :=
  { upstream := upstream
    lookups := [] }

/-- What a call of `connect_upstream` does next.  `connecting` has handed its
addresses to `TcpStream::connect`. -/
inductive ConnectPhase where
  | called
  | refused
  | checkAddresses
  | checkTime
  | checkTtl (resolved : Instant)
  | readAddresses
  | lookUp
  | failTime (error : IoError)
  | failTtl (error : IoError)
  | failed (error : IoError)
  | storeAddresses (addresses : List SocketAddr)
  | storeTime (addresses : List SocketAddr)
  | storeTtl (addresses : List SocketAddr)
  | connecting (addresses : List SocketAddr)

inductive ConnectEvent where
  | moved (now : Instant)
  | answered (lookup : Except IoError (List SocketAddr))

def SharedUpstream.mode (shared : SharedUpstream) : ResolutionMode :=
  ResolutionMode.ofProtocol shared.upstream.protocol

def SharedUpstream.write (shared : SharedUpstream) (cache : UpstreamAddress) :
    SharedUpstream :=
  { shared with upstream := { shared.upstream with addresses := cache } }

def connectStep (shared : SharedUpstream) (phase : ConnectPhase)
    (event : ConnectEvent) : Option (SharedUpstream × ConnectPhase) :=
  let protocol := shared.upstream.protocol
  let cache := shared.upstream.addresses
  match phase, event with
  | .called, .moved _ =>
      if protocol = "tcp4" ∨ protocol = "tcp6" ∨ protocol = "tcp" then
        some (shared, .checkAddresses)
      else
        some (shared, .refused)
  | .checkAddresses, .moved _ =>
      some (shared, if cache.isResolved then .checkTime else .lookUp)
  | .checkTime, .moved _ =>
      match cache.resolvedTime with
      | some resolved => some (shared, .checkTtl resolved)
      | none => some (shared, .lookUp)
  | .checkTtl resolved, .moved now =>
      match cache.ttl with
      | some ttl =>
          some (shared, if now - resolved < ttl then .readAddresses else .lookUp)
      | none => some (shared, .lookUp)
  | .readAddresses, .moved _ =>
      some (shared, .connecting cache.resolvedAddresses)
  | .lookUp, .answered (.error error) => some (shared, .failTime error)
  | .lookUp, .answered (.ok resolved) =>
      some
        ({ shared with lookups := resolved :: shared.lookups },
          .storeAddresses (shared.mode.filter resolved))
  | .failTime error, .moved now =>
      some (shared.write { cache with resolvedTime := some now }, .failTtl error)
  | .failTtl error, .moved _ =>
      some (shared.write { cache with ttl := some (seconds 3) }, .failed error)
  | .storeAddresses addresses, .moved _ =>
      some
        (shared.write { cache with resolvedAddresses := addresses },
          .storeTime addresses)
  | .storeTime addresses, .moved now =>
      some
        (shared.write { cache with resolvedTime := some now },
          .storeTtl addresses)
  | .storeTtl addresses, .moved _ =>
      some
        (shared.write { cache with ttl := some (seconds 60) },
          .connecting addresses)
  | _, _ => none

def Callers.start (upstream : ProxyToUpstream) :
    Tasks.Configuration SharedUpstream ConnectPhase :=
  { store := SharedUpstream.start upstream
    tasks := fun _ => .called }

/-! ### A caller on its own -/

def ConnectPhase.ofResult :
    Except IoError (List SocketAddr) → ConnectPhase
  | .ok addresses => .connecting addresses
  | .error error => .failed error

theorem connect_checks (shared : SharedUpstream) (called : Instant) :
    Reachable (Tasks.soloStep connectStep) (shared, .checkAddresses)
      (shared,
        if shared.upstream.addresses.hits called then .readAddresses
        else .lookUp) := by
  have hits : shared.upstream.addresses.hits called =
      (shared.upstream.addresses.isResolved &&
        shared.upstream.addresses.isValid called) := rfl
  cases resolved : shared.upstream.addresses.isResolved with
  | false =>
      refine ⟨[.moved called], ?_⟩
      simp [run, Tasks.soloStep, connectStep, hits, resolved]
  | true =>
      cases time : shared.upstream.addresses.resolvedTime with
      | none =>
          refine ⟨[.moved called, .moved called], ?_⟩
          simp [run, Tasks.soloStep, connectStep, hits, resolved, time,
            UpstreamAddress.isValid]
      | some instant =>
          refine ⟨[.moved called, .moved called, .moved called], ?_⟩
          cases span : shared.upstream.addresses.ttl <;>
            simp [run, Tasks.soloStep, connectStep, hits, resolved, time, span,
              UpstreamAddress.isValid]

theorem connect_alone (shared : SharedUpstream) (called completed : Instant)
    (lookup : Except IoError (List SocketAddr))
    (known : shared.upstream.protocol = "tcp4" ∨
      shared.upstream.protocol = "tcp6" ∨ shared.upstream.protocol = "tcp") :
    ∃ after phase,
      Reachable (Tasks.soloStep connectStep) (shared, .called) (after, phase) ∧
      phase = .ofResult (shared.upstream.addresses.resolve shared.mode called
        completed lookup).1 ∧
      after.upstream.addresses =
        (shared.upstream.addresses.resolve shared.mode called completed
          lookup).2 := by
  have begun : Reachable (Tasks.soloStep connectStep) (shared, .called)
      (shared, .checkAddresses) :=
    ⟨[.moved called], by simp [run, Tasks.soloStep, connectStep, known]⟩
  have checked := begun.trans (connect_checks shared called)
  cases hit : shared.upstream.addresses.hits called with
  | true =>
      rw [UpstreamAddress.resolve_of_hit _ _ _ _ _ hit]
      rw [hit, if_pos rfl] at checked
      refine ⟨_, _, checked.trans ⟨[.moved called], rfl⟩, rfl, rfl⟩
  | false =>
      rw [UpstreamAddress.resolve_of_miss _ _ _ _ _ hit]
      rw [hit, if_neg Bool.false_ne_true] at checked
      cases lookup with
      | error error =>
          exact ⟨_, _, checked.trans ⟨[.answered (.error error),
            .moved completed, .moved completed], rfl⟩, rfl, rfl⟩
      | ok resolved =>
          exact ⟨_, _, checked.trans ⟨[.answered (.ok resolved),
            .moved completed, .moved completed, .moved completed], rfl⟩,
            rfl, rfl⟩

theorem connect_undisturbed
    (state : Tasks.Configuration SharedUpstream ConnectPhase) (caller : Nat)
    (begins : state.tasks caller = .called) (called completed : Instant)
    (lookup : Except IoError (List SocketAddr))
    (known : state.store.upstream.protocol = "tcp4" ∨
      state.store.upstream.protocol = "tcp6" ∨
      state.store.upstream.protocol = "tcp") :
    let resolved := state.store.upstream.addresses.resolve state.store.mode
      called completed lookup
    ∃ after, Reachable (Tasks.step connectStep) state after ∧
      after.tasks caller = .ofResult resolved.1 ∧
      after.store.upstream.addresses = resolved.2 ∧
      ∀ other, other ≠ caller → after.tasks other = state.tasks other := by
  intro resolved
  obtain ⟨store, phase, alone, outcome, cache⟩ :=
    connect_alone state.store called completed lookup known
  rw [← begins] at alone
  refine ⟨_, Tasks.Reachable.of_solo caller store phase alone, ?_, cache, ?_⟩
  · exact (Function.update_self caller _ _).trans outcome
  · intro other different
    exact Function.update_of_ne different _ _

/-! ### What callers hold -/

def SharedUpstream.Filtered (shared : SharedUpstream)
    (addresses : List SocketAddr) : Prop :=
  ∃ resolved, resolved ∈ shared.lookups ∧
    addresses = shared.mode.filter resolved

def SharedUpstream.Common (shared : SharedUpstream) : Prop :=
  shared.upstream.addresses.resolvedAddresses = [] ∨
    shared.Filtered shared.upstream.addresses.resolvedAddresses

/-- A caller past its first check has seen a lookup in the cache; past its own
lookup it carries the result. -/
def ConnectPhase.Known (shared : SharedUpstream) : ConnectPhase → Prop
  | .checkTime | .checkTtl _ | .readAddresses =>
      shared.Filtered shared.upstream.addresses.resolvedAddresses
  | .storeAddresses addresses | .storeTime addresses | .storeTtl addresses
  | .connecting addresses => shared.Filtered addresses
  | .called | .refused | .checkAddresses | .lookUp | .failTime _ | .failTtl _
  | .failed _ => True

/-- What a step of any caller may change: the protocol stays, lookups stay on
record, and a cache that holds one keeps holding one. -/
structure SharedUpstream.Change (before after : SharedUpstream) : Prop where
  protocol : after.upstream.protocol = before.upstream.protocol
  lookups : ∀ resolved, resolved ∈ before.lookups → resolved ∈ after.lookups
  cached :
    before.Filtered before.upstream.addresses.resolvedAddresses →
      after.Filtered after.upstream.addresses.resolvedAddresses

theorem SharedUpstream.Filtered.mono {before after : SharedUpstream}
    {addresses : List SocketAddr} (filtered : before.Filtered addresses)
    (protocol : after.upstream.protocol = before.upstream.protocol)
    (lookups : ∀ resolved, resolved ∈ before.lookups →
      resolved ∈ after.lookups) : after.Filtered addresses := by
  obtain ⟨resolved, member, rfl⟩ := filtered
  exact ⟨resolved, lookups resolved member,
    by simp only [SharedUpstream.mode, protocol]⟩

theorem SharedUpstream.Change.refl (shared : SharedUpstream) :
    shared.Change shared :=
  ⟨rfl, fun _ member => member, id⟩

theorem SharedUpstream.change_of_write (shared : SharedUpstream)
    (cache : UpstreamAddress)
    (same : cache.resolvedAddresses =
      shared.upstream.addresses.resolvedAddresses) :
    shared.Change (shared.write cache) :=
  ⟨rfl, fun _ member => member, fun filtered => by
    rw [← same] at filtered
    exact filtered⟩

theorem ConnectPhase.known_of_change (before after : SharedUpstream)
    (phase : ConnectPhase) (change : before.Change after)
    (known : phase.Known before) : phase.Known after := by
  cases phase with
  | checkTime => exact change.cached known
  | checkTtl resolved => exact change.cached known
  | readAddresses => exact change.cached known
  | storeAddresses addresses => exact known.mono change.protocol change.lookups
  | storeTime addresses => exact known.mono change.protocol change.lookups
  | storeTtl addresses => exact known.mono change.protocol change.lookups
  | connecting addresses => exact known.mono change.protocol change.lookups
  | called => trivial
  | refused => trivial
  | checkAddresses => trivial
  | lookUp => trivial
  | failTime error => trivial
  | failTtl error => trivial
  | failed error => trivial

theorem SharedUpstream.common_of_write (shared : SharedUpstream)
    (cache : UpstreamAddress)
    (same : cache.resolvedAddresses =
      shared.upstream.addresses.resolvedAddresses)
    (common : shared.Common) : (shared.write cache).Common := by
  rcases common with empty | filtered
  · exact Or.inl (same.trans empty)
  · exact Or.inr ((shared.change_of_write cache same).cached filtered)

/-- One lock or one lookup: addresses are only ever stored as they came out of
a lookup, filtered by the mode of all callers. -/
theorem connectStep_guarantee (shared : SharedUpstream) (phase : ConnectPhase)
    (event : ConnectEvent) (after : SharedUpstream × ConnectPhase)
    (moved : connectStep shared phase event = some after)
    (common : shared.Common) (known : phase.Known shared) :
    after.1.Common ∧ after.2.Known after.1 ∧ shared.Change after.1 := by
  cases event with
  | moved now =>
      cases phase with
      | called =>
          simp only [connectStep] at moved
          split at moved <;> cases moved <;>
            exact ⟨common, trivial, .refl shared⟩
      | checkAddresses =>
          cases moved
          refine ⟨common, ?_, .refl shared⟩
          cases nonempty : shared.upstream.addresses.isResolved with
          | false => trivial
          | true =>
              rcases common with empty | filtered
              · simp [UpstreamAddress.isResolved, empty] at nonempty
              · exact filtered
      | checkTime =>
          simp only [connectStep] at moved
          split at moved <;> cases moved
          · exact ⟨common, known, .refl shared⟩
          · exact ⟨common, trivial, .refl shared⟩
      | checkTtl resolved =>
          simp only [connectStep] at moved
          split at moved <;> cases moved
          · refine ⟨common, ?_, .refl shared⟩
            dsimp only
            split
            · exact known
            · trivial
          · exact ⟨common, trivial, .refl shared⟩
      | readAddresses =>
          cases moved
          exact ⟨common, known, .refl shared⟩
      | failTime error =>
          cases moved
          exact ⟨shared.common_of_write _ rfl common, trivial,
            shared.change_of_write _ rfl⟩
      | failTtl error =>
          cases moved
          exact ⟨shared.common_of_write _ rfl common, trivial,
            shared.change_of_write _ rfl⟩
      | storeAddresses addresses =>
          cases moved
          have stored : (shared.write
              { shared.upstream.addresses with
                resolvedAddresses := addresses }).Filtered addresses :=
            known.mono rfl (fun _ member => member)
          exact ⟨Or.inr stored, stored, rfl, fun _ member => member,
            fun _ => stored⟩
      | storeTime addresses =>
          cases moved
          exact ⟨shared.common_of_write _ rfl common,
            known.mono rfl (fun _ member => member),
            shared.change_of_write _ rfl⟩
      | storeTtl addresses =>
          cases moved
          exact ⟨shared.common_of_write _ rfl common,
            known.mono rfl (fun _ member => member),
            shared.change_of_write _ rfl⟩
      | refused => cases moved
      | lookUp => cases moved
      | failed error => cases moved
      | connecting addresses => cases moved
  | answered lookup =>
      cases phase with
      | lookUp =>
          cases lookup with
          | error error =>
              cases moved
              exact ⟨common, trivial, .refl shared⟩
          | ok resolved =>
              cases moved
              have more : ∀ earlier, earlier ∈ shared.lookups →
                  earlier ∈ resolved :: shared.lookups :=
                fun _ member => List.mem_cons_of_mem _ member
              refine ⟨common.imp_right (fun filtered => filtered.mono rfl more),
                ⟨resolved, List.mem_cons_self, rfl⟩, rfl, more,
                fun filtered => filtered.mono rfl more⟩
      | _ => cases moved

theorem callers_known (upstream : ProxyToUpstream)
    (empty : upstream.addresses.resolvedAddresses = [])
    (state : Tasks.Configuration SharedUpstream ConnectPhase)
    (reached : Reachable (Tasks.step connectStep) (Callers.start upstream)
      state) :
    state.store.upstream.protocol = upstream.protocol ∧
      ∀ caller, (state.tasks caller).Known state.store := by
  let common (shared : SharedUpstream) : Prop :=
    shared.Common ∧ shared.upstream.protocol = upstream.protocol
  have guarantee (shared : SharedUpstream) (phase : ConnectPhase)
      (event : ConnectEvent) (after : SharedUpstream × ConnectPhase)
      (moved : connectStep shared phase event = some after)
      (commonly : common shared) (knowing : phase.Known shared) :
      common after.1 ∧ after.2.Known after.1 ∧ shared.Change after.1 := by
    obtain ⟨still, knows, change⟩ := connectStep_guarantee shared phase event
      after moved commonly.1 knowing
    exact ⟨⟨still, change.protocol.trans commonly.2⟩, knows, change⟩
  obtain ⟨⟨_, protocol⟩, known⟩ := Tasks.Reachable.known common
    (fun shared phase => phase.Known shared) SharedUpstream.Change reached
    ⟨⟨Or.inl empty, rfl⟩, fun _ => trivial⟩ guarantee
    ConnectPhase.known_of_change
  exact ⟨protocol, known⟩

theorem ResolutionMode.filter_tcp4 (resolved : List SocketAddr)
    (address : SocketAddr)
    (member : address ∈
      (ResolutionMode.ofProtocol "tcp4").filter resolved) :
    address.isIpv4 = true :=
  (List.mem_filter.mp member).2

theorem ResolutionMode.filter_tcp6 (resolved : List SocketAddr)
    (address : SocketAddr)
    (member : address ∈
      (ResolutionMode.ofProtocol "tcp6").filter resolved) :
    address.isIpv6 = true :=
  (List.mem_filter.mp member).2

theorem ResolutionMode.filter_of_other (protocol : String)
    (resolved : List SocketAddr) (notTcp4 : protocol ≠ "tcp4")
    (notTcp6 : protocol ≠ "tcp6") :
    (ResolutionMode.ofProtocol protocol).filter resolved = resolved := by
  rw [ResolutionMode.ofProtocol, if_neg notTcp4, if_neg notTcp6]
  rfl

/-- Whatever the interleaving of its callers, an upstream connects to addresses
of the family its URL names, and to all a lookup gave where it names none. -/
theorem connecting_respects_family (parseUrl : String → Option Url)
    (value : String) (url : Url) (parsed : parseUrl value = some url)
    (upstream : ProxyToUpstream)
    (created : ProxyToUpstream.tryFrom parseUrl value = .ok upstream)
    (state : Tasks.Configuration SharedUpstream ConnectPhase)
    (reached : Reachable (Tasks.step connectStep) (Callers.start upstream)
      state)
    (caller : Nat) (addresses : List SocketAddr)
    (connecting : state.tasks caller = .connecting addresses) :
    (url.scheme = "tcp4" →
      ∀ address, address ∈ addresses → address.isIpv4 = true) ∧
    (url.scheme = "tcp6" →
      ∀ address, address ∈ addresses → address.isIpv6 = true) ∧
    (url.scheme ≠ "tcp4" → url.scheme ≠ "tcp6" →
      addresses ∈ state.store.lookups) := by
  obtain ⟨same, address, found, _, rfl⟩ :=
    ProxyToUpstream.tryFrom_ok parseUrl value upstream created
  rw [parsed, Option.some.injEq] at found
  subst found
  obtain ⟨protocol, known⟩ := callers_known _ rfl state reached
  have holds := known caller
  rw [connecting] at holds
  obtain ⟨resolved, member, rfl⟩ := holds
  have mode : state.store.mode = ResolutionMode.ofProtocol url.scheme := by
    rw [SharedUpstream.mode, protocol]
    rfl
  rw [mode]
  refine ⟨?_, ?_, ?_⟩
  · intro scheme
    rw [scheme]
    exact ResolutionMode.filter_tcp4 resolved
  · intro scheme
    rw [scheme]
    exact ResolutionMode.filter_tcp6 resolved
  · intro notTcp4 notTcp6
    rwa [ResolutionMode.filter_of_other url.scheme resolved notTcp4 notTcp6]

theorem connecting_respects_family_of_three :
    ∃ state,
      Reachable (Tasks.step connectStep)
        (Callers.start (ProxyToUpstream.new "proxy.internal:3128" "tcp4"))
        state ∧
      state.tasks 2 = .connecting [.v4 (fun _ => 10) 3128] ∧
      ((exampleUrl.scheme = "tcp4" →
        ∀ address, address ∈ [SocketAddr.v4 (fun _ => 10) 3128] →
          address.isIpv4 = true) ∧
      (exampleUrl.scheme = "tcp6" →
        ∀ address, address ∈ [SocketAddr.v4 (fun _ => 10) 3128] →
          address.isIpv6 = true) ∧
      (exampleUrl.scheme ≠ "tcp4" → exampleUrl.scheme ≠ "tcp6" →
        [SocketAddr.v4 (fun _ => 10) 3128] ∈ state.store.lookups)) := by
  let lookup : Except IoError (List SocketAddr) :=
    .ok [.v6 (fun _ => 1) 3128 0 0, .v4 (fun _ => 10) 3128]
  have both : Reachable (Tasks.step connectStep)
      (Callers.start (ProxyToUpstream.new "proxy.internal:3128" "tcp4")) _ :=
    ⟨[(0, .moved 0), (1, .moved 0), (0, .moved 0), (1, .moved 0),
      (1, .answered lookup), (0, .answered lookup), (0, .moved 1),
      (1, .moved 1), (1, .moved 1), (0, .moved 1), (0, .moved 1),
      (2, .moved 2), (2, .moved 2), (2, .moved 2), (2, .moved 2),
      (2, .moved 2)], rfl⟩
  exact ⟨_, both, rfl, connecting_respects_family parseExampleUrl
    "tcp4://proxy.internal:3128" exampleUrl rfl _ rfl _ both 2 _ rfl⟩

end TlsProxyTunnel
