/-
How old a resolved address may be.

A successful lookup is good for a minute.  A failed one changes the time and
the span of validity but leaves the addresses where they are, so what had
expired is valid for another three seconds.
-/

import TlsProxyTunnel.Library.Transition
import TlsProxyTunnel.UpstreamAddress

namespace TlsProxyTunnel

open Transition

structure ResolveCall where
  mode : ResolutionMode
  called : Instant
  completed : Instant
  lookup : Except IoError (List SocketAddr)

/-- A lookup that was performed and succeeded, with the mode of the call that
performed it: what that mode leaves is what is cached. -/
structure Lookup where
  mode : ResolutionMode
  resolved : List SocketAddr
  completed : Instant

def Lookup.addresses (lookup : Lookup) : List SocketAddr :=
  lookup.mode.filter lookup.resolved

/-- A cache between two calls.  `lookups` are the successful ones so far, the
newest first; it is kept for the statements only. -/
structure Resolver where
  cache : UpstreamAddress
  clock : Instant
  lookups : List Lookup

def Resolver.start (address : String) : Resolver :=
  { cache := UpstreamAddress.new address
    clock := 0
    lookups := [] }

def Resolver.performed (state : Resolver) (call : ResolveCall) :
    Option Lookup :=
  if state.cache.hits call.called then none
  else
    match call.lookup with
    | .ok resolved =>
        some
          { mode := call.mode
            resolved := resolved
            completed := call.completed }
    | .error _ => none

def Resolver.answer (state : Resolver) (call : ResolveCall) :
    Except IoError (List SocketAddr) :=
  (state.cache.resolve call.mode call.called call.completed call.lookup).1

def resolverStep (state : Resolver) (call : ResolveCall) : Option Resolver :=
  if state.clock ≤ call.called ∧ call.called ≤ call.completed then
    some
      { cache := (state.cache.resolve call.mode call.called call.completed
          call.lookup).2
        clock := call.completed
        lookups := (state.performed call).toList ++ state.lookups }
  else
    none

/-- What the call returns are the addresses of a successful lookup, its own or
one that completed less than a minute before it. -/
def Resolver.Fresh (state : Resolver) (call : ResolveCall) : Prop :=
  ∀ addresses, state.answer call = .ok addresses →
    ∃ lookup, addresses = lookup.addresses ∧
      (state.performed call = some lookup ∨
        lookup ∈ state.lookups ∧
          call.called < lookup.completed + seconds 60)

/-- The call does not come within the three seconds after a failed lookup while
there still are addresses of an earlier one. -/
def Resolver.Undisturbed (state : Resolver) (call : ResolveCall) : Prop :=
  state.cache.resolvedAddresses ≠ [] → state.cache.ttl = some (seconds 3) →
    state.cache.isValid call.called = false

/-! ### What the cells say -/

/-- The three cells against the lookups that were made: nothing is cached, or
the newest lookup is, or addresses are left behind that had expired when a
lookup failed. -/
inductive Resolver.Cells (state : Resolver) : Prop
  | empty (addresses : state.cache.resolvedAddresses = [])
  | filled (newest : Lookup)
      (member : newest ∈ state.lookups)
      (addresses : state.cache.resolvedAddresses = newest.addresses)
      (time : state.cache.resolvedTime = some newest.completed)
      (span : state.cache.ttl = some (seconds 60))
      (others : ∀ lookup, lookup ∈ state.lookups →
        lookup.completed ≤ newest.completed)
  | leftBehind (failure : Instant)
      (time : state.cache.resolvedTime = some failure)
      (span : state.cache.ttl = some (seconds 3))
      (expired : ∀ lookup, lookup ∈ state.lookups →
        lookup.completed + seconds 60 ≤ failure)
      (past : failure ≤ state.clock)

structure Resolver.Tracked (state : Resolver) : Prop where
  cells : state.Cells
  past : ∀ lookup, lookup ∈ state.lookups → lookup.completed ≤ state.clock

theorem Resolver.start_tracked (address : String) :
    (Resolver.start address).Tracked :=
  { cells := .empty rfl
    past := by simp [Resolver.start] }

theorem resolverStep_eq_some_iff (state next : Resolver) (call : ResolveCall) :
    resolverStep state call = some next ↔
      (state.clock ≤ call.called ∧ call.called ≤ call.completed) ∧
      next =
        { cache := (state.cache.resolve call.mode call.called call.completed
            call.lookup).2
          clock := call.completed
          lookups := (state.performed call).toList ++ state.lookups } := by
  rw [resolverStep, Option.ite_none_right_eq_some, Option.some.injEq]
  exact and_congr_right (fun _ => eq_comm)

theorem Resolver.cells_of_failure (state : Resolver) (tracked : state.Tracked)
    (called completed : Instant) (order : state.clock ≤ called)
    (duration : called ≤ completed) (miss : state.cache.hits called = false) :
    Resolver.Cells
      { cache :=
          { state.cache with
            resolvedTime := some completed
            ttl := some (seconds 3) }
        clock := completed
        lookups := state.lookups } := by
  by_cases nothing : state.cache.resolvedAddresses = []
  · exact .empty nothing
  refine .leftBehind completed rfl rfl ?_ (Nat.le_refl _)
  intro lookup member
  cases tracked.cells with
  | empty addresses => exact absurd addresses nothing
  | filled newest listed addresses time span others =>
      have old : ¬ (called - newest.completed < seconds 60) := by
        intro young
        rw [(state.cache.hits_iff called _ _ time span).mpr
          ⟨nothing, young⟩] at miss
        cases miss
      calc lookup.completed + seconds 60
          ≤ newest.completed + (called - newest.completed) :=
            Nat.add_le_add (others lookup member) (not_lt.mp old)
        _ = called :=
            Nat.add_sub_of_le ((tracked.past newest listed).trans order)
        _ ≤ completed := duration
  | leftBehind failure time span expired past =>
      exact ((expired lookup member).trans past).trans (order.trans duration)

theorem resolverStep_tracked (state next : Resolver) (call : ResolveCall)
    (moved : resolverStep state call = some next) (tracked : state.Tracked) :
    next.Tracked := by
  obtain ⟨⟨order, duration⟩, rfl⟩ :=
    (resolverStep_eq_some_iff state next call).mp moved
  cases found : state.cache.hits call.called with
  | true =>
      rw [state.cache.resolve_of_hit _ _ _ _ found]
      simp only [Resolver.performed, found, if_true, Option.toList_none,
        List.nil_append]
      refine ⟨?_, fun lookup member => ?_⟩
      · cases tracked.cells with
        | empty addresses => exact .empty addresses
        | filled newest listed addresses time span others =>
            exact .filled newest listed addresses time span others
        | leftBehind failure time span expired past =>
            exact .leftBehind failure time span expired
              (past.trans (order.trans duration))
      · exact (tracked.past lookup member).trans (order.trans duration)
  | false =>
      rw [state.cache.resolve_of_miss _ _ _ _ found]
      cases outcome : call.lookup with
      | error error =>
          simp only [Resolver.performed, found, outcome, Bool.false_eq_true,
            if_false, Option.toList_none, List.nil_append]
          exact ⟨state.cells_of_failure tracked call.called call.completed
            order duration found, fun lookup member =>
              (tracked.past lookup member).trans (order.trans duration)⟩
      | ok resolved =>
          simp only [Resolver.performed, found, outcome, Bool.false_eq_true,
            if_false, Option.toList_some, List.singleton_append]
          have past (lookup : Lookup)
              (member : lookup ∈
                (⟨call.mode, resolved, call.completed⟩ : Lookup) ::
                  state.lookups) : lookup.completed ≤ call.completed := by
            rcases List.mem_cons.mp member with own | earlier
            · rw [own]
            · exact (tracked.past lookup earlier).trans (order.trans duration)
          exact ⟨.filled ⟨call.mode, resolved, call.completed⟩
            List.mem_cons_self rfl rfl rfl past, past⟩

theorem Resolver.fresh_iff_undisturbed (state next : Resolver)
    (call : ResolveCall) (moved : resolverStep state call = some next)
    (tracked : state.Tracked) :
    state.Fresh call ↔ state.Undisturbed call := by
  obtain ⟨⟨order, _⟩, _⟩ := (resolverStep_eq_some_iff state next call).mp moved
  cases found : state.cache.hits call.called with
  | false =>
      refine iff_of_true ?_ ?_
      · intro addresses answered
        rw [Resolver.answer, state.cache.resolve_of_miss _ _ _ _ found]
          at answered
        cases outcome : call.lookup with
        | error error =>
            rw [outcome] at answered
            cases answered
        | ok resolved =>
            rw [outcome] at answered
            refine ⟨⟨call.mode, resolved, call.completed⟩,
              (Except.ok.inj answered).symm, Or.inl ?_⟩
            simp [Resolver.performed, found, outcome]
      · intro cached _
        simpa [UpstreamAddress.hits, UpstreamAddress.isResolved, cached]
          using found
  | true =>
      have answered : state.answer call = .ok state.cache.resolvedAddresses := by
        rw [Resolver.answer, state.cache.resolve_of_hit _ _ _ _ found]
      have alone : state.performed call = none := by
        simp [Resolver.performed, found]
      cases tracked.cells with
      | empty addresses =>
          simp [UpstreamAddress.hits, UpstreamAddress.isResolved, addresses]
            at found
      | filled newest listed addresses time span others =>
          have young :=
            ((state.cache.hits_iff call.called _ _ time span).mp found).2
          refine iff_of_true ?_ ?_
          · intro returned same
            rw [answered, Except.ok.injEq] at same
            have before := (tracked.past newest listed).trans order
            exact ⟨newest, by rw [← same, addresses],
              Or.inr ⟨listed, (Nat.sub_lt_iff_lt_add' before).mp young⟩⟩
          · intro _ failed
            rw [span] at failed
            cases failed
      | leftBehind failure time span expired past =>
          obtain ⟨cached, valid⟩ :=
            (state.cache.hits_iff call.called _ _ time span).mp found
          refine iff_of_false ?_ ?_
          · intro fresh
            obtain ⟨lookup, _, own | ⟨member, young⟩⟩ := fresh _ answered
            · rw [alone] at own
              cases own
            · have old := ((expired lookup member).trans past).trans order
              exact absurd young (not_lt.mpr old)
          · intro undisturbed
            have invalid := undisturbed cached span
            simp [UpstreamAddress.isValid, time, span, valid] at invalid

/-- Every address list a run of calls returns is fresh exactly when no call of
the run comes within three seconds of a failed lookup while the cache holds
addresses. -/
theorem addresses_fresh_iff (address : String) (calls : List ResolveCall) :
    Along resolverStep Resolver.Fresh (Resolver.start address) calls ↔
      Along resolverStep Resolver.Undisturbed (Resolver.start address) calls :=
  along_iff_along Resolver.Tracked Resolver.Fresh Resolver.Undisturbed
    (fun state call next => resolverStep_tracked state next call)
    (fun state call next => state.fresh_iff_undisturbed next call)
    (Resolver.start address) calls (Resolver.start_tracked address)

def exampleAddress : SocketAddr := .v4 (fun _ => 10) 443

def revivingCalls : List ResolveCall :=
  [ { mode := .ipv4AndIpv6
      called := 0
      completed := 0
      lookup := .ok [exampleAddress] },
    { mode := .ipv4AndIpv6
      called := seconds 61
      completed := seconds 61
      lookup := .error ⟨.other, "failed to lookup address information"⟩ },
    { mode := .ipv4AndIpv6
      called := seconds 62
      completed := seconds 62
      lookup := .error ⟨.other, "failed to lookup address information"⟩ } ]

theorem failed_lookup_revives_addresses :
    ¬ Along resolverStep Resolver.Fresh (Resolver.start "example.org:443")
      revivingCalls := by
  intro fresh
  have third := (((fresh _ rfl).2 _ rfl).2 _ rfl).1
  obtain ⟨lookup, _, own | ⟨member, young⟩⟩ := third [exampleAddress] rfl
  · cases own
  · rw [List.mem_singleton.mp member] at young
    exact absurd young (by decide)

end TlsProxyTunnel
